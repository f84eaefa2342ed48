import Cosim.Decimal.Liberal
import Cosim.Decimal.Significant
import Cosim.Report.Verdict
import Cosim.Text.Lines
import Cosim.Text.Terminal

namespace Cosim.Report.Table

open Cosim.Decimal Cosim.Numeral Cosim.Text

/-- What the cells of a column have in common, from the narrowest to the widest kind. -/
inductive Kind where
  | empty
  | truth
  | integer
  | real
  | text
deriving DecidableEq, Repr

def Kind.rank : Kind → Nat
  | .empty => 0
  | .truth => 1
  | .integer => 2
  | .real => 3
  | .text => 4

def Kind.join (a b : Kind) : Kind := if a.rank < b.rank then b else a

def isDigits (count : Nat) (s : List Char) : Bool := s.length == count && s.all isDecimalDigit

def isGrouped (s : List Char) : Bool :=
  let s := if s.getLast? = some '\n' then s.dropLast else s
  let whole := s.takeWhile (· != '.')
  let part := s.dropWhile (· != '.')
  let partOk := part.drop 1 |>.all isDecimalDigit
  if whole.isEmpty then partOk && part.length != 1
  else
    match Blank.cut (· == ',') (Integer.splitSign whole).2 with
    | [] => false
    | first :: rest =>
      1 ≤ first.length && first.length ≤ 3 && first.all isDecimalDigit &&
        rest.all (isDigits 3) && partOk

def isInteger (s : List Char) : Bool := (Integer.readDecimal s).toOption.isSome

/-- A number that is finite, or the plain name of one that is not. -/
def isReal (s : List Char) : Bool :=
  match Liberal.read? s with
  | none => false
  | some (.finite ..) => true
  | some _ =>
    let name := String.ofList (Liberal.lowered s)
    name == "inf" || name == "-inf" || name == "nan"

def kindOf (cell : List Char) : Kind :=
  let s := Terminal.shown cell
  let name := String.ofList s
  if s.isEmpty then .empty
  else if name = "True" ∨ name = "False" then .truth
  else if isInteger s || (isGrouped s && !s.contains '.') then .integer
  else if isReal s || isGrouped s then .real
  else .text

def columnKind (cells : List (List Char)) : Kind :=
  cells.foldl (fun kind s => kind.join (kindOf s)) .truth

def Kind.isNumber : Kind → Bool
  | .integer | .real => true
  | _ => false

/-- How the cells of a table are read: whether one of them holds control sequences, and whether one
of them has several lines. -/
structure Mode where
  hidden : Bool
  manyLines : Bool

def Mode.shown (mode : Mode) (s : List Char) : List Char :=
  if mode.hidden then Terminal.shown s else s

def replaceAfter (old new : List Char) : Nat → List Char → List Char
  | _, [] => []
  | skip + 1, _ :: rest => replaceAfter old new skip rest
  | 0, c :: rest =>
    if old.isPrefixOf (c :: rest) then new ++ replaceAfter old new (old.length - 1) rest
    else c :: replaceAfter old new 0 rest

/-- A cell of a column of reals. Where control sequences occur, the number is looked for in what is
shown, and commas are not understood. What cannot be read stays as it is. -/
def formatReal (mode : Mode) (s : List Char) : List Char :=
  if mode.hidden then
    match Liberal.read? (Terminal.shown s) with
    | some x => replaceAfter (Terminal.shown s) (Significant.text x) 0 s
    | none => s
  else
    let plain := s.filter (· != ',')
    match Liberal.read? plain with
    | some x => Significant.text x
    | none => plain

def isNumbered (c : Char) : Bool :=
  let n := c.toNat
  n != 9 && n != 10 && n != 13 && (n < 32 || (0x7f ≤ n && n ≤ 0xff))

def isEscaped (c : Char) : Bool := c.toNat < 32 || 0x7f ≤ c.toNat || c == '\\'

def colour? : List Char → Option (List Char × List Char)
  | [] => none
  | c :: rest =>
    let hex := rest.takeWhile isHexDigit
    match isNumbered c, rest.dropWhile isHexDigit with
    | true, '[' :: rest =>
      let digits := rest.takeWhile isDecimalDigit
      let rest := rest.dropWhile isDecimalDigit
      let marks := rest.takeWhile fun c => c == 'm' || c == 'M'
      if digits.isEmpty || marks.isEmpty then none
      else some (c :: hex ++ '[' :: digits ++ marks,
        rest.dropWhile fun c => c == 'm' || c == 'M')
    | _, _ => none

def coloured? : List Char → Option (List Char × List Char × List Char)
  | [] => none
  | c :: rest =>
    let isPart := fun c => isDecimalDigit c || c == '.'
    match colour? (c :: rest) with
    | some (colour, after) =>
      match after.takeWhile isPart, after.dropWhile isPart with
      | d :: ds, e :: last =>
        if isEscaped e then some (colour, d :: ds, e :: last) else coloured? rest
      | _, _ => coloured? rest
    | none => coloured? rest

/-- A cell of a column of integers. It stays as it is, except that a coloured number loses zeros at
its start, and what stands before its colour. -/
def formatInteger (s : List Char) : List Char :=
  match coloured? s with
  | some (colour, number, last) =>
    if number.all isDecimalDigit then colour ++ digits 10 (decimalValue number) ++ last else s
  | none => s

def format (mode : Mode) (kind : Kind) (s : List Char) : List Char :=
  match kind with
  | .integer => formatInteger s
  | .real => formatReal mode s
  | _ => s

def lastIndex? (p : Char → Bool) (s : List Char) : Option Nat :=
  (s.reverse.findIdx? p).map fun i => s.length - 1 - i

/-- How many characters follow the decimal point; -1 if the cell has none. -/
def decimals (s : List Char) : Int :=
  if (isReal s || isGrouped s) && !isInteger s then
    match lastIndex? (· == '.') s with
    | some i => (s.length : Int) - i - 1
    | none =>
      match lastIndex? (fun c => c == 'e' || c == 'E') s with
      | some i => (s.length : Int) - i - 1
      | none => -1
  else -1

def spaces (n : Nat) : List Char := List.replicate n ' '

def alignPoints (mode : Mode) (cells : List (List Char)) : List (List Char) :=
  let places := fun s => decimals (mode.shown s)
  let widest := (cells.map places).foldl max (-1)
  cells.map fun s => s ++ spaces (widest - places s).toNat

def isBreak (c : Char) : Bool := c == '\n' || c == '\r'

def endsCellLine (c : Char) : Bool :=
  let n := c.toNat
  (10 ≤ n && n ≤ 13) || (28 ≤ n && n ≤ 30) || n == 0x85 || n == 0x2028 || n == 0x2029

def fuseReturns : List Char → List Char
  | '\r' :: '\n' :: rest => '\n' :: fuseReturns rest
  | c :: rest => c :: fuseReturns rest
  | [] => []

/-- The lines of a cell; a line end at its end opens no further line. -/
def cellLines (s : List Char) : List (List Char) :=
  let pieces := Blank.cut endsCellLine (fuseReturns s)
  if pieces.getLast? = some [] then pieces.dropLast else pieces

def pad (right : Bool) (w : Nat) (s : List Char) : List Char :=
  if right then spaces (w - s.length) ++ s else s ++ spaces (w - s.length)

def Mode.stretches (mode : Mode) (s : List Char) : List (List Char) :=
  if mode.manyLines then Blank.cut isBreak s else [s]

def Mode.width (mode : Mode) (s : List Char) : Nat :=
  ((mode.stretches s).map fun line => (mode.shown line).length).foldl max 0

/-- The lines of a cell, filled up to width `w`. Where control sequences occur, each line gets the
room that its stretch leaves, and lines beyond the last stretch are dropped. -/
def Mode.lines (mode : Mode) (right : Bool) (w : Nat) (s : List Char) : List (List Char) :=
  let lines := if mode.manyLines then cellLines s else [s]
  if mode.hidden then
    (lines.zip (mode.stretches s)).map fun (line, stretch) =>
      pad right (w + (stretch.length - (mode.shown stretch).length)) line
  else lines.map (pad right w)

structure Column where
  width : Nat
  header : List Char
  cells : List (List (List Char))

def column (mode : Mode) (header : List Char) (kind : Kind) (cells : List (List Char)) : Column :=
  let cells := if kind.isNumber then alignPoints mode cells else cells.map Blank.trim
  let right := kind.isNumber
  let w := (cells.map mode.width).foldl max (header.length + 2)
  let cells := cells.map (mode.lines right w)
  let w := (cells.map fun lines => mode.width (['\n'].intercalate lines)).foldl max
    (header.length + 2)
  ⟨w, pad right w header, cells⟩

def ruleLine (edge cross : Char) (columns : List Column) : List Char :=
  edge :: ([cross].intercalate (columns.map fun c => List.replicate (c.width + 2) '-') ++ [edge])

def rowLine (cells : List (List Char)) : List Char :=
  '|' :: (['|'].intercalate (cells.map fun s => ' ' :: (s ++ [' '])) ++ ['|'])

def rowLines (cells : List (Nat × List (List Char))) : List (List Char) :=
  let count := (cells.map fun c => c.2.length).foldl max 0
  (List.range count).map fun i => rowLine (cells.map fun c => c.2.getD i (spaces c.1))

def withRules (inner : List Char) : List Bool → List (List (List Char)) → List (List Char)
  | true :: marks, rows => inner :: withRules inner marks rows
  | false :: marks, row :: rows => row ++ withRules inner marks rows
  | _, _ => []

def render (marks : List Bool) (a b : Column) : List Char :=
  let columns := [a, b]
  let inner := ruleLine '|' '+' columns
  let rows := (a.cells.zip b.cells).map fun r => rowLines [(a.width, r.1), (b.width, r.2)]
  let all := [ruleLine '+' '+' columns, rowLine [a.header, b.header], inner] ++
    withRules inner marks rows ++ [ruleLine '+' '+' columns]
  ['\n'].intercalate all

def verdictCell (v : Verdict String) : List Char :=
  if v.isPass then "PASS".toList else "FAIL".toList

def isRule (s : List Char) : Bool := Blank.trim s == ['\x01']

def summary (results : List CaseResult) : String :=
  let marks := results.map fun r => isRule r.elf.toList
  let rows := results.filter fun r => !isRule r.elf.toList
  let names := rows.map fun r => r.elf.toList
  let verdicts := rows.map fun r => verdictCell r.verdict
  let all := ['\t'].intercalate ((names.zip verdicts).flatMap fun (n, v) => [n, v])
  let mode : Mode := ⟨Terminal.hasSequence all, all.any isBreak⟩
  let kind := if names.isEmpty then Kind.text else columnKind names
  let a := column mode "ELF".toList kind (names.map (format mode kind))
  let b := column mode "Result".toList .text verdicts
  String.ofList (render marks a b)

end Cosim.Report.Table
