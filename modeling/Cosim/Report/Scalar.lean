import Cosim.Numeral.Digits
import Cosim.Text.Blank

namespace Cosim.Report.Scalar

open Cosim.Numeral Cosim.Text

def lineWidth : Nat := 80

def isOneOf (words : List String) (s : List Char) : Bool := words.contains (String.ofList s)

def nullWords : List String := ["~", "null", "Null", "NULL", ""]

def truthWords : List String := [
  "yes", "Yes", "YES", "no", "No", "NO", "true", "True", "TRUE", "false", "False", "FALSE",
  "on", "On", "ON", "off", "Off", "OFF"]

def dropSign : List Char → List Char
  | '+' :: rest => rest
  | '-' :: rest => rest
  | s => s

def isDigitOr (c : Char) : Bool := isDecimalDigit c || c == '_'

def nonEmptyAll (p : Char → Bool) (s : List Char) : Bool := !s.isEmpty && s.all p

def isDigitRun : List Char → Bool
  | [] => false
  | c :: rest => isDecimalDigit c && rest.all isDigitOr

/-- A part of a number to base 60 after its first one. -/
def isSixtieth : List Char → Bool
  | [a] => isDecimalDigit a
  | [a, b] => '0' ≤ a && a ≤ '5' && isDecimalDigit b
  | _ => false

def isSexagesimal (s : List Char) : Bool :=
  match Blank.cut (· == ':') s with
  | first :: second :: rest => isDigitRun first && (second :: rest).all isSixtieth
  | _ => false

def isOctalOr (c : Char) : Bool := ('0' ≤ c && c ≤ '7') || c == '_'

def isInteger (s : List Char) : Bool :=
  match dropSign s with
  | '0' :: 'b' :: rest => nonEmptyAll (fun c => c == '0' || c == '1' || c == '_') rest
  | '0' :: 'x' :: rest => nonEmptyAll (fun c => isHexDigit c || c == '_') rest
  | ['0'] => true
  | '0' :: rest => rest.all isOctalOr
  | body => (isDigitRun body && body.all isDigitOr) || isSexagesimal body

def isExponent : List Char → Bool
  | [] => true
  | e :: sign :: rest =>
    (e == 'e' || e == 'E') && (sign == '+' || sign == '-') && nonEmptyAll isDecimalDigit rest
  | _ => false

def isReal (s : List Char) : Bool :=
  let body := dropSign s
  let whole := body.takeWhile (· != '.')
  let part := (body.dropWhile (· != '.')).drop 1
  let hasPoint := body.contains '.'
  let fraction := part.takeWhile isDigitOr
  let tail := part.dropWhile isDigitOr
  if !hasPoint then false
  else if whole.isEmpty then
    (body == s && isDigitRun fraction && isExponent tail) ||
      isOneOf ["inf", "Inf", "INF"] part || (body == s && isOneOf ["nan", "NaN", "NAN"] part)
  else (isDigitRun whole && isExponent tail) || (isSexagesimal whole && tail.isEmpty)

def digits? (least most : Nat) (s : List Char) : Option (List Char) :=
  let ds := (s.takeWhile isDecimalDigit).take most
  if least ≤ ds.length then some (s.drop ds.length) else none

def char? (c : Char) : List Char → Option (List Char)
  | d :: rest => if d = c then some rest else none
  | [] => none

def isDay (s : List Char) : Bool :=
  (do
    let s ← digits? 4 4 s
    let s ← char? '-' s
    let s ← digits? 2 2 s
    let s ← char? '-' s
    digits? 2 2 s) == some []

def isGap (c : Char) : Bool := c == ' ' || c == '\t'

def dropMark? : List Char → Option (List Char)
  | c :: rest =>
    if c = 'T' ∨ c = 't' then some rest
    else if isGap c then some (rest.dropWhile isGap)
    else none
  | [] => none

def isZone (s : List Char) : Bool :=
  s.isEmpty ||
    match s.dropWhile isGap with
    | ['Z'] => true
    | sign :: rest =>
      (sign == '+' || sign == '-') &&
        match digits? 1 2 rest with
        | some [] => true
        | some rest => (do digits? 2 2 (← char? ':' rest)) == some []
        | none => false
    | [] => false

def isMoment (s : List Char) : Bool :=
  match (do
    let s ← digits? 4 4 s
    let s ← char? '-' s
    let s ← digits? 1 2 s
    let s ← char? '-' s
    let s ← digits? 1 2 s
    let s ← dropMark? s
    let s ← digits? 1 2 s
    let s ← char? ':' s
    let s ← digits? 2 2 s
    let s ← char? ':' s
    digits? 2 2 s) with
  | some ('.' :: rest) => isZone (rest.dropWhile isDecimalDigit)
  | some rest => isZone rest
  | none => false

/-- Whether a plain text would be read as something else than a text. -/
def isAmbiguous (s : List Char) : Bool :=
  isOneOf nullWords s || isOneOf truthWords s || isOneOf ["=", "<<"] s || isInteger s ||
    isReal s || isDay s || isMoment s

def isSpaceOrBreak (c : Char) : Bool := c == ' ' || c == '\n'

/-- Whether a character can be written without an escape. -/
def isSimple (c : Char) : Bool := c == '\n' || (32 ≤ c.toNat && c.toNat ≤ 126)

def beforeGap : List Char → Bool
  | [] => true
  | c :: _ => isSpaceOrBreak c

def startIndicators : List Char := "#,[]{}&*!|>'\"%@`".toList

def startsStructure : List Char → Bool
  | [] => false
  | c :: rest =>
    startIndicators.contains c || ((c == '?' || c == ':' || c == '-') && beforeGap rest) ||
      ['-', '-'].isPrefixOf rest && c == '-' || ['.', '.'].isPrefixOf rest && c == '.'

/-- Whether a colon or a number sign inside means structure. -/
def holdsStructure (afterGap : Bool) : List Char → Bool
  | [] => false
  | c :: rest =>
    (c == ':' && beforeGap rest) || (c == '#' && afterGap) ||
      holdsStructure (isSpaceOrBreak c) rest

def hasSpaceAtBreak : List Char → Bool
  | a :: b :: rest =>
    (a == ' ' && b == '\n') || (a == '\n' && b == ' ') || hasSpaceAtBreak (b :: rest)
  | _ => false

def breaksLine (c : Char) : Bool :=
  c == '\n' || c == '\x85' || c == '\u2028' || c == '\u2029'

inductive Style where
  | plain
  | single
  | double
deriving DecidableEq, Repr

def isPlain (s : List Char) : Bool :=
  !isAmbiguous s && s.all (fun c => isSimple c && c != '\n') && s.head? != some ' ' &&
    s.getLast? != some ' ' && !startsStructure s && !holdsStructure false s

def styleOf (s : List Char) : Style :=
  if isPlain s then .plain
  else if s.all isSimple && !hasSpaceAtBreak s then .single
  else .double

def indentation (indent : Nat) : List Char := List.replicate indent ' '

def newLine (indent : Nat) : List Char := '\n' :: indentation indent

/-- Where a text is written: the indentation of further lines, and whether it may be folded. -/
structure Layout where
  indent : Nat
  folds : Bool

/-- Stretches of one kind: spaces, line ends, or other characters. -/
def stretches (s : List Char) : List (List Char) :=
  s.splitBy fun a b => (a == ' ') == (b == ' ') && (a == '\n') == (b == '\n')

def plainFrom (layout : Layout) : Nat → List (List Char) → List Char
  | _, [] => []
  | column, part :: rest =>
    if part = [' '] ∧ lineWidth < column ∧ layout.folds then
      newLine layout.indent ++ plainFrom layout layout.indent rest
    else part ++ plainFrom layout (column + part.length) rest

def doubleApostrophes (s : List Char) : List Char :=
  s.flatMap fun c => if c = '\'' then ['\'', '\''] else [c]

/-- Write the inside of a text between apostrophes. A space at either end is never folded. -/
def singleFrom (layout : Layout) : Bool → Nat → List (List Char) → List Char
  | _, _, [] => []
  | first, column, part :: rest =>
    if part.head? = some '\n' then
      '\n' :: (part ++ indentation layout.indent) ++ singleFrom layout false layout.indent rest
    else if part = [' '] ∧ lineWidth < column ∧ layout.folds ∧ !first ∧ !rest.isEmpty then
      newLine layout.indent ++ singleFrom layout false layout.indent rest
    else
      let written := doubleApostrophes part
      written ++ singleFrom layout false (column + written.length) rest

def letterEscapes : List (Char × Char) := [
  ('\x00', '0'), ('\x07', 'a'), ('\x08', 'b'), ('\t', 't'), ('\n', 'n'), ('\x0b', 'v'),
  ('\x0c', 'f'), ('\r', 'r'), ('\x1b', 'e'), ('"', '"'), ('\\', '\\'), ('\x85', 'N'),
  ('\xa0', '_'), ('\u2028', 'L'), ('\u2029', 'P')]

def upperHex (width n : Nat) : List Char := (zeroFill width (digits 16 n)).map Char.toUpper

def escape (c : Char) : List Char :=
  match letterEscapes.lookup c with
  | some letter => ['\\', letter]
  | none =>
    if c.toNat < 0x100 then '\\' :: 'x' :: upperHex 2 c.toNat
    else if c.toNat < 0x10000 then '\\' :: 'u' :: upperHex 4 c.toNat
    else '\\' :: 'U' :: upperHex 8 c.toNat

def needsEscape (c : Char) : Bool :=
  c == '"' || c == '\\' || !(32 ≤ c.toNat && c.toNat ≤ 126)

/-- End a line inside double quotes. A space that starts the next line is kept by a backslash. -/
def foldedLine (layout : Layout) (nextIsSpace : Bool) : List Char :=
  '\\' :: newLine layout.indent ++ (if nextIsSpace then ['\\'] else [])

def columnAfterFold (layout : Layout) (nextIsSpace : Bool) : Nat :=
  layout.indent + (if nextIsSpace then 1 else 0)

/-- Write the inside of a text between double quotes. `pending` is what has been read since the
last escape or fold, last character first, and `column` is where it will start. -/
def doubleFrom (layout : Layout) : Bool → Nat → List Char → List Char → List Char
  | _, _, pending, [] => pending.reverse
  | first, column, pending, c :: rest =>
    let inside := !first && !rest.isEmpty && layout.folds
    if needsEscape c then
      let written := pending.reverse ++ escape c
      let column := column + written.length
      let space := rest.head? == some ' '
      if inside ∧ lineWidth < column - 1 then
        written ++ foldedLine layout space ++
          doubleFrom layout false (columnAfterFold layout space) [] rest
      else written ++ doubleFrom layout false column [] rest
    else if inside ∧ (c = ' ' ∨ pending = []) ∧ lineWidth < column + pending.length then
      let space := c == ' '
      pending.reverse ++ foldedLine layout space ++
        doubleFrom layout false (columnAfterFold layout space) [c] rest
    else doubleFrom layout false column (c :: pending) rest

/-- Write a text whose first character will stand in `column`. -/
def write (layout : Layout) (column : Nat) (s : List Char) : List Char :=
  match styleOf s with
  | .plain => plainFrom layout column (stretches s)
  | .single => '\'' :: singleFrom layout true (column + 1) (stretches s) ++ ['\'']
  | .double => '"' :: doubleFrom layout true (column + 1) [] s ++ ['"']

end Cosim.Report.Scalar
