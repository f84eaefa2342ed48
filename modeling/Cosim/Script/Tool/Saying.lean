import Cosim.Files.Path
import Cosim.Script.Format
import Cosim.Script.Tool.Basic
import Cosim.Text.Blank

namespace Cosim.Script.Tool

open Cosim.Files Cosim.Numeral Cosim.Text Step

/-- Read the escapes of a word in front of which an option asks for it, and tell whether one of them
ends all output. The characters before are held last one first, and every step uses up a
character. -/
def unescapeFrom : Nat → List Char → List Char → List Char × Bool
  | 0, before, _ | _, before, [] => (before.reverse, false)
  | _ + 1, before, '\\' :: 'c' :: _ => (before.reverse, true)
  | fuel + 1, before, '\\' :: 'x' :: rest =>
    let digits := (rest.take 2).takeWhile isHexDigit
    if digits.isEmpty then unescapeFrom fuel ('x' :: '\\' :: before) rest
    else unescapeFrom fuel (Char.ofNat (hexValue digits) :: before) (rest.drop digits.length)
  | fuel + 1, before, '\\' :: c :: rest =>
    if (Format.octalDigit? c).isSome then
      let (sign, after) := Format.octal 3 (if c = '0' then rest else c :: rest)
      unescapeFrom fuel (sign :: before) after
    else match Format.letter? c with
      | some sign => unescapeFrom fuel (sign :: before) rest
      | none => unescapeFrom fuel (c :: '\\' :: before) rest
  | fuel + 1, before, c :: rest => unescapeFrom fuel (c :: before) rest

/-- Say words with blanks between them. Escapes count only where an option asks for them. -/
def echoFrom (isLine escapes : Bool) : List String → Step Nat
  | [] => sayWords []
  | arg :: args =>
    match arg.toList with
    | '-' :: c :: letters =>
      if (c :: letters).all "neE".toList.contains then
        let escapes := match ((c :: letters).filter (· != 'n')).getLast? with
          | some letter => letter == 'e'
          | none => escapes
        echoFrom (isLine && !(c :: letters).contains 'n') escapes args
      else sayWords (arg :: args)
    | _ => sayWords (arg :: args)
where
  sayWords (words : List String) : Step Nat := do
    let text := (" ".intercalate words).toList
    let (text, isEnd) := if escapes then unescapeFrom text.length [] text else (text, false)
    discard (say 1 (String.ofList (if isLine && !isEnd then text ++ ['\n'] else text)))
    return 0

def echo (args : List String) : Step Nat := echoFrom true false args

def printf (name : String) (args : List String) : Step Nat := do
  let args := if args.head? = some "--" then args.tail else args
  match args with
  | [] => usage name "missing operand"
  | format :: args =>
    let p := Format.print .tool format args
    p.complaints.forM fun c => discard (complain name c)
    discard (say 1 (String.ofList p.text.reverse))
    match p.fault with
    | some fault => complain name fault
    | none => return if p.isFaulty then 1 else 0

def blockLength : Nat := 4096

def sayPieces (piece : Nat → String) : Nat → Nat → Nat → Step Unit
  | 0, _, _ | _, _, 0 => pure ()
  | fuel + 1, place, left => do
    let size := min left blockLength
    if ← say 1 (String.join ((List.range size).map fun k => piece (place + k))) then
      sayPieces piece fuel (place + size) (left - size)

def endless : Nat := 10 ^ 9

def yes (name : String) (args : List String) : Step Nat := do
  let g := Given.readLeading [] args
  obey name g anyValue do
    let line := (if g.operands.isEmpty then "y" else " ".intercalate g.operands) ++ "\n"
    sayPieces (fun _ => line) endless 0 endless
    return 0

def sayFixed (name text : String) (args : List String) : Step Nat :=
  match args with
  | [] => sayLine 1 text *> pure 0
  | arg :: _ => usage name ("extra operand " ++ quoted arg)

def lastName (path ending : String) : String :=
  if path.isEmpty then ""
  else
    let last := ((pieces path).filter fun name => !name.isEmpty).getLast?.getD "/"
    if !ending.isEmpty && last != ending && last.endsWith ending && last != "/" then
      (last.dropEnd ending.length).toString
    else last

def basename (name : String) (args : List String) : Step Nat := do
  let g := Given.readLeading
    [flag "a" "multiple", setting "s" "suffix", flag "z" "zero"] args
  let stop := if g.has "z" then "\x00" else "\n"
  obey name g anyValue do
    match g.operands, g.has "a" || g.has "s" with
    | [], _ => usage name "missing operand"
    | paths, true =>
      discard (say 1 (String.join (paths.map fun path =>
        lastName path ((g.value? "s").getD "") ++ stop)))
      return 0
    | [path], false => say 1 (lastName path "" ++ stop) *> pure 0
    | [path, ending], false => say 1 (lastName path ending ++ stop) *> pure 0
    | _ :: _ :: extra :: _, false => usage name ("extra operand " ++ quoted extra)

def pathAbove (path : String) : String :=
  let stem := Blank.dropEndWhile (· == '/') path.toList
  let above := Blank.dropEndWhile (· != '/') stem
  let text := String.ofList (Blank.dropEndWhile (· == '/') above)
  if !text.isEmpty then text
  else if above.isEmpty && !(stem.isEmpty && !path.isEmpty) then "." else "/"

def dirname (name : String) (args : List String) : Step Nat := do
  let g := Given.read [flag "z" "zero"] args
  let stop := if g.has "z" then "\x00" else "\n"
  obey name g anyValue do
    if g.operands.isEmpty then usage name "missing operand"
    else
      discard (say 1 (String.join (g.operands.map fun path => pathAbove path ++ stop)))
      return 0

def printenv (name : String) (environment : List (String × String)) (args : List String) :
    Step Nat := do
  let g := Given.readLeading [flag "0" "null"] args
  let stop := if g.has "0" then "\x00" else "\n"
  obeyOr 2 name g anyValue do
    match g.operands with
    | [] =>
      discard (say 1 (String.join (environment.map fun (name, value) =>
        name ++ "=" ++ value ++ stop)))
      return 0
    | names =>
      let found := names.map fun name => environment.lookup name
      discard (say 1 (String.join (found.filterMap fun value => value.map (· ++ stop))))
      return if found.all Option.isSome then 0 else 1

/-- A number with so many places behind the point, as a count of units of the last one. -/
structure Stepped where
  units : Int
  places : Nat

def Stepped.read (arg : String) : Option Stepped :=
  let (negative, body) :=
    match arg.toList.dropWhile fun c => c = ' ' || ('\t' ≤ c && c ≤ '\x0d') with
    | '-' :: rest => (true, rest)
    | '+' :: rest => (false, rest)
    | rest => (false, rest)
  let signed (n : Nat) : Int := if negative then -n else n
  match body with
  | '0' :: x :: ds =>
    if (x = 'x' || x = 'X') && isHex ds then some ⟨signed (hexValue ds), 0⟩ else decimal signed body
  | _ => decimal signed body
where
  decimal (signed : Nat → Int) (body : List Char) : Option Stepped :=
    let (whole, part, rest) := Floating.digitsAt isDecimalDigit body
    let (e, rest) := Floating.exponentAt 'e' rest
    if (whole ++ part).isEmpty || !rest.isEmpty then none
    else
      let n := decimalValue (whole ++ part)
      let places := (part.length : Int) - e
      if 0 ≤ places then some ⟨signed n, places.toNat⟩
      else some ⟨signed (n * 10 ^ (-places).toNat), 0⟩

def Stepped.at (places : Nat) (s : Stepped) : Int :=
  if s.places ≤ places then s.units * 10 ^ (places - s.places)
  else s.units.tdiv (10 ^ (s.places - places))

def steppedText (places width : Nat) (isNegative : Bool) (units : Int) : String :=
  let ds := zeroFill (places + 1) (digits 10 units.natAbs)
  let whole := ds.length - places
  let text := ds.take whole ++ Floating.pointed false (ds.drop whole)
  let sign := if isNegative then ['-'] else []
  String.ofList (sign ++ zeroFill (width - sign.length) text)

/-- The format of numbers: what stands before the directive, the directive, its letter, and what
stands behind it. -/
structure NumberFormat where
  before : List Char
  spec : Format.Spec
  conversion : Char
  after : List Char

def numberFormat (format : String) : Except String NumberFormat :=
  match literal format.length [] format.toList with
  | (_, none) => .error ("format " ++ quoted format ++ " has no % directive")
  | (before, some rest) =>
    let flags := rest.takeWhile "-+#0 '".toList.contains
    let rest := rest.drop flags.length
    let width := rest.takeWhile isDecimalDigit
    let rest := rest.drop width.length
    let (precision, rest) := match rest with
      | '.' :: rest =>
        let ds := rest.takeWhile isDecimalDigit
        (some (decimalValue ds), rest.drop ds.length)
      | rest => (none, rest)
    let rest := if rest.head? = some 'L' then rest.tail else rest
    match rest with
    | [] => .error ("format " ++ quoted format ++ " ends in %")
    | c :: rest =>
      if !"efgaEFGA".toList.contains c then
        .error ("format " ++ quoted format ++ " has unknown %" ++ String.singleton c ++
          " directive")
      else match literal format.length [] rest with
        | (after, none) => .ok ⟨before, ⟨flags, decimalValue width, precision⟩, c, after⟩
        | (_, some _) => .error ("format " ++ quoted format ++ " has too many % directives")
where
  literal : Nat → List Char → List Char → List Char × Option (List Char)
    | 0, before, _ | _, before, [] => (before.reverse, none)
    | fuel + 1, before, '%' :: '%' :: rest => literal fuel ('%' :: before) rest
    | _ + 1, before, '%' :: rest => (before.reverse, some rest)
    | fuel + 1, before, c :: rest => literal fuel (c :: before) rest

def NumberFormat.text (f : NumberFormat) (places : Nat) (isNegative : Bool) (units : Int) :
    String :=
  let (x, _) := Floating.nearest .extended units.natAbs (10 ^ places)
  let x := if isNegative then x.negated else x
  let body := Format.floatingText .tool f.spec f.conversion x
  let fill := List.replicate (f.spec.width - body.length) ' '
  let body := if f.spec.flags.contains '-' then body ++ fill else fill ++ body
  String.ofList (f.before ++ body ++ f.after)

def seq (name : String) (args : List String) : Step Nat := do
  let isNumber (arg : String) : Bool :=
    match arg.toList with
    | '-' :: c :: _ => c = '.' || isDecimalDigit c
    | _ => false
  let options := args.takeWhile fun arg => !isNumber arg
  let g := Given.readLeading
    [setting "f" "format", setting "s" "separator", flag "w" "equal-width"] options
  let operands := g.operands ++ args.drop options.length
  obey name g anyValue do
    match operands with
    | [] => return ← usage name "missing operand"
    | _ :: _ :: _ :: extra :: _ => return ← usage name ("extra operand " ++ quoted extra)
    | _ => pure ()
    let format ← match (g.value? "f").map numberFormat with
      | some (.error text) => return ← complain name text
      | some (.ok format) => pure (some format)
      | none => pure none
    match operands.find? fun arg => (Stepped.read arg).isNone with
    | some arg =>
      return ← usage name ("invalid floating point argument: " ++ quoted arg)
    | none => pure ()
    if format.isSome && g.has "w" then
      return ← usage name
        "format string may not be specified when printing equal width strings"
    let one : Stepped := ⟨1, 0⟩
    let (first, step, last) := match operands.filterMap Stepped.read with
      | [last] => (one, one, last)
      | [first, last] => (first, one, last)
      | first :: step :: last :: _ => (first, step, last)
      | [] => (one, one, one)
    if step.units = 0 then
      return ← usage name ("invalid Zero increment value: " ++ quoted ((operands[1]?).getD ""))
    let places := max first.places step.places
    let (a, d) := (first.at places, step.at places)
    let fine := max places last.places
    let span := last.at fine - a * 10 ^ (fine - places)
    let count := (span.fdiv (d * 10 ^ (fine - places)) + 1).toNat
    let isNegativeAt (k : Nat) (units : Int) : Bool :=
      units < 0 || (k = 0 && units = 0 && 1 < operands.length && (operands.headD "").startsWith "-")
    let z := last.at places
    let width := if g.has "w" then
        max (steppedText places 0 (isNegativeAt 0 a) a).length
          (steppedText places 0 (z < 0) z).length
      else 0
    let separator := (g.value? "s").getD "\n"
    sayPieces (fun k =>
      let units := a + d * (k : Int)
      (match format with
        | some f => f.text places (isNegativeAt k units) units
        | none => steppedText places width (isNegativeAt k units) units) ++
        (if k + 1 = count then "\n" else separator)) count 0 count
    return 0

end Cosim.Script.Tool
