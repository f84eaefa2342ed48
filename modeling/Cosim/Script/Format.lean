import Cosim.Script.Floating
import Cosim.Script.Tool.Quoting

namespace Cosim.Script.Format

open Cosim.Numeral

def octalDigit? (c : Char) : Option Nat :=
  if '0' ≤ c && c ≤ '7' then some (c.toNat - 48) else none

def octal (limit : Nat) (s : List Char) : Char × List Char :=
  let digits := (s.take limit).takeWhile fun c => (octalDigit? c).isSome
  (Char.ofNat (valueBy octalDigit? 8 digits % 256), s.drop digits.length)

def letter? : Char → Option Char
  | 'a' => some '\x07'
  | 'b' => some '\x08'
  | 'e' => some '\x1b'
  | 'f' => some '\x0c'
  | 'n' => some '\n'
  | 'r' => some '\x0d'
  | 't' => some '\t'
  | 'v' => some '\x0b'
  | '\\' => some '\\'
  | _ => none

/-- Who reads a format: a shell or a tool. They complain in words of their own, and a tool knows
more escapes, reads numbers more exactly and passes over the lengths of numbers. -/
structure Dialect where
  isTool : Bool
  precision : Precision

def Dialect.shell : Dialect := ⟨false, .double⟩

def Dialect.tool : Dialect := ⟨true, .extended⟩

/-- What an escape stands for: characters, or the end of all output. -/
inductive Escape where
  | signs (s : List Char)
  | over

def escape (d : Dialect) (isArgument : Bool) (s : List Char) : Escape × List Char :=
  match s with
  | [] => (.signs ['\\'], [])
  | c :: rest =>
    if (octalDigit? c).isSome then
      let (c, after) := octal 3 (if isArgument && c = '0' then rest else s)
      (.signs [c], after)
    else match letter? c with
      | some sign => (.signs [sign], rest)
      | none =>
        if c = 'c' && (d.isTool || isArgument) then (.over, [])
        else if c = '"' && d.isTool then (.signs ['"'], rest)
        else if c = 'x' && d.isTool then
          let digits := (rest.take 2).takeWhile isHexDigit
          (.signs [Char.ofNat (hexValue digits)], rest.drop digits.length)
        else if d.isTool then (.signs ['\\', c], rest)
        else (.signs ['\\'], s)

def unescapeFrom (d : Dialect) : Nat → List Char → List Char → List Char × Bool
  | 0, before, _ | _, before, [] => (before.reverse, false)
  | fuel + 1, before, '\\' :: rest =>
    match escape d true rest with
    | (.over, _) => (before.reverse, true)
    | (.signs s, after) => unescapeFrom d fuel (s.reverse ++ before) after
  | fuel + 1, before, c :: rest => unescapeFrom d fuel (c :: before) rest

def unescape (d : Dialect) (s : String) : List Char × Bool :=
  unescapeFrom d s.length [] s.toList

def echoed : List String → List Char
  | [] => ['\n']
  | [w] =>
    let (text, isEnd) := unescape .shell w
    if isEnd then text else text ++ ['\n']
  | w :: rest =>
    let (text, isEnd) := unescape .shell w
    if isEnd then text else text ++ ' ' :: echoed rest

def echo : List String → String
  | ["-n"] => ""
  | "-n" :: words =>
    let (text, _) := unescape .shell (" ".intercalate words)
    String.ofList text
  | words => String.ofList (echoed words)

/-- A directive: its flags, the least width and the precision. -/
structure Spec where
  flags : List Char
  width : Nat
  precision : Option Nat

/-- What has been printed, last character first, the arguments that are left, and what there is to
complain of. -/
structure Printing where
  text : List Char
  args : List String
  complaints : List String
  isFaulty : Bool
  isOver : Bool
  fault : Option String

namespace Printing

def emit (p : Printing) (s : List Char) : Printing := { p with text := s.reverse ++ p.text }

def padded (p : Printing) (spec : Spec) (s : List Char) : Printing :=
  let fill := List.replicate (spec.width - s.length) ' '
  p.emit (if spec.flags.contains '-' then s ++ fill else fill ++ s)

def argument (p : Printing) : String × Printing :=
  (p.args.headD "", { p with args := p.args.tail })

def complain (p : Printing) (text : String) : Printing :=
  { p with complaints := p.complaints ++ [text], isFaulty := true }

def remark (p : Printing) (text : String) : Printing :=
  { p with complaints := p.complaints ++ [text] }

end Printing

def numeral (s : List Char) : Int × List Char × Bool :=
  let body := s.dropWhile fun c => c = ' ' || ('\t' ≤ c && c ≤ '\x0d')
  let (negative, body) := match body with
    | '-' :: rest => (true, rest)
    | '+' :: rest => (false, rest)
    | rest => (false, rest)
  let cut (digits : List Char) (isDigit : Char → Bool) (base : Nat) : Int × List Char × Bool :=
    let taken := digits.takeWhile isDigit
    let n : Int := ofDigits base (taken.map fun c => (hexDigit? c).getD 0)
    (if negative then -n else n, if taken.isEmpty then s else digits.drop taken.length,
      !taken.isEmpty)
  match body with
  | '0' :: x :: d :: rest =>
    if (x = 'x' || x = 'X') && isHexDigit d then cut (d :: rest) isHexDigit 16
    else cut body (fun c => (octalDigit? c).isSome) 8
  | '0' :: _ => cut body (fun c => (octalDigit? c).isSome) 8
  | _ => cut body isDecimalDigit 10

/-- Why an argument is not quite a number. -/
inductive Defect where
  | noNumber
  | incomplete
  | outOfRange

def Dialect.complaint (d : Dialect) (arg : String) : Defect → String
  | .noNumber =>
    if d.isTool then Tool.quoted arg ++ ": expected a numeric value"
    else arg ++ ": expected numeric value"
  | .incomplete =>
    if d.isTool then Tool.quoted arg ++ ": value not completely converted"
    else arg ++ ": not completely converted"
  | .outOfRange =>
    (if d.isTool then Tool.quoted arg else arg) ++ ": Numerical result out of range"

def check (d : Dialect) (p : Printing) (arg : String) (after : List Char) (isOut : Bool) :
    Printing :=
  if !after.isEmpty then
    p.complain (d.complaint arg (if after.length = arg.length then .noNumber else .incomplete))
  else if isOut then p.complain (d.complaint arg .outOfRange)
  else p

def quotedSign? (d : Dialect) (p : Printing) (arg : String) : Option (Nat × Printing) :=
  match arg.toList with
  | q :: rest =>
    if q ≠ '\'' && q ≠ '"' then none
    else if d.isTool && 1 < rest.length then
      some ((rest.headD '\x00').toNat, p.remark ("warning: " ++ String.ofList (rest.drop 1) ++
        ": character(s) following character constant have been ignored"))
    else if d.isTool && rest.isEmpty then
      some (0, p.complain (d.complaint arg .noNumber))
    else some ((rest.headD '\x00').toNat, p)
  | [] => none

def number (d : Dialect) (p : Printing) (low high : Int) : Int × Printing :=
  let (arg, p) := p.argument
  match quotedSign? d p arg with
  | some (n, p) => (n, p)
  | none =>
    let (n, after, _) := numeral arg.toList
    (max low (min high n), check d p arg after (n < low || high < n))

def floating (d : Dialect) (p : Printing) : Floating × Printing :=
  let (arg, p) := p.argument
  match quotedSign? d p arg with
  | some (n, p) => (.finite false n 0, p)
  | none =>
    let (x, after, isOut) := Floating.read d.precision arg.toList
    (x, check d p arg after isOut)

def numberText (spec : Spec) (before : List Char) (digits : List Char) : List Char :=
  let digits := match spec.precision with
    | some n => if n = 0 && digits == ['0'] then [] else zeroFill n digits
    | none =>
      if spec.flags.contains '0' && !spec.flags.contains '-' then
        zeroFill (spec.width - before.length) digits
      else digits
  before ++ digits

def signedText (spec : Spec) (n : Int) : List Char :=
  let before := if n < 0 then ['-'] else if spec.flags.contains '+' then ['+']
    else if spec.flags.contains ' ' then [' '] else []
  numberText spec before (digits 10 n.natAbs)

def unsignedText (spec : Spec) (conversion : Char) (n : Nat) : List Char :=
  let isMarked := spec.flags.contains '#'
  match conversion with
  | 'o' =>
    let ds := digits 8 n
    numberText spec [] (if isMarked && n ≠ 0 then '0' :: ds else ds)
  | 'x' => numberText spec (if isMarked && n ≠ 0 then ['0', 'x'] else []) (digits 16 n)
  | 'X' =>
    numberText spec (if isMarked && n ≠ 0 then ['0', 'X'] else [])
      ((digits 16 n).map Char.toUpper)
  | _ => numberText spec [] (digits 10 n)

def floatingText (d : Dialect) (spec : Spec) (conversion : Char) (x : Floating) : List Char :=
  let sign (negative : Bool) : List Char :=
    if negative then ['-'] else if spec.flags.contains '+' then ['+']
    else if spec.flags.contains ' ' then [' '] else []
  let named (name : String) : List Char :=
    if conversion.isUpper then name.toList.map Char.toUpper else name.toList
  match x with
  | .nan negative => sign negative ++ named "nan"
  | .infinite negative => sign negative ++ named "inf"
  | .finite negative m e =>
    let before := sign negative
    let body := Floating.body d.precision conversion spec.precision (spec.flags.contains '#') m e
    if spec.flags.contains '0' && !spec.flags.contains '-' then
      let (start, rest) :=
        if conversion.toLower = 'a' then (body.take 2, body.drop 2) else ([], body)
      before ++ start ++ zeroFill (spec.width - before.length - start.length) rest
    else before ++ body

def direct (d : Dialect) (p : Printing) (spec : Spec) (conversion : Char)
    (directive : List Char) : Printing :=
  let refuse (_ : Unit) : Printing :=
    let text := String.ofList directive ++ if d.isTool then ": invalid conversion specification"
      else ": invalid directive"
    { p with fault := some text, isOver := true }
  let marks (allowed : String) : Bool := d.isTool && spec.flags.any (!allowed.toList.contains ·)
  match conversion with
  | 's' =>
    if marks "-" then refuse ()
    else
      let (arg, p) := p.argument
      p.padded spec (match spec.precision with
        | some n => arg.toList.take n
        | none => arg.toList)
  | 'b' =>
    if d.isTool && (!spec.flags.isEmpty || spec.width ≠ 0) then refuse ()
    else
      let (arg, p) := p.argument
      let (text, isEnd) := unescape d arg
      { p.padded spec text with isOver := isEnd }
  | 'c' =>
    if marks "-" then refuse ()
    else
      let (arg, p) := p.argument
      p.padded spec [arg.toList.headD '\x00']
  | 'd' | 'i' =>
    let (n, p) := number d p (-(2 ^ 63)) (2 ^ 63 - 1)
    p.padded spec (signedText spec n)
  | 'o' | 'u' | 'x' | 'X' =>
    let (n, p) := number d p (-(2 ^ 64)) (2 ^ 64 - 1)
    p.padded spec (unsignedText spec conversion (n.emod (2 ^ 64)).toNat)
  | 'a' | 'A' | 'e' | 'E' | 'f' | 'F' | 'g' | 'G' =>
    let (x, p) := floating d p
    p.padded spec (floatingText d spec conversion x)
  | 'q' =>
    if d.isTool then
      let (arg, p) := p.argument
      p.padded spec (Tool.shown arg).toList
    else refuse ()
  | _ => refuse ()

def wrapped (n : Int) : Int := (n + 2 ^ 31) % 2 ^ 32 - 2 ^ 31

/-- A width or precision, which may be an argument, and what follows it. A shell takes an argument
that is too large for its last bits, and a tool refuses it under a name. -/
def extent (d : Dialect) (name : String) (p : Printing) (s : List Char) :
    Option Int × Printing × List Char :=
  match s with
  | '*' :: rest =>
    let (n, after) := number d p (-(2 ^ 63)) (2 ^ 63 - 1)
    if d.isTool && wrapped n ≠ n then
      (none, { after with
        fault := some ("invalid " ++ name ++ ": " ++ Tool.quoted (p.args.headD ""))
        isOver := true }, rest)
    else (some (wrapped n), after, rest)
  | s =>
    let ds := s.takeWhile Char.isDigit
    (if ds.isEmpty then none else some (decimalValue ds), p, s.drop ds.length)

def limit : Nat := 2 ^ 24

def once (d : Dialect) : Nat → List Char → Printing → Printing
  | 0, _, p | _, [], p => p
  | fuel + 1, '\\' :: rest, p =>
    match escape d false rest with
    | (.over, _) => { p with isOver := true }
    | (.signs s, after) => once d fuel after (p.emit s)
  | fuel + 1, '%' :: '%' :: rest, p => once d fuel rest (p.emit ['%'])
  | fuel + 1, '%' :: rest, p =>
    let flags := rest.takeWhile fun c => "#-+ 0".toList.contains c
    let (width, p, after) := extent d "field width" p (rest.drop flags.length)
    let (precision, p, after) := match after with
      | '.' :: after =>
        let (n, p, after) := extent d "precision" p after
        (some (n.getD 0), p, after)
      | after => (none, p, after)
    let after := if d.isTool then after.dropWhile "lLjhtz".toList.contains else after
    if p.isOver then p
    else if limit < max (width.getD 0).natAbs (precision.getD 0).natAbs then
      { p with
        fault := some (if d.isTool then "write error" else "xvsnprintf failed")
        isOver := true }
    else match after with
    | [] =>
      let text := if d.isTool then
          "%" ++ String.ofList rest ++ ": invalid conversion specification"
        else "missing format character"
      { p with fault := some text, isOver := true }
    | conversion :: after =>
      let width := width.getD 0
      let spec : Spec := ⟨if width < 0 then '-' :: flags else flags, width.natAbs,
        precision.bind fun n => if n < 0 then none else some n.toNat⟩
      let directive := '%' :: rest.take (rest.length - after.length)
      let p := direct d p spec conversion directive
      if p.isOver then p else once d fuel after p
  | fuel + 1, c :: rest, p => once d fuel rest (p.emit [c])

def repeated (d : Dialect) (format : List Char) : Nat → Printing → Printing
  | 0, p => p
  | fuel + 1, p =>
    let after := once d (format.length + 1) format p
    if after.isOver || after.args.isEmpty then after
    else if after.args.length = p.args.length then
      if d.isTool then after.remark ("warning: ignoring excess arguments, starting with " ++
        Tool.quoted (after.args.headD ""))
      else after
    else repeated d format fuel after

def print (d : Dialect) (format : String) (args : List String) : Printing :=
  repeated d format.toList (args.length + 1) ⟨[], args, [], false, false, none⟩

end Cosim.Script.Format
