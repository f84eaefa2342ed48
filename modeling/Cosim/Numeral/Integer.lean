import Cosim.Numeral.Digits
import Cosim.Text.Blank
import Cosim.Text.DecimalDigit
import Cosim.Text.Quoted

namespace Cosim.Numeral.Integer

open Cosim.Text

def digitLimit : Nat := 4300

inductive Fault where
  | malformed (base : Nat) (text : Wide)
  | tooLong (digits : Nat)
deriving DecidableEq, Repr

def Fault.message : Fault → String
  | .malformed base text =>
    "invalid literal for int() with base " ++ toString base ++ ": " ++
      String.ofList ((Quoted.quote text).toList.take 200)
  | .tooLong n =>
    "Exceeds the limit (" ++ toString digitLimit ++
      " digits) for integer string conversion: value has " ++ toString n ++
      " digits; use sys.set_int_max_str_digits() to increase the limit"

/-- Blanks that may stand around a number: all but the separators U+001C to U+001F. -/
def isMargin (c : Char) : Bool :=
  Blank.isBlank c && !(28 ≤ c.toNat && c.toNat ≤ 31)

def plain (c : Char) : Char :=
  if c.toNat < 128 then c
  else match DecimalDigit.value? c with
    | some d => Char.ofNat (48 + d)
    | none => c

def splitSign : List Char → Bool × List Char
  | '-' :: rest => (true, rest)
  | '+' :: rest => (false, rest)
  | s => (false, s)

def dropMark : List Char → List Char
  | '0' :: x :: rest =>
    if x = 'x' ∨ x = 'X' then (match rest with
      | '_' :: rest => rest
      | rest => rest)
    else '0' :: x :: rest
  | s => s

/-- Digits with single underscores between them. `needDigit` tells that a digit has to follow. -/
def joined (isDigit : Char → Bool) (needDigit : Bool) : List Char → Option (List Char)
  | [] => if needDigit then none else some []
  | c :: rest =>
    if c = '_' then if needDigit then none else joined isDigit true rest
    else if isDigit c then (joined isDigit false rest).map (c :: ·)
    else none

def core (s : List Char) : List Char :=
  (Blank.dropEndWhile isMargin (s.dropWhile isMargin)).map plain

def signed (negative : Bool) (n : Nat) : Int := if negative then -(n : Int) else n

def readHex (s : List Char) : Except Fault Int :=
  let (negative, body) := splitSign (core s)
  match joined isHexDigit true (dropMark body) with
  | some ds => .ok (signed negative (hexValue ds))
  | none => .error (.malformed 16 s)

def readDecimal (s : List Char) : Except Fault Int :=
  let (negative, body) := splitSign (core s)
  match joined isDecimalDigit true body with
  | some ds =>
    if digitLimit < ds.length then .error (.tooLong ds.length)
    else .ok (signed negative (decimalValue ds))
  | none => .error (.malformed 10 s)

end Cosim.Numeral.Integer
