import Cosim.Json.Value
import Cosim.Numeral.Integer

namespace Cosim.Json

open Cosim.Numeral

structure NumberText where
  negative : Bool
  whole : List Char
  fraction : List Char
  exponent : Option (Bool × List Char)
deriving DecidableEq, Repr

namespace NumberText

def splitMinus : List Char → Bool × List Char
  | '-' :: rest => (true, rest)
  | s => (false, s)

def splitFraction (isDigit : Char → Bool) (s : List Char) : List Char × List Char :=
  match s with
  | '.' :: rest =>
    let ds := rest.takeWhile isDigit
    if ds.isEmpty then ([], s) else (ds, rest.dropWhile isDigit)
  | _ => ([], s)

/-- The mark of an exponent, a sign, and at least one digit. -/
def splitExponent (isDigit : Char → Bool) (s : List Char) :
    Option (Bool × List Char) × List Char :=
  match s with
  | e :: rest =>
    if e = 'e' ∨ e = 'E' then
      let (negative, body) := Integer.splitSign rest
      let ds := body.takeWhile isDigit
      if ds.isEmpty then (none, s) else (some (negative, ds), body.dropWhile isDigit)
    else (none, s)
  | [] => (none, s)

/-- The longest number at the start of a text. The first digit is one of ASCII. -/
def scan? (isDigit : Char → Bool) (s : List Char) : Option (NumberText × List Char) :=
  let (negative, body) := splitMinus s
  match body with
  | [] => none
  | d :: rest =>
    if isDecimalDigit d then
      let whole := if d = '0' then [d] else d :: rest.takeWhile isDigit
      let rest := if d = '0' then rest else rest.dropWhile isDigit
      let (fraction, rest) := splitFraction isDigit rest
      let (exponent, rest) := splitExponent isDigit rest
      some (⟨negative, whole, fraction, exponent⟩, rest)
    else none

def isInteger (t : NumberText) : Bool := t.fraction.isEmpty && t.exponent.isNone

def toInt (t : NumberText) : Except Integer.Fault Int :=
  if Integer.digitLimit < t.whole.length then .error (.tooLong t.whole.length)
  else .ok (Integer.signed t.negative (decimalValue (t.whole.map Integer.plain)))

def toReal (t : NumberText) : Decimal.Binary64 :=
  let power : Int := match t.exponent with
    | none => 0
    | some (negative, ds) => Integer.signed negative (decimalValue (ds.map Integer.plain))
  Decimal.Binary64.ofDecimal t.negative
    (decimalValue ((t.whole ++ t.fraction).map Integer.plain)) (power - t.fraction.length)

end NumberText

end Cosim.Json
