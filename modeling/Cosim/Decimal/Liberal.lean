import Cosim.Decimal.Binary64
import Cosim.Numeral.Integer

namespace Cosim.Decimal.Liberal

open Cosim.Numeral

/-- Remove underscores. Each has to stand between two digits; `previous` is what stands before. -/
def dropUnderscores (previous : Option Char) : List Char → Option (List Char)
  | [] => if previous = some '_' then none else some []
  | c :: rest =>
    let afterDigit := previous.any isDecimalDigit
    if c = '_' then
      if afterDigit then dropUnderscores (some c) rest else none
    else if previous = some '_' ∧ !isDecimalDigit c then none
    else (dropUnderscores (some c) rest).map (c :: ·)

def lowered (s : List Char) : List Char := s.map Char.toLower

def exponent? : List Char → Option Int
  | [] => some 0
  | e :: rest =>
    if e = 'e' ∨ e = 'E' then
      let (negative, ds) := Integer.splitSign rest
      if isDecimal ds then some (Integer.signed negative (decimalValue ds)) else none
    else none

def decimal? (negative : Bool) (s : List Char) : Option Binary64 :=
  let whole := s.takeWhile isDecimalDigit
  let rest := s.dropWhile isDecimalDigit
  let (part, rest) := match rest with
    | '.' :: rest => (rest.takeWhile isDecimalDigit, rest.dropWhile isDecimalDigit)
    | rest => ([], rest)
  if (whole ++ part).isEmpty then none
  else (exponent? rest).map fun e =>
    Binary64.ofDecimal negative (decimalValue (whole ++ part)) (e - part.length)

def read? (s : List Char) : Option Binary64 := do
  let body ← dropUnderscores none (Integer.core s)
  let (negative, body) := Integer.splitSign body
  let name := String.ofList (lowered body)
  if name = "inf" ∨ name = "infinity" then some (.infinite negative)
  else if name = "nan" then some .nan
  else decimal? negative body

end Cosim.Decimal.Liberal
