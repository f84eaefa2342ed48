import Cosim.Decimal.Shortest

namespace Cosim.Decimal.Significant

open Cosim.Numeral Cosim.Decimal.Shortest

def precision : Nat := 6

/-- The digits of `m * 2 ^ q` rounded to the precision, and the place of the first one. -/
def rounded (m : Nat) (q : Int) : Nat × Int :=
  let (num, den) := scaled m 2 q
  let lead := leadingPlace num den
  let (one, unit) := scaled 1 10 (lead - precision + 1)
  let a := roundDiv (num * unit) (den * one)
  if a = 10 ^ precision then (10 ^ (precision - 1), lead + 1) else (a, lead)

def dropZeros (ds : List Char) : List Char := (ds.reverse.dropWhile (· == '0')).reverse

def text : Binary64 → List Char
  | .nan => ['n', 'a', 'n']
  | .infinite negative => (if negative then ['-'] else []) ++ ['i', 'n', 'f']
  | .finite negative m q =>
    let body :=
      if m = 0 then ['0']
      else
        let (a, lead) := rounded m q
        let ds := dropZeros (digits 10 a)
        if lead < -4 ∨ (precision : Int) ≤ lead then withExponent ds lead
        else
          let (whole, part) := positional ds lead
          whole ++ (if part.isEmpty then [] else '.' :: part)
    (if negative then ['-'] else []) ++ body

end Cosim.Decimal.Significant
