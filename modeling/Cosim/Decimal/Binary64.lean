import Cosim.Numeral.Digits

namespace Cosim.Decimal

/-- A finite number is plus or minus `significand * 2 ^ exponent`. -/
inductive Binary64 where
  | nan
  | infinite (negative : Bool)
  | finite (negative : Bool) (significand : Nat) (exponent : Int)
deriving DecidableEq, Repr

def roundDiv (num den : Nat) : Nat :=
  let q := num / den
  let r := num % den
  if 2 * r < den then q
  else if den < 2 * r then q + 1
  else q + q % 2

def scaled (n base : Nat) (e : Int) : Nat × Nat :=
  if 0 ≤ e then (n * base ^ e.toNat, 1) else (n, base ^ (-e).toNat)

namespace Binary64

def leastExponent : Int := -1074

def greatestExponent : Int := 971

def ofFraction (negative : Bool) (num den : Nat) : Binary64 :=
  let magnitude : Int := (num.log2 : Int) - (den.log2 : Int)
  let guess := max (magnitude - 53) leastExponent
  let quotient (e : Int) : Nat × Nat :=
    if 0 ≤ e then (num, den * 2 ^ e.toNat) else (num * 2 ^ (-e).toNat, den)
  let e := if 2 ^ 53 ≤ (quotient guess).1 / (quotient guess).2 then guess + 1 else guess
  let m := roundDiv (quotient e).1 (quotient e).2
  let (m, e) := if m = 2 ^ 53 then (2 ^ 52, e + 1) else (m, e)
  if greatestExponent < e then .infinite negative else .finite negative m e

/-- The number nearest to `n * 10 ^ e`. Far outside the range no power is computed. -/
def ofDecimal (negative : Bool) (n : Nat) (e : Int) : Binary64 :=
  if n = 0 then .finite negative 0 leastExponent
  else
    let magnitude : Int := ((Numeral.digits 10 n).length : Int) + e
    if 310 < magnitude then .infinite negative
    else if magnitude < -400 then .finite negative 0 leastExponent
    else
      let (num, den) := scaled n 10 e
      ofFraction negative num den

def toInt? : Binary64 → Option Int
  | .finite negative m e =>
    let (num, den) := scaled m 2 e
    if num % den = 0 then
      some (if negative then -((num / den : Nat) : Int) else ((num / den : Nat) : Int))
    else none
  | _ => none

end Binary64

end Cosim.Decimal
