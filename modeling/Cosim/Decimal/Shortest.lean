import Cosim.Decimal.Binary64

namespace Cosim.Decimal.Shortest

open Cosim.Numeral

def compareScaled (a : Nat) (s : Int) (b : Nat) (q : Int) : Ordering :=
  let left := scaled a 10 s
  let right := scaled b 2 q
  compare (left.1 * right.2) (right.1 * left.2)

def leadingPlace (num den : Nat) : Int :=
  if den ≤ num then ((digits 10 (num / den)).length : Int) - 1
  else
    let k := (digits 10 (den / num)).length
    if den ≤ num * 10 ^ (k - 1) then -((k : Int) - 1) else -(k : Int)

def bounds (m : Nat) (q : Int) : Nat × Nat :=
  (if m = 2 ^ 52 ∧ q ≠ Binary64.leastExponent then 4 * m - 1 else 4 * m - 2, 4 * m + 2)

/-- Whether `a * 10 ^ s` reads back as `m * 2 ^ q`. A bound itself does if `m` is even. -/
def readsBack (m : Nat) (q : Int) (a : Nat) (s : Int) : Bool :=
  let (low, high) := bounds m q
  match compareScaled a s low (q - 2), compareScaled a s high (q - 2) with
  | .lt, _ => false
  | _, .gt => false
  | .gt, .lt => true
  | _, _ => m % 2 == 0

/-- The nearer of two neighbours `a` and `a + 1` at the place `s`; of equally near ones the even. -/
def nearer (m : Nat) (q : Int) (a : Nat) (s : Int) : Nat :=
  match compareScaled (2 * a + 1) s (2 * m) q with
  | .gt => a
  | .lt => a + 1
  | .eq => a + a % 2

def onGrid (m : Nat) (q : Int) (place : Int) (count : Nat) : Option (Nat × Int) :=
  let s := place - count + 1
  let (num, den) := scaled m 2 q
  let (one, unit) := scaled 1 10 s
  let a := num * unit / (den * one)
  match readsBack m q a s, readsBack m q (a + 1) s with
  | true, true => some (nearer m q a s, s)
  | true, false => some (a, s)
  | false, true => some (a + 1, s)
  | false, false => none

def stripZeros : Nat → Nat → Int → Nat × Int
  | 0, a, s => (a, s)
  | fuel + 1, a, s => if a % 10 = 0 ∧ a ≠ 0 then stripZeros fuel (a / 10) (s + 1) else (a, s)

def shortest (m : Nat) (q : Int) : Nat × Int :=
  if m = 0 then (0, 0)
  else
    let (num, den) := scaled m 2 q
    let place := leadingPlace num den
    match (List.range 17).findSome? fun i => onGrid m q place (i + 1) with
    | some (a, s) => stripZeros 20 a s
    | none => (num / den, 0)

def positional (ds : List Char) (lead : Int) : List Char × List Char :=
  if lead < 0 then (['0'], List.replicate ((-lead).toNat - 1) '0' ++ ds)
  else
    let whole := lead.toNat + 1
    (ds.take whole ++ List.replicate (whole - ds.length) '0', ds.drop whole)

def exponentText (e : Int) : List Char :=
  (if e < 0 then '-' else '+') :: zeroFill 2 (digits 10 e.natAbs)

def withExponent (ds : List Char) (lead : Int) : List Char :=
  let tail := ds.drop 1
  ds.take 1 ++ (if tail.isEmpty then [] else '.' :: tail) ++ ('e' :: exponentText lead)

def text : Binary64 → List Char
  | .nan => ['n', 'a', 'n']
  | .infinite negative => (if negative then ['-'] else []) ++ ['i', 'n', 'f']
  | .finite negative m q =>
    let (a, s) := shortest m q
    let ds := digits 10 a
    let lead := s + (ds.length : Int) - 1
    let body :=
      if lead < -4 ∨ 16 ≤ lead then withExponent ds lead
      else
        let (whole, part) := positional ds lead
        whole ++ '.' :: (if part.isEmpty then ['0'] else part)
    (if negative then ['-'] else []) ++ body

end Cosim.Decimal.Shortest
