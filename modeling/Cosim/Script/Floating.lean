import Cosim.Decimal.Shortest

namespace Cosim.Script

open Cosim.Decimal Cosim.Numeral

/-- How many bits a number has, and between which exponents its last bit stands. -/
structure Precision where
  bits : Nat
  least : Int
  greatest : Int

namespace Precision

def double : Precision := ⟨53, -1074, 971⟩

def extended : Precision := ⟨64, -16445, 16320⟩

end Precision

/-- A finite number is plus or minus `significand * 2 ^ exponent`. -/
inductive Floating where
  | nan (negative : Bool)
  | infinite (negative : Bool)
  | finite (negative : Bool) (significand : Nat) (exponent : Int)
deriving DecidableEq

namespace Floating

def negated : Floating → Floating
  | .nan negative => .nan !negative
  | .infinite negative => .infinite !negative
  | .finite negative m e => .finite (!negative) m e

def nearest (p : Precision) (num den : Nat) : Floating × Bool :=
  if num = 0 then (.finite false 0 0, false)
  else
    let magnitude : Int := (num.log2 : Int) - (den.log2 : Int)
    let guess := max (magnitude - p.bits) p.least
    let quotient (e : Int) : Nat × Nat :=
      if 0 ≤ e then (num, den * 2 ^ e.toNat) else (num * 2 ^ (-e).toNat, den)
    let e := if 2 ^ p.bits ≤ (quotient guess).1 / (quotient guess).2 then guess + 1 else guess
    let (a, b) := quotient e
    let m := roundDiv a b
    let (m, e) := if m = 2 ^ p.bits then (2 ^ (p.bits - 1), e + 1) else (m, e)
    if p.greatest < e then (.infinite false, true)
    else (.finite false m e, m < 2 ^ (p.bits - 1) && a % b ≠ 0)

def exponentAt (mark : Char) (s : List Char) : Int × List Char :=
  match s with
  | c :: rest =>
    if c.toLower ≠ mark then (0, s)
    else
      let (negative, body) := match rest with
        | '-' :: body => (true, body)
        | '+' :: body => (false, body)
        | body => (false, body)
      let ds := body.takeWhile isDecimalDigit
      if ds.isEmpty then (0, s)
      else (if negative then -(decimalValue ds : Int) else decimalValue ds, body.drop ds.length)
  | [] => (0, s)

def digitsAt (isDigit : Char → Bool) (s : List Char) : List Char × List Char × List Char :=
  let whole := s.takeWhile isDigit
  match s.drop whole.length with
  | '.' :: rest =>
    let part := rest.takeWhile isDigit
    if whole.isEmpty && part.isEmpty then ([], [], s) else (whole, part, rest.drop part.length)
  | rest => (whole, [], rest)

def readBody (p : Precision) (s : List Char) : Option (Floating × List Char × Bool) :=
  let named (name : String) : Bool := (s.take name.length).map Char.toLower == name.toList
  if named "infinity" then some (.infinite false, s.drop 8, false)
  else if named "inf" then some (.infinite false, s.drop 3, false)
  else if named "nan" then
    let rest := s.drop 3
    let inner := (rest.drop 1).takeWhile fun c => c.isAlphanum || c = '_'
    let after := rest.drop (1 + inner.length)
    match rest, after with
    | '(' :: _, ')' :: after => some (.nan false, after, false)
    | _, _ => some (.nan false, rest, false)
  else
    let hex : Option (Floating × List Char × Bool) := match s with
      | '0' :: x :: body =>
        if x ≠ 'x' && x ≠ 'X' then none
        else
          let (whole, part, rest) := digitsAt isHexDigit body
          if (whole ++ part).isEmpty then none
          else
            let (e, rest) := exponentAt 'p' rest
            let n := hexValue (whole ++ part)
            let e := max (-100000) (min 100000 e) - 4 * part.length
            let (num, den) := scaled n 2 e
            let (x, isOut) := nearest p num den
            some (x, rest, isOut)
      | _ => none
    match hex with
    | some found => some found
    | none =>
      let (whole, part, rest) := digitsAt isDecimalDigit s
      if (whole ++ part).isEmpty then none
      else
        let (e, rest) := exponentAt 'e' rest
        let n := decimalValue (whole ++ part)
        let e := e - part.length
        let magnitude := ((digits 10 n).length : Int) + e
        if n = 0 then some (.finite false 0 0, rest, false)
        else if 6000 < magnitude then some (.infinite false, rest, true)
        else if magnitude < -6000 then some (.finite false 0 0, rest, true)
        else
          let (num, den) := scaled n 10 e
          let (x, isOut) := nearest p num den
          some (x, rest, isOut)

def read (p : Precision) (s : List Char) : Floating × List Char × Bool :=
  let body := s.dropWhile fun c => c = ' ' || ('\t' ≤ c && c ≤ '\x0d')
  let (negative, body) := match body with
    | '-' :: rest => (true, rest)
    | '+' :: rest => (false, rest)
    | rest => (false, rest)
  match readBody p body with
  | none => (.finite false 0 0, s, false)
  | some (x, rest, isOut) => (if negative then x.negated else x, rest, isOut)

/-- A point and what is behind it; without anything it stands only if it is asked for. -/
def pointed (keepsPoint : Bool) (part : List Char) : List Char :=
  if part.isEmpty && !keepsPoint then [] else '.' :: part

def fixed (places : Nat) (keepsPoint : Bool) (m : Nat) (e : Int) : List Char :=
  let (num, den) := scaled m 2 e
  let ds := zeroFill (places + 1) (digits 10 (roundDiv (num * 10 ^ places) den))
  let whole := ds.length - places
  ds.take whole ++ pointed keepsPoint (ds.drop whole)

def significant (places : Nat) (m : Nat) (e : Int) : List Char × Int :=
  if m = 0 then (List.replicate (places + 1) '0', 0)
  else
    let (num, den) := scaled m 2 e
    let lead := Shortest.leadingPlace num den
    let (one, unit) := scaled 1 10 (lead - places)
    let a := roundDiv (num * unit) (den * one)
    if a = 10 ^ (places + 1) then (digits 10 (10 ^ places), lead + 1) else (digits 10 a, lead)

def scientific (places : Nat) (keepsPoint : Bool) (m : Nat) (e : Int) : List Char :=
  let (ds, lead) := significant places m e
  ds.take 1 ++ pointed keepsPoint (ds.drop 1) ++ 'e' :: Shortest.exponentText lead

def withoutZeros (s : List Char) : List Char :=
  if !s.contains '.' then s
  else
    let kept := (s.reverse.dropWhile (· == '0')).reverse
    if kept.getLast? = some '.' then kept.dropLast else kept

def general (count : Nat) (keepsZeros : Bool) (m : Nat) (e : Int) : List Char :=
  let count := max 1 count
  let (ds, lead) := significant (count - 1) m e
  if lead < -4 ∨ (count : Int) ≤ lead then
    let body := ds.take 1 ++ pointed keepsZeros (ds.drop 1)
    (if keepsZeros then body else withoutZeros body) ++ 'e' :: Shortest.exponentText lead
  else
    let body := fixed ((count : Int) - 1 - lead).toNat keepsZeros m e
    if keepsZeros then body else withoutZeros body

def hexadecimal (p : Precision) (places : Option Nat) (keepsPoint : Bool) (m : Nat) (e : Int) :
    List Char :=
  let behind := (p.bits - 1) / 4
  let shift := if m = 0 then 0 else p.bits - 1 - m.log2
  let shift := if m = 0 then 0 else min shift (e - p.least).toNat
  let m := m * 2 ^ shift
  let unit : Int := if m = 0 then 0 else e - shift + 4 * behind
  let (m, kept) := match places with
    | some n =>
      if n < behind then (roundDiv m (16 ^ (behind - n)), n) else (m * 16 ^ (n - behind), n)
    | none => (m, behind)
  let ds := zeroFill (kept + 1) (digits 16 m)
  let whole := ds.length - kept
  let part := ds.drop whole
  let part := if places.isSome then part else (part.reverse.dropWhile (· == '0')).reverse
  ['0', 'x'] ++ ds.take whole ++ pointed keepsPoint part ++
    'p' :: (if unit < 0 then '-' else '+') :: digits 10 unit.natAbs

def body (p : Precision) (conversion : Char) (precision : Option Nat) (isMarked : Bool) (m : Nat)
    (e : Int) : List Char :=
  let places := precision.getD 6
  let text := match conversion.toLower with
    | 'e' => scientific places isMarked m e
    | 'f' => fixed places isMarked m e
    | 'a' => hexadecimal p precision isMarked m e
    | _ => general places isMarked m e
  if conversion.isUpper then text.map Char.toUpper else text

end Floating

end Cosim.Script
