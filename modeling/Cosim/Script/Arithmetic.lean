import Cosim.Numeral.Digits
import Cosim.Script.State

namespace Cosim.Script

open Cosim.Numeral

inductive Sum where
  | number (n : Int)
  | parameter (name : String)
  | unary (sign : String) (a : Sum)
  | binary (sign : String) (a b : Sum)
  | choice (condition yes no : Sum)
  | assign (name sign : String) (a : Sum)

namespace Sum

inductive Piece where
  | number (n : Int)
  | name (s : String)
  | sign (s : String)
deriving DecidableEq, Repr

def signs : List String :=
  ["<<=", ">>=", "<<", ">>", "<=", ">=", "==", "!=", "&&", "||", "+=", "-=", "*=", "/=", "%=", "&=",
    "^=", "|="]

def isOctal (c : Char) : Bool := '0' ≤ c && c ≤ '7'

def largest : Int := 2 ^ 63 - 1

def wrap (n : Int) : Int := Int.bmod n (2 ^ 64)

/-- A number in the notation that its first digits ask for, and what follows it. -/
def numberFrom (s : List Char) : Int × List Char :=
  let cut (body : List Char) (isDigit : Char → Bool) (base : Nat) : Int × List Char :=
    let digits := body.takeWhile isDigit
    (min largest (ofDigits base (digits.map fun c => (hexDigit? c).getD 0)),
      body.drop digits.length)
  match s with
  | '0' :: x :: d :: rest =>
    if (x = 'x' || x = 'X') && isHexDigit d then cut (d :: rest) isHexDigit 16
    else cut s isOctal 8
  | '0' :: _ => cut s isOctal 8
  | _ => cut s isDecimalDigit 10

/-- The pieces of an expression. Every step uses up a character. -/
def pieces : Nat → List Char → List Piece
  | 0, _ | _, [] => []
  | fuel + 1, c :: rest =>
    if c = ' ' || c = '\t' || c = '\n' then pieces fuel rest
    else if c.isDigit then
      let (n, after) := numberFrom (c :: rest)
      .number n :: pieces fuel after
    else if isNameStart c then
      let name := (c :: rest).takeWhile isNameChar
      .name (String.ofList name) :: pieces fuel ((c :: rest).drop name.length)
    else match signs.find? fun s => s.toList.isPrefixOf (c :: rest) with
      | some s => .sign s :: pieces fuel ((c :: rest).drop s.length)
      | none => .sign (String.singleton c) :: pieces fuel rest

/-- The signs between two terms, those that bind least first. -/
def levels : List (List String) :=
  [["||"], ["&&"], ["|"], ["^"], ["&"], ["==", "!="], ["<", ">", "<=", ">="], ["<<", ">>"],
    ["+", "-"], ["*", "/", "%"]]

def assignments : List String :=
  ["=", "+=", "-=", "*=", "/=", "%=", "<<=", ">>=", "&=", "^=", "|="]

mutual

def expression (fuel : Nat) (ps : List Piece) : Except String (Sum × List Piece) := do
  match fuel with
  | 0 => throw "expecting primary"
  | fuel + 1 =>
    match ps with
    | .name x :: .sign s :: rest =>
      if assignments.contains s then
        let (a, after) ← expression fuel rest
        return (.assign x s a, after)
      conditional fuel ps
    | _ => conditional fuel ps

def conditional (fuel : Nat) (ps : List Piece) : Except String (Sum × List Piece) := do
  match fuel with
  | 0 => throw "expecting primary"
  | fuel + 1 =>
    let (condition, after) ← terms fuel levels ps
    match after with
    | .sign "?" :: rest =>
      let (yes, after) ← expression fuel rest
      match after with
      | .sign ":" :: rest =>
        let (no, after) ← conditional fuel rest
        return (.choice condition yes no, after)
      | _ => throw "expecting ':'"
    | _ => return (condition, after)

def terms (fuel : Nat) (levels : List (List String)) (ps : List Piece) :
    Except String (Sum × List Piece) := do
  match fuel with
  | 0 => throw "expecting primary"
  | fuel + 1 =>
    match levels with
    | [] => term fuel ps
    | signs :: tighter =>
      let (a, after) ← terms fuel tighter ps
      termsFrom fuel signs tighter a after

def termsFrom (fuel : Nat) (signs : List String) (tighter : List (List String)) (a : Sum)
    (ps : List Piece) : Except String (Sum × List Piece) := do
  match fuel with
  | 0 => throw "expecting primary"
  | fuel + 1 =>
    match ps with
    | .sign s :: rest =>
      if signs.contains s then
        let (b, after) ← terms fuel tighter rest
        termsFrom fuel signs tighter (.binary s a b) after
      else return (a, ps)
    | _ => return (a, ps)

def term (fuel : Nat) (ps : List Piece) : Except String (Sum × List Piece) := do
  match fuel with
  | 0 => throw "expecting primary"
  | fuel + 1 =>
    match ps with
    | .number n :: rest => return (.number n, rest)
    | .name x :: rest => return (.parameter x, rest)
    | .sign "(" :: rest =>
      let (a, after) ← expression fuel rest
      match after with
      | .sign ")" :: rest => return (a, rest)
      | _ => throw "expecting ')'"
    | .sign s :: rest =>
      if ["+", "-", "!", "~"].contains s then
        let (a, after) ← term fuel rest
        return (.unary s a, after)
      else throw "expecting primary"
    | [] => throw "expecting primary"

end

def read (s : String) : Except String Sum := do
  let ps := pieces (s.length + 1) s.toList
  let (a, after) ← expression (32 * ps.length + 64) ps
  if after.isEmpty then return a else throw "expecting EOF"

def ofBool (b : Bool) : Int := if b then 1 else 0

def bitwise (f : UInt64 → UInt64 → UInt64) (a b : Int) : Int :=
  (f (UInt64.ofInt a) (UInt64.ofInt b)).toInt64.toInt

def combine? (sign : String) (a b : Int) : Option Int :=
  match sign with
  | "+" => some (wrap (a + b))
  | "-" => some (wrap (a - b))
  | "*" => some (wrap (a * b))
  | "/" => if b = 0 then none else some (wrap (a.tdiv b))
  | "%" => if b = 0 then none else some (wrap (a.tmod b))
  | "<<" => some (wrap (a * 2 ^ (b.emod 64).toNat))
  | ">>" => some (a.fdiv (2 ^ (b.emod 64).toNat))
  | "<" => some (ofBool (a < b))
  | ">" => some (ofBool (a > b))
  | "<=" => some (ofBool (a ≤ b))
  | ">=" => some (ofBool (a ≥ b))
  | "==" => some (ofBool (a = b))
  | "!=" => some (ofBool (a ≠ b))
  | "&" => some (bitwise (· &&& ·) a b)
  | "^" => some (bitwise (· ^^^ ·) a b)
  | "|" => some (bitwise (· ||| ·) a b)
  | _ => some b

/-- A number as the value of a variable spells it, with blanks around it. -/
def ofText? (s : String) : Option Int :=
  let isBlank (c : Char) : Bool := c = ' ' || ('\t' ≤ c && c ≤ '\x0d')
  let body := s.toList.dropWhile isBlank
  let (negative, body) := match body with
    | '-' :: rest => (true, rest)
    | '+' :: rest => (false, rest)
    | rest => (false, rest)
  match body with
  | [] => if negative || s.toList.any (!isBlank ·) then none else some 0
  | c :: _ =>
    if !c.isDigit then none
    else
      let (n, after) := numberFrom body
      if after.all isBlank then some (if negative then -n else n) else none

def parameterValue (name : String) : Step Int := do
  let text := (Step.valueOf? (← Step.shell) name).getD ""
  match ofText? text with
  | some n => return n
  | none => Step.raise ("Illegal number: " ++ text)

def value (whole : String) : Sum → Step Int
  | .number n => return n
  | .parameter name => parameterValue name
  | .unary sign a => do
    let n ← value whole a
    return match sign with
      | "-" => wrap (-n)
      | "!" => ofBool (n = 0)
      | "~" => -n - 1
      | _ => n
  | .binary sign a b => do
    let m ← value whole a
    match sign with
    | "&&" => if m = 0 then return 0 else return ofBool ((← value whole b) ≠ 0)
    | "||" => if m ≠ 0 then return 1 else return ofBool ((← value whole b) ≠ 0)
    | _ => joined sign m (← value whole b)
  | .choice condition yes no => do
    if (← value whole condition) ≠ 0 then value whole yes else value whole no
  | .assign name sign a => do
    let b ← value whole a
    let n ← if sign = "=" then pure b
      else joined (sign.dropEnd 1).toString (← parameterValue name) b
    Step.assign name (toString n)
    return n
where
  joined (sign : String) (m n : Int) : Step Int :=
    match combine? sign m n with
    | some k => return k
    | none => Step.raise ("arithmetic expression: division by zero: \"" ++ whole ++ "\"")

def evaluate (s : String) : Step String := do
  match read s with
  | .error text => Step.raise ("arithmetic expression: " ++ text ++ ": \"" ++ s ++ "\"")
  | .ok a => return toString (← a.value s)

end Sum

end Cosim.Script
