import Cosim.Script.Condition
import Cosim.Script.Regex.Reader
import Cosim.Script.Tool.Basic

namespace Cosim.Script.Tool

open Cosim.Numeral Step

/-- The value of an expression. -/
inductive Quantity where
  | number (n : Int)
  | text (s : String)

def wholeNumber? (s : String) : Option Int :=
  match s.toList with
  | '-' :: ds => if isDecimal ds then some (-(decimalValue ds : Int)) else none
  | ds => if isDecimal ds then some (decimalValue ds : Int) else none

namespace Quantity

def shown : Quantity → String
  | number n => toString n
  | text s => s

def number? : Quantity → Option Int
  | number n => some n
  | text s => wholeNumber? s

def isNull : Quantity → Bool
  | number n => n = 0
  | text s => s.isEmpty || wholeNumber? s = some 0

def part (s : String) (place size : Int) : String :=
  if place ≤ 0 || size ≤ 0 then ""
  else String.ofList ((s.toList.drop (place.toNat - 1)).take size.toNat)

end Quantity

/-- What is wrong with an expression. -/
inductive Slip where
  | missing (before : String)
  | unexpected (word : String)
  | unopened
  | unclosed (before : String)
  | misclosed (word : String)
  | noNumber
  | zeroDivisor
  | pattern (fault : Regex.Fault)

def Slip.message : Slip → String
  | .missing before => "syntax error: missing argument after " ++ slashed before
  | .unexpected word => "syntax error: unexpected argument " ++ slashed word
  | .unopened => "syntax error: unexpected ')'"
  | .unclosed before => "syntax error: expecting ')' after " ++ slashed before
  | .misclosed word => "syntax error: expecting ')' instead of " ++ slashed word
  | .noNumber => "non-integer argument"
  | .zeroDivisor => "division by zero"
  | .pattern fault => fault.message

/-- The words of an expression that are still to be read, and the one before them. -/
structure Sentence where
  before : String
  rest : List String

namespace Reckon

abbrev Read (α : Type) := StateT Sentence (Except Slip) α

def fail {α : Type} (s : Slip) : Read α := throw s

def next? : Read (Option String) := return (← get).rest.head?

def skip : Read Unit := modify fun s => ⟨s.rest.headD s.before, s.rest.tail⟩

def word : Read String := do
  match ← next? with
  | none => fail (.missing (← get).before)
  | some w => skip *> pure w

def signs : List (List String) :=
  [["|"], ["&"], ["<", "<=", "=", "==", "!=", ">=", ">"], ["+", "-"], ["*", "/", "%"], [":"]]

/-- What the beginning of a text that a pattern matches is worth: what the first group has matched
if there is one, and else how much is matched. -/
def matched (text pattern : String) : Read Quantity := do
  match Regex.read .easy pattern.toList with
  | .error fault => fail (.pattern fault)
  | .ok (r, groups) =>
    let t := text.toList.toArray
    match r.matchAt t 0, groups with
    | none, 0 => return .number 0
    | none, _ => return .text ""
    | some m, 0 => return .number m.stop
    | some m, _ =>
      match m.group? 1 with
      | some (i, j) => return .text (String.ofList (t.extract i j).toList)
      | none => return .text ""

def compare (a b : Quantity) : Ordering :=
  match wholeNumber? a.shown, wholeNumber? b.shown with
  | some m, some n => Ord.compare m n
  | _, _ => Ord.compare a.shown b.shown

def ofBool (b : Bool) : Quantity := .number (if b then 1 else 0)

def combine (sign : String) (a b : Quantity) : Read Quantity := do
  let numbers (f : Int → Int → Read Int) : Read Quantity := do
    match a.number?, b.number? with
    | some m, some n => return .number (← f m n)
    | _, _ => fail .noNumber
  let divided (f : Int → Int → Int) : Read Quantity :=
    numbers fun m n => if n = 0 then fail .zeroDivisor else pure (f m n)
  let order := compare a b
  match sign with
  | "<" => return ofBool order.isLT
  | "<=" => return ofBool order.isLE
  | "=" | "==" => return ofBool order.isEq
  | "!=" => return ofBool order.isNe
  | ">=" => return ofBool order.isGE
  | ">" => return ofBool order.isGT
  | "+" => numbers fun m n => pure (m + n)
  | "-" => numbers fun m n => pure (m - n)
  | "*" => numbers fun m n => pure (m * n)
  | "/" => divided Int.tdiv
  | "%" => divided Int.tmod
  | _ => matched a.shown b.shown

mutual

/-- Read an expression of a level. Where its value makes no difference, only its form counts. -/
def level (fuel k : Nat) (counts : Bool) : Read Quantity := do
  match fuel with
  | 0 => return .number 0
  | fuel + 1 =>
    if k = signs.length then term fuel counts
    else further fuel k counts (← level fuel (k + 1) counts)

def further (fuel k : Nat) (counts : Bool) (a : Quantity) : Read Quantity := do
  match fuel with
  | 0 => return a
  | fuel + 1 =>
    match (← next?).filter (signs.getD k []).contains with
    | none => return a
    | some sign =>
      skip
      let b ← level fuel (k + 1) (counts && match k with
        | 0 => a.isNull
        | 1 => !a.isNull
        | _ => true)
      let value ← match k with
        | 0 => pure (if !a.isNull then a else if b.isNull then .number 0 else b)
        | 1 => pure (if a.isNull || b.isNull then .number 0 else a)
        | _ => if counts then combine sign a b else pure a
      further fuel k counts value

def term (fuel : Nat) (counts : Bool) : Read Quantity := do
  match fuel with
  | 0 => return .number 0
  | fuel + 1 =>
    match ← word with
    | "+" => return .text (← word)
    | "length" => return .number (← term fuel counts).shown.length
    | "match" =>
      let a ← term fuel counts
      let b ← term fuel counts
      if counts then matched a.shown b.shown else return a
    | "index" =>
      let text := (← term fuel counts).shown.toList
      let sought := (← term fuel counts).shown.toList
      let place := text.findIdx sought.contains
      return .number (if place < text.length then place + 1 else 0)
    | "substr" =>
      let text := (← term fuel counts).shown
      let place := (← term fuel counts).number?
      let size := (← term fuel counts).number?
      match place, size with
      | some place, some size => return .text (Quantity.part text place size)
      | _, _ => return .text ""
    | "(" =>
      let value ← level fuel 0 counts
      match ← next? with
      | none => fail (.unclosed (← get).before)
      | some ")" => skip *> pure value
      | some w => fail (.misclosed w)
    | ")" => fail .unopened
    | w => return .text w

end

def value (words : List String) : Except Slip Quantity := do
  let (q, s) ← (level (10 * words.length + 20) 0 true).run ⟨"", words⟩
  match s.rest with
  | [] => return q
  | w :: _ => throw (.unexpected w)

end Reckon

def expr (name : String) (args : List String) : Step Nat := do
  let words := if args.head? = some "--" then args.tail else args
  if words.isEmpty then return ← usage name "missing operand" 2
  match Reckon.value words with
  | .error slip =>
    discard (complain name slip.message)
    return 2
  | .ok q =>
    discard (sayLine 1 q.shown)
    return if q.isNull then 1 else 0

def conditionFault : Condition.Fault → String
  | .noOperator word => "extra argument " ++ quoted word
  | .noArgument sign => "missing argument after " ++ quoted sign
  | .notClosed => "')' expected"
  | .noNumber word => "invalid integer " ++ quoted word

def test (name : String) (isBracket : Bool) (args : List String) : Step Nat := do
  let refuse (text : String) : Step Nat := do
    discard (complain name text)
    return 2
  if isBracket && args.getLast? != some "]" then return ← refuse "missing ']'"
  let words := if isBracket then args.dropLast else args
  match words with
  | [a, b] =>
    if a != "!" && !(a.length = 2 && a.startsWith "-") then
      return ← refuse ("missing argument after " ++ quoted b)
  | [a, b, c] =>
    if !Condition.isBinary b && !(["-a", "-o"].contains b) && a != "!" && !(a = "(" && c = ")") then
      return ← refuse (quoted b ++ ": binary operator expected")
  | _ => pure ()
  match Condition.holds (← tree) words with
  | .ok holds => return if holds then 0 else 1
  | .error fault => refuse (conditionFault fault)

end Cosim.Script.Tool
