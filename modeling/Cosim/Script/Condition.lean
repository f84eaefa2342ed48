import Cosim.Numeral.Digits
import Cosim.Files.Tree
import Cosim.Script.Octets

namespace Cosim.Script.Condition

open Cosim.Files Cosim.Numeral

/-- A condition that is none. -/
inductive Fault where
  | noOperator (word : String)
  | noArgument (sign : String)
  | notClosed
  | noNumber (word : String)
deriving DecidableEq, Repr

def Fault.message : Fault → String
  | .noOperator word => word ++ ": unexpected operator"
  | .noArgument sign => sign ++ ": argument expected"
  | .notClosed => "closing paren expected"
  | .noNumber word => "Illegal number: " ++ word

/-- What a word can be taken for. -/
inductive Kind where
  | finish
  | operand
  | unary
  | binary
  | negation
  | both
  | either
  | opening
  | closing
deriving DecidableEq, Repr

def unarySigns : List String :=
  ["-r", "-w", "-x", "-e", "-f", "-d", "-c", "-b", "-p", "-u", "-g", "-k", "-s", "-t", "-z", "-n",
    "-h", "-O", "-G", "-L", "-S"]

def binarySigns : List String :=
  ["=", "!=", "<", ">", "-eq", "-ne", "-ge", "-gt", "-le", "-lt", "-nt", "-ot", "-ef"]

def isBinary (word : String) : Bool := binarySigns.contains word

def signKind? (word : String) : Option Kind :=
  if unarySigns.contains word then some .unary
  else if isBinary word then some .binary
  else match word with
    | "!" => some .negation
    | "-a" => some .both
    | "-o" => some .either
    | "(" => some .opening
    | ")" => some .closing
    | _ => none

/-- Whether the first word has to be an operand, since what follows it leaves no room for one. -/
def isOperand : List String → Bool
  | [_] => true
  | [_, _] => false
  | _ :: second :: _ => isBinary second
  | [] => true

def kind (words : List String) : Kind :=
  match words with
  | [] => .finish
  | word :: rest =>
    match signKind? word with
    | none => .operand
    | some .unary => if isOperand words then .operand else .unary
    | some .opening => if rest.isEmpty then .operand else .opening
    | some k => k

def isBlank (c : Char) : Bool := c = ' ' || ('\t' ≤ c && c ≤ '\x0d')

def number (word : String) : Except Fault Int :=
  let body := (word.toList.dropWhile isBlank)
  let (negative, body) := match body with
    | '-' :: rest => (true, rest)
    | '+' :: rest => (false, rest)
    | rest => (false, rest)
  let digits := body.takeWhile isDecimalDigit
  if digits.isEmpty || !(body.drop digits.length).all isBlank then .error (.noNumber word)
  else
    let n : Int := decimalValue digits
    if (2 : Int) ^ 63 ≤ n then .error (.noNumber word) else .ok (if negative then -n else n)

def node? (t : Tree) (path : String) : Option Node := (t.find (Octets.toText path)).toOption

def unary (t : Tree) (sign word : String) : Except Fault Bool := do
  match sign with
  | "-z" => return word.isEmpty
  | "-n" => return !word.isEmpty
  | "-t" =>
    discard (number word)
    return false
  | "-e" | "-r" | "-w" | "-O" | "-G" => return (node? t word).isSome
  | "-f" => return t.isFile (Octets.toText word)
  | "-d" => return t.isDirectory (Octets.toText word)
  | "-x" => return t.isRunnable (Octets.toText word)
  | "-s" => return match node? t word with
    | some (.file content _) => !content.isEmpty
    | some .directory => true
    | _ => false
  | "-c" => return (node? t word).any Node.isDevice
  | _ => return false

def binary (t : Tree) (sign a b : String) : Except Fault Bool := do
  match sign with
  | "=" => return a == b
  | "!=" => return a != b
  | "<" => return a < b
  | ">" => return b < a
  | "-eq" => return (← number a) == (← number b)
  | "-ne" => return (← number a) != (← number b)
  | "-ge" => return (← number a) ≥ (← number b)
  | "-gt" => return (← number a) > (← number b)
  | "-le" => return (← number a) ≤ (← number b)
  | "-lt" => return (← number a) < (← number b)
  | "-ef" => return match t.locate (Octets.toText a), t.locate (Octets.toText b) with
    | .ok p, .ok q => p == q && (t.node? p).isSome
    | _, _ => false
  | _ => return false

mutual

def disjunction (t : Tree) (fuel : Nat) (k : Kind) (words : List String) :
    Except Fault (Bool × List String) := do
  match fuel with
  | 0 => return (false, words)
  | fuel + 1 =>
    let (a, at1) ← conjunction t fuel k words
    if kind at1.tail = .either then
      let rest := at1.tail.tail
      let (b, at2) ← disjunction t fuel (kind rest) rest
      return (a || b, at2)
    return (a, at1)

def conjunction (t : Tree) (fuel : Nat) (k : Kind) (words : List String) :
    Except Fault (Bool × List String) := do
  match fuel with
  | 0 => return (false, words)
  | fuel + 1 =>
    let (a, at1) ← negation t fuel k words
    if kind at1.tail = .both then
      let rest := at1.tail.tail
      let (b, at2) ← conjunction t fuel (kind rest) rest
      return (a && b, at2)
    return (a, at1)

def negation (t : Tree) (fuel : Nat) (k : Kind) (words : List String) :
    Except Fault (Bool × List String) := do
  match fuel with
  | 0 => return (false, words)
  | fuel + 1 =>
    if k = .negation then
      let k := kind words.tail
      let (a, at1) ← negation t fuel k (if k = .finish then words else words.tail)
      return (!a, at1)
    primary t fuel k words

def primary (t : Tree) (fuel : Nat) (k : Kind) (words : List String) :
    Except Fault (Bool × List String) := do
  match fuel with
  | 0 => return (false, words)
  | fuel + 1 =>
    match k, words with
    | .finish, _ | _, [] => return (false, words)
    | .opening, _ :: rest =>
      let k := kind rest
      if k = .closing then return (false, rest)
      let (a, at1) ← disjunction t fuel k rest
      if kind at1.tail = .closing then return (a, at1.tail)
      throw .notClosed
    | .unary, sign :: rest =>
      match rest with
      | [] => throw (.noArgument sign)
      | word :: _ => return (← unary t sign word, rest)
    | _, word :: rest =>
      if kind rest = .binary then
        let sign := rest.headD ""
        match rest.tail with
        | [] => throw (.noArgument sign)
        | other :: _ => return (← binary t sign word other, rest.tail)
      return (!word.isEmpty, words)

end

def whole (t : Tree) (k : Kind) (words : List String) : Except Fault Bool := do
  let (a, last) ← disjunction t (8 * words.length + 16) k words
  match last with
  | word :: _ :: _ => throw (.noOperator word)
  | _ => return a

/-- Whether words hold as a condition. Of three words the second decides first whether it stands
between two others, and brackets around one or two words, or a sign in front, come off. -/
def holds (t : Tree) : List String → Except Fault Bool
  | [] => .ok false
  | [a, b, c] =>
    if isBinary b then whole t .operand [a, b, c]
    else if a = "(" && c = ")" then whole t (kind [b]) [b]
    else if a = "!" then (holds t [b, c]).map not
    else whole t (kind [a, b, c]) [a, b, c]
  | [a, b, c, d] =>
    if a = "(" && d = ")" then whole t (kind [b, c]) [b, c]
    else if a = "!" then (holds t [b, c, d]).map not
    else whole t (kind [a, b, c, d]) [a, b, c, d]
  | words => whole t (kind words) words

end Cosim.Script.Condition
