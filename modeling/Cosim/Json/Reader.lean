import Cosim.Json.Number
import Cosim.Text.Place

namespace Cosim.Json.Reader

open Cosim.Numeral Cosim.Text

/-- What is wrong at a place. -/
inductive Problem where
  | noValue
  | noName
  | noColon
  | noComma
  | extraData
  | unterminated
  | controlCharacter
  | badEscape
  | badNumberedEscape
  | byteOrderMark
deriving DecidableEq, Repr

def Problem.message : Problem → String
  | .noValue => "Expecting value"
  | .noName => "Expecting property name enclosed in double quotes"
  | .noColon => "Expecting ':' delimiter"
  | .noComma => "Expecting ',' delimiter"
  | .extraData => "Extra data"
  | .unterminated => "Unterminated string starting at"
  | .controlCharacter => "Invalid control character at"
  | .badEscape => "Invalid \\escape"
  | .badNumberedEscape => "Invalid \\uXXXX escape"
  | .byteOrderMark => "Unexpected UTF-8 BOM (decode using utf-8-sig)"

/-- Why reading stopped: a problem where `rest` starts, or an integer with too many digits. -/
inductive Stop where
  | problem (p : Problem) (rest : List Char)
  | tooLong (digits : Nat)
deriving DecidableEq, Repr

inductive Fault where
  | malformed (p : Problem) (place : Place)
  | tooLong (digits : Nat)
deriving DecidableEq, Repr

def Fault.message : Fault → String
  | .malformed p place =>
    p.message ++ ": " ++ place.lineColumn ++ " (char " ++ toString place.offset ++ ")"
  | .tooLong n => (Integer.Fault.tooLong n).message

def Stop.locate (text : List Char) : Stop → Fault
  | .problem p rest => .malformed p (.ofRest text rest)
  | .tooLong n => .tooLong n

abbrev Step (α : Type) := Except Stop (α × List Char)

def fail {α : Type} (p : Problem) (rest : List Char) : Step α := .error (.problem p rest)

def isSpace (c : Char) : Bool := c == ' ' || c == '\t' || c == '\n' || c == '\r'

def skip (s : List Char) : List Char := s.dropWhile isSpace

/-- The character that a letter after a backslash stands for. -/
def unescape? (c : Char) : Option Char :=
  if c = '"' ∨ c = '\\' ∨ c = '/' then some c
  else if c = 'b' then some '\x08'
  else if c = 'f' then some '\x0c'
  else if c = 'n' then some '\n'
  else if c = 'r' then some '\r'
  else if c = 't' then some '\t'
  else none

def consUnit (u : Nat) : List Nat × List Char → List Nat × List Char
  | (us, rest) => (u :: us, rest)

/-- The numbers of the characters of a string up to the closing quote; `start` is where the
opening quote stands. An escape by number is read only if something follows it. -/
def units (start : List Char) : List Char → Step (List Nat)
  | [] => fail .unterminated start
  | '"' :: rest => .ok ([], rest)
  | '\\' :: 'u' :: a :: b :: c :: d :: rest =>
    if [a, b, c, d].all isHexDigit && !rest.isEmpty then
      (units start rest).map (consUnit (hexValue [a, b, c, d]))
    else fail .badNumberedEscape ('u' :: a :: b :: c :: d :: rest)
  | '\\' :: c :: rest =>
    if c = 'u' then fail .badNumberedEscape (c :: rest)
    else match unescape? c with
      | some e => (units start rest).map (consUnit e.toNat)
      | none => fail .badEscape ('\\' :: c :: rest)
  | c :: rest =>
    if c = '\\' then fail .unterminated start
    else if c.toNat < 32 then fail .controlCharacter (c :: rest)
    else (units start rest).map (consUnit c.toNat)

def isHighHalf (u : Nat) : Bool := 0xD800 ≤ u && u < 0xDC00

def isLowHalf (u : Nat) : Bool := 0xDC00 ≤ u && u < 0xE000

def codePoint (u : Nat) : CodePoint :=
  if h : 0xD800 ≤ u ∧ u < 0xE000 then .half ⟨u - 0xD800, by omega⟩ else .char (Char.ofNat u)

/-- Join the halves of pairs. A half that is no part of a pair stays. -/
def joinHalves : List Nat → Wide
  | [] => []
  | [u] => [codePoint u]
  | u :: v :: rest =>
    if isHighHalf u && isLowHalf v then
      .char (Char.ofNat (0x10000 + (u - 0xD800) * 0x400 + (v - 0xDC00))) :: joinHalves rest
    else codePoint u :: joinHalves (v :: rest)

def string (rest : List Char) : Step Wide :=
  (units ('"' :: rest) rest).map fun (us, rest) => (joinHalves us, rest)

def after? (start : List Char) (s : List Char) : Option (List Char) :=
  if start.isPrefixOf s then some (s.drop start.length) else none

def names : List (List Char × Value) := [
  ("null".toList, .null), ("true".toList, .bool true), ("false".toList, .bool false),
  ("NaN".toList, .real .nan), ("Infinity".toList, .real (.infinite false)),
  ("-Infinity".toList, .real (.infinite true))]

def named? (s : List Char) : Option (Value × List Char) :=
  names.findSome? fun (name, v) => (after? name s).map fun rest => (v, rest)

def number (s : List Char) : Step Value :=
  match NumberText.scan? isDecimalDigit s with
  | none => fail .noValue s
  | some (t, rest) =>
    if t.isInteger then
      match t.toInt with
      | .ok n => .ok (.int n, rest)
      | .error _ => .error (.tooLong t.whole.length)
    else .ok (.real t.toReal, rest)

def scalar (s : List Char) : Step Value :=
  match named? s with
  | some found => .ok found
  | none => number s

mutual

/-- Read a value. Each level of nesting takes two units of fuel and at least one character. -/
def value : Nat → List Char → Step Value
  | 0, s => fail .noValue s
  | fuel + 1, s =>
    match s with
    | '"' :: rest => (string rest).map fun (t, rest) => (.text t, rest)
    | '\x7b' :: rest =>
      match skip rest with
      | '\x7d' :: rest => .ok (.record [], rest)
      | rest => (members fuel rest).map fun (ms, rest) => (.record (collect ms), rest)
    | '[' :: rest =>
      match skip rest with
      | ']' :: rest => .ok (.list [], rest)
      | rest => (items fuel rest).map fun (vs, rest) => (.list vs, rest)
    | s => scalar s

def members : Nat → List Char → Except Stop (List (Wide × Value) × List Char)
  | 0, s => fail .noName s
  | fuel + 1, s =>
    match s with
    | '"' :: rest => do
      let (key, rest) ← string rest
      match skip rest with
      | ':' :: rest => do
        let (v, rest) ← value fuel (skip rest)
        match skip rest with
        | '\x7d' :: rest => .ok ([(key, v)], rest)
        | ',' :: rest => (members fuel (skip rest)).map fun (ms, rest) => ((key, v) :: ms, rest)
        | rest => fail .noComma rest
      | rest => fail .noColon rest
    | s => fail .noName s

def items : Nat → List Char → Except Stop (List Value × List Char)
  | 0, s => fail .noValue s
  | fuel + 1, s => do
    let (v, rest) ← value fuel s
    match skip rest with
    | ']' :: rest => .ok ([v], rest)
    | ',' :: rest => (items fuel (skip rest)).map fun (vs, rest) => (v :: vs, rest)
    | rest => fail .noComma rest

end

def document (s : List Char) : Except Stop Value := do
  let (v, rest) ← value (2 * s.length + 2) (skip s)
  match skip rest with
  | [] => .ok v
  | rest => .error (.problem .extraData rest)

def read (s : List Char) : Except Fault Value :=
  match s with
  | '\uFEFF' :: _ => .error (.malformed .byteOrderMark (.after s 0))
  | s => (document s).mapError (Stop.locate s)

end Cosim.Json.Reader
