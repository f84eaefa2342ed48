import Cosim.Trace.Commit
import Cosim.Trace.Refusal
import Cosim.Text.Blank

namespace Cosim.Trace.CommitLine

open Cosim.Numeral Cosim.Text

abbrev Token := List Char

/-- The numbers of a line. -/
inductive Field where
  | core
  | privilege
  | pc
  | instruction
  | register
deriving DecidableEq, Repr

def Field.bits : Field → Nat
  | .core | .privilege => 8
  | .instruction => 32
  | .pc | .register => 64

def Field.isDecimal : Field → Bool
  | .core | .privilege => true
  | _ => false

def Field.label : Field → String
  | .core => "core_id"
  | .privilege => "priv_id"
  | .pc => "pc"
  | .instruction => "instruction"
  | .register => "register_value"

/-- The parts that every line has. -/
inductive Stage where
  | core
  | privilege
  | pc
  | instruction
deriving DecidableEq, Repr

inductive Fault where
  | noColon (token : Token)
  | unmarkedPc (token : Token)
  | notOpened (token : Token)
  | notClosed (token : Token)
  | unmarkedValue (register token : Token)
  | badDigit (field : Field) (token digits : Token)
  | tooLarge (field : Field) (token : Token)
  | ended (stage : Stage)
  | endedAfter (register : Token)
deriving DecidableEq, Repr

def Stage.expected : Stage → String
  | .core => "':' suffixed core_id"
  | .privilege => "u8 value priv_id"
  | .pc => "hex string pc"
  | .instruction => "parentheses surrounding hex string"

def Field.expected (f : Field) : String := "u" ++ toString f.bits ++ " value " ++ f.label

def complaint (expected : String) (actual : Token) (cause : String) : String :=
  "expected " ++ expected ++ ", got '" ++ String.ofList actual ++ "': " ++ cause

def Fault.message : Fault → String
  | .noColon t => complaint "':' suffixed string" t "core_id not colon-suffixed"
  | .unmarkedPc t => complaint "hex string" t "pc value not prefixed with '0x'"
  | .notOpened t =>
    complaint "parentheses surrounding hex string" t "instruction not started with '(0x'"
  | .notClosed t =>
    complaint "parentheses surrounding hex string" t "instruction not ends with ')'"
  | .unmarkedValue r t =>
    complaint "hex string" t ("value of " ++ String.ofList r ++ " not prefixed with '0x'")
  | .badDigit f t ds => complaint f.expected t ("invalid digit in " ++ Quoted.quote ds)
  | .tooLarge f t =>
    complaint f.expected t ("number too large to fit in " ++ toString f.bits ++ " bits")
  | .ended stage => complaint stage.expected [] "got end of line"
  | .endedAfter r =>
    complaint "hex string" [] ("got end of line after register " ++ String.ofList r)

abbrev Read (α : Type) := Except (Refusal Fault) α

def fail {α : Type} (f : Fault) : Read α := .error (.fault f)

def isMarked (t : Token) : Bool := ['0', 'x'].isPrefixOf t

/-- Read the digits of a field; `token` is where they were found. -/
def number (field : Field) (token digits : Token) : Read Int :=
  if field.isDecimal then
    if !isDecimal digits then fail (.badDigit field token digits)
    else if Integer.digitLimit < digits.length then .error (.tooLong digits.length)
    else if 2 ^ field.bits ≤ decimalValue digits then fail (.tooLarge field token)
    else .ok (decimalValue digits)
  else
    if !isHex digits then fail (.badDigit field token digits)
    else if 2 ^ field.bits ≤ hexValue digits then fail (.tooLarge field token)
    else .ok (hexValue digits)

def core (t : Token) : Read Int :=
  if t.getLast? = some ':' then number .core t t.dropLast else fail (.noColon t)

def privilege (t : Token) : Read Int := number .privilege t t

def pc (t : Token) : Read Int :=
  if isMarked t then number .pc t (t.drop 2) else fail (.unmarkedPc t)

def instruction (t : Token) : Read Int :=
  if !(['(', '0', 'x'].isPrefixOf t) then fail (.notOpened t)
  else if t.getLast? ≠ some ')' then fail (.notClosed t)
  else number .instruction t (t.drop 3).dropLast

def registerValue (register t : Token) : Read Int :=
  if isMarked t then number .register t (t.drop 2) else fail (.unmarkedValue register t)

/-- Whether a token is an address or a value of a memory access: marked digits of a 64-bit word,
after any number of zeros. -/
def isOperand (t : Token) : Bool :=
  isMarked t && isHex (t.drop 2) && ((t.drop 2).dropWhile (· == '0')).length ≤ 16

def operand (t : Token) : Int := hexValue (t.drop 2)

/-- The effects of an instruction. -/
structure Effects where
  registerWrites : List RegisterWrite
  memoryAccesses : List MemoryAccess
deriving DecidableEq, Repr

namespace Effects

def none : Effects := ⟨[], []⟩

def withWrite (name : Token) (value : Int) (e : Effects) : Effects :=
  { e with registerWrites := ⟨String.ofList name, value⟩ :: e.registerWrites }

def withAccess (address : Int) (data : Option Int) (e : Effects) : Effects :=
  { e with memoryAccesses := ⟨address, data⟩ :: e.memoryAccesses }

end Effects

def mem : Token := ['m', 'e', 'm']

/-- Read the tokens after the instruction word. A value without a name before it is passed over. -/
def effects : List Token → Read Effects
  | [] => .ok Effects.none
  | t :: rest =>
    if t = mem then
      match rest with
      | [] => .ok Effects.none
      | a :: afterAddress =>
        if isOperand a then
          match afterAddress with
          | [] => .ok (Effects.none.withAccess (operand a) .none)
          | d :: afterData =>
            if isOperand d then
              (effects afterData).map (Effects.withAccess (operand a) (some (operand d)))
            else (effects (d :: afterData)).map (Effects.withAccess (operand a) .none)
        else effects (a :: afterAddress)
    else if isMarked t then effects rest
    else
      match rest with
      | [] => fail (.endedAfter t)
      | v :: afterValue => do
        let value ← registerValue t v
        (effects afterValue).map (Effects.withWrite t value)
termination_by tokens => tokens.length

def part (stage : Stage) (read : Token → Read Int) : List Token → Read (Int × List Token)
  | [] => fail (.ended stage)
  | t :: rest => (read t).map fun v => (v, rest)

def ofTokens (tokens : List Token) : Read Commit := do
  let (c, tokens) ← part .core core (tokens.dropWhile (· = "core".toList))
  let (p, tokens) ← part .privilege privilege tokens
  let (a, tokens) ← part .pc pc tokens
  let (i, tokens) ← part .instruction instruction tokens
  let e ← effects tokens
  return ⟨c, p, a, i, e.registerWrites, e.memoryAccesses⟩

def read (line : List Char) : Read Commit := ofTokens (Blank.words line)

end Cosim.Trace.CommitLine
