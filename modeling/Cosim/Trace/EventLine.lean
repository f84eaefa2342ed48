import Cosim.Json.Reader
import Cosim.Trace.Event
import Cosim.Trace.Refusal

namespace Cosim.Trace.EventLine

open Cosim.Json Cosim.Text

inductive Fault where
  | unreadable (f : Reader.Problem) (place : Text.Place)
  | notRecord (v : Value)
  | noFields
  | missing (key : String)
  | notText (key : String) (v : Value)
  | notNumber (key : String) (bits : Nat) (v : Value)
  | outOfRange (key : String) (bits : Nat) (n : Int)
  | unknownKind (name : Wide)
deriving Repr

/-- The kinds of events, by their names in the log. -/
inductive Kind where
  | memory
  | change
  | fetch
  | reset
deriving DecidableEq, Repr

def Kind.all : List Kind := [.memory, .change, .fetch, .reset]

def Kind.name : Kind → String
  | .memory => "physical_memory"
  | .change => "arch_state"
  | .fetch => "instruction_fetch"
  | .reset => "reset_vector"

def Kind.ofName? (name : Wide) : Option Kind := Kind.all.find? fun k => Wide.ofString k.name == name

def ticked (s : String) : String := "\x60" ++ s ++ "\x60"

def Fault.message : Fault → String
  | .unreadable p place => (Reader.Fault.malformed p place).message
  | .notRecord v => "expected a JSON object, got " ++ v.describe .braces
  | .noFields => "missing or invalid `fields` object"
  | .missing key => "missing field " ++ ticked key
  | .notText key v =>
    "invalid type for " ++ ticked key ++ ": expected a string, got " ++ v.describe .braces
  | .notNumber key bits v =>
    "invalid type for " ++ ticked key ++ ": expected u" ++ toString bits ++ ", got " ++
      v.describe .braces
  | .outOfRange key bits n =>
    "invalid value for " ++ ticked key ++ ": " ++ String.ofList (Numeral.decimal n) ++
      " does not fit in u" ++ toString bits
  | .unknownKind name =>
    "unknown variant " ++ ticked name.shown ++ ", expected one of " ++
      Value.commaSeparated (Kind.all.map fun k => ticked k.name)

abbrev Members := List (Wide × Value)

def text (fields : Members) (key : String) : Except Fault Wide :=
  match fields.lookup ↑key with
  | none => .error (.missing key)
  | some (.text s) => .ok s
  | some v => .error (.notText key v)

/-- A number of `bits` bits without sign. -/
def number (fields : Members) (key : String) (bits : Nat) : Except Fault Int :=
  match fields.lookup ↑key with
  | none => .error (.missing key)
  | some (.int n) =>
    if 0 ≤ n ∧ n < 2 ^ bits then .ok n else .error (.outOfRange key bits n)
  | some v => .error (.notNumber key bits v)

def ofFields (fields : Members) : Kind → Except Fault Event
  | .memory => do
    let action ← text fields "action"
    let width ← number fields "bytes" 8
    let address ← number fields "address" 64
    return .memory action width address
  | .change => do
    let action ← text fields "action"
    let pc ← number fields "pc" 64
    let register ← number fields "reg_idx" 8
    let value ← number fields "data" 64
    return .change ⟨action, pc, register, value⟩
  | .fetch => return .fetch (← number fields "data" 32)
  | .reset => return .reset (← number fields "new_addr" 64)

/-- The event that a value of structured data describes. -/
def ofValue : Value → Except Fault Event
  | .record members =>
    match members.lookup ↑"fields" with
    | some (.record fields) => do
      let name ← text fields "event_type"
      match Kind.ofName? name with
      | some kind => ofFields fields kind
      | none => .error (.unknownKind name)
    | _ => .error .noFields
  | v => .error (.notRecord v)

def read (line : List Char) : Except (Refusal Fault) Event :=
  match Reader.read line with
  | .ok v => (ofValue v).mapError .fault
  | .error (.malformed p place) => .error (.fault (.unreadable p place))
  | .error (.tooLong digits) => .error (.tooLong digits)

end Cosim.Trace.EventLine
