import Cosim.Json.Value
import Cosim.Numeral.Integer
import Cosim.Trace.Commit

namespace Cosim.Trace

structure EndPattern where
  address : Int
  data : Int
deriving DecidableEq, Repr

namespace EndPattern

open Cosim.Json Cosim.Numeral Cosim.Text

def isMatch (p : EndPattern) (a : MemoryAccess) : Bool :=
  a.address == p.address && a.data == some p.data

inductive Fault where
  | badAction (v : Value)
  | missing (key : String)
  | unmarked (key : String) (v : Value)
  | unreadable (key : String) (text : Wide) (f : Integer.Fault)
  | tooLarge (key : String) (text : Wide)
deriving Repr

def Fault.message (style : Value.RecordStyle) : Fault → String
  | .badAction v =>
    "unsupported end pattern action " ++ v.describe style ++ " (only \"write\" is supported)"
  | .missing key => "end pattern is missing " ++ Value.describeText key
  | .unmarked key v =>
    key ++ " must be a hex string with a \"0x\" prefix, got " ++ v.describe style
  | .unreadable key text f =>
    "cannot convert " ++ key ++ " value " ++ Value.describeText text ++ " to u64: " ++ f.message
  | .tooLarge key text =>
    key ++ " value " ++ Value.describeText text ++ " does not fit in 64 bits"

/-- Any notation to base 16 will do, a sign included, but no half of a pair is part of one. -/
def readHex (s : Wide) : Except Integer.Fault Int :=
  match s.spelled with
  | .ok t => Integer.readHex t.toList
  | .error _ => .error (.malformed 16 s)

def number (key : String) (v : Value) : Except Fault Int :=
  match v with
  | .text s =>
    match s with
    | .char '0' :: .char 'x' :: rest =>
      match readHex rest with
      | .ok n => if 2 ^ 64 ≤ n then .error (.tooLarge key s) else .ok n
      | .error f => .error (.unreadable key s f)
    | _ => .error (.unmarked key v)
  | _ => .error (.unmarked key v)

def isWrite : Option Value → Bool
  | none => true
  | some (.text s) => s == Wide.ofString "write"
  | some _ => false

def required (members : List (Wide × Value)) (key : String) : Except Fault Value :=
  match members.lookup ↑key with
  | some v => .ok v
  | none => .error (.missing key)

/-- The end pattern that the members of a record describe. -/
def ofMembers (members : List (Wide × Value)) : Except Fault EndPattern := do
  if !isWrite (members.lookup ↑"action") then
    throw (.badAction ((members.lookup ↑"action").getD .null))
  let address ← required members "memory_address"
  let data ← required members "data"
  return ⟨← number "memory_address" address, ← number "data" data⟩

end EndPattern

end Cosim.Trace
