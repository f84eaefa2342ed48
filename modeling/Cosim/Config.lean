import Cosim.Json.Relaxed
import Cosim.Trace.EndPattern

namespace Cosim

open Cosim.Json Cosim.Text Cosim.Trace

structure Config where
  elfGlob : Wide
  boatArgs : List Wide
  spikeArgs : List Wide
  endPattern : Option EndPattern
deriving DecidableEq, Repr

namespace Config

/-- Why structured data is no configuration. -/
inductive Fault where
  | notRecord
  | badGlob (v : Value)
  | patternNotRecord (v : Value)
  | badPattern (f : EndPattern.Fault)
  | badArgs (key : String) (v : Value)
deriving Repr

def Fault.message (style : Value.RecordStyle) : Fault → String
  | .notRecord => "Config must be a dictionary of parameters"
  | .badGlob v =>
    "Parameter elf_path_glob must be a non-empty string, got " ++ v.describe style
  | .patternNotRecord v =>
    "Parameter end_pattern must be a dictionary, got " ++ v.describe style
  | .badPattern f => "Invalid end_pattern: " ++ f.message style
  | .badArgs key v =>
    "Parameter " ++ key ++ " must be a list of strings, got " ++ v.describe style

abbrev Members := List (Wide × Value)

def glob (members : Members) : Except Fault Wide :=
  match members.lookup ↑"elf_path_glob" with
  | some (.text s) => if s.isEmpty then .error (.badGlob (.text s)) else .ok s
  | some v => .error (.badGlob v)
  | none => .error (.badGlob .null)

def pattern (members : Members) : Except Fault (Option EndPattern) :=
  match members.lookup ↑"end_pattern" with
  | none | some .null => .ok none
  | some (.record ms) =>
    match EndPattern.ofMembers ms with
    | .ok p => .ok (some p)
    | .error f => .error (.badPattern f)
  | some v => .error (.patternNotRecord v)

def text? : Value → Option Wide
  | .text s => some s
  | _ => none

def args (members : Members) (key : String) : Except Fault (List Wide) :=
  match members.lookup ↑key with
  | none => .ok []
  | some (.list items) =>
    match items.mapM text? with
    | some texts => .ok texts
    | none => .error (.badArgs key (.list items))
  | some v => .error (.badArgs key v)

def ofValue : Value → Except Fault Config
  | .record members => do
    let elfGlob ← glob members
    let endPattern ← pattern members
    let boatArgs ← args members "boat_args"
    let spikeArgs ← args members "spike_args"
    return ⟨elfGlob, boatArgs, spikeArgs, endPattern⟩
  | _ => .error .notRecord

/-- Why a text is no configuration. -/
inductive TextFault where
  | malformed (m : Relaxed.Malformed)
  | invalid (f : Fault)
  | abandoned (a : Relaxed.Abandon)
deriving Repr

def TextFault.message : TextFault → String
  | .malformed m => "Could not decode hjson " ++ m.message
  | .invalid f => f.message .pairs
  | .abandoned a => a.message

def ofText (text : List Char) : Except TextFault Config :=
  match Relaxed.read text with
  | .ok v => (ofValue v).mapError .invalid
  | .error (.malformed m) => .error (.malformed m)
  | .error (.abandoned a) => .error (.abandoned a)

end Config

end Cosim
