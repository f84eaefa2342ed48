import Cosim.Trace.EndPattern
import Cosim.Trace.Event

namespace Cosim.Align

open Cosim.Text Cosim.Trace Cosim.Numeral

/-- The first difference that a comparison meets. -/
inductive Divergence where
  | noSyncPoint (reset : Int)
  | noEndPattern (pattern : EndPattern)
  | missing (commit : Commit)
  | mismatch (commit : Commit) (change : StateChange)
deriving DecidableEq, Repr

namespace Divergence

def missingText (c : Commit) : String :=
  "At PC=" ++ word c.pc ++ " spike have following commit events that are not occur at boat side:\n"
    ++ "\n" ++ String.ofList c.render ++ "\n"

def insteadLine (c : Commit) (e : StateChange) : List String :=
  match c.findWrite? e.register with
  | some w =>
    ["Spike wrote " ++ word w.value ++ " to " ++ Register.numbered e.register ++ " (" ++ w.name ++
      ") instead."]
  | none => []

def mismatchText (c : Commit) (e : StateChange) : Wide :=
  Wide.unlines <|
    (["At PC=" ++ word e.pc ++ " boat write " ++ word e.value ++ " to register " ++
        Register.numbered e.register ++ ",",
      "but this action was not found at spike side."] ++
    insteadLine c e ++
    ["", "------------", "|Event Dump|", "------------", "", "We get boat:"]).map Wide.ofString ++
    [e.render, "", "But have spike:", c.render, ""]

def message : Divergence → Wide
  | .noSyncPoint reset => Wide.ofString <|
    "sync point not found: reset vector " ++ word reset ++
      " is never executed in the spike trace\n"
  | .noEndPattern p => Wide.ofString <|
    "no end pattern found in reference trace: spike never writes " ++ word p.data ++ " to " ++
      word p.address ++ "\n"
  | .missing c => missingText c
  | .mismatch c e => mismatchText c e

end Divergence

end Cosim.Align
