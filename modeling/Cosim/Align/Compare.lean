import Cosim.Align.Divergence
import Cosim.Align.Retirement

namespace Cosim.Align

open Cosim.Trace

/-- Why two traces cannot be compared at all. -/
inductive Precondition where
  | noCommits
  | noEvents
  | noReset
  | manyResets (count : Nat)
deriving DecidableEq, Repr

def Precondition.message : Precondition → String
  | .noCommits => "Spike trace is empty"
  | .noEvents => "boat trace is empty"
  | .noReset => "reset_vector event not found in boat log"
  | .manyResets n =>
    "Expected exactly one reset_vector event in boat log, but found " ++ toString n ++ "."

/-- What a comparison learns on its way. -/
inductive Note where
  | synced (reset : Int) (index : Nat)
  | endFound (pc : Int)
  | compared (count : Nat)
deriving DecidableEq, Repr

def Note.message : Note → String
  | .synced reset index =>
    "Spike trace reaches reset vector " ++ Numeral.word reset ++ " at commit " ++ toString index
  | .endFound pc => "End pattern found at PC " ++ Numeral.word pc
  | .compared count => "Compared " ++ toString count ++ " commits"

structure Comparison where
  divergence : Option Divergence
  notes : List Note
deriving DecidableEq, Repr

/-- The target of the only reset. -/
def resetVector (events : List Event) : Except Precondition Int :=
  match events.filterMap Event.resetTarget? with
  | [] => .error .noReset
  | [target] => .ok target
  | targets => .error (.manyResets targets.length)

def syncIndex? (commits : List Commit) (reset : Int) : Option Nat :=
  commits.findIdx? (·.pc == reset)

def endPc? (commits : List Commit) (pattern : EndPattern) : Option Int :=
  (commits.find? fun c => c.memoryAccesses.any pattern.isMatch).map Commit.pc

def isReported (c : Commit) (e : StateChange) : Bool :=
  c.registerWrites.any fun w => w.isMatch e.register e.value

def walk : List Commit → List Event → Except Divergence Nat
  | [], _ => .ok 0
  | c :: commits, events =>
    if c.hasRegisterWrites then
      match Retirement.next c.pc events with
      | ([], _) => .error (.missing c)
      | (group, left) =>
        match group.find? fun e => !isReported c e with
        | some e => .error (.mismatch c e)
        | none => (walk commits left).map (· + 1)
    else walk commits events

def span (commits : List Commit) (start : Nat) (endPc : Option Int) : List Commit :=
  (commits.drop start).takeWhile fun c => endPc != some c.pc

def conclude (commits : List Commit) (events : List Event) (notes : List Note) : Comparison :=
  match walk commits events with
  | .ok count => ⟨none, notes ++ [.compared count]⟩
  | .error d => ⟨some d, notes⟩

def compareFrom (reset : Int) (commits : List Commit) (events : List Event)
    (pattern : Option EndPattern) : Comparison :=
  match syncIndex? commits reset with
  | none => ⟨some (.noSyncPoint reset), []⟩
  | some start =>
    let synced := Note.synced reset start
    match pattern with
    | none => conclude (span commits start none) events [synced]
    | some p =>
      match endPc? commits p with
      | none => ⟨some (.noEndPattern p), [synced]⟩
      | some pc => conclude (span commits start (some pc)) events [synced, .endFound pc]

def compare (commits : List Commit) (events : List Event) (pattern : Option EndPattern) :
    Except Precondition Comparison :=
  if commits.isEmpty then .error .noCommits
  else if events.isEmpty then .error .noEvents
  else (resetVector events).map fun reset => compareFrom reset commits events pattern

end Cosim.Align
