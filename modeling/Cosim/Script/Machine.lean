import Cosim.Script.Evaluation

namespace Cosim.Script

open Cosim.Files Cosim.Run

namespace Machine

def fuel : Nat := 1000000000

def openingOf (t : Tree) (channel : Channel) : Option Handle → Opening
  | none => ⟨.nowhere, 0, false, some channel⟩
  | some h => match t.node? h.place with
    | some (.device d) => ⟨Step.targetOf .output d, 0, false, some channel⟩
    | _ => ⟨.file h.place, h.offset, false, some channel⟩

def begin (call : Call) (t : Tree) : State where
  shell :=
    freshShell [(0, 0), (1, 1), (2, if call.streams.isJoint then 1 else 2)] "" "" []
  world :=
    { tree := t
      openings := #[⟨.nowhere, 0, false, none⟩, openingOf t .output call.streams.output,
        openingOf t .errors call.streams.errors]
      effects := []
      documents := []
      count := 0
      clock := 0
      deadline := none
      isStarving := false
      refusal := none }

/-- What a call of a program does. A file that is no program cannot be started. -/
def run (call : Call) (t : Tree) : Except Errno Outcome := do
  let path := Octets.ofText call.program
  let p ← program t 5 (Octets.ofText call.name) path (call.args.map Octets.ofText)
  let environment := call.environment.map fun (name, value) =>
    (Octets.ofText name, Octets.ofText value)
  let (found, state) := (process fuel p environment).run (begin call t)
  let status : Int := match found with
    | .ok (.ok status) => status
    | .ok (.error signal) => -signal
    | .error _ => -9
  return ⟨state.world.effects.reverse, status⟩

end Machine

def machine : Machine := Machine.run

end Cosim.Script
