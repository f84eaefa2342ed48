import Cosim.Text.Wide
import Cosim.Trace.Register

namespace Cosim.Trace

open Cosim.Text

/-- A register that takes a value while the instruction at `pc` is executed. -/
structure StateChange where
  action : Wide
  pc : Int
  register : Int
  value : Int
deriving DecidableEq, Repr

inductive Event where
  | memory (action : Wide) (width address : Int)
  | change (c : StateChange)
  | fetch (word : Int)
  | reset (target : Int)
deriving DecidableEq, Repr

def StateChange.render (c : StateChange) : Wide :=
  Wide.ofString ("PC=0x" ++ String.ofList (Numeral.hexFilled 16 c.pc) ++ " ") ++ c.action ++
    Wide.ofString (" to register [" ++ Register.numbered c.register ++ "] with [0x" ++
      String.ofList (Numeral.hexFilled 16 c.value) ++ "]")

namespace Event

def change? : Event → Option StateChange
  | .change c => some c
  | _ => none

def isFetch : Event → Bool
  | .fetch _ => true
  | _ => false

def resetTarget? : Event → Option Int
  | .reset target => some target
  | _ => none

def changesAt (pc : Int) : Event → Bool
  | .change c => c.pc == pc
  | _ => false

end Event

end Cosim.Trace
