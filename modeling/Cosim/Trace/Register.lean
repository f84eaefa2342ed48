import Cosim.Numeral.Digits

namespace Cosim.Trace.Register

def roles : List String := [
  "zero", "ra", "sp", "gp", "tp", "t0", "t1", "t2", "s0", "s1",
  "a0", "a1", "a2", "a3", "a4", "a5", "a6", "a7",
  "s2", "s3", "s4", "s5", "s6", "s7", "s8", "s9", "s10", "s11",
  "t3", "t4", "t5", "t6"]

def numbered (index : Int) : String := String.ofList ('x' :: Numeral.decimal index)

/-- The index of a register that is named by its role; `fp` is another name of `s0`. -/
def index? (name : String) : Option Nat :=
  if name = "fp" then some 8 else roles.idxOf? name

def canonical (name : String) : String :=
  match index? name with
  | some i => numbered i
  | none => name

end Cosim.Trace.Register
