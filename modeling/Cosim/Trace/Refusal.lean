import Cosim.Numeral.Integer

namespace Cosim.Trace

inductive Refusal (Fault : Type) where
  | fault (f : Fault)
  | tooLong (digits : Nat)
deriving DecidableEq, Repr

end Cosim.Trace
