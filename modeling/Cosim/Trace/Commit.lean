import Cosim.Trace.Register

namespace Cosim.Trace

structure RegisterWrite where
  name : String
  value : Int
deriving DecidableEq, Repr

/-- An access without data is a load. -/
structure MemoryAccess where
  address : Int
  data : Option Int
deriving DecidableEq, Repr

structure Commit where
  core : Int
  privilege : Int
  pc : Int
  instruction : Int
  registerWrites : List RegisterWrite
  memoryAccesses : List MemoryAccess
deriving DecidableEq, Repr

namespace RegisterWrite

variable (w : RegisterWrite)

def writesTo (index : Int) : Bool := Register.canonical w.name == Register.numbered index

/-- Whether this is the write of `value` to the register `x<index>`, under either spelling. -/
def isMatch (index value : Int) : Bool := w.writesTo index && w.value == value

def render : List Char := w.name.toList ++ ' ' :: '0' :: 'x' :: Numeral.hexFilled 16 w.value

end RegisterWrite

namespace MemoryAccess

variable (a : MemoryAccess)

def isWrite : Bool := a.data.isSome

def render : List Char :=
  let operand (v : Int) : List Char := ' ' :: '0' :: 'x' :: Numeral.hexFilled 16 v
  "mem".toList ++ operand a.address ++ (match a.data with
    | some d => operand d
    | none => [])

end MemoryAccess

namespace Commit

variable (c : Commit)

def hasRegisterWrites : Bool := !c.registerWrites.isEmpty

def memoryWrites : List MemoryAccess := c.memoryAccesses.filter MemoryAccess.isWrite

/-- The first write to the register `x<index>`. -/
def findWrite? (index : Int) : Option RegisterWrite :=
  c.registerWrites.find? (·.writesTo index)

def renderHead : List Char :=
  "core ".toList ++ Numeral.decimalRight 3 c.core ++ ": ".toList ++ Numeral.decimal c.privilege ++
    " 0x".toList ++ Numeral.hexFilled 16 c.pc ++
    " (0x".toList ++ Numeral.hexFilled 8 c.instruction ++ [')']

def render : List Char :=
  c.renderHead ++ c.registerWrites.flatMap (fun w => ' ' :: w.render) ++
    c.memoryAccesses.flatMap (fun a => ' ' :: a.render)

end Commit

end Cosim.Trace
