import Cosim.Text.Utf8

namespace Cosim.Script.Octets

open Cosim.Text

/-- Write octets as the characters of their numbers. -/
def write (octets : ByteArray) : String :=
  String.ofList (octets.data.toList.map fun b => Char.ofNat b.toNat)

def read (s : String) : ByteArray := ⟨(s.toList.map fun c => UInt8.ofNat c.toNat).toArray⟩

def ofText (text : String) : String := write ⟨(Utf8.encode text.toList).toArray⟩

def toText (s : String) : String := String.ofList (Utf8.decodeLossy (read s).data.toList)

end Cosim.Script.Octets
