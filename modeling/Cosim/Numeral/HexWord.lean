import Cosim.Numeral.Digits

namespace Cosim.Numeral.HexWord

def read? : List Char → Option Nat
  | '0' :: 'x' :: digits =>
    if isHex digits && digits.length ≤ 16 then some (hexValue digits) else none
  | _ => none

/-- What is said of a text that is no such word. -/
def complaint (text : String) : String :=
  "Bad hex value (" ++ text ++ "): should be of the form 0x1234 and fit in 64 bits."

end Cosim.Numeral.HexWord
