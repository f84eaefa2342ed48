import Cosim.Text.Printable
import Cosim.Text.Wide

namespace Cosim.Text.Quoted

open Cosim.Text.Printable

/-- The last `width` hexadecimal digits of `n`, in lower case. -/
def hexDigits (width n : Nat) : List Char :=
  (List.range width).reverse.map fun i => Nat.digitChar (n / 16 ^ i % 16)

def byNumber (c : Char) : List Char :=
  if c.toNat < 0x100 then '\\' :: 'x' :: hexDigits 2 c.toNat
  else if c.toNat < 0x10000 then '\\' :: 'u' :: hexDigits 4 c.toNat
  else '\\' :: 'U' :: hexDigits 8 c.toNat

def escapeChar (quote c : Char) : List Char :=
  if c = '\\' || c = quote then ['\\', c]
  else if c = '\t' then ['\\', 't']
  else if c = '\n' then ['\\', 'n']
  else if c = '\r' then ['\\', 'r']
  else if isPrintable c then [c]
  else byNumber c

def escape (quote : Char) : CodePoint → List Char
  | .char c => escapeChar quote c
  | .half n => surrogateDigits n

def quoteFor (s : Wide) : Char :=
  if s.contains (.char '\'') && !s.contains (.char '"') then '"' else '\''

def quote (s : Wide) : String :=
  let q := quoteFor s
  String.ofList (q :: (s.flatMap (escape q) ++ [q]))

end Cosim.Text.Quoted
