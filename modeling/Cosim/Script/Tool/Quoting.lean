import Cosim.Numeral.Digits

namespace Cosim.Script.Tool

open Cosim.Numeral

def isPrintable (c : Char) : Bool := ' ' ≤ c && c ≤ '~'

def isNeutral (c : Char) : Bool := c.isAlphanum || " %+,-./:@]_\x7b\x7d#~'".toList.contains c

def wantsQuotes (s : List Char) : Bool :=
  s.isEmpty || s == ['{'] || s == ['}'] || s.head? == some '#' || s.head? == some '~' ||
    s.any fun c => !isPrintable c || " !\"$&'()*:;<=>?[\\^\x60|".toList.contains c

def octalEscape (c : Char) : List Char :=
  match c with
  | '\n' => ['\\', 'n']
  | '\t' => ['\\', 't']
  | '\x0d' => ['\\', 'r']
  | '\x07' => ['\\', 'a']
  | '\x08' => ['\\', 'b']
  | '\x0b' => ['\\', 'v']
  | '\x0c' => ['\\', 'f']
  | c => '\\' :: zeroFill 3 (digits 8 c.toNat)

def escapedFrom (isEscaping : Bool) : List Char → List Char
  | [] => []
  | c :: rest =>
    if isPrintable c then
      (if isEscaping then ['\'', '\''] else []) ++
        (if c = '\'' then ['\'', '\\', '\'', '\''] else [c]) ++ escapedFrom false rest
    else
      (if isEscaping then [] else ['\'', '$', '\'']) ++ octalEscape c ++ escapedFrom true rest

def quoted (s : String) : String :=
  if s.toList.contains '\'' && s.toList.all isNeutral then "\"" ++ s ++ "\""
  else "'" ++ String.ofList (escapedFrom false s.toList) ++ "'"

def shown (s : String) : String := if wantsQuotes s.toList then quoted s else s

/-- A name in single quotes, with a backslash before what does not fit there. -/
def slashed (s : String) : String :=
  "'" ++ String.ofList (s.toList.flatMap fun c =>
    if c = '\'' || c = '\\' then ['\\', c] else if isPrintable c then [c] else octalEscape c) ++ "'"

end Cosim.Script.Tool
