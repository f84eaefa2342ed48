import Cosim.Report.Scalar
import Cosim.Proofs.Numeral.Hexadecimal

namespace Cosim.Proofs.Report.Scalars

open Cosim.Numeral Cosim.Report.Scalar Cosim.Proofs.Numeral.Digits Cosim.Proofs.Numeral.Hexadecimal

/-- What is between two characters that count. Over line ends it is what it begins with, and how
many lines are left empty. -/
inductive Gap where
  | blanks (s : List Char)
  | lines (start : List Char) (empty : Nat)

def isGapChar (c : Char) : Bool := isGap c || c == '\n'

namespace Gap

def add : Gap → Char → Gap
  | .blanks s, c => if c = '\n' then .lines [' '] 0 else .blanks (s ++ [c])
  | .lines start empty, c => .lines start (if c = '\n' then empty + 1 else empty)

def text : Gap → List Char
  | .blanks s => s
  | .lines start 0 => start
  | .lines _ (n + 1) => List.replicate (n + 1) '\n'

end Gap

def fresh : Gap := .blanks []

def emit (front : List Char) (r : List Char × List Char) : List Char × List Char :=
  (front ++ r.1, r.2)

def plain : Gap → List Char → List Char
  | _, [] => []
  | g, c :: s => if isGapChar c then plain (g.add c) s else g.text ++ c :: plain fresh s

def single : Gap → List Char → Option (List Char × List Char)
  | _, [] => none
  | g, c :: s =>
    if c = '\'' then
      match s with
      | '\'' :: s => (single fresh s).map (emit (g.text ++ ['\'']))
      | _ => some (g.text, s)
    else if isGapChar c then single (g.add c) s
    else (single fresh s).map (emit (g.text ++ [c]))

def meanings : List (Char × Char) := [
  ('0', '\x00'), ('a', '\x07'), ('b', '\x08'), ('t', '\t'), ('\t', '\t'), ('n', '\n'),
  ('v', '\x0b'),
  ('f', '\x0c'), ('r', '\r'), ('e', '\x1b'), (' ', ' '), ('"', '"'), ('\\', '\\'), ('/', '/'),
  ('N', '\x85'), ('_', '\xa0'), ('L', '\u2028'), ('P', '\u2029')]

def digitCounts : List (Char × Nat) := [('x', 2), ('u', 4), ('U', 8)]

/-- Where a text between double quotes is read: behind a gap, behind a backslash, or behind `seen`
with some digits still to come. -/
inductive Mode where
  | text (g : Gap)
  | escape
  | digits (left : Nat) (seen : List Char)

def double : Mode → List Char → Option (List Char × List Char)
  | _, [] => none
  | .text g, c :: s =>
    if c = '"' then some (g.text, s)
    else if c = '\\' then (double .escape s).map (emit g.text)
    else if isGapChar c then double (.text (g.add c)) s
    else (double (.text fresh) s).map (emit (g.text ++ [c]))
  | .escape, c :: s =>
    if c = '\n' then double (.text (.lines [] 0)) s
    else match meanings.lookup c, digitCounts.lookup c with
      | some d, _ => (double (.text fresh) s).map (emit [d])
      | none, some count => double (.digits count []) s
      | none, none => none
  | .digits left seen, c :: s =>
    if !isHexDigit c then none
    else if 1 < left then double (.digits (left - 1) (seen ++ [c])) s
    else if (hexValue (seen ++ [c])).isValidChar then
      (double (.text fresh) s).map (emit [Char.ofNat (hexValue (seen ++ [c]))])
    else none

def whole (r : Option (List Char × List Char)) : Option (List Char) :=
  r.bind fun r => if r.2 = [] then some r.1 else none

/-- Read a text that is written in one of the three ways. One that is written as it is must not be
readable as anything else. -/
def readText (s : List Char) : Option (List Char) :=
  let s := s.dropWhile isGapChar
  if s.head? = some '\'' then whole (single fresh s.tail)
  else if s.head? = some '"' then whole (double (.text fresh) s.tail)
  else
    let text := plain fresh s
    if !isAmbiguous text && !startsStructure text && !holdsStructure false text then some text
    else none

theorem emit_emit (a b : List Char) : emit a ∘ emit b = emit (a ++ b) :=
  funext fun r => by simp [emit]

end Cosim.Proofs.Report.Scalars
