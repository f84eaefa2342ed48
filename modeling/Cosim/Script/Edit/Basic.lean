import Cosim.Script.Regex

namespace Cosim.Script.Edit

/-- A line that a scope begins at. Without an expression the last one that was used counts. -/
inductive Address where
  | line (number : Nat)
  | last
  | step (first gap : Nat)
  | matching (regex : Option Regex)

inductive Stop where
  | line (number : Nat)
  | last
  | matching (regex : Option Regex)
  | further (count : Nat)
  | multiple (factor : Nat)

structure Scope where
  first : Option Address
  stop : Option Stop
  isNegated : Bool

inductive Casing where
  | upper
  | lower
  | nextUpper
  | nextLower
  | plain
deriving DecidableEq

inductive Piece where
  | text (s : List Char)
  | group (number : Nat)
  | casing (c : Casing)

/-- A substitution: what is replaced by what, from which match on, in all matches or one, whether
the result is shown, and the file that it is written to. -/
structure Substitution where
  regex : Option Regex
  replacement : List Piece
  number : Nat
  isGlobal : Bool
  shows : Bool
  file : Option String

inductive Action where
  | block (behind : Nat)
  | close
  | showNumber
  | append (text : String)
  | insert (text : String)
  | change (text : String)
  | branch (label : String)
  | branchIf (replaced : Bool) (label : String)
  | delete
  | deleteFirst
  | showName
  | take
  | takeMore
  | hold
  | holdMore
  | exchange
  | showSigns (width : Option Nat)
  | next
  | nextMore
  | show
  | showFirst
  | quit (status : Nat)
  | quitSilently (status : Nat)
  | readFile (path : String)
  | readLine (path : String)
  | writeFile (path : String)
  | writeFirst (path : String)
  | substitute (s : Substitution)
  | translate (pairs : List (Char × Char))
  | clear

structure Command where
  scope : Scope
  action : Action

structure Edits where
  commands : Array Command
  labels : List (String × Nat)

end Cosim.Script.Edit
