namespace Cosim.Script

/-- What takes the place of a parameter that has no value, or has one. -/
inductive Fallback where
  | use
  | assign
  | complain
  | replace
deriving DecidableEq, Repr

inductive Opened where
  | input
  | output
  | overwrite
  | append
  | both
deriving DecidableEq, Repr

mutual

inductive Part where
  | text (quoted : Bool) (s : String)
  | parameter (quoted : Bool) (name : String) (use : Use)
  | output (quoted : Bool) (body : Command)
  | sum (quoted : Bool) (expression : List Part)

inductive Use where
  | value
  | length
  | fallback (orEmpty : Bool) (kind : Fallback) (word : List Part)
  | trim (atEnd longest : Bool) (pattern : List Part)
  | malformed

/-- Where a channel is led. A document is given by its number in the script. -/
inductive Redirection where
  | file (channel : Nat) (opened : Opened) (path : List Part)
  | duplicate (channel : Nat) (other : List Part)
  | document (channel number : Nat)

inductive Command where
  | nothing
  | call (line : Nat) (settings : List (String × List Part)) (words : List (List Part))
      (redirections : List Redirection)
  | negation (command : Command)
  | both (first second : Command)
  | either (first second : Command)
  | sequence (first second : Command)
  | background (line : Nat) (command : Command)
  | pipe (stages : List Command)
  | apart (line : Nat) (command : Command) (redirections : List Redirection)
  | redirected (line : Nat) (command : Command) (redirections : List Redirection)
  | choice (condition yes no : Command)
  | loop (negated : Bool) (condition body : Command)
  | each (line : Nat) (name : String) (values : List (List Part)) (body : Command)
  | select (line : Nat) (word : List Part) (arms : List (List (List Part) × Command))
  | define (name : String) (body : Command)

end

abbrev Word := List Part

namespace Word

def plain? : Word → Option String
  | [.text false s] => some s
  | _ => none

def raw (w : Word) : String :=
  w.foldl (fun s p => match p with
    | .text _ t => s ++ t
    | _ => s) ""

end Word

def isNameStart (c : Char) : Bool := c.isAlpha || c == '_'

def isNameChar (c : Char) : Bool := c.isAlphanum || c == '_'

def isName (s : String) : Bool :=
  match s.toList with
  | [] => false
  | c :: rest => isNameStart c && rest.all isNameChar

namespace Word

def setting? : Word → Option (String × Word)
  | .text false s :: rest =>
    let name := s.toList.takeWhile isNameChar
    match s.toList.drop name.length with
    | '=' :: value =>
      if isName (String.ofList name) then
        some (String.ofList name,
          if value.isEmpty then rest else .text false (String.ofList value) :: rest)
      else none
    | _ => none
  | _ => none

end Word

end Cosim.Script
