import Cosim.Files.Tree
import Cosim.Files.Wildcard
import Cosim.Script.Octets

namespace Cosim.Script

open Cosim.Files

abbrev Sign := Char × Bool

namespace Pattern

/-- The pattern that a text spells for a tool, in which a backslash quotes and a caret negates a set
too. -/
def ofText : List Char → List Sign
  | '\\' :: c :: rest => (c, true) :: ofText rest
  | '[' :: '^' :: rest => ('[', false) :: ('!', false) :: ofText rest
  | c :: rest => (c, false) :: ofText rest
  | [] => []

def classes : List (String × List Wildcard.Member) :=
  let upper : Wildcard.Member := .range 'A' 'Z'
  let lower : Wildcard.Member := .range 'a' 'z'
  let digit : Wildcard.Member := .range '0' '9'
  [("alnum", [upper, lower, digit]), ("alpha", [upper, lower]),
    ("blank", [.single ' ', .single '\t']),
    ("cntrl", [.range '\x00' '\x1f', .single '\x7f']), ("digit", [digit]),
    ("graph", [.range '!' '~']), ("lower", [lower]), ("print", [.range ' ' '~']),
    ("punct", [.range '!' '/', .range ':' '@', .range '[' '\x60', .range '\x7b' '~']),
    ("space", [.single ' ', .range '\t' '\x0d']), ("upper", [upper]),
    ("xdigit", [digit, .range 'A' 'F', .range 'a' 'f'])]

def namedClass? (s : List Sign) : Option (List Wildcard.Member × List Sign) :=
  match s with
  | (':', _) :: rest =>
    let name := (rest.map Prod.fst).takeWhile Char.isLower
    match rest.drop name.length with
    | (':', _) :: (']', _) :: after =>
      (classes.lookup (String.ofList name)).map fun members => (members, after)
    | _ => none
  | _ => none

/-- The members of a set up to the bracket that closes it, which may also come first as a member,
and what follows. Every step uses up a sign, so the length of the text is fuel enough. -/
def members? (fuel : Nat) (isFirst : Bool) (s : List Sign) :
    Option (List Wildcard.Member × List Sign) :=
  match fuel, s with
  | 0, _ | _, [] => none
  | fuel + 1, (c, quoted) :: rest =>
    if c = ']' && !quoted && !isFirst then some ([], rest)
    else
      let add (ms : List Wildcard.Member) (rest : List Sign) :
          Option (List Wildcard.Member × List Sign) :=
        (members? fuel false rest).map fun (others, after) => (ms ++ others, after)
      match (if c = '[' && !quoted then namedClass? rest else none), rest with
      | some (ms, after), _ => add ms after
      | none, ('-', false) :: (high, quotedHigh) :: after =>
        if high = ']' && !quotedHigh then add [.single c] rest else add [.range c high] after
      | none, _ => add [.single c] rest

def itemsFrom : Nat → List Sign → List Wildcard.Item
  | 0, _ | _, [] => []
  | fuel + 1, (c, quoted) :: rest =>
    match c, quoted with
    | '*', false => .star :: itemsFrom fuel rest
    | '?', false => .any :: itemsFrom fuel rest
    | '[', false =>
      let (complement, body) := match rest with
        | ('!', false) :: body => (true, body)
        | body => (false, body)
      match members? (body.length + 1) true body with
      | some (ms, after) => .oneOf complement ms :: itemsFrom fuel after
      | none => .letter '[' :: itemsFrom fuel rest
    | c, _ => .letter c :: itemsFrom fuel rest

def items (s : List Sign) : List Wildcard.Item := itemsFrom s.length s

def isMatch (pattern : List Sign) (s : String) : Bool := Wildcard.test (items pattern) s.toList

def trim (atEnd longest : Bool) (pattern : List Sign) (s : String) : String :=
  let body := s.toList
  let sizes := List.range (body.length + 1)
  let test := Wildcard.test (items pattern)
  let cut (n : Nat) : Bool :=
    test (if atEnd then body.drop (body.length - n) else body.take n)
  match (if longest then sizes.reverse else sizes).find? cut with
  | none => s
  | some n => String.ofList (if atEnd then body.take (body.length - n) else body.drop n)

def isPattern (s : List Sign) : Bool := s.any fun (c, quoted) => !quoted && "*?[".toList.contains c

def text (s : List Sign) : String := String.ofList (s.map Prod.fst)

def segments : List Sign → List (List Sign)
  | [] => [[]]
  | (c, quoted) :: rest =>
    if c = '/' then [] :: segments rest
    else match segments rest with
      | [] => [[(c, quoted)]]
      | segment :: others => ((c, quoted) :: segment) :: others

def namesIn (t : Tree) (directory : String) (segment : List Sign) : List String :=
  let path := if directory.isEmpty then "." else Octets.toText directory
  let isHidden := (segment.head?.map Prod.fst) == some '.'
  let names := (t.children path).map Octets.ofText
  let names := if isHidden then "." :: ".." :: names else names
  names.filter fun name =>
    (isHidden || !name.startsWith ".") && isMatch segment name

def pathsFrom (t : Tree) (directory : String) : List (List Sign) → List String
  | [] => [directory]
  | [segment] =>
    if isPattern segment then (namesIn t directory segment).map (directory ++ ·)
    else
      let path := directory ++ text segment
      if t.has (Octets.toText path) then [path] else []
  | segment :: rest =>
    if isPattern segment then
      (namesIn t directory segment).flatMap fun name => pathsFrom t (directory ++ name ++ "/") rest
    else pathsFrom t (directory ++ text segment ++ "/") rest

/-- The paths that a text stands for, in the order of their octets. A text that no path matches
stands for itself. -/
def paths (t : Tree) (s : List Sign) : List String :=
  if !isPattern s then [text s]
  else match pathsFrom t "" (segments s) with
    | [] => [text s]
    | found => found.mergeSort fun a b => decide (a ≤ b)

end Pattern

end Cosim.Script
