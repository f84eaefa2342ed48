import Cosim.Text.Blank

namespace Cosim.Files

open Cosim.Text

def pieces (s : String) : List String := (Blank.cut (· == '/') s.toList).map String.ofList

def isIdle (name : String) : Bool := name == "" || name == "."

structure Path where
  slashes : Nat
  names : List String
deriving DecidableEq, Repr

namespace Path

def slashesOf (s : String) : Nat :=
  match s.toList.takeWhile (· == '/') with
  | [] => 0
  | [_, _] => 2
  | _ => 1

def ofString (s : String) : Path := ⟨slashesOf s, (pieces s).filter fun name => !isIdle name⟩

def joined (names : List String) : String := String.intercalate "/" names

def text (p : Path) : String :=
  if p.slashes = 0 && p.names.isEmpty then "."
  else String.ofList (List.replicate p.slashes '/') ++ joined p.names

def child (p : Path) (name : String) : Path := ⟨p.slashes, p.names ++ [name]⟩

/-- The path of the directory that holds a path; a path without names is its own. -/
def parent (p : Path) : Path := ⟨p.slashes, p.names.dropLast⟩

def name (p : Path) : String := p.names.getLast?.getD ""

end Path

/-- Put a name after the text of a directory, as a search of directories does. -/
def joinText (directory name : String) : String :=
  if name.startsWith "/" || directory.isEmpty then name
  else if directory.endsWith "/" then directory ++ name
  else directory ++ "/" ++ name

end Cosim.Files
