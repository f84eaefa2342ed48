import Cosim.Files.Tree
import Cosim.Files.Wildcard
import Cosim.Text.Wide

namespace Cosim.Files

/-- What a name of a pattern stands for. -/
inductive GlobPart where
  | exact (name : String)
  | wild (hidden : Bool) (items : List Wildcard.Item)
  | deep
deriving DecidableEq, Repr

/-- A pattern: the text before its first pattern name, and what follows. -/
structure Glob where
  stem : String
  parts : List GlobPart
deriving DecidableEq, Repr

namespace Glob

def partOf (name : String) : GlobPart :=
  if name = "**" then .deep
  else if Wildcard.isPattern name then .wild (name.startsWith ".") (Wildcard.read name.toList)
  else .exact name

def partsOf (names : List String) : List GlobPart :=
  (names.filter (· != "") ++ if names.getLast? = some "" then [""] else []).map partOf

def stemOf (names : List String) : String :=
  let text := Path.joined names
  let stem := String.ofList (Text.Blank.dropEndWhile (· == '/') text.toList)
  if names.isEmpty then "" else if stem.isEmpty then text ++ "/" else stem

def ofString (pattern : String) : Glob :=
  let names := pieces pattern
  let leading := names.takeWhile fun name => !Wildcard.isPattern name
  match names.drop leading.length with
  | [] => ⟨pattern, []⟩
  | following => ⟨stemOf leading, partsOf following⟩

def searched (pattern : String) : String :=
  let g := ofString pattern
  if g.parts.isEmpty then "" else g.stem

def leading (pattern : Text.Wide) : Text.Wide :=
  let isPlain : Text.CodePoint → Bool
    | .char c => !Wildcard.isMagic c
    | .half _ => true
  let front := pattern.takeWhile isPlain
  if front.length = pattern.length then []
  else (front.reverse.dropWhile (· != .char '/')).reverse

def isHidden (name : String) : Bool := name.startsWith "."

/-- The paths that lead down from a directory through names that are not hidden. -/
def below (t : Tree) (directoriesOnly : Bool) (directory : String) : List (List String) :=
  match t.locate (if directory.isEmpty then "." else directory) with
  | .error _ => []
  | .ok place => t.entries.filterMap fun (other, node) =>
      let names := other.drop place.length
      if place.isPrefixOf other && !names.isEmpty && !names.any isHidden &&
          (!directoriesOnly || node = .directory) then some names
      else none

def listing (t : Tree) (directoriesOnly : Bool) (directory : String) : List String :=
  (t.children (if directory.isEmpty then "." else directory)).filter fun name =>
    !directoriesOnly || t.isDirectory (joinText directory name)

def find (t : Tree) (onTheWay : Bool) (directory : String) : GlobPart → List String
  | .exact name => [joinText directory name].filter t.has
  | .wild hidden items =>
    ((listing t onTheWay directory).filter fun name =>
      (hidden || !isHidden name) && Wildcard.test items name.toList).map (joinText directory)
  | .deep =>
    joinText directory "" ::
      (below t onTheWay directory).map fun names => joinText directory (Path.joined names)

def spread (t : Tree) : List GlobPart → List String → List String
  | [], found => found
  | part :: rest, found =>
    spread t rest (found.flatMap fun directory => find t (!rest.isEmpty) directory part)

def expand (t : Tree) (g : Glob) : List String :=
  if g.parts.isEmpty then [g.stem].filter t.has else spread t g.parts [g.stem]

def files (t : Tree) (pattern : String) : List Path :=
  (((ofString pattern).expand t).mergeSort fun a b => decide (a ≤ b)).map Path.ofString
    |>.filter fun p => t.isFile p.text

end Glob

end Cosim.Files
