import Cosim.Files.Glob
import Mathlib.Algebra.BigOperators.Group.Finset.Piecewise
import Mathlib.Algebra.GroupWithZero.Nat
import Mathlib.Algebra.Order.BigOperators.Group.Finset
import Mathlib.Tactic.SplitIfs

namespace Cosim.Proofs.Files.Globbing

open Cosim.Files Cosim.Files.Glob

def takes (hidden : Bool) (items : List Wildcard.Item) (name : String) : Bool :=
  name != ".." && (hidden || !isHidden name) && Wildcard.isMatch items name.toList

/-- In how many ways the parts of a pattern share out the names of a file. A part that says nothing
stands behind a directory, a pattern for a single name takes a directory where parts follow, and so
does a double star that takes names, none of which is hidden. -/
def ways : List GlobPart → List String → Nat
  | [], names => if names.isEmpty then 1 else 0
  | .exact name :: rest, names =>
    if isIdle name then if names.isEmpty then 0 else ways rest names
    else if names.head? = some name then ways rest names.tail
    else 0
  | .wild hidden items :: rest, names =>
    match names with
    | [] => 0
    | name :: later =>
      if takes hidden items name && (rest.isEmpty || !later.isEmpty) then ways rest later else 0
  | .deep :: rest, names =>
    ways rest names + ∑ i ∈ Finset.range names.length,
      if (names.take (i + 1)).all (fun name => !isHidden name) &&
          (rest.isEmpty || !(names.drop (i + 1)).isEmpty) then ways rest (names.drop (i + 1))
      else 0

theorem ways_idle {name : String} (h : isIdle name = true) (rest : List GlobPart)
    (names : List String) :
    ways (.exact name :: rest) names = if names.isEmpty then 0 else ways rest names := by
  rw [ways, h]
  rfl

theorem ways_exact {name : String} (h : isIdle name = false) (rest : List GlobPart)
    (names : List String) : ways (.exact name :: rest) names =
      if names.head? = some name then ways rest names.tail else 0 := by
  rw [ways, h]
  rfl

theorem ways_wild (hidden : Bool) (items : List Wildcard.Item) (rest : List GlobPart)
    (name : String) (later : List String) : ways (.wild hidden items :: rest) (name :: later) =
      if takes hidden items name && (rest.isEmpty || !later.isEmpty) then ways rest later else 0 :=
  rfl

theorem ways_deep (rest : List GlobPart) (names : List String) :
    ways (.deep :: rest) names = ways rest names + ∑ i ∈ Finset.range names.length,
      if (names.take (i + 1)).all (fun name => !isHidden name) &&
          (rest.isEmpty || !(names.drop (i + 1)).isEmpty) then ways rest (names.drop (i + 1))
      else 0 :=
  rfl

section Ways

variable {rest parts : List GlobPart} {names : List String}

/-- The names that a part takes, if it is no double star. -/
def breadth : GlobPart → Nat
  | .exact name => if isIdle name then 0 else 1
  | _ => 1

def width (parts : List GlobPart) : Nat := (parts.map breadth).sum

end Ways

end Cosim.Proofs.Files.Globbing
