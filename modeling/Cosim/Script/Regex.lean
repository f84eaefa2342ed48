namespace Cosim.Script

/-- Conditions on a place in a text. -/
inductive Anchor where
  | start
  | stop
  | lineStart
  | lineStop
  | wordStart
  | wordStop
  | wordEdge
  | noWordEdge
deriving DecidableEq

def isWordSign (c : Char) : Bool := c.isAlphanum || c = '_'

def Anchor.holds (t : Array Char) (i : Nat) (a : Anchor) : Bool :=
  let before := 0 < i && (t[i - 1]?).any isWordSign
  let after := (t[i]?).any isWordSign
  match a with
  | .start => i == 0
  | .stop => i == t.size
  | .lineStart => i == 0 || t[i - 1]? == some '\n'
  | .lineStop => i == t.size || t[i]? == some '\n'
  | .wordStart => !before && after
  | .wordStop => before && !after
  | .wordEdge => before != after
  | .noWordEdge => before == after

inductive Regex where
  | nothing
  | sign (p : Char → Bool)
  | anchor (a : Anchor)
  | sequence (a b : Regex)
  | choice (a b : Regex)
  | times (a : Regex) (least : Nat) (most : Option Nat)
  | group (number : Nat) (a : Regex)
  | again (number : Nat)

namespace Regex

abbrev Groups := List (Nat × Nat × Nat)

abbrev Reached := Nat × Groups

def looksBack : Regex → Bool
  | .again _ => true
  | .sequence a b | .choice a b => a.looksBack || b.looksBack
  | .times a _ _ | .group _ a => a.looksBack
  | .nothing | .sign _ | .anchor _ => false

def distinct (looksBack : Bool) (found : List Reached) : List Reached :=
  found.foldl (fun kept r =>
    if kept.any fun k => k.1 == r.1 && (!looksBack || k.2 == r.2) then kept else r :: kept) []
  |>.reverse

def furthestFirst (found : List Reached) : List Reached :=
  found.mergeSort fun a b => decide (b.1 ≤ a.1)

/-- The places that so many rounds lead to. What is to be done is held on a stack, and no place is
entered twice after the same number of rounds. -/
def rounds (step : Nat → Groups → List Reached) (looksBack : Bool) (least : Nat)
    (most : Option Nat) : Nat → List (Nat × Reached) → List (Nat × Reached) → List Reached →
    List Reached
  | 0, _, _, found => found.reverse
  | _, [], _, found => found.reverse
  | fuel + 1, (n, i, groups) :: todo, seen, found =>
    let isOld := seen.any fun (m, j, old) => m == n && j == i && (!looksBack || old == groups)
    if isOld then rounds step looksBack least most fuel todo seen found
    else
      let found := if least ≤ n then (i, groups) :: found else found
      let next := if most.any (· ≤ n) then []
        else (step i groups).filterMap fun (j, groups) =>
          if j = i && least ≤ n then none
          else some (if most.isNone then min least (n + 1) else n + 1, j, groups)
      rounds step looksBack least most fuel (next ++ todo) ((n, i, groups) :: seen) found

def stretch (p : Char → Bool) (t : Array Char) : Nat → Nat → Nat
  | 0, _ => 0
  | limit + 1, i => if (t[i]?).any p then stretch p t limit (i + 1) + 1 else 0

def reach (looksBack : Bool) (t : Array Char) : Regex → Nat → Groups → List Reached
  | .nothing, i, groups => [(i, groups)]
  | .sign p, i, groups => if (t[i]?).any p then [(i + 1, groups)] else []
  | .anchor a, i, groups => if a.holds t i then [(i, groups)] else []
  | .sequence a b, i, groups =>
    match reach looksBack t a i groups with
    | [] => []
    | [(j, groups)] => reach looksBack t b j groups
    | several => furthestFirst (distinct looksBack
        (several.flatMap fun (j, groups) => reach looksBack t b j groups))
  | .choice a b, i, groups =>
    match reach looksBack t a i groups, reach looksBack t b i groups with
    | found, [] | [], found => found
    | found, more => furthestFirst (distinct looksBack (found ++ more))
  | .times (.sign p) least most, i, groups =>
    let n := stretch p t (min (t.size - i) (most.getD t.size)) i
    if n < least then []
    else ((List.range (n + 1 - least)).map fun k => (i + n - k, groups))
  | .times a least most, i, groups =>
    let fuel := (t.size + 2) * (t.size + 2) * (least + most.getD 0 + 2)
    furthestFirst (distinct looksBack
      (rounds (reach looksBack t a) looksBack least most fuel [(0, i, groups)] [] []))
  | .group n a, i, groups =>
    (reach looksBack t a i groups).map fun (j, inner) =>
      (j, (n, i, j) :: inner.filter (·.1 != n))
  | .again n, i, groups =>
    match groups.lookup n with
    | none => []
    | some (start, stop) =>
      let text := t.extract start stop
      if t.extract i (i + text.size) == text then [(i + text.size, groups)] else []

/-- A stretch of a text that an expression matches, and those of its groups. -/
structure Match where
  start : Nat
  stop : Nat
  groups : Groups

def Match.group? (m : Match) (n : Nat) : Option (Nat × Nat) :=
  if n = 0 then some (m.start, m.stop) else m.groups.lookup n

def matchAt (r : Regex) (t : Array Char) (i : Nat) : Option Match :=
  (reach r.looksBack t r i []).head?.map fun (j, groups) => ⟨i, j, groups⟩

def search (r : Regex) (t : Array Char) : Nat → Nat → Option Match
  | 0, _ => none
  | limit + 1, i =>
    match r.matchAt t i with
    | some m => some m
    | none => search r t limit (i + 1)

def find? (r : Regex) (t : Array Char) (place : Nat) : Option Match :=
  search r t (t.size + 1 - place) place

def isMatch (r : Regex) (t : Array Char) : Bool := (r.find? t 0).isSome

end Regex

namespace Regex

def otherCase (c : Char) : Char := if c.isUpper then c.toLower else c.toUpper

def ofText (ignoresCase : Bool) (text : List Char) : Regex :=
  text.foldr (fun c r => .sequence (.sign fun d =>
    d == c || (ignoresCase && d == otherCase c)) r) .nothing

end Regex

end Cosim.Script
