import Cosim.Proofs.Files.Globbing.Trees

namespace Cosim.Proofs.Files.Globbing

open Cosim.Files Cosim.Files.Tree Cosim.Files.Glob Cosim.Proofs.Files.Joining
  Cosim.Proofs.Files.Ways Cosim.Proofs.Outcome

/-- The names of a pattern as they come from its text: an empty one is the last. -/
structure IsSplit (parts : List GlobPart) : Prop where
  no_slash : ∀ name, .exact name ∈ parts → '/' ∉ name.toList
  last : ∀ front rest, parts = front ++ .exact "" :: rest → rest = []

section Texts

variable {t : Tree} {onTheWay : Bool} {d x name : String} {part : GlobPart}
  {rest parts : List GlobPart}
  {found found' : List String}

/-- What a search goes on with has names behind those of the directory. -/
def Extends (d x : String) : Prop :=
  Path.slashesOf x = Path.slashesOf d ∧ named d <+: named x

theorem Extends.trans {y : String} (h : Extends d x) (h' : Extends x y) : Extends d y :=
  ⟨h'.1.trans h.1, h.2.trans h'.2⟩

theorem extends_joinText (hx : x.startsWith "/" = false) : Extends d (joinText d x) := by
  refine ⟨slashesOf_joinText hx, ?_⟩
  rw [named_joinText hx]
  exact List.prefix_append _ _

theorem exists_of_mem_find (ht : IsTree t)
    (hpart : ∀ name, part = .exact name → '/' ∉ name.toList)
    (h : x ∈ Glob.find t onTheWay d part) : ∃ r, r.startsWith "/" = false ∧ x = joinText d r := by
  cases part with
  | exact name =>
    rw [Glob.find, List.mem_filter, List.mem_singleton] at h
    exact ⟨name, startsWith_of_no_slash (hpart name rfl), h.1⟩
  | wild hidden items =>
    obtain ⟨name, hname, rfl⟩ := List.mem_map.mp h
    have hchild := (List.mem_filter.mp (List.mem_filter.mp hname).1).1
    exact ⟨name, startsWith_of_no_slash (ht.isPlainName_of_mem_children hchild).no_slash, rfl⟩
  | deep =>
    rcases List.mem_cons.mp h with rfl | h
    · exact ⟨"", by decide +kernel, rfl⟩
    · obtain ⟨chain, hchain, rfl⟩ := List.mem_map.mp h
      exact ⟨_, startsWith_joined fun name hname =>
        isName_of_isPlainName (ht.isPlainName_of_mem_below hchain name hname), rfl⟩

theorem extends_of_mem_find (ht : IsTree t) (hpart : ∀ name, part = .exact name → '/' ∉ name.toList)
    (h : x ∈ Glob.find t onTheWay d part) : Extends d x := by
  obtain ⟨r, hr, rfl⟩ := exists_of_mem_find ht hpart h
  exact extends_joinText hr

theorem spread_append (t : Tree) (parts : List GlobPart) (found found' : List String) :
    spread t parts (found ++ found') = spread t parts found ++ spread t parts found' := by
  induction parts generalizing found found' with
  | nil => rfl
  | cons part rest ih => rw [spread, List.flatMap_append, ih, spread, spread]

theorem spread_nil (t : Tree) (parts : List GlobPart) : spread t parts [] = [] := by
  induction parts with
  | nil => rfl
  | cons part rest ih => rw [spread, List.flatMap_nil, ih]

theorem spread_eq_flatMap (t : Tree) (parts : List GlobPart) (found : List String) :
    spread t parts found = found.flatMap fun d => spread t parts [d] := by
  induction found with
  | nil => rw [spread_nil, List.flatMap_nil]
  | cons d found ih => rw [← List.singleton_append, spread_append, ih, List.flatMap_append,
      List.flatMap_singleton]

theorem spread_cons (t : Tree) (part : GlobPart) (rest : List GlobPart) (d : String) :
    spread t (part :: rest) [d] = spread t rest (Glob.find t (!rest.isEmpty) d part) := by
  rw [spread, List.flatMap_singleton]

theorem mem_spread_cons : x ∈ spread t (part :: rest) [d] ↔
    ∃ y ∈ Glob.find t (!rest.isEmpty) d part, x ∈ spread t rest [y] := by
  rw [spread_cons, spread_eq_flatMap, List.mem_flatMap]

theorem IsSplit.of_cons (h : IsSplit (part :: rest)) :
    (∀ name, part = .exact name → '/' ∉ name.toList) ∧ IsSplit rest :=
  ⟨fun name hname => h.no_slash name (hname ▸ List.mem_cons_self),
    fun name hname => h.no_slash name (List.mem_cons_of_mem part hname),
    fun front tail hrest => h.last (part :: front) tail (hrest ▸ rfl)⟩

theorem extends_of_mem_spread (ht : IsTree t) (hparts : IsSplit parts)
    (h : x ∈ spread t parts [d]) : Extends d x := by
  induction parts generalizing d with
  | nil =>
    rw [spread, List.mem_singleton] at h
    exact h ▸ ⟨rfl, List.prefix_rfl⟩
  | cons part rest ih =>
    obtain ⟨hpart, hrest⟩ := hparts.of_cons
    obtain ⟨y, hy, hx⟩ := mem_spread_cons.mp h
    exact (extends_of_mem_find ht hpart hy).trans (ih hrest hx)

end Texts

/-- How often the search from a directory finds a path. -/
def hits (t : Tree) (p : Path) (parts : List GlobPart) (d : String) : Nat :=
  (spread t parts [d]).countP fun x => Path.ofString x = p

section Hits

variable {t : Tree} {p : Path} {d x name : String} {part : GlobPart} {rest parts : List GlobPart}
  {names : List String}

theorem hits_nil (t : Tree) (p : Path) (d : String) :
    hits t p [] d = if Path.ofString d = p then 1 else 0 := by
  rw [hits, spread, List.countP_singleton]
  simp

theorem hits_cons (t : Tree) (p : Path) (part : GlobPart) (rest : List GlobPart) (d : String) :
    hits t p (part :: rest) d =
      ((Glob.find t (!rest.isEmpty) d part).map (hits t p rest)).sum := by
  rw [hits, spread_cons, spread_eq_flatMap, List.countP_flatMap]
  rfl

theorem hits_exact (t : Tree) (p : Path) (name : String) (rest : List GlobPart) (d : String) :
    hits t p (.exact name :: rest) d =
      if t.has (joinText d name) then hits t p rest (joinText d name) else 0 := by
  rw [hits_cons, Glob.find, List.filter_singleton]
  cases t.has (joinText d name) <;> simp

theorem hits_eq_zero (ht : IsTree t) (hparts : IsSplit parts) (h : ¬ named d <+: p.names) :
    hits t p parts d = 0 := by
  refine List.countP_eq_zero.mpr fun x hx hp => h ?_
  obtain rfl : Path.ofString x = p := by simpa using hp
  exact (extends_of_mem_spread ht hparts hx).2

end Hits

end Cosim.Proofs.Files.Globbing
