import Cosim.Files.Glob
import Cosim.Proofs.Files.Joining
import Mathlib.Algebra.GroupWithZero.Nat

namespace Cosim.Proofs.Files.Globbing

open Cosim.Files Cosim.Files.Tree Cosim.Files.Glob Cosim.Proofs.Files.Joining
  Cosim.Proofs.Files.Ways Cosim.Proofs.Outcome

/-- A tree as a system has it: a location has one node, and its names stand for themselves. -/
structure IsTree (t : Tree) : Prop where
  distinct : (t.entries.map Prod.fst).Nodup
  named : ∀ e ∈ t.entries, e.1 ≠ [] ∧ ∀ name ∈ e.1, IsPlainName name

section Trees

variable {t : Tree} {place : Location} {node : Node} {name d : String} {chain : List String}
  {directoriesOnly : Bool}

theorem isName_of_isPlainName (h : IsPlainName name) : IsName name := ⟨h.no_slash, h.not_idle⟩

theorem mem_entries_of_node? (hne : place ≠ []) (h : t.node? place = some node) :
    (place, node) ∈ t.entries := by
  rw [node?, if_neg (by simpa using hne)] at h
  obtain ⟨front, back, hentries, -⟩ := List.lookup_eq_some_iff.mp h
  simp [hentries]

theorem IsTree.node?_of_mem (ht : IsTree t) (h : (place, node) ∈ t.entries) :
    t.node? place = some node := by
  rw [node?, if_neg (by simpa using (ht.named _ h).1)]
  obtain ⟨front, back, hentries⟩ := List.append_of_mem h
  refine List.lookup_eq_some_iff.mpr ⟨front, back, hentries, fun e he => ?_⟩
  have hdistinct := ht.distinct
  rw [hentries, List.map_append, List.nodup_append] at hdistinct
  have hne := hdistinct.2.2 e.1 (List.mem_map_of_mem he) place (by simp)
  simpa using hne.symm

theorem IsTree.pairwise (ht : IsTree t) : t.entries.Pairwise fun e e' => e.1 ≠ e'.1 :=
  List.pairwise_map.mp ht.distinct

theorem child_iff {other : Location} :
    (if other.length = place.length + 1 && other.dropLast = place then other.getLast? else none) =
      some name ↔ other = place ++ [name] := by
  constructor
  · intro h
    split_ifs at h with hup
    simp only [Bool.and_eq_true, decide_eq_true_eq] at hup
    rw [← hup.2]
    exact (List.dropLast_append_getLast? name h).symm
  · rintro rfl
    simp

theorem descendant_iff {other : Location} :
    (if place.isPrefixOf other && !(other.drop place.length).isEmpty &&
        !(other.drop place.length).any isHidden && (!directoriesOnly || node = .directory) then
      some (other.drop place.length) else none) = some chain ↔
    other = place ++ chain ∧ chain ≠ [] ∧ (∀ name ∈ chain, isHidden name = false) ∧
      (directoriesOnly = true → node = .directory) := by
  constructor
  · intro h
    split_ifs at h with hall
    obtain rfl := Option.some.inj h
    simp only [Bool.and_eq_true, List.isPrefixOf_iff_prefix, Bool.not_eq_true', List.any_eq_false,
      Bool.or_eq_true, decide_eq_true_eq, List.isEmpty_eq_false_iff, Bool.not_eq_true] at hall
    obtain ⟨⟨⟨hfront, hne⟩, hhidden⟩, hnode⟩ := hall
    refine ⟨?_, hne, hhidden, fun honly => hnode.resolve_left (by simp [honly])⟩
    obtain ⟨back, rfl⟩ := hfront
    rw [List.drop_left]
  · rintro ⟨rfl, hne, hhidden, hnode⟩
    have hany : chain.any isHidden = false := by simpa using hhidden
    have hlast : (!directoriesOnly || decide (node = .directory)) = true := by
      cases directoriesOnly with
      | true => simpa using hnode
      | false => rfl
    rw [List.drop_left, hany, hlast]
    simp [hne]

theorem mem_children (hd : t.locate d = .ok place) (hplace : t.node? place = some .directory) :
    name ∈ t.children d ↔ ∃ node, (place ++ [name], node) ∈ t.entries := by
  simp only [children, hd, hplace, List.mem_filterMap, child_iff, Prod.exists]
  simp

theorem mem_below (hd : t.locate (if d.isEmpty then "." else d) = .ok place) :
    chain ∈ below t directoriesOnly d ↔ chain ≠ [] ∧ (∀ name ∈ chain, isHidden name = false) ∧
      ∃ node, (place ++ chain, node) ∈ t.entries ∧
        (directoriesOnly = true → node = .directory) := by
  simp only [below, hd, List.mem_filterMap, descendant_iff, Prod.exists]
  constructor
  · rintro ⟨other, node, hmem, rfl, hne, hhidden, hnode⟩
    exact ⟨hne, hhidden, node, hmem, hnode⟩
  · rintro ⟨hne, hhidden, node, hmem, hnode⟩
    exact ⟨_, node, hmem, rfl, hne, hhidden, hnode⟩

theorem exists_of_mem_below (h : chain ∈ below t directoriesOnly d) :
    ∃ place, t.locate (if d.isEmpty then "." else d) = .ok place := by
  rw [below] at h
  split at h
  · cases h
  · exact ⟨_, ‹_›⟩

theorem IsTree.nodup_children (ht : IsTree t) (d : String) : (t.children d).Nodup := by
  rw [children]
  split
  · exact List.nodup_nil
  · split
    · refine ht.pairwise.filterMap _ fun e e' hne name hname name' hname' heq => hne ?_
      rw [child_iff.mp hname, child_iff.mp hname', heq]
    · exact List.nodup_nil

theorem IsTree.nodup_below (ht : IsTree t) (directoriesOnly : Bool) (d : String) :
    (below t directoriesOnly d).Nodup := by
  rw [below]
  split
  · exact List.nodup_nil
  · refine ht.pairwise.filterMap _ fun e e' hne chain hchain chain' hchain' heq => hne ?_
    rw [(descendant_iff.mp hchain).1, (descendant_iff.mp hchain').1, heq]

theorem IsTree.isPlainName_of_mem_children (ht : IsTree t) (h : name ∈ t.children d) :
    IsPlainName name := by
  rw [children] at h
  split at h
  · cases h
  · split at h
    · obtain ⟨e, he, hname⟩ := List.mem_filterMap.mp h
      exact (ht.named e he).2 name (by simp [child_iff.mp hname])
    · cases h

theorem IsTree.isPlainName_of_mem_below (ht : IsTree t) (h : chain ∈ below t directoriesOnly d) :
    ∀ name ∈ chain, IsPlainName name := by
  rw [below] at h
  split at h
  · cases h
  · obtain ⟨e, he, hchain⟩ := List.mem_filterMap.mp h
    intro name hname
    exact (ht.named e he).2 name (by simp [(descendant_iff.mp hchain).1, hname])

end Trees

section Nodes

variable {t : Tree} {text : String} {place q : Location} {chain : List String}

theorem has_iff : t.has text = true ↔
    ∃ q node, t.locate text = .ok q ∧ t.node? q = some node := by
  rw [exists_comm]
  simp only [← find_eq_ok]
  rw [has]
  cases t.find text <;> simp [Except.toOption]

theorem isDirectory_iff : t.isDirectory text = true ↔
    ∃ q, t.locate text = .ok q ∧ t.node? q = some .directory := by
  rw [← find_eq_ok, isDirectory]
  split
  · next hfind => simp [hfind]
  · next hfind => simpa using hfind

/-- Names that are not hidden lead down. -/
theorem eq_of_walk_visible (hnames : ∀ name ∈ chain, IsName name)
    (hvisible : ∀ name ∈ chain, isHidden name = false) (h : t.walk place chain = .ok q) :
    q = place ++ chain := by
  induction chain generalizing place with
  | nil => simpa using (Except.ok.inj h).symm
  | cons name rest ih =>
    obtain ⟨hname, hrest⟩ := List.forall_mem_cons.mp hnames
    obtain ⟨hv, hvisible⟩ := List.forall_mem_cons.mp hvisible
    have hup : name ≠ ".." := by
      rintro rfl
      exact absurd hv (by decide +kernel)
    have hnext : next place name = place ++ [name] := by
      rw [next, if_neg (by simp [hname.not_idle]), if_neg hup]
    rw [walk_cons] at h
    split at h
    · cases h
    · split_ifs at h
      rw [hnext] at h
      rw [ih hrest hvisible h, List.append_assoc, List.singleton_append]

end Nodes

end Cosim.Proofs.Files.Globbing
