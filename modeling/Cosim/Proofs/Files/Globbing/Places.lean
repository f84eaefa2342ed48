import Cosim.Proofs.Files.Globbing.Trees
import Mathlib.Algebra.BigOperators.Group.List.Basic

namespace Cosim.Proofs.Files.Globbing

open Cosim.Files Cosim.Files.Tree Cosim.Files.Glob Cosim.Proofs.Files.Joining
  Cosim.Proofs.Files.Ways Cosim.Proofs.Outcome

/-- A search has come to a directory, or to the end of the path that it looks for: `names` are still
to come. -/
structure Stands (t : Tree) (p : Path) (q : Location) (d : String) (names : List String)
    (place : Location) : Prop where
  slashes : Path.slashesOf d = p.slashes
  names_eq : p.names = named d ++ names
  start : t.walk (root t.here (Path.slashesOf d)) (named d) = .ok place
  onward : t.walk place names = .ok q

/-- The octets of names and of the slashes between them. -/
def size (names : List String) : Nat := (names.map fun name => name.utf8ByteSize + 1).sum

section Places

variable {t : Tree} {p : Path} {q place : Location} {d x name : String}
  {names later chain : List String} {content : ByteArray} {runnable : Bool}

theorem stands_joinText (hx : x.startsWith "/" = false) (hchain : named x = chain)
    (h : Stands t p q d (chain ++ names) place) :
    ∃ place', t.walk place chain = .ok place' ∧ Stands t p q (joinText d x) names place' := by
  obtain ⟨hslashes, hnames, hstart, honward⟩ := h
  rw [walk_append, bind_eq_ok] at honward
  obtain ⟨place', hplace, honward⟩ := honward
  refine ⟨place', hplace, (slashesOf_joinText hx).trans hslashes, ?_, ?_, honward⟩
  · rw [named_joinText hx, hchain, hnames, List.append_assoc]
  · rw [named_joinText hx, slashesOf_joinText hx, hchain, walk_append, hstart]
    exact hplace

theorem Stands.directory (h : Stands t p q d names place) (hne : names ≠ []) :
    t.node? place = some .directory :=
  directory_of_walk h.onward hne

theorem Stands.eq_end (h : Stands t p q d [] place) : place = q := Except.ok.inj h.onward

theorem Stands.locate (h : Stands t p q d names place) (hne : names ≠ [])
    (hsize : d.utf8ByteSize ≤ pathLimit) :
    t.locate (if d.isEmpty then "." else d) = .ok place := by
  by_cases hd : d = ""
  · subst hd
    exact locate_of_walk (by decide) (by decide +kernel) h.start (h.directory hne)
  · rw [if_neg (by simpa using hd)]
    exact locate_of_walk hd hsize h.start (h.directory hne)

theorem Stands.eq_of_locate (h : Stands t p q d names place) {place' : Location}
    (hlocate : t.locate d = .ok place') : place' = place := by
  have hwalk := walk_of_locate hlocate
  rw [h.start] at hwalk
  exact (Except.ok.inj hwalk).symm

theorem size_joinText (hx : x.startsWith "/" = false) :
    (joinText d x).utf8ByteSize ≤ d.utf8ByteSize + x.utf8ByteSize + 1 := by
  by_cases hd : d = ""
  · subst hd
    rw [joinText_empty]
    omega
  · obtain ⟨e, hde, hjoin⟩ := exists_joinText hd
    have hslash : "/".utf8ByteSize = 1 := rfl
    rw [hjoin x hx, String.utf8ByteSize_append, String.utf8ByteSize_append, hslash]
    rcases hde with rfl | ⟨rfl, -⟩
    · rw [String.utf8ByteSize_append, hslash]
      omega
    · omega

theorem size_joined (hne : chain ≠ []) :
    (Path.joined chain).utf8ByteSize + 1 = size chain := by
  induction chain with
  | nil => exact absurd rfl hne
  | cons name rest ih =>
    have hslash : "/".utf8ByteSize = 1 := rfl
    rw [size, List.map_cons, List.sum_cons, ← size]
    by_cases hrest : rest = []
    · rw [hrest, Path.joined, String.intercalate_singleton]
      rfl
    · rw [← ih hrest, Path.joined, String.intercalate_cons_of_ne_nil hrest, ← Path.joined,
        String.utf8ByteSize_append, String.utf8ByteSize_append, hslash]
      omega

theorem size_append (a b : List String) : size (a ++ b) = size a + size b := by
  rw [size, List.map_append, List.sum_append, size, size]

theorem size_cons (name : String) (names : List String) :
    size (name :: names) = name.utf8ByteSize + 1 + size names := by
  rw [size, List.map_cons, List.sum_cons, ← size]

theorem named_name (hname : IsName name) : named name = [name] := by
  rw [named, pieces_of_no_slash hname.no_slash]
  simp [hname.not_idle]

theorem Stands.exists_node (hd : Stands t p q d names place)
    (hq : t.node? q = some (.file content runnable)) : ∃ node, t.node? place = some node := by
  by_cases hne : names = []
  · subst hne
    exact ⟨_, hd.eq_end ▸ hq⟩
  · exact ⟨_, hd.directory hne⟩

theorem Stands.eq_of_locate_directory (h : Stands t p q d names place) {place' : Location}
    (hlocate : t.locate (if d.isEmpty then "." else d) = .ok place') : place' = place := by
  by_cases hd : d = ""
  · subst hd
    have hwalk := walk_of_locate hlocate
    exact (Except.ok.inj (h.start.symm.trans hwalk)).symm
  · rw [if_neg (by simpa using hd)] at hlocate
    exact h.eq_of_locate hlocate

/-- On the way only directories are taken, and a file is at the end of its names. -/
theorem ne_nil_of_isDirectory (hq : t.node? q = some (.file content runnable))
    (hd : Stands t p q d names place) (h : t.isDirectory d = true) : names ≠ [] := by
  rintro rfl
  obtain ⟨place', hlocate, hnode⟩ := isDirectory_iff.mp h
  rw [hd.eq_of_locate hlocate, hd.eq_end, hq] at hnode
  cases hnode

theorem isDirectory_of_stands (hname : IsName name) (hd : Stands t p q d (name :: later) place)
    (hlater : later ≠ []) (hsize : (joinText d name).utf8ByteSize ≤ pathLimit) :
    t.isDirectory (joinText d name) = true := by
  have hstart := startsWith_of_no_slash hname.no_slash
  obtain ⟨place', hplace, hstands⟩ := stands_joinText hstart (named_name hname) hd
  have hdir := hd.directory (List.cons_ne_nil name later)
  exact isDirectory_iff.mpr ⟨place', (locate_joinText hname hd.start hdir hsize).trans hplace,
    hstands.directory hlater⟩

end Places

end Cosim.Proofs.Files.Globbing
