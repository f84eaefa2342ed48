import Cosim.Proofs.Files.Globbing.Places
import Cosim.Proofs.Files.Globbing.Search
import Cosim.Proofs.Files.Globbing.Shares
import Mathlib.Algebra.Group.Action.Defs

namespace Cosim.Proofs.Files.Globbing

open Cosim.Files Cosim.Files.Tree Cosim.Files.Glob Cosim.Proofs.Files.Joining
  Cosim.Proofs.Files.Ways Cosim.Proofs.Outcome

/-- How often a search finds a path, against the ways to share out the names that are still to come.
It misses none unless a text on its way is longer than a path may be. -/
structure Bounds (t : Tree) (p : Path) (parts : List GlobPart) (d : String) (names : List String) :
    Prop where
  most : hits t p parts d ≤ ways parts names
  least : d.utf8ByteSize + size names + 2 * parts.length ≤ pathLimit →
    ways parts names ≤ hits t p parts d

def Counts (t : Tree) (p : Path) (q : Location) (parts : List GlobPart) : Prop :=
  ∀ {d names place}, Stands t p q d names place → Bounds t p parts d names

section Bounds

variable {t : Tree} {p : Path} {q place : Location} {d x name : String}
  {rest parts : List GlobPart} {names later chain : List String} {content : ByteArray}
  {runnable hidden : Bool} {items : List Wildcard.Item}

theorem bounds_zero (hhits : hits t p parts d = 0) (hways : ways parts names = 0) :
    Bounds t p parts d names :=
  ⟨by omega, by omega⟩

/-- What is found once at most, and only if `allowed`, counts once at most. -/
theorem count_mul_le {α : Type} [BEq α] [LawfulBEq α] {a : α} {found : List α} {allowed : Bool}
    {m n : Nat} (hnodup : found.Nodup) (hmem : a ∈ found → allowed = true) (hle : m ≤ n) :
    found.count a * m ≤ if allowed then n else 0 := by
  by_cases h : a ∈ found
  · rw [List.count_eq_one_of_mem hnodup h, Nat.one_mul, if_pos (hmem h)]
    exact hle
  · rw [List.count_eq_zero_of_not_mem h, Nat.zero_mul]
    exact Nat.zero_le _

theorem le_count_mul {α : Type} [BEq α] [LawfulBEq α] {a : α} {found : List α} {allowed : Bool}
    {m n : Nat} (hmem : allowed = true → a ∈ found) (hle : allowed = true → n ≤ m) :
    (if allowed then n else 0) ≤ found.count a * m := by
  split_ifs with h
  · exact (hle h).trans (Nat.le_mul_of_pos_left m (List.count_pos_iff.mpr (hmem h)))
  · exact Nat.zero_le _

theorem hits_joinText (ht : IsTree t) (hrest : IsSplit rest) (hd : Stands t p q d names place)
    (hx : x.startsWith "/" = false) (h : ¬ named x <+: names) :
    hits t p rest (joinText d x) = 0 := by
  refine hits_eq_zero ht hrest ?_
  rwa [named_joinText hx, hd.names_eq, List.prefix_append_right_inj]

theorem bounds_exact (ht : IsTree t) (hrest : IsSplit rest) (hname : IsName name)
    (hq : t.node? q = some (.file content runnable)) (h : Counts t p q rest)
    (hd : Stands t p q d names place) :
    Bounds t p (.exact name :: rest) d names := by
  have hstart := startsWith_of_no_slash hname.no_slash
  have hhits := hits_exact t p name rest d
  have hways := ways_exact hname.not_idle rest names
  by_cases hhead : names.head? = some name
  · obtain ⟨later, rfl⟩ := List.head?_eq_some_iff.mp hhead
    rw [if_pos hhead, List.tail_cons] at hways
    obtain ⟨place', hplace, hlater⟩ :=
      stands_joinText hstart (named_name hname) hd
    obtain ⟨hmost, hleast⟩ := h hlater
    refine ⟨?_, fun hfits => ?_⟩
    · rw [hhits, hways]
      split_ifs
      · exact hmost
      · exact Nat.zero_le _
    · rw [List.length_cons, size_cons] at hfits
      have hsize := size_joinText (d := d) hstart
      obtain ⟨node, hnode⟩ := hlater.exists_node hq
      have hdir := hd.directory (List.cons_ne_nil name later)
      have hhas : t.has (joinText d name) = true :=
        has_iff.mpr ⟨place', node, (locate_joinText hname hd.start hdir (by omega)).trans hplace,
          hnode⟩
      rw [hhits, hways, if_pos hhas]
      exact hleast (by omega)
  · have hnext : ¬ named name <+: names := by
      rw [named_name hname]
      rintro ⟨later, rfl⟩
      exact hhead rfl
    rw [hits_joinText ht hrest hd hstart hnext, ite_self] at hhits
    exact bounds_zero hhits (hways.trans (if_neg hhead))

theorem bounds_idle (hslash : '/' ∉ name.toList) (hidle : isIdle name = true)
    (hlast : name = "" → rest = []) (hq : t.node? q = some (.file content runnable))
    (h : Counts t p q rest) (hd : Stands t p q d names place) :
    Bounds t p (.exact name :: rest) d names := by
  have hstart := startsWith_of_no_slash hslash
  have hnamed : named name = [] := by
    rw [named, pieces_of_no_slash hslash]
    simp [hidle]
  have hhits := hits_exact t p name rest d
  have hways := ways_idle hidle rest names
  obtain ⟨place', hplace, hlater⟩ := stands_joinText hstart hnamed hd
  obtain rfl : place = place' := Except.ok.inj hplace
  by_cases hne : names = []
  · subst hne
    refine bounds_zero ?_ hways
    rw [hhits, if_neg]
    intro hhas
    obtain ⟨place', node, hlocate, -⟩ := has_iff.mp hhas
    have hdir := directory_of_locate_idle hslash hidle hlocate
    rw [hlater.eq_of_locate hlocate, hd.eq_end, hq] at hdir
    cases hdir
  · rw [if_neg (by simpa using hne)] at hways
    obtain ⟨hmost, hleast⟩ := h hlater
    refine ⟨?_, fun hfits => ?_⟩
    · rw [hhits, hways]
      split_ifs
      · exact hmost
      · exact Nat.zero_le _
    · by_cases hempty : name = ""
      · rw [hways, hlast hempty, ways, if_neg (by simpa using hne)]
        exact Nat.zero_le _
      · have hdot : name.utf8ByteSize = 1 := by
          rw [isIdle, beq_false_of_ne hempty, Bool.false_or, beq_iff_eq] at hidle
          rw [hidle]
          rfl
        rw [List.length_cons] at hfits
        have hsize := size_joinText (d := d) hstart
        have hlocate : t.locate (joinText d name) = .ok place :=
          locate_of_walk (joinText_ne_empty hstart hempty) (by omega) hlater.start
            (hd.directory hne)
        rw [hhits, hways, if_pos (has_iff.mpr ⟨place, _, hlocate, hd.directory hne⟩)]
        exact hleast (by omega)

/-- The names in a directory that a pattern for a single name takes. -/
def taken (t : Tree) (directoriesOnly : Bool) (d : String) (hidden : Bool)
    (items : List Wildcard.Item) : List String :=
  (listing t directoriesOnly d).filter fun name =>
    (hidden || !isHidden name) && Wildcard.test items name.toList

theorem mem_taken (ht : IsTree t) {directoriesOnly : Bool} :
    name ∈ taken t directoriesOnly d hidden items ↔
      takes hidden items name = true ∧ name ∈ t.children (if d.isEmpty then "." else d) ∧
        (directoriesOnly = true → t.isDirectory (joinText d name) = true) := by
  have hdir : (!directoriesOnly || t.isDirectory (joinText d name)) = true ↔
      (directoriesOnly = true → t.isDirectory (joinText d name) = true) := by
    cases directoriesOnly <;> simp
  rw [taken, List.mem_filter, listing, List.mem_filter, hdir, Wildcard.test_eq_isMatch, takes,
    Bool.and_eq_true (name != ".." && _), Bool.and_eq_true (name != ".."), Bool.and_eq_true,
    bne_iff_ne]
  constructor
  · rintro ⟨⟨hchild, hdir⟩, hvisible, hmatch⟩
    exact ⟨⟨⟨(ht.isPlainName_of_mem_children hchild).not_up, hvisible⟩, hmatch⟩, hchild, hdir⟩
  · rintro ⟨⟨⟨-, hvisible⟩, hmatch⟩, hchild, hdir⟩
    exact ⟨⟨hchild, hdir⟩, hvisible, hmatch⟩

theorem nodup_taken (ht : IsTree t) (directoriesOnly : Bool) (d : String) :
    (taken t directoriesOnly d hidden items).Nodup :=
  ((ht.nodup_children _).filter _).filter _

theorem entry_of_walk (hname : IsName name) (hup : name ≠ "..") {place' : Location} {node : Node}
    (h : t.walk place [name] = .ok place') (hnode : t.node? place' = some node) :
    (place ++ [name], node) ∈ t.entries := by
  have hgoal : next place name = place' := (walk_eq_ok.mp h).2.2
  rw [next, if_neg (by simp [hname.not_idle]), if_neg hup] at hgoal
  exact mem_entries_of_node? (by simp) (hgoal ▸ hnode)

theorem mem_taken_of_takes (ht : IsTree t) (hname : IsName name)
    (hq : t.node? q = some (.file content runnable)) (hd : Stands t p q d (name :: later) place)
    (htakes : takes hidden items name = true) {directoriesOnly : Bool}
    (honward : directoriesOnly = true → later ≠ [])
    (hsize : d.utf8ByteSize + name.utf8ByteSize + 1 ≤ pathLimit) :
    name ∈ taken t directoriesOnly d hidden items := by
  have hstart := startsWith_of_no_slash hname.no_slash
  have hjoin := size_joinText (d := d) hstart
  obtain ⟨place', hplace, hstands⟩ := stands_joinText hstart (named_name hname) hd
  obtain ⟨node, hnode⟩ := hstands.exists_node hq
  have hup : name ≠ ".." := by
    rintro rfl
    cases htakes
  refine (mem_taken ht).mpr ⟨htakes, ?_, fun honly => ?_⟩
  · have hne : name :: later ≠ [] := List.cons_ne_nil name later
    exact (mem_children (hd.locate hne (by omega)) (hd.directory hne)).mpr
      ⟨node, entry_of_walk hname hup hplace hnode⟩
  · exact isDirectory_of_stands hname hd (honward honly) (by omega)

theorem onward_iff (rest : List GlobPart) (later : List String) :
    (rest.isEmpty || !later.isEmpty) = true ↔ ((!rest.isEmpty) = true → later ≠ []) := by
  cases rest.isEmpty <;> simp

theorem bounds_wild (ht : IsTree t) (hrest : IsSplit rest) (hp : IsPath p)
    (hq : t.node? q = some (.file content runnable)) (h : Counts t p q rest)
    (hd : Stands t p q d names place) :
    Bounds t p (.wild hidden items :: rest) d names := by
  have hhits : hits t p (.wild hidden items :: rest) d =
      ((taken t (!rest.isEmpty) d hidden items).map fun name =>
        hits t p rest (joinText d name)).sum := by
    rw [hits_cons, Glob.find, List.map_map]
    rfl
  have hother : ∀ name ∈ taken t (!rest.isEmpty) d hidden items, ¬ [name] <+: names →
      hits t p rest (joinText d name) = 0 := by
    intro name hname hnext
    have hplain := ht.isPlainName_of_mem_children ((mem_taken ht).mp hname).2.1
    have hname := isName_of_isPlainName hplain
    rw [← named_name hname] at hnext
    exact hits_joinText ht hrest hd (startsWith_of_no_slash hname.no_slash) hnext
  cases names with
  | nil =>
    refine bounds_zero (hhits.trans (List.sum_eq_zero ?_)) rfl
    intro n hn
    obtain ⟨name, hname, rfl⟩ := List.mem_map.mp hn
    exact hother name hname (by simp)
  | cons name later =>
    have hname : IsName name := hp.names name (by simp [hd.names_eq])
    have hstart := startsWith_of_no_slash hname.no_slash
    have hnext : ∀ other ≠ name, other ∈ taken t (!rest.isEmpty) d hidden items →
        hits t p rest (joinText d other) = 0 := fun other hne hmem =>
      hother other hmem fun hfront => hne (List.cons_prefix_cons.mp hfront).1
    rw [List.sum_map_eq_nsmul_single name _ hnext, smul_eq_mul] at hhits
    obtain ⟨place', -, hlater⟩ := stands_joinText hstart (named_name hname) hd
    obtain ⟨hmost, hleast⟩ := h hlater
    refine ⟨?_, fun hfits => ?_⟩
    · rw [hhits, ways_wild]
      refine count_mul_le (nodup_taken ht _ d) (fun hmem => ?_) hmost
      obtain ⟨htakes, -, hdirectory⟩ := (mem_taken ht).mp hmem
      refine Bool.and_eq_true_iff.mpr ⟨htakes, (onward_iff rest later).mpr fun hon => ?_⟩
      exact ne_nil_of_isDirectory hq hlater (hdirectory hon)
    · rw [List.length_cons, size_cons] at hfits
      have hsize := size_joinText (d := d) hstart
      rw [hhits, ways_wild]
      refine le_count_mul (fun hallowed => ?_) fun _ => hleast (by omega)
      obtain ⟨htakes, honward⟩ := Bool.and_eq_true_iff.mp hallowed
      exact mem_taken_of_takes ht hname hq hd htakes ((onward_iff rest later).mp honward) (by omega)

end Bounds

end Cosim.Proofs.Files.Globbing
