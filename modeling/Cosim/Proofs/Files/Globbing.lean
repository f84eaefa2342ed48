import Cosim.Proofs.Files.Globbing.Names

namespace Cosim.Proofs.Files.Globbing

open Cosim.Files Cosim.Files.Tree Cosim.Files.Glob Cosim.Proofs.Files.Joining
  Cosim.Proofs.Files.Ways Cosim.Proofs.Outcome

section Bounds

variable {t : Tree} {p : Path} {q place : Location} {d x name : String}
  {rest parts : List GlobPart} {names later chain : List String} {content : ByteArray}
  {runnable hidden : Bool} {items : List Wildcard.Item}

theorem sum_map_starts {chains : List (List String)} {f : List String → Nat}
    (hf : ∀ chain ∈ chains, f chain ≠ 0 → chain ≠ [] ∧ chain <+: names) :
    (chains.map f).sum = ∑ i ∈ Finset.range names.length,
      chains.count (names.take (i + 1)) * f (names.take (i + 1)) := by
  induction chains with
  | nil => simp
  | cons chain chains ih =>
    obtain ⟨hchain, hchains⟩ := List.forall_mem_cons.mp hf
    -- each chain counts at its own length, and a chain that counts is such a start
    have hone : ∑ i ∈ Finset.range names.length,
        (if chain == names.take (i + 1) then 1 else 0) * f (names.take (i + 1)) = f chain := by
      by_cases hzero : f chain = 0
      · rw [hzero]
        refine Finset.sum_eq_zero fun i _ => ?_
        split_ifs with heq
        · rw [← beq_iff_eq.mp heq, hzero, Nat.mul_zero]
        · exact Nat.zero_mul _
      · obtain ⟨hne, hfront⟩ := hchain hzero
        have hpos := List.length_pos_iff.mpr hne
        have hle := hfront.length_le
        have htake : names.take (chain.length - 1 + 1) = chain := by
          rw [Nat.sub_add_cancel hpos]
          exact (List.prefix_iff_eq_take.mp hfront).symm
        rw [Finset.sum_eq_single (chain.length - 1)]
        · rw [htake, beq_self_eq_true, if_pos rfl, Nat.one_mul]
        · intro i hi hother
          rw [if_neg, Nat.zero_mul]
          intro heq
          have hlength := congrArg List.length (beq_iff_eq.mp heq)
          rw [List.length_take] at hlength
          have hi := Finset.mem_range.mp hi
          omega
        · intro hout
          exact absurd (Finset.mem_range.mpr (by omega)) hout
    rw [List.map_cons, List.sum_cons, ih hchains, ← hone, ← Finset.sum_add_distrib]
    refine Finset.sum_congr rfl fun i _ => ?_
    rw [List.count_cons, Nat.add_mul, Nat.add_comm]

/-- A chain of names that are not hidden leads from a directory to what is found below it. -/
theorem mem_below_iff (ht : IsTree t) (hchain : ∀ name ∈ chain, IsName name) (hne : chain ≠ [])
    (hq : t.node? q = some (.file content runnable)) (hd : Stands t p q d (chain ++ later) place)
    {directoriesOnly : Bool} (hlocate : t.locate (if d.isEmpty then "." else d) = .ok place) :
    chain ∈ below t directoriesOnly d ↔ (∀ name ∈ chain, isHidden name = false) ∧
      (directoriesOnly = true → later ≠ []) := by
  have hwalk := hd.onward
  rw [walk_append, bind_eq_ok] at hwalk
  obtain ⟨place', hplace, honward⟩ := hwalk
  have hnonempty : place ++ chain ≠ [] := by simp [hne]
  rw [mem_below hlocate]
  constructor
  · rintro ⟨-, hvisible, node, hentry, hnode⟩
    refine ⟨hvisible, ?_⟩
    rintro honly rfl
    obtain rfl := eq_of_walk_visible hchain hvisible hplace
    obtain rfl : place ++ chain = q := Except.ok.inj honward
    rw [ht.node?_of_mem hentry, hnode honly] at hq
    cases hq
  · rintro ⟨hvisible, honly⟩
    obtain rfl := eq_of_walk_visible hchain hvisible hplace
    by_cases hlater : later = []
    · subst hlater
      obtain rfl : place ++ chain = q := Except.ok.inj honward
      exact ⟨hne, hvisible, _, mem_entries_of_node? hnonempty hq, fun h => absurd rfl (honly h)⟩
    · exact ⟨hne, hvisible, _,
        mem_entries_of_node? hnonempty (directory_of_walk honward hlater), fun _ => rfl⟩

theorem bounds_chain (ht : IsTree t) (hp : IsPath p) (hne : chain ≠ [])
    (hq : t.node? q = some (.file content runnable)) (h : Counts t p q rest)
    (hd : Stands t p q d (chain ++ later) place) :
    (below t (!rest.isEmpty) d).count chain * hits t p rest (joinText d (Path.joined chain)) ≤
        (if chain.all (fun name => !isHidden name) && (rest.isEmpty || !later.isEmpty) then
          ways rest later else 0) ∧
      (d.utf8ByteSize + size (chain ++ later) + 2 * rest.length ≤ pathLimit →
        (if chain.all (fun name => !isHidden name) && (rest.isEmpty || !later.isEmpty) then
          ways rest later else 0) ≤
          (below t (!rest.isEmpty) d).count chain *
            hits t p rest (joinText d (Path.joined chain))) := by
  have hchain : ∀ name ∈ chain, IsName name := fun name hname =>
    hp.names name (by simp [hd.names_eq, hname])
  have hstart := startsWith_joined hchain
  obtain ⟨place', -, hlater⟩ := stands_joinText hstart (named_joined hchain) hd
  obtain ⟨hmost, hleast⟩ := h hlater
  have hallowed : (chain.all (fun name => !isHidden name) &&
      (rest.isEmpty || !later.isEmpty)) = true ↔
      (∀ name ∈ chain, isHidden name = false) ∧ ((!rest.isEmpty) = true → later ≠ []) := by
    rw [Bool.and_eq_true, onward_iff]
    simp
  refine ⟨?_, fun hfits => ?_⟩
  · refine count_mul_le (ht.nodup_below _ d) (fun hmem => hallowed.mpr ?_) hmost
    obtain ⟨place'', hlocate⟩ := exists_of_mem_below hmem
    obtain rfl := hd.eq_of_locate_directory hlocate
    exact (mem_below_iff ht hchain hne hq hd hlocate).mp hmem
  · rw [size_append] at hfits
    have hsize := size_joinText (d := d) hstart
    have hjoined := size_joined hne
    refine le_count_mul (fun hvisible => ?_) fun _ => hleast (by omega)
    have hlocate := hd.locate (by simp [hne]) (by omega)
    exact (mem_below_iff ht hchain hne hq hd hlocate).mpr (hallowed.mp hvisible)

theorem bounds_deep (ht : IsTree t) (hrest : IsSplit rest) (hp : IsPath p)
    (hq : t.node? q = some (.file content runnable)) (h : Counts t p q rest)
    (hd : Stands t p q d names place) :
    Bounds t p (.deep :: rest) d names := by
  have hstarts : ∀ chain ∈ below t (!rest.isEmpty) d,
      hits t p rest (joinText d (Path.joined chain)) ≠ 0 → chain ≠ [] ∧ chain <+: names := by
    intro chain hmem hhits
    obtain ⟨place', hlocate⟩ := exists_of_mem_below hmem
    have hchain : ∀ name ∈ chain, IsName name := fun name hname =>
      isName_of_isPlainName (ht.isPlainName_of_mem_below hmem name hname)
    refine ⟨((mem_below hlocate).mp hmem).1, ?_⟩
    by_contra hfront
    rw [← named_joined hchain] at hfront
    exact hhits (hits_joinText ht hrest hd (startsWith_joined hchain) hfront)
  have hhits : hits t p (.deep :: rest) d = hits t p rest (joinText d "") +
      ∑ i ∈ Finset.range names.length, (below t (!rest.isEmpty) d).count (names.take (i + 1)) *
        hits t p rest (joinText d (Path.joined (names.take (i + 1)))) := by
    rw [hits_cons, Glob.find, List.map_cons, List.sum_cons, List.map_map]
    exact congrArg _ (sum_map_starts hstarts)
  have hempty : ("" : String).startsWith "/" = false := by decide +kernel
  obtain ⟨place', -, hhere⟩ := stands_joinText hempty (show named "" = [] from rfl) hd
  obtain ⟨hmost, hleast⟩ := h hhere
  have hsplit : ∀ i, Stands t p q d (names.take (i + 1) ++ names.drop (i + 1)) place := fun i =>
    (List.take_append_drop (i + 1) names).symm ▸ hd
  have hne : ∀ i ∈ Finset.range names.length, names.take (i + 1) ≠ [] := by
    intro i hi
    have hlt := Finset.mem_range.mp hi
    refine List.ne_nil_of_length_pos ?_
    rw [List.length_take]
    omega
  refine ⟨?_, fun hfits => ?_⟩
  · rw [hhits, ways_deep]
    exact Nat.add_le_add hmost (Finset.sum_le_sum fun i hi =>
      (bounds_chain ht hp (hne i hi) hq h (hsplit i)).1)
  · rw [List.length_cons] at hfits
    have hsize := size_joinText (d := d) hempty
    rw [show ("" : String).utf8ByteSize = 0 from rfl] at hsize
    rw [hhits, ways_deep]
    refine Nat.add_le_add (hleast (by omega)) (Finset.sum_le_sum fun i hi => ?_)
    refine (bounds_chain ht hp (hne i hi) hq h (hsplit i)).2 ?_
    rw [List.take_append_drop]
    omega

theorem counts (ht : IsTree t) (hp : IsPath p) (hq : t.node? q = some (.file content runnable))
    (hparts : IsSplit parts) : Counts t p q parts := by
  -- over the parts, for every directory that the search may have come to
  induction parts with
  | nil =>
    intro d names place hd
    have hhits : hits t p [] d = ways [] names := by
      rw [hits_nil, ways, ofString_eq]
      obtain ⟨slashes, all⟩ := p
      have hnames : all = named d ++ names := hd.names_eq
      have hslashes : Path.slashesOf d = slashes := hd.slashes
      rw [hnames, hslashes]
      cases names <;> simp
    exact ⟨hhits.le, fun _ => hhits.ge⟩
  | cons part rest ih =>
    obtain ⟨hpart, hrest⟩ := hparts.of_cons
    intro d names place hd
    cases part with
    | exact name =>
      cases hidle : isIdle name with
      | true =>
        refine bounds_idle (hpart name rfl) hidle (fun hempty => ?_) hq (ih hrest) hd
        exact hparts.last [] rest (hempty ▸ rfl)
      | false => exact bounds_exact ht hrest ⟨hpart name rfl, hidle⟩ hq (ih hrest) hd
    | wild hidden items => exact bounds_wild ht hrest hp hq (ih hrest) hd
    | deep => exact bounds_deep ht hrest hp hq (ih hrest) hd

end Bounds

end Cosim.Proofs.Files.Globbing
