import Cosim.Proofs.Alignment.Assignment

namespace Cosim.Proofs.Alignment.Agreement

open Cosim.Trace Cosim.Align Cosim.Report
open Cosim.Proofs.Retirement.Group Cosim.Proofs.Retirement.Segment
open Cosim.Proofs.Alignment.SegmentWalk Cosim.Proofs.Alignment.Assignment

/-- An instruction as the events show it and as the commit shows it: a fetched word with changes,
each of them written by the commit. -/
structure Agrees (c : Commit) (r : Int × List StateChange) : Prop where
  silent : r.2 = [] ↔ c.registerWrites = []
  pc : ∀ e ∈ r.2, e.pc = c.pc
  matched : ∀ e ∈ r.2, ∃ w ∈ c.registerWrites, w.isMatch e.register e.value = true

/-- The events of instructions one behind the other, with one reset. Accesses to memory may stand
anywhere, and a last fetch may be followed by what no commit belongs to. -/
structure IsTrace (reset : Int) (retired : List (Int × List StateChange)) (events : List Event) :
    Prop where
  resets : events.filterMap Event.resetTarget? = [reset]
  instructions : ∃ further, events.filter isRelevant = retired.flatMap logged ++ further ∧
    ∀ e ∈ further.head?, e.isFetch = true

def Passes (c : Commit) (group : List StateChange) : Prop :=
  isAt c.pc group = true ∧ ∀ e ∈ group, isReported c e = true

theorem isReported_iff {c : Commit} {e : StateChange} :
    isReported c e = true ↔ ∃ w ∈ c.registerWrites, w.isMatch e.register e.value = true := by
  rw [isReported, List.any_eq_true]

theorem Agrees.exists_pc {c : Commit} {r : Int × List StateChange} (h : Agrees c r) :
    ∃ pc, ∀ e ∈ r.2, e.pc = pc := ⟨c.pc, h.pc⟩

theorem isAt_of_pc {pc : Int} {group : List StateChange} (hn : group ≠ [])
    (h : ∀ e ∈ group, e.pc = pc) : isAt pc group = true := by
  obtain ⟨e, rest, rfl⟩ := List.exists_cons_of_ne_nil hn
  simp [isAt, h e List.mem_cons_self]

theorem Agrees.passes {c : Commit} {r : Int × List StateChange} (h : Agrees c r)
    (hn : r.2 ≠ []) : Passes c r.2 :=
  ⟨isAt_of_pc hn h.pc, fun e he => isReported_iff.mpr (h.matched e he)⟩

variable {commits : List Commit} {retired : List (Int × List StateChange)}

theorem exists_pc_of_agree (h : List.Forall₂ Agrees commits retired) :
    ∀ r ∈ retired, ∃ pc, ∀ e ∈ r.2, e.pc = pc := by
  induction h with
  | nil => simp
  | cons hr _ ih => exact List.forall_mem_cons.mpr ⟨hr.exists_pc, ih⟩

/-- The commits that write registers and the groups that are not empty belong together. -/
theorem passes_of_agree (h : List.Forall₂ Agrees commits retired) :
    List.Forall₂ Passes (commits.filter Commit.hasRegisterWrites)
      ((retired.map Prod.snd).filter fun s => !s.isEmpty) := by
  induction h with
  | nil => exact .nil
  | @cons c r commits retired hr _ ih =>
    rw [List.map_cons]
    by_cases hn : r.2 = []
    · have hc : c.registerWrites = [] := hr.silent.mp hn
      rw [List.filter_cons_of_neg (by simp [Commit.hasRegisterWrites, hc]),
        List.filter_cons_of_neg (by simp [hn])]
      exact ih
    · have hc : c.registerWrites ≠ [] := fun hc => hn (hr.silent.mpr hc)
      rw [List.filter_cons_of_pos (by simpa [Commit.hasRegisterWrites] using hc),
        List.filter_cons_of_pos (by simpa using hn)]
      exact .cons (hr.passes hn) ih

theorem firstDifference_append {passed : List Commit} {taken : List (List StateChange)}
    (h : List.Forall₂ Passes passed taken) (commits : List Commit)
    (rest : List (List StateChange)) :
    firstDifference (passed ++ commits) (taken ++ rest) = firstDifference commits rest := by
  induction h with
  | nil => rfl
  | @cons c s passed taken hs _ ih =>
    have hr : s.find? (fun e => !isReported c e) = none := by
      rw [List.find?_eq_none]
      intro e he
      simp [hs.2 e he]
    rw [List.cons_append, List.cons_append, firstDifference,
      List.dropWhile_cons_of_neg (by simp [hs.1])]
    simp only [hr]
    exact ih

theorem firstDifference_of_prefix {passed : List Commit} {taken : List (List StateChange)}
    (h : List.Forall₂ Passes commits taken) (hp : passed <+: commits)
    (rest : List (List StateChange)) : firstDifference passed (taken ++ rest) = none := by
  have hpt : List.Forall₂ Passes passed (taken.take passed.length) := by
    have ht := List.forall₂_take passed.length h
    rwa [← List.prefix_iff_eq_take.mp hp] at ht
  have hs : taken ++ rest = taken.take passed.length ++ (taken.drop passed.length ++ rest) := by
    rw [← List.append_assoc, List.take_append_drop]
  have hd := firstDifference_append hpt [] (taken.drop passed.length ++ rest)
  rwa [List.append_nil, ← hs] at hd

theorem segments_filter (events : List Event) :
    segments (events.filter isRelevant) = segments events := by
  simp only [segments, List.filter_filter, Bool.and_self]

theorem isBoundary_of_isFetch (before : List Event) {further : List Event}
    (h : ∀ e ∈ further.head?, e.isFetch = true) : IsBoundary before further := by
  intro x _ y hy
  cases further with
  | nil => simp at hy
  | cons e further =>
    cases e with
    | fetch w =>
      have hy' : Event.fetch w = y := by simpa [isRelevant] using hy
      subst hy'
      cases x <;> rfl
    | memory a w p | change c | reset t => cases h _ rfl

theorem segments_of_isTrace {reset : Int} {events : List Event}
    (hpc : ∀ r ∈ retired, ∃ pc, ∀ e ∈ r.2, e.pc = pc) (h : IsTrace reset retired events) :
    ∃ rest, segments events = ((retired.map Prod.snd).filter fun s => !s.isEmpty) ++ rest := by
  obtain ⟨further, he, hf⟩ := h.instructions
  refine ⟨segments further, ?_⟩
  rw [← segments_filter, he, segments_append (isBoundary_of_isFetch _ hf),
    segments_flatMap_logged hpc]

section Synchronised

variable {reset : Int} {boot : List Commit}

theorem dropWhile_boot (hb : ∀ c ∈ boot, c.pc ≠ reset)
    (hfirst : commits.head?.map Commit.pc = some reset) :
    (boot ++ commits).dropWhile (fun c => c.pc != reset) = commits := by
  cases commits with
  | nil => cases hfirst
  | cons c commits =>
    have hc : c.pc = reset := by simpa using hfirst
    rw [List.dropWhile_append_of_pos (by simpa using hb),
      List.dropWhile_cons_of_neg (by simp [hc])]

theorem walked_none (hb : ∀ c ∈ boot, c.pc ≠ reset)
    (hfirst : commits.head?.map Commit.pc = some reset) :
    walked (boot ++ commits) reset none = commits.filter Commit.hasRegisterWrites := by
  have htake : commits.takeWhile (fun c => none != some c.pc) = commits :=
    List.takeWhile_eq_self_iff.mpr fun _ _ => rfl
  rw [walked, dropWhile_boot hb hfirst, htake]

theorem not_all_ne (hfirst : commits.head?.map Commit.pc = some reset) :
    ¬ (boot ++ commits).all (·.pc != reset) = true := by
  cases commits with
  | nil => cases hfirst
  | cons c commits =>
    have hc : c.pc = reset := by simpa using hfirst
    simp [hc]

theorem compare_of_resets (hfirst : commits.head?.map Commit.pc = some reset)
    {events : List Event} (hreset : events.filterMap Event.resetTarget? = [reset])
    (pattern : Option EndPattern) :
    (Align.compare (boot ++ commits) events pattern).map Verdict.ofComparison =
      .ok (verdict (difference reset (boot ++ commits) events pattern)) := by
  have hc : boot ++ commits ≠ [] := by
    cases commits with
    | nil => cases hfirst
    | cons c commits => simp
  have he : events ≠ [] := by
    rintro rfl
    cases hreset
  rw [compare_map_verdict, reference, if_neg hc, if_neg he, hreset]

end Synchronised

/-- Commits that start at the reset, behind commits that are not at it, agree with the events of the
same instructions: the comparison passes, and with every end pattern that some commit performs. -/
theorem agreeing_traces_pass {reset : Int} {boot commits : List Commit}
    {retired : List (Int × List StateChange)} {events : List Event}
    (hb : ∀ c ∈ boot, c.pc ≠ reset) (hfirst : commits.head?.map Commit.pc = some reset)
    (h : List.Forall₂ Agrees commits retired) (ht : IsTrace reset retired events) :
    (Align.compare (boot ++ commits) events none).map Verdict.ofComparison = .ok .pass ∧
      ∀ p, (∃ c ∈ boot ++ commits, performs p c = true) →
        (Align.compare (boot ++ commits) events (some p)).map Verdict.ofComparison = .ok .pass := by
  obtain ⟨rest, hs⟩ := segments_of_isTrace (exists_pc_of_agree h) ht
  have hpass : ∀ stop, firstDifference (walked (boot ++ commits) reset stop) (segments events) =
      none := by
    intro stop
    rw [hs, walked, dropWhile_boot hb hfirst]
    exact firstDifference_of_prefix (passes_of_agree h)
      ((List.takeWhile_prefix _).filter _) rest
  constructor
  · rw [compare_of_resets hfirst ht.resets, difference, if_neg (not_all_ne hfirst), hpass]
    rfl
  · rintro p ⟨c, hc, hp⟩
    rw [compare_of_resets hfirst ht.resets, difference, if_neg (not_all_ne hfirst)]
    cases hf : (boot ++ commits).find? (performs p) with
    | none => exact absurd hp (List.find?_eq_none.mp hf c hc)
    | some last =>
      dsimp only
      rw [hpass]
      rfl

def bootCommits : List Commit := [⟨0, 3, 0x1000, 0x13, [⟨"x5", 0x80⟩], []⟩]

def storeLoop : List Commit :=
  [⟨0, 3, 0x80, 0x13, [⟨"sp", 1⟩], []⟩, ⟨0, 3, 0x84, 0x23, [], [⟨0x40, some 1⟩]⟩,
    ⟨0, 3, 0x80, 0x13, [⟨"a0", 7⟩, ⟨"sp", 2⟩], []⟩]

def storeLoopRetired : List (Int × List StateChange) :=
  [(0x13, [⟨"write", 0x80, 2, 1⟩]), (0x23, []),
    (0x13, [⟨"write", 0x80, 10, 7⟩, ⟨"write", 0x80, 2, 2⟩])]

def storeLoopEvents : List Event :=
  [.memory "read" 4 0x80, .reset 0x80, .fetch 0x13, .change ⟨"write", 0x80, 2, 1⟩, .fetch 0x23,
    .memory "write" 8 0x40, .fetch 0x13, .change ⟨"write", 0x80, 10, 7⟩, .memory "read" 4 0x80,
    .change ⟨"write", 0x80, 2, 2⟩, .fetch 0x6f, .change ⟨"write", 0x84, 9, 9⟩]

/-- The loop passes, to its end and up to the store. -/
theorem storeLoop_passes :
    (Align.compare (bootCommits ++ storeLoop) storeLoopEvents none).map Verdict.ofComparison =
        .ok .pass ∧
      (Align.compare (bootCommits ++ storeLoop) storeLoopEvents (some ⟨0x40, 1⟩)).map
        Verdict.ofComparison = .ok .pass := by
  have h : List.Forall₂ Agrees storeLoop storeLoopRetired :=
    .cons ⟨by decide, by decide, by decide⟩ (.cons ⟨by decide, by decide, by decide⟩
      (.cons ⟨by decide, by decide, by decide⟩ .nil))
  have ht : IsTrace 0x80 storeLoopRetired storeLoopEvents :=
    ⟨rfl, [.fetch 0x6f, .change ⟨"write", 0x84, 9, 9⟩], rfl, by decide⟩
  have hb : ∀ c ∈ bootCommits, c.pc ≠ 0x80 := by decide
  have hpass := agreeing_traces_pass hb (by decide) h ht
  exact ⟨hpass.1, hpass.2 ⟨0x40, 1⟩ (by decide)⟩

end Cosim.Proofs.Alignment.Agreement
