import Cosim.Proofs.Alignment.Agreement

namespace Cosim.Proofs.Alignment.Skeleton

open Cosim.Trace Cosim.Align Cosim.Report
open Cosim.Proofs.Retirement.Group Cosim.Proofs.Retirement.Segment
open Cosim.Proofs.Alignment.SegmentWalk Cosim.Proofs.Alignment.Assignment
open Cosim.Proofs.Alignment.Agreement

def blank : Event → Event
  | .fetch _ => .fetch 0
  | e => e

/-- Of fetches that follow each other only the last one stays. -/
def collapse : List Event → List Event
  | [] => []
  | e :: rest =>
    if e.isFetch && rest.head?.any Event.isFetch then collapse rest else e :: collapse rest

/-- An event trace without accesses to memory and resets, with one fetch of the word 0 in place of
neighbouring fetches. -/
def skeleton (events : List Event) : List Event :=
  collapse ((events.filter isRelevant).map blank)

def plain (e : StateChange) : StateChange := { e with action := "" }

def Rearranged (s t : List StateChange) : Prop := (s.map plain).Perm (t.map plain)

instance (s t : List StateChange) : Decidable (Rearranged s t) :=
  inferInstanceAs (Decidable (List.Perm _ _))

/-- Two traces of fetches and changes that differ in the order of changes at one address between
two fetches, and in actions. -/
inductive Similar : List Event → List Event → Prop
  | nil : Similar [] []
  | fetch (w : Int) {a b : List Event} (rest : Similar a b) :
      Similar (.fetch w :: a) (.fetch w :: b)
  | group {pc : Int} {s t : List StateChange} {a b : List Event} (at_pc : ∀ e ∈ s, e.pc = pc)
      (h : Rearranged s t) (rest : Similar a b) :
      Similar (s.map .change ++ a) (t.map .change ++ b)

section Segments

theorem segments_fetch (front : List Event) (w : Int) (rest : List Event) :
    segments (front ++ .fetch w :: rest) = segments front ++ segments rest := by
  have hfront : IsBoundary front (.fetch w :: rest) := by
    apply isBoundary_of_isFetch
    intro e he
    cases he
    rfl
  rw [segments_append hfront, ← List.singleton_append, segments_append (isBoundary_fetch w rest)]
  rfl

theorem segments_blank (front events : List Event) :
    segments (front ++ events.map blank) = segments (front ++ events) := by
  induction events generalizing front with
  | nil => rfl
  | cons e events ih =>
    have hsame : segments (front ++ e :: events.map blank) = segments (front ++ e :: events) := by
      rw [List.append_cons, ih, ← List.append_cons]
    cases e with
    | fetch w =>
      have hrest : segments (events.map blank) = segments events := ih []
      rw [List.map_cons, blank, segments_fetch, segments_fetch, hrest]
    | change c | memory a w p | reset t => exact hsame

theorem exists_fetch {e : Event} (h : e.isFetch = true) : ∃ w, e = .fetch w := by
  cases e with
  | fetch w => exact ⟨w, rfl⟩
  | change c | memory a w p | reset t => cases h

theorem segments_collapse (front events : List Event) :
    segments (front ++ collapse events) = segments (front ++ events) := by
  induction events generalizing front with
  | nil => rfl
  | cons e events ih =>
    rw [collapse]
    split
    · rename_i hrun
      rw [Bool.and_eq_true, Option.any_eq_true] at hrun
      obtain ⟨he, f, hf, hfetch⟩ := hrun
      obtain ⟨v, rfl⟩ := exists_fetch he
      obtain ⟨w, rfl⟩ := exists_fetch hfetch
      obtain ⟨more, rfl⟩ := List.head?_eq_some_iff.mp hf
      have hmore : segments (.fetch w :: more) = segments more := segments_fetch [] w more
      rw [ih, segments_fetch, segments_fetch, hmore]
    · rw [List.append_cons, ih, ← List.append_cons]

theorem segments_skeleton (events : List Event) : segments (skeleton events) = segments events := by
  rw [← segments_filter events]
  exact (segments_collapse [] _).trans (segments_blank [] _)

end Segments

section Groups

variable {pc : Int} {s t : List StateChange}

theorem Rearranged.forall_iff (h : Rearranged s t) {P : StateChange → Prop}
    (hp : ∀ e, P (plain e) ↔ P e) : (∀ e ∈ s, P e) ↔ ∀ e ∈ t, P e := by
  have hmap : ∀ l : List StateChange, (∀ e ∈ l, P e) ↔ ∀ e ∈ l.map plain, P e := by
    intro l
    rw [List.forall_mem_map]
    simp only [hp]
  rw [hmap s, hmap t]
  constructor
  · intro hs e he
    exact hs e ((List.Perm.mem_iff h).mpr he)
  · intro ht e he
    exact ht e ((List.Perm.mem_iff h).mp he)

theorem Rearranged.eq_nil_iff (h : Rearranged s t) : s = [] ↔ t = [] := by
  have hlen : s.length = t.length := by simpa using List.Perm.length_eq h
  rw [← List.length_eq_zero_iff, ← List.length_eq_zero_iff, hlen]

theorem Rearranged.append {u v : List StateChange} (hu : Rearranged u v) (h : Rearranged s t) :
    Rearranged (u ++ s) (v ++ t) := by
  unfold Rearranged at *
  rw [List.map_append, List.map_append]
  exact hu.append h

theorem Rearranged.isAt_eq (h : Rearranged s t) (pc : Int) : isAt pc s = isAt pc t := by
  rw [Bool.eq_iff_iff, ← not_iff_not, Bool.not_eq_true, Bool.not_eq_true, isAt, isAt,
    List.any_eq_false, List.any_eq_false]
  exact h.forall_iff fun e => Iff.rfl

theorem Rearranged.isNone_find? (h : Rearranged s t) (c : Commit) :
    (s.find? fun e => !isReported c e).isNone = (t.find? fun e => !isReported c e).isNone := by
  rw [Bool.eq_iff_iff, Option.isNone_iff_eq_none, Option.isNone_iff_eq_none,
    List.find?_eq_none, List.find?_eq_none]
  exact h.forall_iff fun e => Iff.rfl

theorem Rearranged.segments (h : Rearranged s t) (hs : ∀ e ∈ s, e.pc = pc) :
    List.Forall₂ Rearranged (segments (s.map .change)) (segments (t.map .change)) := by
  have ht : ∀ e ∈ t, e.pc = pc := (h.forall_iff fun e => Iff.rfl).mp hs
  rw [segments_changes hs, segments_changes ht]
  by_cases hn : s = []
  · rw [if_pos hn, if_pos (h.eq_nil_iff.mp hn)]
    exact .nil
  · rw [if_neg hn, if_neg (mt h.eq_nil_iff.mpr hn)]
    exact .cons h .nil

theorem isBoundary_changes {u : List StateChange} {pc' : Int} (hu : ∀ e ∈ u, e.pc = pc)
    (hn : s ≠ []) (hs : ∀ e ∈ s, e.pc = pc') (hne : pc ≠ pc') (rest : List Event) :
    IsBoundary (u.map .change) (s.map .change ++ rest) := by
  apply isBoundary_front _ (isGroup_map hn hs)
  intro e he
  obtain ⟨c, hc, rfl⟩ := List.mem_map.mp he
  simp [Event.changesAt, hu c hc, hne]

theorem noChange : ∀ e ∈ ([] : List StateChange), e.pc = 0 := by simp

theorem segments_similar {a b : List Event} (h : Similar a b) {pc : Int} {u v : List StateChange}
    (hu : ∀ e ∈ u, e.pc = pc) (huv : Rearranged u v) :
    List.Forall₂ Rearranged (segments (u.map .change ++ a)) (segments (v.map .change ++ b)) := by
  induction h generalizing pc u v with
  | nil =>
    rw [List.append_nil, List.append_nil]
    exact huv.segments hu
  | fetch w rest ih =>
    rw [segments_fetch, segments_fetch]
    exact List.rel_append (huv.segments hu) (ih noChange (List.Perm.refl _))
  | @group pc' s t a b hs h rest ih =>
    have hv : ∀ e ∈ v, e.pc = pc := (huv.forall_iff fun e => Iff.rfl).mp hu
    have ht : ∀ e ∈ t, e.pc = pc' := (h.forall_iff fun e => Iff.rfl).mp hs
    by_cases hn : s = []
    · have hn' : t = [] := h.eq_nil_iff.mp hn
      subst hn hn'
      exact ih hu huv
    by_cases hpc : pc = pc'
    · subst hpc
      rw [← List.append_assoc, ← List.append_assoc, ← List.map_append, ← List.map_append]
      exact ih (List.forall_mem_append.mpr ⟨hu, hs⟩) (huv.append h)
    · have hn' : t ≠ [] := mt h.eq_nil_iff.mpr hn
      rw [segments_append (isBoundary_changes hu hn hs hpc a),
        segments_append (isBoundary_changes hv hn' ht hpc b)]
      exact List.rel_append (huv.segments hu) (ih hs h)

end Groups

theorem dropWhile_rearranged {a b : List (List StateChange)} (h : List.Forall₂ Rearranged a b)
    (pc : Int) :
    List.Forall₂ Rearranged (a.dropWhile fun s => !isAt pc s)
      (b.dropWhile fun s => !isAt pc s) := by
  induction h with
  | nil => exact .nil
  | @cons s t a b hst hab ih =>
    rw [List.dropWhile_cons, List.dropWhile_cons, hst.isAt_eq pc]
    split
    · exact ih
    · exact .cons hst hab

theorem isNone_firstDifference {a b : List (List StateChange)} (h : List.Forall₂ Rearranged a b)
    (commits : List Commit) :
    (firstDifference commits a).isNone = (firstDifference commits b).isNone := by
  induction commits generalizing a b with
  | nil => rfl
  | cons c commits ih =>
    have hdrop := dropWhile_rearranged h c.pc
    rw [firstDifference, firstDifference]
    -- both searches stop at corresponding segments, so the rest is a case split on what they found
    generalize (a.dropWhile fun s => !isAt c.pc s) = fromA at hdrop ⊢
    generalize (b.dropWhile fun s => !isAt c.pc s) = fromB at hdrop ⊢
    cases hdrop with
    | nil => rfl
    | @cons s t restA restB hst hrest =>
      have hnone := hst.isNone_find? c
      dsimp only
      cases hs : s.find? fun e => !isReported c e with
      | none =>
        have ht : (t.find? fun e => !isReported c e) = none := by simpa [hs] using hnone
        rw [ht]
        exact ih hrest
      | some e =>
        obtain ⟨f, ht⟩ : ∃ f, (t.find? fun e => !isReported c e) = some f := by
          rw [← Option.isSome_iff_exists]
          simpa [hs] using hnone
        rw [ht]
        rfl

section Comparison

variable {commits : List Commit} {reset : Int} {pattern : Option EndPattern} {a b : List Event}

theorem compareFrom_congr (h : segments a = segments b) :
    compareFrom reset commits a pattern = compareFrom reset commits b pattern := by
  simp only [compareFrom, conclude_eq, h]

theorem isPass_verdict (d : Option Divergence) : (verdict d).isPass = d.isNone := by
  cases d <;> rfl

theorem isNone_difference (h : List.Forall₂ Rearranged (segments a) (segments b)) :
    (difference reset commits a pattern).isNone = (difference reset commits b pattern).isNone := by
  unfold difference
  split
  · rfl
  cases pattern with
  | none => exact isNone_firstDifference h _
  | some p =>
    dsimp only
    cases commits.find? (performs p) with
    | none => rfl
    | some last => exact isNone_firstDifference h _

theorem compare_of_reset (h : a.filterMap Event.resetTarget? = [reset]) :
    Align.compare commits a pattern =
      if commits.isEmpty then .error .noCommits else .ok (compareFrom reset commits a pattern) := by
  have hne : a.isEmpty = false := by
    cases a with
    | nil => cases h
    | cons e rest => rfl
  rw [Align.compare, hne, resetVector_eq_ok.mpr h]
  rfl

end Comparison

def passed (r : Comparison) : Bool := (Verdict.ofComparison r).isPass

/-- Two event traces with one reset to the same target. If their skeletons are equal, comparisons
with them give the same result; if their skeletons are similar, both pass or both fail. -/
theorem skeleton_decides {commits : List Commit} {pattern : Option EndPattern} {reset : Int}
    {a b : List Event} (ha : a.filterMap Event.resetTarget? = [reset])
    (hb : b.filterMap Event.resetTarget? = [reset]) :
    (skeleton a = skeleton b → Align.compare commits a pattern = Align.compare commits b pattern) ∧
      (Similar (skeleton a) (skeleton b) →
        (Align.compare commits a pattern).map passed =
          (Align.compare commits b pattern).map passed) := by
  rw [compare_of_reset ha, compare_of_reset hb]
  constructor
  · intro h
    have hseg : segments a = segments b := by rw [← segments_skeleton a, h, segments_skeleton]
    rw [compareFrom_congr hseg]
  · intro h
    have hseg : List.Forall₂ Rearranged (segments a) (segments b) := by
      rw [← segments_skeleton a, ← segments_skeleton b]
      exact segments_similar h noChange (List.Perm.refl _)
    cases commits.isEmpty with
    | true => rfl
    | false =>
      show Except.ok (passed _) = Except.ok (passed _)
      rw [passed, passed, ofComparison_compareFrom, ofComparison_compareFrom, isPass_verdict,
        isPass_verdict, isNone_difference hseg]

def pairWritten : List Commit := [⟨0, 3, 0x80, 0x13, [⟨"a0", 7⟩, ⟨"sp", 2⟩], []⟩]

def plainEvents : List Event :=
  [.reset 0x80, .fetch 0x13, .change ⟨"write", 0x80, 10, 7⟩, .change ⟨"write", 0x80, 2, 2⟩]

/-- The reset and an access stand inside the group, and a fetch comes twice. -/
def noisyEvents : List Event :=
  [.fetch 0x11, .memory "read" 4 0x80, .fetch 0x13, .change ⟨"write", 0x80, 10, 7⟩, .reset 0x80,
    .memory "write" 8 0x40, .change ⟨"write", 0x80, 2, 2⟩]

/-- Moreover the second change comes first, under another name. -/
def swappedEvents : List Event :=
  [.fetch 0x13, .change ⟨"WRITE", 0x80, 2, 2⟩, .reset 0x80, .change ⟨"write", 0x80, 10, 7⟩]

theorem pairWritten_same :
    Align.compare pairWritten noisyEvents none = Align.compare pairWritten plainEvents none ∧
      (Align.compare pairWritten swappedEvents none).map passed =
        (Align.compare pairWritten noisyEvents none).map passed := by
  have hpc : ∀ e ∈ [(⟨"WRITE", 0x80, 2, 2⟩ : StateChange), ⟨"write", 0x80, 10, 7⟩],
      e.pc = 0x80 := by decide
  have hswap : Rearranged [⟨"WRITE", 0x80, 2, 2⟩, ⟨"write", 0x80, 10, 7⟩]
      [⟨"write", 0x80, 10, 7⟩, ⟨"write", 0x80, 2, 2⟩] := by decide
  have hsimilar : Similar (skeleton swappedEvents) (skeleton noisyEvents) :=
    .fetch 0 (.group hpc hswap .nil)
  exact ⟨(skeleton_decides rfl rfl).1 rfl, (skeleton_decides rfl rfl).2 hsimilar⟩

end Cosim.Proofs.Alignment.Skeleton
