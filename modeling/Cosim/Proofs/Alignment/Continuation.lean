import Cosim.Proofs.Alignment.Agreement
import Cosim.Proofs.Alignment.Observation

namespace Cosim.Proofs.Alignment.Continuation

open Cosim.Trace Cosim.Align Cosim.Report
open Cosim.Proofs.Retirement.Segment
open Cosim.Proofs.Alignment.SegmentWalk Cosim.Proofs.Alignment.Agreement
open Cosim.Proofs.Alignment.Observation

variable {commits : List Commit} {events further : List Event}

theorem firstDifference_continued {found : List (List StateChange)}
    (h : ∀ c, firstDifference commits found ≠ some (.missing c)) (more : List (List StateChange)) :
    firstDifference commits (found ++ more) = firstDifference commits found := by
  induction commits generalizing found with
  | nil => rfl
  | cons c commits ih =>
    rw [firstDifference] at h
    rw [firstDifference, firstDifference, List.dropWhile_append]
    -- the new segments are reached only where the search has run out of the old ones
    cases hd : found.dropWhile fun s => !isAt c.pc s with
    | nil =>
      rw [hd] at h
      exact absurd rfl (h c)
    | cons s rest =>
      rw [hd] at h
      dsimp only at h ⊢
      rw [if_neg (by simp), List.cons_append]
      dsimp only
      cases hr : s.find? fun e => !isReported c e with
      | some e => rfl
      | none =>
        rw [hr] at h
        exact ih h

section Walk

variable (hf : ∀ e ∈ further.head?, e.isFetch = true)
include hf

theorem walk_continued (h : ∀ c, walk commits events ≠ .error (.missing c)) :
    walk commits (events ++ further) = walk commits events := by
  have hfound : ∀ c, firstDifference (commits.filter Commit.hasRegisterWrites)
      (segments events) ≠ some (.missing c) := by
    intro c hc
    rw [walk_eq, hc] at h
    exact h c rfl
  rw [walk_eq, walk_eq, segments_append (isBoundary_of_isFetch events hf),
    firstDifference_continued hfound]

theorem failing?_le {i j : Nat} (hi : failing? commits events = some i)
    (hj : failing? commits (events ++ further) = some j) : i ≤ j := by
  by_contra hlt
  obtain ⟨-, -, hbefore⟩ := List.find?_range_eq_some.mp hi
  obtain ⟨hfail, -, -⟩ := List.find?_range_eq_some.mp hj
  have hok : (walk (commits.take (j + 1)) events).isOk = true := by
    simpa using hbefore j (by omega)
  have hfound : ∀ c, walk (commits.take (j + 1)) events ≠ .error (.missing c) := by
    intro c hc
    rw [hc] at hok
    cases hok
  rw [walk_continued hf hfound, hok] at hfail
  cases hfail

end Walk

theorem divergence_eq_some {notes : List Note} {d : Divergence} :
    (conclude commits events notes).divergence = some d ↔ walk commits events = .error d := by
  unfold conclude
  cases walk commits events <;> simp

theorem stops_or_walks (reset : Int) (commits : List Commit) (pattern : Option EndPattern) :
    (∃ d notes, commit? d = none ∧
      ∀ events, compareFrom reset commits events pattern = ⟨some d, notes⟩) ∨
    ∃ start stop notes, ∀ events,
      compareFrom reset commits events pattern = conclude (span commits start stop) events notes ∧
        (resetVector events = .ok reset →
          failingIndex? commits events pattern = failingFrom? commits events start stop) := by
  unfold compareFrom failingIndex?
  cases hs : syncIndex? commits reset with
  | none => exact .inl ⟨.noSyncPoint reset, [], rfl, fun _ => rfl⟩
  | some start =>
    cases pattern with
    | none =>
      refine .inr ⟨start, none, _, fun events => ⟨rfl, fun h => ?_⟩⟩
      simp only [h, hs, Except.toOption, Option.bind_some]
    | some p =>
      dsimp only
      cases endPc? commits p with
      | none => exact .inl ⟨.noEndPattern p, _, rfl, fun _ => rfl⟩
      | some pc =>
        refine .inr ⟨start, some pc, _, fun events => ⟨rfl, fun h => ?_⟩⟩
        simp only [h, hs, Except.toOption, Option.bind_some]

theorem conclude_continued {notes : List Note} (hf : ∀ e ∈ further.head?, e.isFetch = true)
    (h : ∀ c, (conclude commits events notes).divergence ≠ some (.missing c)) :
    conclude commits (events ++ further) notes = conclude commits events notes := by
  have hfound : ∀ c, walk commits events ≠ .error (.missing c) :=
    fun c hc => h c (divergence_eq_some.mpr hc)
  rw [conclude, conclude, walk_continued hf hfound]

theorem resets_continued {reset : Int} (hreset : events.filterMap Event.resetTarget? = [reset])
    (hnone : ∀ e ∈ further, e.resetTarget? = none) :
    (events ++ further).filterMap Event.resetTarget? = [reset] := by
  rw [List.filterMap_append, hreset, List.filterMap_eq_nil_iff.mpr hnone, List.append_nil]

theorem passes_or_fails_later {start : Nat} {stop : Option Int} (notes : List Note) {i : Nat}
    (hf : ∀ e ∈ further.head?, e.isFetch = true)
    (hi : failingFrom? commits events start stop = some i) :
    (conclude (span commits start stop) (events ++ further) notes).divergence = none ∨
      ∃ j d, i ≤ j ∧ failingFrom? commits (events ++ further) start stop = some j ∧
        (conclude (span commits start stop) (events ++ further) notes).divergence.bind commit? =
          some d := by
  obtain ⟨k, hk, rfl⟩ := Option.map_eq_some_iff.mp hi
  cases hd : (conclude (span commits start stop) (events ++ further) notes).divergence with
  | none => exact .inl rfl
  | some d =>
    right
    obtain ⟨j, c, hj, -, hc⟩ := failing?_of_error (divergence_eq_some.mp hd)
    have hle : k ≤ j := failing?_le hf hk hj
    exact ⟨start + j, c, by omega, by rw [failingFrom?, hj, Option.map_some], hc⟩

/-- An event trace that goes on with a fetch gives the same result, unless a commit found no
retirement in it. In the longer trace the comparison then passes, or it fails at that commit or at a
later one. -/
theorem continued_trace_agrees {commits : List Commit} {events further : List Event}
    {pattern : Option EndPattern} {r : Comparison}
    (hf : ∀ e ∈ further.head?, e.isFetch = true) (hnone : ∀ e ∈ further, e.resetTarget? = none)
    (h : Align.compare commits events pattern = .ok r) :
    ((∀ c, r.divergence ≠ some (.missing c)) →
      Align.compare commits (events ++ further) pattern = .ok r) ∧
    ∀ c, r.divergence = some (.missing c) →
      ∃ i r', failingIndex? commits events pattern = some i ∧ commits[i]? = some c ∧
        Align.compare commits (events ++ further) pattern = .ok r' ∧
        (Verdict.ofComparison r' = .pass ∨
          ∃ j d, i ≤ j ∧ failingIndex? commits (events ++ further) pattern = some j ∧
            commits[j]? = some d ∧ r'.divergence.bind commit? = some d) := by
  obtain ⟨hc, he, reset, hreset, rfl⟩ := compare_eq_ok.mp h
  have hreset' := resets_continued hreset hnone
  have hlong : Align.compare commits (events ++ further) pattern =
      .ok (compareFrom reset commits (events ++ further) pattern) :=
    compare_eq_ok.mpr ⟨hc, List.append_ne_nil_of_left_ne_nil he _, reset, hreset', rfl⟩
  -- a comparison that stops before the walk never reports a missing retirement
  rcases stops_or_walks reset commits pattern with ⟨d, notes, hd, hstop⟩ | ⟨start, stop, notes, hw⟩
  · rw [hstop] at hlong ⊢
    refine ⟨fun _ => hlong, fun c hmissing => ?_⟩
    obtain rfl := Option.some.inj hmissing
    cases hd
  obtain ⟨hshort, hindex⟩ := hw events
  obtain ⟨hcont, hindex'⟩ := hw (events ++ further)
  rw [hcont] at hlong
  constructor
  · intro hfound
    rw [hshort] at hfound ⊢
    rw [hlong, conclude_continued hf hfound]
  · intro c hmissing
    have hcommit := commit?_of_compare h
    rw [hmissing] at hcommit
    obtain ⟨i, hi, hci⟩ := Option.bind_eq_some_iff.mp hcommit.symm
    refine ⟨i, _, hi, hci, hlong, ?_⟩
    rw [hindex (resetVector_eq_ok.mpr hreset)] at hi
    rcases passes_or_fails_later notes hf hi with hpass | ⟨j, d, hle, hj, hd⟩
    · left
      rw [Verdict.ofComparison, hpass]
    · right
      rw [← hindex' (resetVector_eq_ok.mpr hreset')] at hj
      have hdj := commit?_of_compare hlong
      rw [hj, hd] at hdj
      exact ⟨j, d, hle, hj, hdj.symm, hd⟩

def threeCommits : List Commit :=
  [⟨0, 3, 0x80, 0x13, [⟨"x5", 1⟩], []⟩, ⟨0, 3, 0x84, 0x13, [⟨"x6", 2⟩], []⟩,
    ⟨0, 3, 0x88, 0x13, [⟨"x7", 3⟩], []⟩]

def firstShown : List Event :=
  [.reset 0x80, .fetch 0x13, .change ⟨"write", 0x80, 5, 1⟩]

def secondShown : List Event :=
  [.fetch 0x13, .change ⟨"write", 0x84, 6, 2⟩, .fetch 0x13, .change ⟨"write", 0x80, 5, 9⟩]

/-- The first commit alone passes with either trace. Of all three the second one is missing at
first, and the third one in the longer trace. -/
theorem threeCommits_continued :
    (∃ r, Verdict.ofComparison r = .pass ∧
      Align.compare (threeCommits.take 1) (firstShown ++ secondShown) none = .ok r) ∧
    ∃ i j r', i ≤ j ∧ failingIndex? threeCommits firstShown none = some i ∧
      Align.compare threeCommits (firstShown ++ secondShown) none = .ok r' ∧
      threeCommits[j]? = r'.divergence.bind commit? ∧ Verdict.ofComparison r' ≠ .pass := by
  have hf : ∀ e ∈ secondShown.head?, e.isFetch = true := by
    rintro e ⟨rfl⟩
    rfl
  have hnone : ∀ e ∈ secondShown, e.resetTarget? = none := by decide
  obtain ⟨first, hfirst, hdone⟩ : ∃ r, Align.compare (threeCommits.take 1) firstShown none =
      .ok r ∧ r.divergence = none := ⟨_, rfl, by decide⟩
  have hpass := (continued_trace_agrees hf hnone hfirst).1 (by rw [hdone]; nofun)
  obtain ⟨r, hr, hmissing⟩ : ∃ r, Align.compare threeCommits firstShown none = .ok r ∧
      r.divergence = some (.missing ⟨0, 3, 0x84, 0x13, [⟨"x6", 2⟩], []⟩) := ⟨_, rfl, by decide⟩
  obtain ⟨i, r', hi, -, hr', hlater⟩ := (continued_trace_agrees hf hnone hr).2 _ hmissing
  have hfail : Verdict.ofComparison r' ≠ .pass := by
    have hlong : (Align.compare threeCommits (firstShown ++ secondShown) none).map
        Verdict.ofComparison ≠ .ok .pass := by decide
    rw [hr'] at hlong
    exact fun hv => hlong (congrArg Except.ok hv)
  refine ⟨⟨first, by rw [Verdict.ofComparison, hdone], hpass⟩, ?_⟩
  obtain ⟨j, d, hle, -, hj, hd⟩ := hlater.resolve_left hfail
  exact ⟨i, j, r', hle, hi, hr', hj.trans hd.symm, hfail⟩

end Cosim.Proofs.Alignment.Continuation
