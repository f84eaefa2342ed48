import Cosim.Proofs.Alignment.Assignment

namespace Cosim.Proofs.Alignment.EndOfTest

open Cosim.Trace Cosim.Align Cosim.Report
open Cosim.Proofs.Retirement.Group Cosim.Proofs.Retirement.Segment
open Cosim.Proofs.Alignment.SegmentWalk Cosim.Proofs.Alignment.Assignment

def fromReset (commits : List Commit) (reset : Int) : List Commit :=
  commits.dropWhile fun c => c.pc != reset

def beforeStore (commits : List Commit) (reset : Int) (p : EndPattern) : List Commit :=
  (fromReset commits reset).takeWhile fun c => !performs p c

def Covers (events : List Event) (commits : List Commit) : Prop :=
  ∃ spans, List.Forall₂ (Takes events) commits spans ∧ spans.Pairwise fun s t => s.2 ≤ t.1

theorem covers_of_firstDifference {commits : List Commit} {events : List Event}
    (h : firstDifference commits (segments events) = none) : Covers events commits := by
  obtain ⟨spans, hs, hp, -⟩ := exists_spans (isBoundary_nil events) h
  exact ⟨spans, hs, hp⟩

theorem exists_changesAt_of_takes {events : List Event} {c : Commit} {span : Nat × Nat}
    (h : Takes events c span) : ∃ e ∈ events, e.changesAt c.pc = true := by
  obtain ⟨e, he, hp⟩ := h.retirement.group.first
  have hm : e ∈ (events.drop span.1).take (span.2 - span.1) := List.mem_of_mem_head? he
  exact ⟨e, List.mem_of_mem_drop (List.mem_of_mem_take hm), hp⟩

theorem Covers.exists_changesAt {events : List Event} {commits : List Commit}
    (h : Covers events commits) : ∀ c ∈ commits, ∃ e ∈ events, e.changesAt c.pc = true := by
  obtain ⟨spans, hs, -⟩ := h
  induction hs with
  | nil => simp
  | cons ht _ ih => exact List.forall_mem_cons.mpr ⟨exists_changesAt_of_takes ht, ih⟩

variable {commits : List Commit} {reset : Int} {p : EndPattern} {last : Commit}

theorem find?_fromReset (hlast : commits.find? (performs p) = some last)
    (hboot : ∀ c ∈ commits.takeWhile (fun c => c.pc != reset), performs p c = false) :
    (fromReset commits reset).find? (performs p) = some last := by
  have hcut := List.takeWhile_append_dropWhile (p := fun c : Commit => c.pc != reset) (l := commits)
  have hnone : (commits.takeWhile fun c => c.pc != reset).find? (performs p) = none := by
    rw [List.find?_eq_none]
    intro c hc
    simp [hboot c hc]
  rw [← hcut, List.find?_append, hnone, Option.none_or] at hlast
  exact hlast

theorem takeWhile_address (hlast : (fromReset commits reset).find? (performs p) = some last)
    (hvisit : ∀ c ∈ beforeStore commits reset p, c.pc ≠ last.pc) :
    (fromReset commits reset).takeWhile (fun c => some last.pc != some c.pc) =
      beforeStore commits reset p := by
  obtain ⟨hp, before, after, hsplit, hbefore⟩ := List.find?_eq_some_iff_append.mp hlast
  have hstore : beforeStore commits reset p = before := by
    rw [beforeStore, hsplit, List.takeWhile_append_of_pos hbefore,
      List.takeWhile_cons_of_neg (by simp [hp]), List.append_nil]
  rw [hstore] at hvisit ⊢
  have hne : ∀ c ∈ before, (some last.pc != some c.pc) = true := by
    intro c hc
    simpa using (hvisit c hc).symm
  rw [hsplit, List.takeWhile_append_of_pos hne, List.takeWhile_cons_of_neg (by simp),
    List.append_nil]

theorem find?_of_difference {events : List Event}
    (h : difference reset commits events (some p) = none) :
    ∃ last, commits.find? (performs p) = some last := by
  unfold difference at h
  split at h
  · cases h
  cases hf : commits.find? (performs p) with
  | none => simp [hf] at h
  | some last => exact ⟨last, rfl⟩

/-- A pass covers the commits from the reset up to the address of the first store of the trace. If
that store is behind the reset and its address is not visited between, these are all commits up to
the store. -/
theorem pass_covers_up_to_address {commits : List Commit} {events : List Event} {p : EndPattern}
    {r : Comparison} (h : Align.compare commits events (some p) = .ok r)
    (hv : Verdict.ofComparison r = .pass) :
    ∃ reset last, events.filterMap Event.resetTarget? = [reset] ∧
      commits.find? (performs p) = some last ∧
      Covers events (((fromReset commits reset).takeWhile fun c => some last.pc != some c.pc).filter
        Commit.hasRegisterWrites) ∧
      ((∀ c ∈ commits.takeWhile (fun c => c.pc != reset), performs p c = false) →
        (∀ c ∈ beforeStore commits reset p, c.pc ≠ last.pc) →
          last ∈ fromReset commits reset ∧
            Covers events ((beforeStore commits reset p).filter Commit.hasRegisterWrites)) := by
  obtain ⟨-, -, reset, hreset, rfl⟩ := compare_eq_ok.mp h
  have hd := difference_of_pass hv
  obtain ⟨last, hlast⟩ := find?_of_difference hd
  have hf := firstDifference_of_difference hd
  have hstop : stop? commits (some p) = some last.pc := by
    rw [stop?, Option.bind_some, hlast, Option.map_some]
  rw [hstop] at hf
  have hcovers := covers_of_firstDifference hf
  refine ⟨reset, last, hreset, hlast, hcovers, fun hboot hvisit => ?_⟩
  have hfirst := find?_fromReset hlast hboot
  refine ⟨List.mem_of_find?_eq_some hfirst, ?_⟩
  rw [← takeWhile_address hfirst hvisit]
  exact hcovers

def done : EndPattern := ⟨0x80001000, 1⟩

def firstInstruction : List Event :=
  [.reset 0x80000000, .fetch 0x13, .change ⟨"write", 0x80000000, 5, 1⟩]

def storesOnce : List Commit :=
  [⟨0, 3, 0x80000000, 0x13, [⟨"x5", 1⟩], []⟩,
    ⟨0, 3, 0x80000004, 0x23, [], [⟨0x80001000, some 1⟩]⟩]

theorem storesOnce_covered :
    (∃ c ∈ fromReset storesOnce 0x80000000, performs done c = true) ∧
      Covers firstInstruction
        ((beforeStore storesOnce 0x80000000 done).filter Commit.hasRegisterWrites) := by
  obtain ⟨r, hr, hv⟩ : ∃ r, Align.compare storesOnce firstInstruction (some done) = .ok r ∧
      Verdict.ofComparison r = .pass := ⟨_, rfl, by decide⟩
  obtain ⟨reset, last, hreset, hlast, -, hcovers⟩ := pass_covers_up_to_address hr hv
  obtain ⟨rfl, -⟩ := List.cons.inj hreset
  obtain rfl := Option.some.inj hlast
  obtain ⟨hm, hc⟩ := hcovers (by decide) (by decide)
  exact ⟨⟨_, hm, by decide⟩, hc⟩

/-- The store at 0x80000004 runs twice, and only the second time it ends the test. -/
def storesTwice : List Commit :=
  [⟨0, 3, 0x80000000, 0x13, [⟨"x5", 1⟩], []⟩,
    ⟨0, 3, 0x80000004, 0x23, [], [⟨0x80001000, some 0⟩]⟩,
    ⟨0, 3, 0x80000008, 0x13, [⟨"x6", 7⟩], []⟩,
    ⟨0, 3, 0x80000004, 0x23, [], [⟨0x80001000, some 1⟩]⟩]

def storesEarly : List Commit :=
  [⟨0, 3, 0x1000, 0x23, [], [⟨0x80001000, some 1⟩]⟩,
    ⟨0, 3, 0x80000000, 0x13, [⟨"x5", 1⟩], []⟩]

/-- The first trace is passed up to its first store, without the commit behind it; what the second
one stores stands before the reset. -/
theorem pass_short_of_store :
    ((Align.compare storesTwice firstInstruction (some done)).map Verdict.ofComparison =
        .ok .pass ∧
      ¬ Covers firstInstruction
        ((beforeStore storesTwice 0x80000000 done).filter Commit.hasRegisterWrites)) ∧
    ((Align.compare storesEarly firstInstruction (some done)).map Verdict.ofComparison =
        .ok .pass ∧
      ¬ ∃ c ∈ fromReset storesEarly 0x80000000, performs done c = true) := by
  refine ⟨⟨by decide, fun h => ?_⟩, by decide, by decide⟩
  obtain ⟨e, he, hp⟩ := h.exists_changesAt ⟨0, 3, 0x80000008, 0x13, [⟨"x6", 7⟩], []⟩ (by decide)
  have hnone : ∀ e ∈ firstInstruction, e.changesAt 0x80000008 = false := by decide
  rw [hnone e he] at hp
  cases hp

end Cosim.Proofs.Alignment.EndOfTest
