import Cosim.Proofs.Alignment.Assignment

namespace Cosim.Proofs.Alignment.PassedOver

open Cosim.Trace Cosim.Align Cosim.Report
open Cosim.Proofs.Retirement.Group Cosim.Proofs.Retirement.Segment
open Cosim.Proofs.Alignment.SegmentWalk Cosim.Proofs.Alignment.Assignment

structure Checked (c : Commit) (span : Nat × Nat) (i : Nat) (e : StateChange) : Prop where
  start_le : span.1 ≤ i
  lt_stop : i < span.2
  pc : e.pc = c.pc
  matched : ∃ w ∈ c.registerWrites, w.isMatch e.register e.value = true

structure Skipped (c : Commit) (span : Nat × Nat) (i : Nat) (e : StateChange) : Prop where
  lt_start : i < span.1
  pc : e.pc ≠ c.pc

def Vouched (events : List Event) (commits : List Commit) : Prop :=
  ∃ spans, Aligned events 0 commits spans ∧
    ∀ last ∈ spans.getLast?, ∀ i e, i < last.2 → events[i]? = some (.change e) →
      ∃ c span, (c, span) ∈ commits.zip spans ∧ Checked c span i e

section Position

variable {events : List Event} {c : Commit} {i : Nat} {e : StateChange}

theorem mem_extract {f : Event} {start stop : Nat} (hf : events[i]? = some f) (hl : start ≤ i)
    (hr : i < stop) : f ∈ events.extract start stop := by
  have hlt : i - start < stop - start := by omega
  apply List.mem_of_getElem?
  show (events.extract start stop)[i - start]? = some f
  rw [List.extract_eq_take_drop, List.getElem?_take, if_pos hlt, List.getElem?_drop,
    Nat.add_sub_cancel' hl, hf]

theorem checked_of_takes {span : Nat × Nat} (h : Takes events c span)
    (he : events[i]? = some (.change e)) (hl : span.1 ≤ i) (hr : i < span.2) :
    Checked c span i e := by
  have hm : Event.change e ∈ events.extract span.1 span.2 := mem_extract he hl hr
  have hp : (Event.change e).changesAt c.pc = true := h.retirement.group.inside _ hm rfl
  have hreported : isReported c e = true := h.reported e (List.mem_filterMap.mpr ⟨_, hm, rfl⟩)
  exact ⟨hl, hr, by simpa [Event.changesAt] using hp, List.any_eq_true.mp hreported⟩

theorem skipped_of_front {span : Nat × Nat} {cursor : Nat}
    (hskip : ∀ f ∈ events.extract cursor span.1, f.changesAt c.pc = false)
    (he : events[i]? = some (.change e)) (hl : cursor ≤ i) (hr : i < span.1) :
    Skipped c span i e := by
  have hp := hskip _ (mem_extract he hl hr)
  exact ⟨hr, by simpa [Event.changesAt] using hp⟩

theorem checked_or_skipped {cursor : Nat} {commits : List Commit} {spans : List (Nat × Nat)}
    (h : Aligned events cursor commits spans) (he : events[i]? = some (.change e))
    (hc : cursor ≤ i) (hl : ∃ s ∈ spans, i < s.2) :
    ∃ k c span, commits[k]? = some c ∧ spans[k]? = some span ∧ (∀ s ∈ spans.take k, s.2 ≤ i) ∧
      (Checked c span i e ∨ Skipped c span i e) := by
  induction h with
  | nil cursor => simp at hl
  | @cons cursor c span commits spans takes front skipped rest ih =>
    -- the first retirement that ends behind the index decides
    by_cases hstop : i < span.2
    · refine ⟨0, c, span, rfl, rfl, by simp, ?_⟩
      by_cases hstart : i < span.1
      · exact .inr (skipped_of_front skipped he hc hstart)
      · exact .inl (checked_of_takes takes he (by omega) hstop)
    · have hle : span.2 ≤ i := by omega
      have hl' : ∃ s ∈ spans, i < s.2 := by
        obtain ⟨s, hs, hi⟩ := hl
        rcases List.mem_cons.mp hs with rfl | hs
        · exact absurd hi hstop
        · exact ⟨s, hs, hi⟩
      obtain ⟨k, d, t, hd, ht, hbefore, hkind⟩ := ih hle hl'
      exact ⟨k + 1, d, t, hd, ht, List.forall_mem_cons.mpr ⟨hle, hbefore⟩, hkind⟩

end Position

/-- When a comparison without an end pattern passes, the retirements that the commits take are
determined, and every change up to the end of the last one is either checked by the commit that
takes it or skipped on the way to the next retirement, which is at another address. -/
theorem changes_checked_or_skipped {commits : List Commit} {events : List Event} {r : Comparison}
    (h : Align.compare commits events none = .ok r) (hv : Verdict.ofComparison r = .pass) :
    ∃ reset spans, events.filterMap Event.resetTarget? = [reset] ∧
      (∀ s, Aligned events 0 (walked commits reset none) s ↔ s = spans) ∧
      ∀ last ∈ spans.getLast?, ∀ i e, i < last.2 → events[i]? = some (.change e) →
        ∃ k c span, (walked commits reset none)[k]? = some c ∧ spans[k]? = some span ∧
          (∀ s ∈ spans.take k, s.2 ≤ i) ∧ (Checked c span i e ∨ Skipped c span i e) := by
  obtain ⟨-, -, reset, hreset, rfl⟩ := compare_eq_ok.mp h
  have hf := firstDifference_of_difference (difference_of_pass hv)
  obtain ⟨spans, hs⟩ := exists_aligned (isBoundary_nil events) hf
  refine ⟨reset, spans, hreset, fun s => ⟨fun h => h.unique hs, fun h => h ▸ hs⟩, ?_⟩
  intro last hlast i e hi he
  exact checked_or_skipped hs he (Nat.zero_le i) ⟨last, List.mem_of_getLast? hlast, hi⟩

def straight : List Commit :=
  [⟨0, 3, 0x80000000, 0x13, [⟨"x5", 1⟩], []⟩, ⟨0, 3, 0x80000004, 0x13, [⟨"x6", 2⟩], []⟩]

def detourWrite : StateChange := ⟨"write", 0x80000008, 7, 0x63⟩

def detour : List Event :=
  [.reset 0x80000000, .fetch 0x13, .change ⟨"write", 0x80000000, 5, 1⟩, .fetch 0x13,
    .change detourWrite, .fetch 0x13, .change ⟨"write", 0x80000004, 6, 2⟩]

theorem exists_changesAt_take {pc : Int} {events : List Event} {start stop : Nat}
    (h : IsRetirement events pc start stop) :
    ∃ e ∈ events.take stop, e.changesAt pc = true := by
  obtain ⟨e, he, hp⟩ := h.group.first
  refine ⟨e, ?_, hp⟩
  rw [List.extract_eq_take_drop, ← List.drop_take] at he
  exact List.mem_of_mem_drop (List.mem_of_mem_head? he)

theorem exists_last_detour {spans : List (Nat × Nat)} (h : Aligned detour 0 straight spans) :
    ∃ last ∈ spans.getLast?, 4 < last.2 := by
  cases h with
  | cons _ _ _ rest => cases rest with
    | @cons _ _ last _ _ takes _ _ rest =>
      cases rest
      refine ⟨last, rfl, ?_⟩
      by_contra hn
      obtain ⟨e, he, hp⟩ := exists_changesAt_take takes.retirement
      have hnone : ∀ e ∈ detour.take 4, e.changesAt 0x80000004 = false := by decide
      have hfront : e ∈ detour.take 4 := (List.take_sublist_take_left (by omega)).subset he
      rw [hnone e hfront] at hp
      cases hp

theorem detourWrite_pc_ne : ∀ c ∈ straight, detourWrite.pc ≠ c.pc := by decide

/-- The write that is too many is skipped. -/
theorem detour_skipped :
    ∃ spans, Aligned detour 0 straight spans ∧
      ∃ (k : Nat) (c : Commit) (span : Nat × Nat), straight[k]? = some c ∧
        spans[k]? = some span ∧ Skipped c span 4 detourWrite := by
  obtain ⟨r, hr, hv⟩ : ∃ r, Align.compare straight detour none = .ok r ∧
      Verdict.ofComparison r = .pass := ⟨_, rfl, by decide⟩
  obtain ⟨reset, spans, hreset, hspans, hall⟩ := changes_checked_or_skipped hr hv
  obtain ⟨rfl, -⟩ := List.cons.inj hreset
  have ha : Aligned detour 0 straight spans := (hspans spans).mpr rfl
  obtain ⟨last, hlast, hi⟩ := exists_last_detour ha
  obtain ⟨k, c, span, hc, hs, -, hkind⟩ := hall last hlast 4 detourWrite hi rfl
  refine ⟨spans, ha, k, c, span, hc, hs, ?_⟩
  rcases hkind with hchecked | hskipped
  · exact absurd hchecked.pc (detourWrite_pc_ne c (List.mem_of_getElem? hc))
  · exact hskipped

/-- The detour passes, although nothing was compared with its write. -/
theorem detour_passes :
    (Align.compare straight detour none).map Verdict.ofComparison = .ok .pass ∧
      ¬ Vouched detour (walked straight 0x80000000 none) := by
  refine ⟨by decide, ?_⟩
  rintro ⟨spans, ha, hall⟩
  obtain ⟨last, hlast, hi⟩ := exists_last_detour ha
  obtain ⟨c, span, hm, hchecked⟩ := hall last hlast 4 detourWrite hi rfl
  exact detourWrite_pc_ne c (List.of_mem_zip hm).1 hchecked.pc

end Cosim.Proofs.Alignment.PassedOver
