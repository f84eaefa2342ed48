import Cosim.Proofs.Alignment.SegmentWalk
import Cosim.Proofs.Alignment.Walk

namespace Cosim.Proofs.Alignment.Finality

open Cosim.Trace Cosim.Align Cosim.Report Cosim.Proofs.Outcome
open Cosim.Proofs.Alignment.SegmentWalk Cosim.Proofs.Alignment.Walk

variable {commits : List Commit} {reset : Int}

theorem syncIndex?_append (h : ∃ c ∈ commits, c.pc = reset) (further : List Commit) :
    syncIndex? (commits ++ further) reset = syncIndex? commits reset := by
  obtain ⟨c, hc, hp⟩ := h
  have hsome : (syncIndex? commits reset).isSome = true := by
    rw [syncIndex?, List.findIdx?_isSome, List.any_eq_true]
    exact ⟨c, hc, by simp [hp]⟩
  obtain ⟨start, hs⟩ := Option.isSome_iff_exists.mp hsome
  unfold syncIndex? at hs ⊢
  rw [List.findIdx?_append, hs]
  rfl

theorem endPc?_append {p : EndPattern} (h : ∃ c ∈ commits, performs p c = true)
    (further : List Commit) : endPc? (commits ++ further) p = endPc? commits p := by
  obtain ⟨last, hlast⟩ := Option.isSome_iff_exists.mp (List.find?_isSome.mpr h)
  rw [endPc?_eq, endPc?_eq, List.find?_append, hlast]
  rfl

theorem exists_span_append {start : Nat} (h : start ≤ commits.length) (further : List Commit)
    (stop : Option Int) :
    ∃ more, span (commits ++ further) start stop = span commits start stop ++ more := by
  unfold span
  rw [List.drop_append_of_le_length h, List.takeWhile_append]
  split
  · rename_i hall
    have hself := (List.takeWhile_prefix _).eq_of_length hall
    exact ⟨_, congrArg (· ++ _) hself.symm⟩
  · exact ⟨[], (List.append_nil _).symm⟩

theorem conclude_append {events : List Event} {notes : List Note}
    (h : (conclude commits events notes).divergence ≠ none) (more : List Commit) :
    conclude (commits ++ more) events notes = conclude commits events notes := by
  unfold conclude at h ⊢
  cases hw : walk commits events with
  | ok count => simp [hw] at h
  | error d => rw [walk_append_eq_error more hw]

theorem compareFrom_append {events : List Event} {pattern : Option EndPattern}
    (hsync : ∃ c ∈ commits, c.pc = reset)
    (hend : ∀ p ∈ pattern, ∃ c ∈ commits, performs p c = true)
    (h : (compareFrom reset commits events pattern).divergence ≠ none) (further : List Commit) :
    compareFrom reset (commits ++ further) events pattern =
      compareFrom reset commits events pattern := by
  unfold compareFrom at h ⊢
  rw [syncIndex?_append hsync]
  cases hs : syncIndex? commits reset with
  | none => rfl
  | some start =>
    have hle : start ≤ commits.length := by
      have := (List.findIdx?_eq_some_iff_findIdx_eq.mp hs).1
      omega
    rw [hs] at h
    cases pattern with
    | none =>
      obtain ⟨more, hmore⟩ := exists_span_append hle further none
      dsimp only at h ⊢
      rw [hmore, conclude_append h]
    | some p =>
      dsimp only at h ⊢
      rw [endPc?_append (hend p rfl)]
      cases hp : endPc? commits p with
      | none => rfl
      | some pc =>
        obtain ⟨more, hmore⟩ := exists_span_append hle further (some pc)
        rw [hp] at h
        dsimp only at h ⊢
        rw [hmore, conclude_append h]

theorem divergence_ne_none {r : Comparison} (h : Verdict.ofComparison r ≠ .pass) :
    r.divergence ≠ none := by
  intro hn
  apply h
  rw [Verdict.ofComparison, hn]

/-- A comparison that fails gives the same result when the commit trace goes on, if the trace holds
the start of the comparison and what ends the test. So one that passes also passes with any such
beginning of the trace. -/
theorem failure_final {commits further : List Commit} {events : List Event}
    {pattern : Option EndPattern}
    (hsync : ∀ reset, events.filterMap Event.resetTarget? = [reset] → ∃ c ∈ commits, c.pc = reset)
    (hend : ∀ p ∈ pattern, ∃ c ∈ commits, performs p c = true) :
    (∀ r, Align.compare commits events pattern = .ok r → Verdict.ofComparison r ≠ .pass →
      Align.compare (commits ++ further) events pattern = .ok r) ∧
    ((Align.compare (commits ++ further) events pattern).map Verdict.ofComparison = .ok .pass →
      (Align.compare commits events pattern).map Verdict.ofComparison = .ok .pass) := by
  have hfinal : ∀ r, Align.compare commits events pattern = .ok r →
      Verdict.ofComparison r ≠ .pass →
      Align.compare (commits ++ further) events pattern = .ok r := by
    intro r hr hv
    obtain ⟨hc, he, reset, hreset, rfl⟩ := compare_eq_ok.mp hr
    have hne : commits ++ further ≠ [] := List.append_ne_nil_of_left_ne_nil hc further
    exact compare_eq_ok.mpr ⟨hne, he, reset, hreset,
      compareFrom_append (hsync reset hreset) hend (divergence_ne_none hv) further⟩
  refine ⟨hfinal, fun hpass => ?_⟩
  obtain ⟨r, hr, hv⟩ := map_eq_ok.mp hpass
  obtain ⟨-, he, reset, hreset, -⟩ := compare_eq_ok.mp hr
  obtain ⟨c, hc, -⟩ := hsync reset hreset
  have hshort : Align.compare commits events pattern =
      .ok (compareFrom reset commits events pattern) :=
    compare_eq_ok.mpr ⟨List.ne_nil_of_mem hc, he, reset, hreset, rfl⟩
  -- a shorter trace that failed would make the longer one fail in the same way
  by_contra hn
  rw [hshort] at hn
  have hfail : Verdict.ofComparison (compareFrom reset commits events pattern) ≠ .pass :=
    fun h => hn (congrArg Except.ok h)
  rw [hfinal _ hshort hfail, Except.ok.injEq] at hr
  exact hfail (hr ▸ hv)

def storingTest : List Commit :=
  [⟨0, 3, 0x80000000, 0x13, [⟨"x5", 1⟩], []⟩, ⟨0, 3, 0x80000004, 0x13, [⟨"x6", 2⟩], []⟩,
    ⟨0, 3, 0x80000008, 0x23, [], [⟨0x80001000, some 1⟩]⟩]

def afterStore : List Commit :=
  [⟨0, 3, 0x8000000c, 0x13, [⟨"x5", 9⟩], []⟩, ⟨0, 3, 0x80000000, 0x13, [⟨"x5", 7⟩], []⟩]

def storingEvents (v : Int) : List Event :=
  [.reset 0x80000000, .fetch 0x13, .change ⟨"write", 0x80000000, 5, 1⟩, .fetch 0x13,
    .change ⟨"write", 0x80000004, 6, v⟩]

/-- With a wrong value the test fails however long the trace goes on, and with the right one it
passes. -/
theorem storingTest_final :
    (∃ r, Verdict.ofComparison r ≠ .pass ∧
      Align.compare storingTest (storingEvents 3) (some ⟨0x80001000, 1⟩) = .ok r ∧
      Align.compare (storingTest ++ afterStore) (storingEvents 3) (some ⟨0x80001000, 1⟩) = .ok r) ∧
    (Align.compare storingTest (storingEvents 2) (some ⟨0x80001000, 1⟩)).map
      Verdict.ofComparison = .ok .pass := by
  have hsync : ∀ v reset, (storingEvents v).filterMap Event.resetTarget? = [reset] →
      ∃ c ∈ storingTest, c.pc = reset := by
    intro v reset h
    obtain ⟨rfl, -⟩ := List.cons.inj h
    exact ⟨_, List.mem_cons_self, rfl⟩
  have hend : ∀ p ∈ some (⟨0x80001000, 1⟩ : EndPattern),
      ∃ c ∈ storingTest, performs p c = true := by
    rintro p ⟨rfl⟩
    decide
  have hlong : (Align.compare (storingTest ++ afterStore) (storingEvents 2)
      (some ⟨0x80001000, 1⟩)).map Verdict.ofComparison = .ok .pass := by decide
  refine ⟨⟨_, by decide, rfl, ?_⟩, (failure_final (hsync 2) hend).2 hlong⟩
  exact (failure_final (hsync 3) hend).1 _ rfl (by decide)

end Cosim.Proofs.Alignment.Finality
