import Cosim.Proofs.Alignment.SegmentWalk

namespace Cosim.Proofs.Alignment.BootCode

open Cosim.Trace Cosim.Align Cosim.Report
open Cosim.Proofs.Alignment.SegmentWalk

/-- No commit is at the reset vector or performs the end pattern. What else they do is left open. -/
structure IsBoot (reset : Int) (pattern : Option EndPattern) (boot : List Commit) : Prop where
  pc : ∀ c ∈ boot, c.pc ≠ reset
  performs : ∀ p ∈ pattern, ∀ c ∈ boot, performs p c = false

def movedNote (n : Nat) : Note → Note
  | .synced reset index => .synced reset (n + index)
  | note => note

def moved (n : Nat) (r : Comparison) : Comparison := ⟨r.divergence, r.notes.map (movedNote n)⟩

variable {reset : Int} {pattern : Option EndPattern} {boot : List Commit}

theorem syncIndex?_boot (h : IsBoot reset pattern boot) (commits : List Commit) :
    syncIndex? (boot ++ commits) reset =
      (syncIndex? commits reset).map (boot.length + ·) := by
  have hnone : boot.findIdx? (·.pc == reset) = none := by
    rw [List.findIdx?_eq_none_iff]
    intro c hc
    simpa using h.pc c hc
  rw [syncIndex?, List.findIdx?_append, hnone, Option.none_or, syncIndex?]
  congr 1
  funext i
  exact Nat.add_comm i boot.length

theorem endPc?_boot {p : EndPattern} (h : IsBoot reset (some p) boot) (commits : List Commit) :
    endPc? (boot ++ commits) p = endPc? commits p := by
  have hnone : boot.find? (performs p) = none := by
    rw [List.find?_eq_none]
    intro c hc
    simp [h.performs p rfl c hc]
  rw [endPc?_eq, endPc?_eq, List.find?_append, hnone, Option.none_or]

theorem span_boot (boot commits : List Commit) (start : Nat) (stop : Option Int) :
    span (boot ++ commits) (boot.length + start) stop = span commits start stop := by
  rw [span, span, List.drop_append, List.drop_eq_nil_of_le (Nat.le_add_right _ _),
    Nat.add_sub_cancel_left, List.nil_append]

theorem conclude_moved (n : Nat) (commits : List Commit) (events : List Event)
    (notes : List Note) :
    conclude commits events (notes.map (movedNote n)) =
      moved n (conclude commits events notes) := by
  unfold conclude
  cases walk commits events with
  | ok count => simp [moved, movedNote]
  | error d => rfl

theorem compareFrom_boot (h : IsBoot reset pattern boot) (commits : List Commit)
    (events : List Event) :
    compareFrom reset (boot ++ commits) events pattern =
      moved boot.length (compareFrom reset commits events pattern) := by
  unfold compareFrom
  rw [syncIndex?_boot h]
  cases syncIndex? commits reset with
  | none => rfl
  | some start =>
    rw [Option.map_some]
    cases pattern with
    | none =>
      dsimp only
      rw [span_boot, ← conclude_moved]
      rfl
    | some p =>
      dsimp only
      rw [endPc?_boot h]
      cases endPc? commits p with
      | none => rfl
      | some pc =>
        dsimp only
        rw [span_boot, ← conclude_moved]
        rfl

theorem compare_boot {commits : List Commit} {events : List Event} {r : Comparison}
    (hreset : events.filterMap Event.resetTarget? = [reset]) (h : IsBoot reset pattern boot)
    (hr : Align.compare commits events pattern = .ok r) :
    Align.compare (boot ++ commits) events pattern = .ok (moved boot.length r) := by
  obtain ⟨hc, he, target, htarget, rfl⟩ := compare_eq_ok.mp hr
  obtain rfl : reset = target := (List.cons.inj (hreset.symm.trans htarget)).1
  have hne : boot ++ commits ≠ [] := List.append_ne_nil_of_right_ne_nil boot hc
  exact compare_eq_ok.mpr ⟨hne, he, reset, hreset, compareFrom_boot h commits events⟩

/-- Two traces that differ in the code before the test give one verdict, with one diagnostic. -/
theorem boot_code_ignored {commits boot other : List Commit} {events : List Event}
    {reset : Int} {pattern : Option EndPattern}
    (hreset : events.filterMap Event.resetTarget? = [reset]) (hsync : ∃ c ∈ commits, c.pc = reset)
    (hboot : IsBoot reset pattern boot) (hother : IsBoot reset pattern other) :
    ∃ v, (Align.compare (boot ++ commits) events pattern).map Verdict.ofComparison = .ok v ∧
      (Align.compare (other ++ commits) events pattern).map Verdict.ofComparison = .ok v := by
  obtain ⟨c, hc, -⟩ := hsync
  have he : events ≠ [] := by
    rintro rfl
    cases hreset
  let r := compareFrom reset commits events pattern
  have hr : Align.compare commits events pattern = .ok r :=
    compare_eq_ok.mpr ⟨List.ne_nil_of_mem hc, he, reset, hreset, rfl⟩
  refine ⟨Verdict.ofComparison r, ?_, ?_⟩
  · rw [compare_boot hreset hboot hr]
    rfl
  · rw [compare_boot hreset hother hr]
    rfl

def test : List Commit :=
  [⟨0, 3, 0x80, 0x13, [⟨"x5", 1⟩], []⟩, ⟨0, 3, 0x84, 0x13, [⟨"x6", 2⟩], []⟩,
    ⟨0, 3, 0x88, 0x23, [], [⟨0x40, some 1⟩]⟩]

def testEvents : List Event :=
  [.reset 0x80, .fetch 0x13, .change ⟨"write", 0x80, 5, 1⟩, .fetch 0x13,
    .change ⟨"write", 0x84, 6, 3⟩]

def noisyBoot : List Commit :=
  [⟨0, 3, 0x84, 0x13, [⟨"x6", 3⟩], []⟩, ⟨0, 3, 0x88, 0x23, [⟨"x5", 9⟩], [⟨0x48, some 1⟩]⟩,
    ⟨0, 3, 0x1000, 0x13, [⟨"x7", 0⟩], [⟨0x40, none⟩]⟩]

/-- The test fails behind that code as it does alone. -/
theorem noisyBoot_ignored :
    IsBoot 0x80 (some ⟨0x40, 1⟩) noisyBoot ∧
      ∃ v, v.isPass = false ∧
        (Align.compare (noisyBoot ++ test) testEvents (some ⟨0x40, 1⟩)).map
          Verdict.ofComparison = .ok v ∧
        (Align.compare ([] ++ test) testEvents (some ⟨0x40, 1⟩)).map
          Verdict.ofComparison = .ok v := by
  have hnoisy : IsBoot 0x80 (some ⟨0x40, 1⟩) noisyBoot := by
    refine ⟨by decide, ?_⟩
    rintro p ⟨rfl⟩
    decide
  have hnone : IsBoot 0x80 (some ⟨0x40, 1⟩) [] := ⟨nofun, nofun⟩
  have hreset : testEvents.filterMap Event.resetTarget? = [0x80] := rfl
  have hsync : ∃ c ∈ test, c.pc = 0x80 := ⟨_, List.mem_cons_self, rfl⟩
  obtain ⟨v, hv, hv'⟩ := boot_code_ignored hreset hsync hnoisy hnone
  refine ⟨hnoisy, v, ?_, hv, hv'⟩
  have hfail : ((Align.compare ([] ++ test) testEvents (some ⟨0x40, 1⟩)).map
      Verdict.ofComparison).map Verdict.isPass = .ok false := by decide
  rw [hv'] at hfail
  exact Except.ok.inj hfail

end Cosim.Proofs.Alignment.BootCode
