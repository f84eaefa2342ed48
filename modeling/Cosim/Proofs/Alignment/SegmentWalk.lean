import Cosim.Align.Compare
import Cosim.Proofs.Retirement.Segment
import Cosim.Report.Verdict

namespace Cosim.Proofs.Alignment.SegmentWalk

open Cosim.Trace Cosim.Align Cosim.Report Cosim.Proofs.Retirement.Segment

/-- Whether a commit stores the data of the pattern at its address. -/
def performs (p : EndPattern) (c : Commit) : Bool :=
  c.memoryAccesses.contains ⟨p.address, some p.data⟩

/-- The address at which the comparison stops: that of the first commit that performs the
pattern. -/
def stop? (commits : List Commit) (pattern : Option EndPattern) : Option Int :=
  pattern.bind fun p => (commits.find? (performs p)).map Commit.pc

/-- The commits to compare: those that write registers, from the first one at the reset vector up
to the stop. -/
def walked (commits : List Commit) (reset : Int) (stop : Option Int) : List Commit :=
  ((commits.dropWhile fun c => c.pc != reset).takeWhile fun c => stop != some c.pc).filter
    Commit.hasRegisterWrites

/-- Every commit takes the first segment at its address and drops those in front of it. -/
def firstDifference : List Commit → List (List StateChange) → Option Divergence
  | [], _ => none
  | c :: commits, segments =>
    match segments.dropWhile fun s => !isAt c.pc s with
    | [] => some (.missing c)
    | s :: segments =>
      match s.find? fun e => !isReported c e with
      | some e => some (.mismatch c e)
      | none => firstDifference commits segments

def difference (reset : Int) (commits : List Commit) (events : List Event)
    (pattern : Option EndPattern) : Option Divergence :=
  if commits.all (·.pc != reset) then some (.noSyncPoint reset)
  else match pattern with
    | none => firstDifference (walked commits reset none) (segments events)
    | some p =>
      match commits.find? (performs p) with
      | none => some (.noEndPattern p)
      | some last => firstDifference (walked commits reset (some last.pc)) (segments events)

def verdict : Option Divergence → Verdict Text.Wide
  | none => .pass
  | some d => .fail d.message

/-- The reference algorithm. -/
def reference (commits : List Commit) (events : List Event) (pattern : Option EndPattern) :
    Except Precondition (Verdict Text.Wide) :=
  if commits = [] then .error .noCommits
  else if events = [] then .error .noEvents
  else match events.filterMap Event.resetTarget? with
    | [] => .error .noReset
    | [reset] => .ok (verdict (difference reset commits events pattern))
    | targets => .error (.manyResets targets.length)

theorem isMatch_eq (p : EndPattern) (a : MemoryAccess) :
    p.isMatch a = (a == ⟨p.address, some p.data⟩) := by
  cases a with
  | mk address data => rw [Bool.eq_iff_iff]; simp [EndPattern.isMatch]

theorem any_isMatch (p : EndPattern) (c : Commit) :
    c.memoryAccesses.any p.isMatch = performs p c := by
  rw [performs, ← List.any_beq']
  congr 1
  funext a
  exact isMatch_eq p a

theorem endPc?_eq (commits : List Commit) (p : EndPattern) :
    endPc? commits p = (commits.find? (performs p)).map Commit.pc := by
  simp only [endPc?, any_isMatch]

theorem drop_syncIndex {commits : List Commit} {reset : Int} {start : Nat}
    (h : syncIndex? commits reset = some start) :
    commits.drop start = commits.dropWhile fun c => c.pc != reset := by
  obtain ⟨-, hs⟩ := List.findIdx?_eq_some_iff_findIdx_eq.mp h
  have hp : (fun c : Commit => !(c.pc != reset)) = fun c => c.pc == reset := by
    funext c
    exact Bool.not_not _
  rw [List.dropWhile_eq_drop_findIdx_not, hp, hs]

theorem filter_span {commits : List Commit} {reset : Int} {start : Nat}
    (h : syncIndex? commits reset = some start) (stop : Option Int) :
    (span commits start stop).filter Commit.hasRegisterWrites = walked commits reset stop := by
  rw [span, drop_syncIndex h, walked]

theorem firstDifference_cons (c : Commit) (commits : List Commit) (events : List Event) :
    firstDifference (c :: commits) (segments events) =
      match Retirement.next c.pc events with
      | ([], _) => some (.missing c)
      | (group, left) =>
        match group.find? fun e => !isReported c e with
        | some e => some (.mismatch c e)
        | none => firstDifference commits (segments left) := by
  rw [firstDifference, dropWhile_segments]
  rcases Retirement.next c.pc events with ⟨group, left⟩
  cases group with
  | nil => rfl
  | cons e group => rfl

theorem walk_eq (commits : List Commit) (events : List Event) :
    walk commits events =
      match firstDifference (commits.filter Commit.hasRegisterWrites) (segments events) with
      | some d => .error d
      | none => .ok (commits.filter Commit.hasRegisterWrites).length := by
  induction commits generalizing events with
  | nil => rfl
  | cons c commits ih =>
    cases hw : c.hasRegisterWrites with
    | false => rw [walk, if_neg (by simp [hw]), ih, List.filter_cons_of_neg (by simp [hw])]
    | true =>
      rw [walk, if_pos hw, List.filter_cons_of_pos hw, firstDifference_cons]
      rcases Retirement.next c.pc events with ⟨group, left⟩
      cases group with
      | nil => rfl
      | cons e group =>
        dsimp only
        cases (e :: group).find? fun e => !isReported c e with
        | some e => rfl
        | none =>
          dsimp only
          rw [ih]
          cases firstDifference (commits.filter Commit.hasRegisterWrites) (segments left) <;> rfl

theorem conclude_eq (commits : List Commit) (events : List Event) (notes : List Note) :
    conclude commits events notes =
      match firstDifference (commits.filter Commit.hasRegisterWrites) (segments events) with
      | some d => ⟨some d, notes⟩
      | none => ⟨none, notes ++ [.compared (commits.filter Commit.hasRegisterWrites).length]⟩ := by
  rw [conclude, walk_eq]
  cases firstDifference (commits.filter Commit.hasRegisterWrites) (segments events) <;> rfl

theorem divergence_conclude (commits : List Commit) (events : List Event) (notes : List Note) :
    (conclude commits events notes).divergence =
      firstDifference (commits.filter Commit.hasRegisterWrites) (segments events) := by
  rw [conclude_eq]
  cases firstDifference (commits.filter Commit.hasRegisterWrites) (segments events) <;> rfl

theorem syncIndex?_eq_none (commits : List Commit) (reset : Int) :
    syncIndex? commits reset = none ↔ commits.all (·.pc != reset) = true := by
  simp [syncIndex?, List.findIdx?_eq_none_iff]

theorem divergence_compareFrom (reset : Int) (commits : List Commit) (events : List Event)
    (pattern : Option EndPattern) :
    (compareFrom reset commits events pattern).divergence =
      difference reset commits events pattern := by
  unfold compareFrom difference
  cases hs : syncIndex? commits reset with
  | none => rw [if_pos ((syncIndex?_eq_none commits reset).mp hs)]
  | some start =>
    have hn : ¬ commits.all (·.pc != reset) = true := by
      rw [← syncIndex?_eq_none, hs]
      simp
    rw [if_neg hn]
    cases pattern with
    | none => exact (divergence_conclude _ _ _).trans (by rw [filter_span hs])
    | some p =>
      dsimp only
      rw [endPc?_eq]
      cases commits.find? (performs p) with
      | none => rfl
      | some last => exact (divergence_conclude _ _ _).trans (by rw [filter_span hs])

theorem difference_cases (reset : Int) (commits : List Commit) (events : List Event)
    (pattern : Option EndPattern) :
    difference reset commits events pattern = some (.noSyncPoint reset) ∨
      (∃ p, difference reset commits events pattern = some (.noEndPattern p)) ∨
      difference reset commits events pattern =
        firstDifference (walked commits reset (stop? commits pattern)) (segments events) := by
  unfold difference
  split
  · exact .inl rfl
  cases pattern with
  | none => exact .inr (.inr rfl)
  | some p =>
    cases hfind : commits.find? (performs p) with
    | none => exact .inr (.inl ⟨p, by simp [hfind]⟩)
    | some last => exact .inr (.inr (by simp [hfind, stop?]))

theorem firstDifference_of_difference {reset : Int} {commits : List Commit}
    {events : List Event} {pattern : Option EndPattern}
    (h : difference reset commits events pattern = none) :
    firstDifference (walked commits reset (stop? commits pattern)) (segments events) = none := by
  rcases difference_cases reset commits events pattern with hd | ⟨p, hd⟩ | hd
  · cases hd.symm.trans h
  · cases hd.symm.trans h
  · exact hd.symm.trans h

theorem notes_conclude {commits : List Commit} {events : List Event} (notes : List Note)
    (h : firstDifference (commits.filter Commit.hasRegisterWrites) (segments events) = none) :
    (conclude commits events notes).notes =
      notes ++ [.compared (commits.filter Commit.hasRegisterWrites).length] := by
  rw [conclude_eq, h]

theorem compared_mem_notes {reset : Int} {commits : List Commit} {events : List Event}
    {pattern : Option EndPattern} (h : difference reset commits events pattern = none) (n : Nat) :
    Note.compared n ∈ (compareFrom reset commits events pattern).notes ↔
      n = (walked commits reset (stop? commits pattern)).length := by
  have hf := firstDifference_of_difference h
  unfold compareFrom
  cases hs : syncIndex? commits reset with
  | none => simp [difference, (syncIndex?_eq_none commits reset).mp hs] at h
  | some start =>
    cases pattern with
    | none =>
      rw [stop?, Option.bind_none, ← filter_span hs] at hf ⊢
      dsimp only
      rw [notes_conclude _ hf]
      simp
    | some p =>
      have hp : endPc? commits p = stop? commits (some p) := endPc?_eq commits p
      dsimp only
      rw [hp]
      cases ht : stop? commits (some p) with
      | none =>
        rw [stop?, Option.bind_some, Option.map_eq_none_iff] at ht
        simp only [difference, ht] at h
        split at h <;> cases h
      | some pc =>
        rw [ht, ← filter_span hs] at hf
        rw [← filter_span hs]
        dsimp only
        rw [notes_conclude _ hf]
        simp

theorem ofComparison_compareFrom (reset : Int) (commits : List Commit) (events : List Event)
    (pattern : Option EndPattern) :
    Verdict.ofComparison (compareFrom reset commits events pattern) =
      verdict (difference reset commits events pattern) := by
  rw [Verdict.ofComparison, divergence_compareFrom]
  cases difference reset commits events pattern <;> rfl

theorem compare_map_verdict (commits : List Commit) (events : List Event)
    (pattern : Option EndPattern) :
    (Align.compare commits events pattern).map Verdict.ofComparison =
      reference commits events pattern := by
  unfold Align.compare reference resetVector
  simp only [List.isEmpty_iff]
  split
  · rfl
  split
  · rfl
  rcases events.filterMap Event.resetTarget? with _ | ⟨reset, _ | ⟨second, targets⟩⟩
  · rfl
  · exact congrArg Except.ok (ofComparison_compareFrom reset commits events pattern)
  · rfl

theorem resetVector_eq_ok {events : List Event} {reset : Int} :
    resetVector events = .ok reset ↔ events.filterMap Event.resetTarget? = [reset] := by
  unfold resetVector
  rcases events.filterMap Event.resetTarget? with _ | ⟨first, _ | ⟨second, targets⟩⟩ <;> simp

theorem resetVector_eq_error (events : List Event) :
    (∃ p, resetVector events = .error p) ↔
      (events.filterMap Event.resetTarget?).length ≠ 1 := by
  unfold resetVector
  rcases events.filterMap Event.resetTarget? with _ | ⟨reset, _ | ⟨second, targets⟩⟩ <;> simp

theorem compare_eq_ok {commits : List Commit} {events : List Event}
    {pattern : Option EndPattern} {r : Comparison} :
    Align.compare commits events pattern = .ok r ↔
      commits ≠ [] ∧ events ≠ [] ∧ ∃ reset, events.filterMap Event.resetTarget? = [reset] ∧
        compareFrom reset commits events pattern = r := by
  unfold Align.compare
  simp only [List.isEmpty_iff, ← resetVector_eq_ok]
  split
  · simp_all
  split
  · simp_all
  cases resetVector events with
  | error p => simp [Except.map]
  | ok reset => simp_all [Except.map]

theorem compare_eq_error (commits : List Commit) (events : List Event)
    (pattern : Option EndPattern) :
    (∃ p, Align.compare commits events pattern = .error p) ↔
      commits = [] ∨ events = [] ∨ (events.filterMap Event.resetTarget?).length ≠ 1 := by
  unfold Align.compare
  simp only [List.isEmpty_iff, ← resetVector_eq_error]
  split
  · simp_all
  split
  · simp_all
  cases resetVector events with
  | error p => simp [Except.map]
  | ok reset => simp_all [Except.map]

/-- The comparison gives the verdict of the reference algorithm, and it refuses two traces exactly
if one of them is empty or the events hold not exactly one reset. -/
theorem compare_eq_reference (commits : List Commit) (events : List Event)
    (pattern : Option EndPattern) :
    (Align.compare commits events pattern).map Verdict.ofComparison =
        reference commits events pattern ∧
      ((∃ p, Align.compare commits events pattern = .error p) ↔
        commits = [] ∨ events = [] ∨ (events.filterMap Event.resetTarget?).length ≠ 1) :=
  ⟨compare_map_verdict commits events pattern, compare_eq_error commits events pattern⟩

end Cosim.Proofs.Alignment.SegmentWalk
