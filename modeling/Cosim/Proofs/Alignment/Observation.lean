import Cosim.Proofs.Alignment.SegmentWalk
import Cosim.Proofs.Alignment.Walk
import Mathlib.Data.Finset.Basic
import Mathlib.Data.List.Forall2

namespace Cosim.Proofs.Alignment.Observation

open Cosim.Trace Cosim.Align Cosim.Report Cosim.Proofs.Outcome
open Cosim.Proofs.Alignment.SegmentWalk Cosim.Proofs.Alignment.Walk

/-- The registers that a commit writes, each by its number, with their values. -/
def written (c : Commit) : Finset (String × Int) :=
  (c.registerWrites.map fun w => (Register.canonical w.name, w.value)).toFinset

structure Alike (pattern : Option EndPattern) (c d : Commit) : Prop where
  pc : c.pc = d.pc
  written : written c = written d
  performs : ∀ p ∈ pattern, c.memoryAccesses.any p.isMatch = d.memoryAccesses.any p.isMatch

inductive Kind where
  | noSyncPoint
  | noEndPattern
  | missing
  | mismatch
deriving DecidableEq

def kind : Divergence → Kind
  | .noSyncPoint _ => .noSyncPoint
  | .noEndPattern _ => .noEndPattern
  | .missing _ => .missing
  | .mismatch _ _ => .mismatch

def commit? : Divergence → Option Commit
  | .missing c | .mismatch c _ => some c
  | .noSyncPoint _ | .noEndPattern _ => none

def outcome (r : Comparison) : Option Kind × List Note := (r.divergence.map kind, r.notes)

/-- The index of the first commit with which the walk does not pass any more. -/
def failing? (commits : List Commit) (events : List Event) : Option Nat :=
  (List.range commits.length).find? fun i => !(walk (commits.take (i + 1)) events).isOk

/-- The same for a stretch of a trace; the index is that in the trace. -/
def failingFrom? (commits : List Commit) (events : List Event) (start : Nat) (stop : Option Int) :
    Option Nat :=
  (failing? (span commits start stop) events).map (start + ·)

/-- The index in the trace of the commit at which the walk of a comparison fails. -/
def failingIndex? (commits : List Commit) (events : List Event) (pattern : Option EndPattern) :
    Option Nat :=
  (resetVector events).toOption.bind fun reset =>
    (syncIndex? commits reset).bind fun start =>
      match pattern with
      | none => failingFrom? commits events start none
      | some p => (endPc? commits p).bind fun pc => failingFrom? commits events start (some pc)

section Commits

variable {pattern : Option EndPattern} {c d : Commit}

theorem written_eq_empty (c : Commit) : written c = ∅ ↔ c.hasRegisterWrites = false := by
  rw [written, List.toFinset_eq_empty_iff, List.map_eq_nil_iff, Commit.hasRegisterWrites,
    Bool.not_eq_false', List.isEmpty_iff]

theorem isReported_iff_mem_written (c : Commit) (e : StateChange) :
    isReported c e = true ↔ (Register.numbered e.register, e.value) ∈ written c := by
  simp [isReported, written, RegisterWrite.isMatch, RegisterWrite.writesTo]

theorem Alike.hasRegisterWrites_eq (h : Alike pattern c d) :
    c.hasRegisterWrites = d.hasRegisterWrites := by
  rw [Bool.eq_iff_iff, ← not_iff_not, Bool.not_eq_true, Bool.not_eq_true, ← written_eq_empty,
    ← written_eq_empty, h.written]

theorem Alike.isReported_eq (h : Alike pattern c d) (e : StateChange) :
    isReported c e = isReported d e := by
  rw [Bool.eq_iff_iff, isReported_iff_mem_written, isReported_iff_mem_written, h.written]

theorem Alike.visit_eq (h : Alike pattern c d) (events : List Event) :
    (visit c events).mapError kind = (visit d events).mapError kind := by
  have hfind : (fun e => !isReported c e) = fun e => !isReported d e := by
    funext e
    rw [h.isReported_eq]
  unfold visit
  rw [h.hasRegisterWrites_eq, h.pc, hfind]
  split
  · rcases Retirement.next d.pc events with ⟨_ | ⟨e, group⟩, left⟩
    · rfl
    · dsimp only
      cases (e :: group).find? fun e => !isReported d e <;> rfl
  · rfl

end Commits

theorem commit?_of_visit {c : Commit} {events : List Event} {d : Divergence}
    (h : visit c events = .error d) : commit? d = some c := by
  unfold visit at h
  split at h
  · split at h
    · cases h
      rfl
    · split at h
      · cases h
        rfl
      · cases h
  · cases h

section Traces

variable {pattern : Option EndPattern} {commits others : List Commit}

theorem walk_alike (h : List.Forall₂ (Alike pattern) commits others) (events : List Event) :
    (walk commits events).mapError kind = (walk others events).mapError kind := by
  induction h generalizing events with
  | nil => rfl
  | @cons c d commits others hcd _ ih =>
    rw [walk_cons, walk_cons, mapError_bind, mapError_bind, hcd.visit_eq events]
    congr 1
    funext left
    rw [mapError_map, mapError_map, ih, hcd.hasRegisterWrites_eq]

theorem failing?_alike (h : List.Forall₂ (Alike pattern) commits others) (events : List Event) :
    failing? commits events = failing? others events := by
  have hok : ∀ i, (walk (commits.take i) events).isOk = (walk (others.take i) events).isOk := by
    intro i
    rw [← isOk_mapError _ kind, walk_alike (List.forall₂_take i h), isOk_mapError]
  unfold failing?
  rw [h.length_eq]
  congr 1
  funext i
  rw [hok]

theorem syncIndex?_alike (h : List.Forall₂ (Alike pattern) commits others) (reset : Int) :
    syncIndex? commits reset = syncIndex? others reset := by
  unfold syncIndex?
  induction h with
  | nil => rfl
  | cons hcd _ ih => rw [List.findIdx?_cons, List.findIdx?_cons, hcd.pc, ih]

theorem endPc?_alike {p : EndPattern} (h : List.Forall₂ (Alike (some p)) commits others) :
    endPc? commits p = endPc? others p := by
  unfold endPc?
  induction h with
  | nil => rfl
  | cons hcd _ ih =>
    rw [List.find?_cons, List.find?_cons, hcd.performs p rfl]
    split
    · exact congrArg some hcd.pc
    · exact ih

theorem takeWhile_alike (h : List.Forall₂ (Alike pattern) commits others) (stop : Option Int) :
    List.Forall₂ (Alike pattern) (commits.takeWhile fun c => stop != some c.pc)
      (others.takeWhile fun c => stop != some c.pc) := by
  induction h with
  | nil => exact .nil
  | cons hcd _ ih =>
    rw [List.takeWhile_cons, List.takeWhile_cons, hcd.pc]
    split
    · exact .cons hcd ih
    · exact .nil

theorem span_alike (h : List.Forall₂ (Alike pattern) commits others) (start : Nat)
    (stop : Option Int) :
    List.Forall₂ (Alike pattern) (span commits start stop) (span others start stop) :=
  takeWhile_alike (List.forall₂_drop start h) stop

theorem outcome_conclude (commits : List Commit) (events : List Event) (notes : List Note) :
    outcome (conclude commits events notes) =
      match (walk commits events).mapError kind with
      | .ok count => (none, notes ++ [.compared count])
      | .error k => (some k, notes) := by
  unfold conclude
  cases walk commits events <;> rfl

theorem conclude_alike (h : List.Forall₂ (Alike pattern) commits others) (events : List Event)
    (notes : List Note) :
    outcome (conclude commits events notes) = outcome (conclude others events notes) := by
  rw [outcome_conclude, outcome_conclude, walk_alike h]

theorem compareFrom_alike (h : List.Forall₂ (Alike pattern) commits others) (reset : Int)
    (events : List Event) :
    outcome (compareFrom reset commits events pattern) =
      outcome (compareFrom reset others events pattern) := by
  unfold compareFrom
  rw [syncIndex?_alike h]
  cases syncIndex? others reset with
  | none => rfl
  | some start =>
    cases pattern with
    | none => exact conclude_alike (span_alike h start none) events _
    | some p =>
      dsimp only
      rw [endPc?_alike h]
      cases endPc? others p with
      | none => rfl
      | some pc => exact conclude_alike (span_alike h start (some pc)) events _

theorem compare_alike (h : List.Forall₂ (Alike pattern) commits others) (events : List Event) :
    (Align.compare commits events pattern).map outcome =
      (Align.compare others events pattern).map outcome := by
  have hempty : commits.isEmpty = others.isEmpty := by cases h <;> rfl
  unfold Align.compare
  rw [hempty]
  split
  · rfl
  split
  · rfl
  cases resetVector events with
  | error p => rfl
  | ok reset => exact congrArg Except.ok (compareFrom_alike h reset events)

theorem failingIndex?_alike (h : List.Forall₂ (Alike pattern) commits others)
    (events : List Event) :
    failingIndex? commits events pattern = failingIndex? others events pattern := by
  have hspan : ∀ start stop,
      failingFrom? commits events start stop = failingFrom? others events start stop := by
    intro start stop
    rw [failingFrom?, failing?_alike (span_alike h start stop) events, failingFrom?]
  unfold failingIndex?
  cases pattern with
  | none => simp only [syncIndex?_alike h, hspan]
  | some p => simp only [syncIndex?_alike h, endPc?_alike h, hspan]

end Traces

section Position

variable {commits : List Commit} {events : List Event}

theorem exists_failing {d : Divergence} (h : walk commits events = .error d) :
    ∃ i c, commits[i]? = some c ∧ commit? d = some c ∧
      (∃ n, walk (commits.take i) events = .ok n) ∧
      walk (commits.take (i + 1)) events = .error d := by
  induction commits generalizing events with
  | nil => cases h
  | cons c commits ih =>
    rcases walk_cons_eq_error.mp h with hv | ⟨left, hv, hw⟩
    · refine ⟨0, c, rfl, commit?_of_visit hv, ⟨0, rfl⟩, ?_⟩
      exact walk_cons_eq_error.mpr (.inl hv)
    · obtain ⟨i, e, he, hd, ⟨n, hn⟩, hfail⟩ := ih hw
      refine ⟨i + 1, e, he, hd, ⟨n + c.hasRegisterWrites.toNat, ?_⟩, ?_⟩
      · exact walk_cons_eq_ok.mpr ⟨left, hv, n, hn, rfl⟩
      · exact walk_cons_eq_error.mpr (.inr ⟨left, hv, hfail⟩)

theorem isOk_take {i j : Nat} {n : Nat} (h : walk (commits.take i) events = .ok n) (hj : j ≤ i) :
    (walk (commits.take j) events).isOk = true := by
  cases hw : walk (commits.take j) events with
  | ok m => rfl
  | error d =>
    have hlonger := walk_append_eq_error ((commits.take i).drop j) hw
    have hcut : commits.take j = (commits.take i).take j := by
      rw [List.take_take, Nat.min_eq_left hj]
    rw [hcut, List.take_append_drop, h] at hlonger
    cases hlonger

theorem failing?_of_error {d : Divergence} (h : walk commits events = .error d) :
    ∃ i c, failing? commits events = some i ∧ commits[i]? = some c ∧ commit? d = some c := by
  obtain ⟨i, c, hc, hd, ⟨n, hn⟩, hfail⟩ := exists_failing h
  refine ⟨i, c, ?_, hc, hd⟩
  apply List.find?_range_eq_some.mpr
  refine ⟨by rw [hfail]; rfl, ?_, ?_⟩
  · exact List.mem_range.mpr (List.getElem?_eq_some_iff.mp hc).1
  · intro j hj
    rw [isOk_take hn (by omega)]
    rfl

theorem failing?_of_ok {n : Nat} (h : walk commits events = .ok n) :
    failing? commits events = none := by
  apply List.find?_eq_none.mpr
  intro i hi
  have hall : walk (commits.take commits.length) events = .ok n := by rwa [List.take_length]
  rw [isOk_take hall (by have := List.mem_range.mp hi; omega)]
  simp

theorem commit?_conclude (commits : List Commit) (events : List Event) (notes : List Note) :
    (conclude commits events notes).divergence.bind commit? =
      (failing? commits events).bind (commits[·]?) := by
  unfold conclude
  cases hw : walk commits events with
  | ok n => rw [failing?_of_ok hw]; rfl
  | error d =>
    obtain ⟨i, c, hi, hc, hd⟩ := failing?_of_error hw
    rw [hi]
    exact hd.trans hc.symm

theorem getElem?_of_span {start i : Nat} {stop : Option Int} {c : Commit}
    (h : (span commits start stop)[i]? = some c) : commits[start + i]? = some c := by
  obtain ⟨more, hmore⟩ := List.takeWhile_prefix (fun c : Commit => stop != some c.pc)
    (l := commits.drop start)
  have hlt : i < (span commits start stop).length := (List.getElem?_eq_some_iff.mp h).1
  rw [← List.getElem?_drop, ← hmore]
  exact (List.getElem?_append_left hlt).trans h

theorem commit?_conclude_span (commits : List Commit) (events : List Event) (notes : List Note)
    (start : Nat) (stop : Option Int) :
    (conclude (span commits start stop) events notes).divergence.bind commit? =
      (failingFrom? commits events start stop).bind (commits[·]?) := by
  rw [commit?_conclude, failingFrom?]
  cases hf : failing? (span commits start stop) events with
  | none => rfl
  | some i =>
    have hi := List.mem_range.mp (List.mem_of_find?_eq_some hf)
    have hc : (span commits start stop)[i]? = some (span commits start stop)[i] :=
      List.getElem?_eq_getElem hi
    exact hc.trans (getElem?_of_span hc).symm

theorem commit?_of_compare {pattern : Option EndPattern} {r : Comparison}
    (h : Align.compare commits events pattern = .ok r) :
    r.divergence.bind commit? = (failingIndex? commits events pattern).bind (commits[·]?) := by
  obtain ⟨-, -, reset, hreset, rfl⟩ := compare_eq_ok.mp h
  unfold compareFrom failingIndex?
  rw [resetVector_eq_ok.mpr hreset]
  show _ = ((syncIndex? commits reset).bind _).bind _
  cases syncIndex? commits reset with
  | none => rfl
  | some start =>
    cases pattern with
    | none => exact commit?_conclude_span commits events _ start none
    | some p =>
      dsimp only
      cases endPc? commits p with
      | none => rfl
      | some pc => exact commit?_conclude_span commits events _ start (some pc)

end Position

/-- Traces of alike commits have the same outcome, at the same commit if the walk fails: its index
is that of the commit in the diagnostic. -/
theorem alike_traces_agree {pattern : Option EndPattern} {commits others : List Commit}
    (h : List.Forall₂ (Alike pattern) commits others) (events : List Event) :
    (Align.compare commits events pattern).map outcome =
        (Align.compare others events pattern).map outcome ∧
      failingIndex? commits events pattern = failingIndex? others events pattern ∧
      ∀ t ∈ [commits, others], ∀ r, Align.compare t events pattern = .ok r →
        r.divergence.bind commit? = (failingIndex? t events pattern).bind (t[·]?) :=
  ⟨compare_alike h events, failingIndex?_alike h events, fun _ _ _ hr => commit?_of_compare hr⟩

/-- Two spellings of one program: roles and numbers, another order, a repetition. -/
def byRole : List Commit :=
  [⟨0, 3, 0x80, 0x13, [⟨"s0", 1⟩, ⟨"sp", 2⟩], [⟨0x40, none⟩]⟩, ⟨0, 3, 0x84, 0x23, [⟨"fp", 5⟩], []⟩,
    ⟨0, 3, 0x88, 0x23, [], [⟨0x40, some 1⟩]⟩]

def byNumber : List Commit :=
  [⟨1, 0, 0x80, 0x33, [⟨"x2", 2⟩, ⟨"x8", 1⟩, ⟨"sp", 2⟩], []⟩, ⟨1, 0, 0x84, 0x33, [⟨"x8", 5⟩], []⟩,
    ⟨1, 0, 0x88, 0x33, [], [⟨0x48, some 2⟩, ⟨0x40, some 1⟩]⟩]

def wrongSecond : List Event :=
  [.reset 0x80, .fetch 0x13, .change ⟨"write", 0x80, 8, 1⟩, .fetch 0x13,
    .change ⟨"write", 0x84, 8, 6⟩]

/-- Both fail at their second commit. -/
theorem spellings_agree :
    (Align.compare byRole wrongSecond (some ⟨0x40, 1⟩)).map outcome =
        (Align.compare byNumber wrongSecond (some ⟨0x40, 1⟩)).map outcome ∧
      failingIndex? byNumber wrongSecond (some ⟨0x40, 1⟩) = some 1 := by
  have h : List.Forall₂ (Alike (some ⟨0x40, 1⟩)) byRole byNumber :=
    .cons ⟨rfl, by decide, by decide⟩ (.cons ⟨rfl, by decide, by decide⟩
      (.cons ⟨rfl, by decide, by decide⟩ .nil))
  have hagree := alike_traces_agree h wrongSecond
  have hfirst : failingIndex? byRole wrongSecond (some ⟨0x40, 1⟩) = some 1 := by decide
  exact ⟨hagree.1, hagree.2.1 ▸ hfirst⟩

end Cosim.Proofs.Alignment.Observation
