import Cosim.Proofs.Outcome
import Cosim.Proofs.Text.Words
import Cosim.Trace.Log

namespace Cosim.Proofs.JoinedLogs

open Cosim.Text Cosim.Text.Blank Cosim.Trace Cosim.Proofs.Outcome Cosim.Proofs.Text.Words

def shifted (n : Nat) : Log.Fault → Log.Fault
  | .badLine number line cause => .badLine (n + number) line cause
  | .tooLong digits => .tooLong digits

variable {α : Type}

def OnlyCounts (read : Int → List Char → Except Log.Fault α) : Prop :=
  ∀ (n : Nat) (number : Int) (line : List Char),
    read (n + number) line = (read number line).mapError (shifted n)

theorem commitLine_onlyCounts : OnlyCounts Log.commitLine := by
  intro n number line
  rw [Log.commitLine, Log.commitLine]
  rcases CommitLine.read line with (f | digits) | c <;> rfl

theorem eventLine_onlyCounts : OnlyCounts Log.eventLine := by
  intro n number line
  rw [Log.eventLine, Log.eventLine]
  rcases EventLine.read line with (f | digits) | e <;> rfl

variable {read : Int → List Char → Except Log.Fault α}

theorem readLines_shifted (h : OnlyCounts read) (n number : Nat) (lines : List (List Char)) :
    Log.readLines read (n + number) lines =
      (Log.readLines read number lines).mapError (shifted n) := by
  induction lines generalizing number with
  | nil => rfl
  | cons raw rest ih =>
    rw [Log.readLines, Log.readLines]
    split
    · exact ih (number + 1)
    · rw [Int.natCast_add, h n number, Nat.add_assoc, ih (number + 1), mapError_bind]
      congr 1
      funext x
      rw [mapError_bind]
      rfl

theorem readLines_append (number : Nat) (xs ys : List (List Char)) :
    Log.readLines read number (xs ++ ys) = Log.readLines read number xs >>= fun a =>
      (Log.readLines read (number + xs.length) ys).map (a ++ ·) := by
  induction xs generalizing number with
  | nil =>
    show Log.readLines read number ys = (Log.readLines read number ys).map ([] ++ ·)
    cases Log.readLines read number ys <;> rfl
  | cons raw xs ih =>
    have hnumber : number + 1 + xs.length = number + (raw :: xs).length := by
      rw [List.length_cons]
      omega
    rw [List.cons_append, Log.readLines, Log.readLines, ih, hnumber]
    split
    · rfl
    · cases read number (Lines.chomp raw) with
      | error f => rfl
      | ok x =>
        cases Log.readLines read (number + 1) xs with
        | error f => rfl
        | ok a => cases Log.readLines read (number + (raw :: xs).length) ys <;> rfl

theorem readText_append (h : OnlyCounts read) (a b : List Char) :
    Log.readText read (a ++ '\n' :: b) = Log.readText read a >>= fun xs =>
      ((Log.readText read b).mapError (shifted (a.count '\n' + 1))).map (xs ++ ·) := by
  rw [Log.readText, Log.readText, Log.readText, lines_append, readLines_append, length_lines,
    Nat.add_comm 1, readLines_shifted h]

theorem readLines_blank {lines : List (List Char)} (h : ∀ l ∈ lines, l.all isBlank = true)
    (number : Nat) : Log.readLines read number lines = .ok [] := by
  induction lines generalizing number with
  | nil => rfl
  | cons raw rest ih =>
    obtain ⟨hraw, hrest⟩ := List.forall_mem_cons.mp h
    rw [Log.readLines, if_pos ((all_chomp raw).trans hraw), ih hrest]

theorem readText_blank {s : List Char} (h : s.all isBlank = true) :
    Log.readText read s = .ok [] := by
  apply readLines_blank
  intro line hline
  rw [List.all_eq_true] at h ⊢
  exact fun c hc => h c (mem_of_mem_cut line hline c hc)

theorem readText_line {s : List Char} (hs : '\n' ∉ s) (h : s.all isBlank = false) :
    Log.readText read s = (read 1 (Lines.chomp s)).map fun x => [x] := by
  rw [Log.readText, lines_of_not_mem hs, Log.readLines,
    if_neg (by rw [all_chomp, h]; exact Bool.false_ne_true)]
  show (read 1 (Lines.chomp s) >>= fun x => _) = _
  cases read 1 (Lines.chomp s) <;> rfl

/-- How a log comes from its lines: it goes on behind a newline with the numbers of the lines, its
first fault decides, blank lines are counted and nothing more, and nothing but a newline ends a
line. -/
structure IsByLine (read : Int → List Char → Except Log.Fault α)
    (log : List Char → Except Log.Fault (List α)) : Prop where
  front_fault : ∀ a b f, log a = .error f → log (a ++ '\n' :: b) = .error f
  joined : ∀ a b xs ys, log a = .ok xs → log b = .ok ys → log (a ++ '\n' :: b) = .ok (xs ++ ys)
  back_fault : ∀ a b xs k line cause, log a = .ok xs → log b = .error (.badLine k line cause) →
    log (a ++ '\n' :: b) = .error (.badLine (a.count '\n' + 1 + k) line cause)
  blank : ∀ s, s.all isBlank = true → log s = .ok []
  single : ∀ s, '\n' ∉ s → s.all isBlank = false →
    log s = (read 1 (Lines.chomp s)).map fun x => [x]

theorem isByLine_readText (h : OnlyCounts read) : IsByLine read (Log.readText read) where
  front_fault := by
    intro a b f ha
    rw [readText_append h, ha]
    rfl
  joined := by
    intro a b xs ys ha hb
    rw [readText_append h, ha, hb]
    rfl
  back_fault := by
    intro a b xs k line cause ha hb
    rw [readText_append h, ha, hb]
    rfl
  blank := fun _ => readText_blank
  single := fun _ => readText_line

/-- Both logs are read line by line. -/
theorem logs_join :
    IsByLine Log.commitLine Log.commits ∧ IsByLine Log.eventLine Log.events :=
  ⟨isByLine_readText commitLine_onlyCounts, isByLine_readText eventLine_onlyCounts⟩

def blankFront : List Char := ['\x85', '\n', '\u2028']

def faultyBack : List Char := ['\x0c', '\n', 'x', '\u2028', 'y']

/-- The line is the fourth of the joined text. -/
theorem faultyBack_counted :
    (∃ line cause, Log.commits faultyBack = .error (.badLine 2 line cause) ∧
      Log.commits (blankFront ++ '\n' :: faultyBack) = .error (.badLine 4 line cause)) ∧
    ∃ line cause, Log.events faultyBack = .error (.badLine 2 line cause) ∧
      Log.events (blankFront ++ '\n' :: faultyBack) = .error (.badLine 4 line cause) := by
  have hcommits := logs_join.1.blank blankFront rfl
  have hevents := logs_join.2.blank blankFront rfl
  exact ⟨⟨_, _, rfl, logs_join.1.back_fault _ faultyBack _ _ _ _ hcommits rfl⟩,
    ⟨_, _, rfl, logs_join.2.back_fault _ faultyBack _ _ _ _ hevents rfl⟩⟩

end Cosim.Proofs.JoinedLogs
