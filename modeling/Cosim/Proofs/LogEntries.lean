import Cosim.Proofs.CommitLine.Grammar
import Cosim.Proofs.Json.LongNumbers
import Cosim.Proofs.Text.Words

namespace Cosim.Proofs.LogEntries

open Cosim.Numeral Cosim.Text Cosim.Text.Blank Cosim.Trace Cosim.Proofs.Outcome
open Cosim.Proofs.CommitLine.Grammar Cosim.Proofs.Json.LongNumbers

def entries (number : Nat) (lines : List (List Char)) : List (List Char × Nat) :=
  (lines.zipIdx number).filter fun e => !e.1.all isBlank

/-- How the lines of a log are read. A number that is too long for that stands in the line. -/
structure Format (F α : Type) where
  read : List Char → Except (Refusal F) α
  cause : F → Log.Cause
  HasNumber : Nat → List Char → Prop
  of_tooLong : ∀ {line n}, read line = .error (.tooLong n) →
    Integer.digitLimit < n ∧ HasNumber n line

namespace Format

variable {F α : Type}

def readAt (format : Format F α) (number : Int) (line : List Char) : Except Log.Fault α :=
  (format.read line).mapError (Log.located format.cause number line)

def Reports (format : Format F α) (line : List Char) (number : Nat) (f : Log.Fault) : Prop :=
  (∃ g, format.read line = .error (.fault g) ∧ f = .badLine number line (format.cause g)) ∨
    ∃ digits, format.read line = .error (.tooLong digits) ∧ f = .tooLong digits ∧
      Integer.digitLimit < digits ∧ format.HasNumber digits line

/-- What the entries of a log are read as: all of them in order, or the fault of the first that
cannot be read. -/
structure Reads (format : Format F α) (entries : List (List Char × Nat))
    (result : Except Log.Fault (List α)) : Prop where
  ok_iff : ∀ xs, result = .ok xs ↔
    List.Forall₂ (fun (line, _) x => format.read line = .ok x) entries xs
  error : ∀ f, result = .error f → ∃ before e after, entries = before ++ e :: after ∧
    (∀ e ∈ before, ∃ x, format.read e.1 = .ok x) ∧ format.Reports e.1 e.2 f

end Format

def commitFormat : Format CommitLine.Fault Commit where
  read := CommitLine.read
  cause := .commit
  HasNumber n line := ∃ token ∈ words line, IsNumberToken n token
  of_tooLong h := by
    obtain ⟨hlong, token, hmem, hdigits⟩ := ofTokens_tooLong h
    exact ⟨hlong, token, (List.dropWhile_sublist _).subset (List.mem_of_mem_take hmem), hdigits⟩

def eventFormat : Format EventLine.Fault Event where
  read := EventLine.read
  cause := .event
  HasNumber := HasDigits
  of_tooLong h := by
    unfold EventLine.read at h
    split at h
    · rename_i v _
      cases hv : EventLine.ofValue v with
      | ok e =>
        rw [hv] at h
        cases h
      | error f =>
        rw [hv] at h
        cases h
    · cases h
    · rename_i digits hread
      cases h
      exact read_tooLong hread

variable {F α : Type}

theorem readLines_eq_mapM (read : Int → List Char → Except Log.Fault α) (number : Nat)
    (lines : List (List Char)) : Log.readLines read number lines =
      (entries number (lines.map Lines.chomp)).mapM fun e => read e.2 e.1 := by
  induction lines generalizing number with
  | nil => rfl
  | cons raw rest ih =>
    rw [Log.readLines, entries, List.map_cons, List.zipIdx_cons]
    cases hb : (Lines.chomp raw).all isBlank with
    | true =>
      rw [List.filter_cons_of_neg (by simp [hb]), ← entries, ← ih]
      exact if_pos rfl
    | false =>
      rw [List.filter_cons_of_pos (by simp [hb]), ← entries, List.mapM_cons, ← ih]
      exact if_neg Bool.false_ne_true

theorem readAt_eq_ok {format : Format F α} {number : Int} {line : List Char} {x : α} :
    format.readAt number line = .ok x ↔ format.read line = .ok x :=
  mapError_eq_ok

theorem reports_of_readAt {format : Format F α} {number : Nat} {line : List Char} {f : Log.Fault}
    (h : format.readAt number line = .error f) : format.Reports line number f := by
  unfold Format.readAt at h
  cases hread : format.read line with
  | ok x =>
    rw [hread] at h
    cases h
  | error refusal =>
    rw [hread] at h
    cases refusal with
    | fault g =>
      cases h
      exact .inl ⟨g, hread, rfl⟩
    | tooLong digits =>
      cases h
      exact .inr ⟨digits, hread, rfl, format.of_tooLong hread⟩

theorem reads_readText (format : Format F α) (text : List Char) :
    format.Reads (entries 1 ((Lines.lines text).map Lines.chomp))
      (Log.readText format.readAt text) where
  ok_iff xs := by
    rw [Log.readText, readLines_eq_mapM, mapM_eq_ok]
    simp only [readAt_eq_ok]
  error f hf := by
    rw [Log.readText, readLines_eq_mapM, mapM_eq_error] at hf
    obtain ⟨before, e, after, hentries, hbefore, he⟩ := hf
    simp only [readAt_eq_ok] at hbefore
    exact ⟨before, e, after, hentries, hbefore, reports_of_readAt he⟩

theorem reads_commits (text : List Char) :
    commitFormat.Reads (entries 1 ((Lines.lines text).map Lines.chomp)) (Log.commits text) :=
  reads_readText commitFormat text

theorem reads_events (text : List Char) :
    eventFormat.Reads (entries 1 ((Lines.lines text).map Lines.chomp)) (Log.events text) :=
  reads_readText eventFormat text

end Cosim.Proofs.LogEntries
