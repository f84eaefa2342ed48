import Cosim.Proofs.Text.Words
import Cosim.Trace.Log

namespace Cosim.Proofs.LogLines

open Cosim.Text Cosim.Text.Blank Cosim.Trace Cosim.Proofs.Text.Words

variable {α : Type} {IsEntry : α → List Char → Prop} {xs : List α} {lines : List (List Char)}

/-- The lines of the entries in their order, and blank lines anywhere between them. -/
inductive IsLog (IsEntry : α → List Char → Prop) : List α → List (List Char) → Prop
  | nil : IsLog IsEntry [] []
  | blank {xs : List α} {line : List Char} {lines : List (List Char)}
      (hb : line.all isBlank = true) (h : IsLog IsEntry xs lines) :
      IsLog IsEntry xs (line :: lines)
  | entry {x : α} {xs : List α} {line : List Char} {lines : List (List Char)}
      (hx : IsEntry x line) (h : IsLog IsEntry xs lines) :
      IsLog IsEntry (x :: xs) (line :: lines)

theorem isLog_map (f : α → List Char) (xs : List α) :
    IsLog (fun x line => line = f x) xs (xs.map f) := by
  induction xs with
  | nil => exact .nil
  | cons x xs ih => exact .entry rfl ih

theorem readLines_of_isLog {read : Int → List Char → Except Log.Fault α}
    (hread : ∀ x ∈ xs, ∀ line, IsEntry x line →
      line.all isBlank = false ∧ ∀ number, read number (Lines.chomp line) = .ok x)
    (h : IsLog IsEntry xs lines) (number : Nat) : Log.readLines read number lines = .ok xs := by
  induction h generalizing number with
  | nil => rfl
  | blank hb _ ih =>
    rw [Log.readLines, if_pos ((all_chomp _).trans hb), ih hread]
  | entry hx _ ih =>
    obtain ⟨hfirst, hrest⟩ := List.forall_mem_cons.mp hread
    obtain ⟨hsolid, hok⟩ := hfirst _ hx
    rw [Log.readLines, if_neg (by rw [all_chomp, hsolid]; exact Bool.false_ne_true), hok,
      ih hrest]
    rfl

theorem readText_of_isLog {read : Int → List Char → Except Log.Fault α}
    (hread : ∀ x ∈ xs, ∀ line, IsEntry x line →
      line.all isBlank = false ∧ ∀ number, read number (Lines.chomp line) = .ok x)
    (h : IsLog IsEntry xs lines) (hline : ∀ line ∈ lines, '\n' ∉ line) :
    Log.readText read (List.intercalate ['\n'] lines) = .ok xs := by
  cases lines with
  | nil =>
    cases h
    rfl
  | cons line rest =>
    rw [Log.readText, lines_intercalate (List.cons_ne_nil _ _) hline]
    exact readLines_of_isLog hread h 1

end Cosim.Proofs.LogLines
