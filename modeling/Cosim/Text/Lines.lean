import Cosim.Text.Blank

namespace Cosim.Text.Lines

open Cosim.Text.Blank

/-- The lines of a text without their ends; a text that ends a line has an empty last one. -/
def lines (s : List Char) : List (List Char) := cut (· == '\n') s

def unify : List Char → List Char
  | [] => []
  | '\r' :: '\n' :: rest => '\n' :: unify rest
  | c :: rest => (if c = '\r' then '\n' else c) :: unify rest

def chomp (line : List Char) : List Char := dropEndWhile (· == '\r') line

theorem unify_of_no_return {s : List Char} (h : '\r' ∉ s) : unify s = s := by
  induction s with
  | nil => rfl
  | cons c rest ih =>
    have hc : c ≠ '\r' := fun he => h (he ▸ List.mem_cons_self)
    have hr : '\r' ∉ rest := fun hm => h (List.mem_cons_of_mem c hm)
    rw [unify]
    · rw [if_neg hc, ih hr]
    · intro r he
      exact absurd he hc

end Cosim.Text.Lines
