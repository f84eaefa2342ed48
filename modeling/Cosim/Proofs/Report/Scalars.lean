import Cosim.Proofs.Report.Scalars.Double
import Cosim.Proofs.Report.Scalars.Plain
import Cosim.Proofs.Report.Scalars.Single

namespace Cosim.Proofs.Report.Scalars

open Cosim.Numeral Cosim.Report.Scalar

section Write

variable {layout : Layout} {s : List Char}

theorem readText_quoted {quote : Char} (hquote : quote = '\'' ∨ quote = '"') (inside : List Char) :
    readText (quote :: inside) = if quote = '\'' then whole (single fresh inside)
      else whole (double (.text fresh) inside) := by
  have hgap : isGapChar quote = false := by rcases hquote with rfl | rfl <;> rfl
  rw [readText, List.dropWhile_cons_of_neg (by simp [hgap])]
  rcases hquote with rfl | rfl <;> rfl

theorem write_of_plain (h : isPlain s = true) (layout : Layout) (column : Nat) :
    write layout column s = plainFrom layout column (stretches s) := by
  have hstyle : styleOf s = .plain := if_pos h
  unfold write
  rw [hstyle]

theorem write_of_single (h : isPlain s = false) (hs : (s.all isSimple && !hasSpaceAtBreak s) = true)
    (layout : Layout) (column : Nat) : write layout column s =
      '\'' :: (singleFrom layout true (column + 1) (stretches s) ++ ['\'']) := by
  have hstyle : styleOf s = .single := by
    unfold styleOf
    rw [if_neg (by rw [h]; exact Bool.false_ne_true), if_pos hs]
  unfold write
  rw [hstyle]
  rfl

theorem write_of_double (h : isPlain s = false)
    (hs : (s.all isSimple && !hasSpaceAtBreak s) = false)
    (layout : Layout) (column : Nat) : write layout column s =
      '"' :: (doubleFrom layout true (column + 1) [] s ++ ['"']) := by
  have hstyle : styleOf s = .double := by
    unfold styleOf
    rw [if_neg (by rw [h]; exact Bool.false_ne_true), if_neg (by rw [hs]; exact Bool.false_ne_true)]
  unfold write
  rw [hstyle]
  rfl

/-- A text is written as it is, or between apostrophes if it can be, or between double quotes. -/
theorem write_cases (layout : Layout) (column : Nat) (s : List Char) :
    (isPlain s = true ∧ write layout column s = plainFrom layout column (stretches s)) ∨
    ((∀ c ∈ s, isSimple c = true) ∧ hasSpaceAtBreak s = false ∧ write layout column s =
      '\'' :: (singleFrom layout true (column + 1) (stretches s) ++ ['\''])) ∨
    write layout column s = '"' :: (doubleFrom layout true (column + 1) [] s ++ ['"']) := by
  cases hplain : isPlain s with
  | true => exact .inl ⟨rfl, write_of_plain hplain layout column⟩
  | false =>
    cases hsingle : s.all isSimple && !hasSpaceAtBreak s with
    | true =>
      obtain ⟨hsimple, hbreak⟩ := Bool.and_eq_true_iff.mp hsingle
      exact .inr (.inl ⟨List.all_eq_true.mp hsimple, by simpa using hbreak,
        write_of_single hplain hsingle layout column⟩)
    | false => exact .inr (.inr (write_of_double hplain hsingle layout column))

theorem single_written (hsimple : ∀ c ∈ s, isSimple c = true) (hbreak : hasSpaceAtBreak s = false)
    (layout : Layout) (column : Nat) {rest : List Char} (hrest : rest.head? ≠ some '\'') :
    single fresh (singleFrom layout true column (stretches s) ++ '\'' :: rest) =
      some (s, rest) := by
  rw [single_singleFrom (isSpaced_stretches hbreak)
    (fun part hpart c hc => hsimple c (mem_of_mem_stretches hpart hc)) hrest (.inl rfl),
    flatten_stretches]
  rfl

theorem double_written (hwidth : layout.indent + 1 ≤ lineWidth) (column : Nat)
    (s rest : List Char) :
    double (.text fresh) (doubleFrom layout true column [] s ++ '"' :: rest) = some (s, rest) :=
  double_doubleFrom hwidth (List.forall_mem_nil _) (show Takes (.text fresh) _ from rfl)
    (fun h => nomatch h) rest

/-- Every text is read as it was before it was written. -/
theorem readText_write (hwidth : layout.indent + 1 ≤ lineWidth) (column : Nat) (s : List Char) :
    readText (write layout column s) = some s := by
  rcases write_cases layout column s with
    ⟨hplain, hwrite⟩ | ⟨hsimple, hbreak, hwrite⟩ | hwrite
  · rw [hwrite, readText_plainFrom hplain]
  · have hend : ([] : List Char).head? ≠ some '\'' := (Option.some_ne_none _).symm
    rw [hwrite, readText_quoted (.inl rfl), if_pos rfl, single_written hsimple hbreak _ _ hend]
    rfl
  · rw [hwrite, readText_quoted (.inr rfl), if_neg (by decide), double_written hwidth]
    rfl

end Write

end Cosim.Proofs.Report.Scalars
