import Cosim.Proofs.Report.Scalars.Stretches

namespace Cosim.Proofs.Report.Scalars

open Cosim.Numeral Cosim.Report.Scalar

section Single

variable {layout : Layout} {g : Gap} {s part rest : List Char} {parts : List (List Char)}
  {first : Bool} {column : Nat}

theorem single_cons {c : Char} (h : c ≠ '\'') (g : Gap) (s : List Char) : single g (c :: s) =
    if isGapChar c then single (g.add c) s else (single fresh s).map (emit (g.text ++ [c])) := by
  rw [single.eq_def]
  dsimp only
  rw [if_neg h]

theorem single_end (h : s.head? ≠ some '\'') (g : Gap) :
    single g ('\'' :: s) = some (g.text, s) := by
  rw [single.eq_def]
  dsimp only
  rw [if_pos rfl]
  split
  · exact absurd rfl h
  · rfl

theorem single_gaps (h : ∀ c ∈ part, isGapChar c = true) (g : Gap) (s : List Char) :
    single g (part ++ s) = single (part.foldl Gap.add g) s := by
  induction part generalizing g with
  | nil => rfl
  | cons c part ih =>
    obtain ⟨hc, hpart⟩ := List.forall_mem_cons.mp h
    have hquote : c ≠ '\'' := by
      rintro rfl
      cases hc
    rw [List.cons_append, single_cons hquote, if_pos hc, ih hpart, List.foldl_cons]

theorem single_word (h : ∀ c ∈ part, isGapChar c = false) (hne : part ≠ []) (g : Gap)
    (s : List Char) : single g (doubleApostrophes part ++ s) =
      (single fresh s).map (emit (g.text ++ part)) := by
  induction part generalizing g with
  | nil => exact absurd rfl hne
  | cons c part ih =>
    obtain ⟨hc, hpart⟩ := List.forall_mem_cons.mp h
    have hone : single g (doubleApostrophes (c :: part) ++ s) =
        (single fresh (doubleApostrophes part ++ s)).map (emit (g.text ++ [c])) := by
      by_cases hquote : c = '\''
      · subst hquote
        rw [doubleApostrophes, List.flatMap_cons, if_pos rfl]
        rfl
      · rw [doubleApostrophes, List.flatMap_cons, if_neg hquote, List.singleton_append,
          List.cons_append, single_cons hquote, if_neg (by simp [hc])]
        rfl
    rw [hone]
    cases part with
    | nil => rfl
    | cons d part =>
      rw [ih hpart (List.cons_ne_nil d part), Option.map_map, emit_emit]
      simp [fresh, Gap.text]

theorem doubleApostrophes_eq_self (h : '\'' ∉ s) : doubleApostrophes s = s := by
  induction s with
  | nil => rfl
  | cons c s ih =>
    obtain ⟨hc, hs⟩ := List.ne_and_not_mem_of_not_mem_cons h
    rw [doubleApostrophes, List.flatMap_cons, if_neg hc.symm, ← doubleApostrophes, ih hs,
      List.singleton_append]

/-- A gap is read as it was, before a word or at the end. -/
theorem single_singleFrom (hparts : IsSpaced parts)
    (hsimple : ∀ part ∈ parts, ∀ c ∈ part, isSimple c = true) (hs : s.head? ≠ some '\'')
    (hg : g = fresh ∨ ∀ part ∈ parts.head?, IsWord part) :
    single g (singleFrom layout first column parts ++ '\'' :: s) =
      some (g.text ++ parts.flatten, s) := by
  induction parts generalizing g first column with
  | nil =>
    rw [singleFrom, List.nil_append, List.flatten_nil, List.append_nil, single_end hs]
  | cons part rest ih =>
    obtain ⟨hpart, hrest⟩ := List.forall_mem_cons.mp hsimple
    have hfresh : ¬ IsWord part → g = fresh := fun hword =>
      hg.resolve_right fun h => hword (h part rfl)
    have hnext : ¬ IsWord part → ∀ other ∈ rest.head?, IsWord other := fun hword other hother =>
      (hparts.apart.rel_head? hother).resolve_left hword
    cases hparts.stretch part List.mem_cons_self with
    | breaks hne hall =>
      have hword := not_isWord_of_breaks hne hall
      have hhead : part.head? = some '\n' := by
        rw [List.head?_eq_some_head hne, hall _ (List.head_mem hne)]
      rw [singleFrom, if_pos hhead, List.append_assoc,
        single_gaps (isGapChar_of_mem_emptyLines hall layout.indent), hfresh hword, fresh,
        foldl_add_emptyLines hall, ih hparts.tail hrest (.inr (hnext hword)),
        text_lines_of_breaks hne hall]
      rfl
    | word hne hall =>
      have hgap : ∀ c ∈ part, isGapChar c = false := fun c hc =>
        isGapChar_of_simple (hpart c hc) (hall c hc)
      have hhead : part.head? ≠ some '\n' := fun hhead =>
        (hall '\n' (List.mem_of_head? hhead)).2 rfl
      rw [singleFrom, if_neg hhead, if_neg (by simp [ne_space_of_word hall])]
      dsimp only
      rw [List.append_assoc, single_word hgap hne, ih hparts.tail hrest (.inl rfl)]
      simp [emit, fresh, Gap.text]
    | spaces hne hall =>
      have hword := not_isWord_of_spaces hne hall
      have hhead : part.head? ≠ some '\n' := fun hhead =>
        absurd (hall '\n' (List.mem_of_head? hhead)) (by decide)
      rw [singleFrom, if_neg hhead, hfresh hword]
      split_ifs with hfold
      · -- folded: the line end is read as the one space that it stands for
        rw [List.append_assoc, single_gaps (isGapChar_of_mem_newLine layout.indent),
          foldl_add_newLine, ih hparts.tail hrest (.inr (hnext hword)), hfold.1]
        rfl
      · have hquote : '\'' ∉ part := fun hc => absurd (hall _ hc) (by decide)
        dsimp only
        rw [doubleApostrophes_eq_self hquote, List.append_assoc,
          single_gaps (isGapChar_of_spaces hall), fresh, foldl_add_spaces hall,
          ih hparts.tail hrest (.inr (hnext hword))]
        simp [Gap.text]

end Single

end Cosim.Proofs.Report.Scalars
