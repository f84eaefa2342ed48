import Cosim.Proofs.Report.Scalars.Stretches

namespace Cosim.Proofs.Report.Scalars

open Cosim.Numeral Cosim.Report.Scalar

section Plain

variable {layout : Layout} {g : Gap} {s part rest : List Char} {parts : List (List Char)}
  {column : Nat}

theorem plain_gaps (h : ∀ c ∈ part, isGapChar c = true) (g : Gap) (s : List Char) :
    plain g (part ++ s) = plain (part.foldl Gap.add g) s := by
  induction part generalizing g with
  | nil => rfl
  | cons c part ih =>
    obtain ⟨hc, hpart⟩ := List.forall_mem_cons.mp h
    rw [List.cons_append, plain, if_pos hc, ih hpart, List.foldl_cons]

theorem plain_word (h : ∀ c ∈ part, isGapChar c = false) (hne : part ≠ []) (g : Gap)
    (s : List Char) :
    plain g (part ++ s) = g.text ++ part ++ plain fresh s := by
  induction part generalizing g with
  | nil => exact absurd rfl hne
  | cons c part ih =>
    obtain ⟨hc, hpart⟩ := List.forall_mem_cons.mp h
    rw [List.cons_append, plain, if_neg (by simp [hc])]
    cases part with
    | nil => simp
    | cons d part =>
      rw [ih hpart (List.cons_ne_nil d part) fresh]
      simp [fresh, Gap.text]

theorem plain_plainFrom (hparts : IsSpaced parts)
    (hsimple : ∀ part ∈ parts, ∀ c ∈ part, isSimple c = true ∧ c ≠ '\n')
    (hlast : ∀ part ∈ parts.getLast?, IsWord part)
    (hg : g = fresh ∨ ∃ part ∈ parts.head?, IsWord part) :
    plain g (plainFrom layout column parts) = g.text ++ parts.flatten := by
  induction parts generalizing g column with
  | nil =>
    obtain rfl : g = fresh := hg.resolve_right nofun
    rfl
  | cons part rest ih =>
    obtain ⟨hpart, hrest⟩ := List.forall_mem_cons.mp hsimple
    have hlater : ∀ part ∈ rest.getLast?, IsWord part := fun other hother => by
      obtain ⟨d, tail, rfl⟩ := List.exists_cons_of_ne_nil (l := rest) (by rintro rfl; cases hother)
      exact hlast other (by rwa [List.getLast?_cons_cons])
    cases hparts.stretch part List.mem_cons_self with
    | breaks hne hall =>
      obtain ⟨c, hc⟩ := List.exists_mem_of_ne_nil part hne
      exact absurd (hall c hc) (hpart c hc).2
    | word hne hall =>
      have hgap : ∀ c ∈ part, isGapChar c = false := fun c hc =>
        isGapChar_of_simple (hpart c hc).1 (hall c hc)
      rw [plainFrom, if_neg (by simp [ne_space_of_word hall]), plain_word hgap hne,
        ih hparts.tail hrest hlater (.inl rfl), List.flatten_cons]
      simp [fresh, Gap.text]
    | spaces hne hall =>
      have hword := not_isWord_of_spaces hne hall
      obtain rfl : g = fresh := hg.resolve_right (by simpa using hword)
      have hnext : ∃ part ∈ rest.head?, IsWord part := by
        cases rest with
        | nil => exact absurd (hlast part rfl) hword
        | cons other rest =>
          have hapart := (List.isChain_cons_cons.mp hparts.apart).1
          exact ⟨other, rfl, hapart.resolve_left hword⟩
      rw [plainFrom]
      split_ifs with hfold
      · -- folded: the line end is read as the one space that it stands for
        rw [plain_gaps (isGapChar_of_mem_newLine layout.indent), foldl_add_newLine,
          ih hparts.tail hrest hlater (.inr hnext), hfold.1]
        rfl
      · rw [plain_gaps (isGapChar_of_spaces hall), fresh, foldl_add_spaces hall,
          ih hparts.tail hrest hlater (.inr hnext)]
        simp [Gap.text]

/-- A text that is written as it is is read as it was. -/
theorem readText_plainFrom (h : isPlain s = true) (layout : Layout) (column : Nat) :
    readText (plainFrom layout column (stretches s)) = some s := by
  simp only [isPlain, Bool.and_eq_true, Bool.not_eq_true', List.all_eq_true, bne_iff_ne] at h
  obtain ⟨⟨⟨⟨⟨hclear, hsimple⟩, hhead⟩, hlast⟩, hstarts⟩, hholds⟩ := h
  have hparts := isSpaced_stretches (hasSpaceAtBreak_of_simple hsimple)
  have hsimple' : ∀ part ∈ stretches s, ∀ c ∈ part, isSimple c = true ∧ c ≠ '\n' :=
    fun part hpart c hc => hsimple c (mem_of_mem_stretches hpart hc)
  have hends := isWord_getLast (s := s) fun c hc =>
    ⟨fun hspace => hlast (hspace ▸ hc), (hsimple c (List.mem_of_getLast? hc)).2⟩
  obtain ⟨c, tail, rfl⟩ := List.exists_cons_of_ne_nil (l := s) (by rintro rfl; cases hclear)
  have hne : stretches (c :: tail) ≠ [] := List.splitBy_ne_nil.mpr (List.cons_ne_nil c tail)
  obtain ⟨part, rest, hstretches⟩ := List.exists_cons_of_ne_nil hne
  have hmem : part ∈ stretches (c :: tail) := hstretches ▸ List.mem_cons_self
  obtain ⟨d, back, rfl⟩ := List.exists_cons_of_ne_nil (List.ne_nil_of_mem_splitBy hmem)
  obtain rfl : d = c := by
    have hflat := flatten_stretches (c :: tail)
    rw [hstretches, List.flatten_cons, List.cons_append] at hflat
    exact (List.cons.inj hflat).1
  have hd := hsimple d List.mem_cons_self
  have hspace : d ≠ ' ' := fun hspace => hhead (hspace ▸ rfl)
  have hgap := isGapChar_of_simple hd.1 ⟨hspace, hd.2⟩
  have hout : ∃ later, plainFrom layout column (stretches (d :: tail)) = d :: later := by
    refine ⟨back ++ plainFrom layout (column + (d :: back).length) rest, ?_⟩
    rw [hstretches, plainFrom, if_neg (by simp [hspace]), List.cons_append]
  obtain ⟨later, hlater⟩ := hout
  have hindicator : startIndicators.contains d = false := by
    simp only [startsStructure, Bool.or_eq_false_iff] at hstarts
    exact hstarts.1.1.1
  have hquote : d ≠ '\'' ∧ d ≠ '"' := by
    constructor <;> rintro rfl <;> exact absurd hindicator (by decide +kernel)
  have hread : plain fresh (d :: later) = d :: tail := by
    rw [← hlater, plain_plainFrom hparts hsimple' hends (.inl rfl), flatten_stretches]
    rfl
  rw [hlater, readText, List.dropWhile_cons_of_neg (by simp [hgap])]
  simp [hquote, hread, hclear, hstarts, hholds]

end Plain

end Cosim.Proofs.Report.Scalars
