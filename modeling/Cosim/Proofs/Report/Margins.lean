import Cosim.Proofs.Report.Scalars
import Cosim.Proofs.Text.Words

namespace Cosim.Proofs.Report.Margins

open Cosim.Numeral Cosim.Report.Scalar Cosim.Text Cosim.Proofs.Numeral.Digits
  Cosim.Proofs.Numeral.Hexadecimal Cosim.Proofs.Report.Scalars Cosim.Proofs.Text.Words

/-- Every line behind the first is left empty or begins at the indentation. -/
def Hangs (indent : Nat) : List Char → Prop
  | [] => True
  | c :: s => (c = '\n' → s.head? = some '\n' ∨ indentation indent <+: s) ∧ Hangs indent s

section Hangs

variable {indent : Nat} {a b s part : List Char}

theorem Hangs.append (ha : Hangs indent a) (hb : Hangs indent b) : Hangs indent (a ++ b) := by
  induction a with
  | nil => exact hb
  | cons c a ih =>
    obtain ⟨hc, ha⟩ := ha
    refine ⟨fun hbreak => ?_, ih ha⟩
    rcases hc hbreak with hhead | hfront
    · obtain ⟨a, rfl⟩ := List.head?_eq_some_iff.mp hhead
      exact .inl rfl
    · exact .inr (hfront.trans (List.prefix_append a b))

theorem hangs_of_not_mem (h : '\n' ∉ s) : Hangs indent s := by
  induction s with
  | nil => trivial
  | cons c s ih =>
    obtain ⟨hc, hs⟩ := List.ne_and_not_mem_of_not_mem_cons h
    exact ⟨fun hbreak => absurd hbreak.symm hc, ih hs⟩

theorem not_mem_indentation (n : Nat) : '\n' ∉ indentation n :=
  fun h => absurd (List.eq_of_mem_replicate h) (by decide)

theorem hangs_breaks (h : ∀ c ∈ part, c = '\n') :
    Hangs indent ('\n' :: (part ++ indentation indent)) := by
  induction part with
  | nil => exact ⟨fun _ => .inr (List.prefix_rfl), hangs_of_not_mem (not_mem_indentation indent)⟩
  | cons c part ih =>
    obtain ⟨rfl, hpart⟩ := List.forall_mem_cons.mp h
    exact ⟨fun _ => .inl rfl, ih hpart⟩

theorem hangs_newLine (indent : Nat) : Hangs indent (newLine indent) :=
  hangs_breaks (List.forall_mem_nil _)

/-- Characters that end no line belong to the first line of what follows. -/
theorem lines_front (h : '\n' ∉ a) (s : List Char) : ∃ first rest,
    Lines.lines s = first :: rest ∧ Lines.lines (a ++ s) = (a ++ first) :: rest := by
  induction a with
  | nil =>
    obtain ⟨first, rest, hs⟩ := List.exists_cons_of_ne_nil (Blank.cut_ne_nil (· == '\n') s)
    exact ⟨first, rest, hs, hs⟩
  | cons c a ih =>
    obtain ⟨hc, ha⟩ := List.ne_and_not_mem_of_not_mem_cons h
    obtain ⟨first, rest, hs, hlines⟩ := ih ha
    obtain ⟨first', rest', hs', hlines'⟩ := lines_cons hc.symm (a ++ s)
    obtain ⟨rfl, rfl⟩ := List.cons.inj (hlines.symm.trans hs')
    exact ⟨first, rest, hs, hlines'⟩

theorem lines_newline (s : List Char) : Lines.lines ('\n' :: s) = [] :: Lines.lines s :=
  lines_append [] s

theorem margin_of_hangs (h : Hangs indent s) :
    ∀ line ∈ (Lines.lines s).tail, line = [] ∨ indentation indent <+: line := by
  induction s with
  | nil =>
    intro line hline
    cases hline
  | cons c s ih =>
    obtain ⟨hc, hs⟩ := h
    by_cases hbreak : c = '\n'
    · subst hbreak
      rw [lines_newline, List.tail_cons]
      obtain ⟨first, rest, hlines⟩ := List.exists_cons_of_ne_nil (Blank.cut_ne_nil (· == '\n') s)
      have hlines : Lines.lines s = first :: rest := hlines
      have ih := ih hs
      rw [hlines] at ih ⊢
      refine List.forall_mem_cons.mpr ⟨?_, ih⟩
      -- a line end is followed by another one, or by the indentation
      rcases hc rfl with hhead | ⟨back, rfl⟩
      · obtain ⟨s, rfl⟩ := List.head?_eq_some_iff.mp hhead
        rw [lines_newline] at hlines
        exact .inl (List.cons.inj hlines).1.symm
      · obtain ⟨first', rest', -, hfront⟩ := lines_front (not_mem_indentation indent) back
        rw [hfront] at hlines
        exact .inr ((List.cons.inj hlines).1 ▸ List.prefix_append _ first')
    · obtain ⟨first, rest, hlines, hlines'⟩ := lines_cons hbreak s
      rw [hlines']
      have ih := ih hs
      rwa [hlines] at ih

end Hangs

section Write

variable {layout : Layout} {s : List Char} {parts : List (List Char)} {first : Bool} {column : Nat}
  {pending : List Char}

theorem not_mem_escape (c : Char) : '\n' ∉ escape c := by
  have hupper : ∀ width n, '\n' ∉ upperHex width n := by
    intro width n hmem
    obtain ⟨d, hd, hbreak⟩ := List.mem_map.mp hmem
    have hhex : isHexDigit d = true := by
      have hall := isHex_zeroFill width n
      rw [isHex, Bool.and_eq_true, List.all_eq_true] at hall
      exact hall.2 d hd
    have hlow : ∀ n < 128, isHexDigit (Char.ofNat n) = true → (Char.ofNat n).toUpper ≠ '\n' := by
      decide
    refine hlow d.toNat (toNat_lt_of_isHexDigit hhex) ?_ ?_
    · rwa [Char.ofNat_toNat]
    · rwa [Char.ofNat_toNat]
  have hletters : ∀ e ∈ letterEscapes, e.2 ≠ '\n' := by decide
  rw [escape]
  split
  · rename_i letter hletter
    obtain ⟨front, back, hentries, -⟩ := List.lookup_eq_some_iff.mp hletter
    have hne := hletters (c, letter) (by simp [hentries])
    simpa using hne.symm
  · split_ifs <;> simp [hupper]

theorem hangs_plainFrom (h : ∀ part ∈ parts, '\n' ∉ part) :
    Hangs layout.indent (plainFrom layout column parts) := by
  induction parts generalizing column with
  | nil => trivial
  | cons part rest ih =>
    obtain ⟨hpart, hrest⟩ := List.forall_mem_cons.mp h
    rw [plainFrom]
    split_ifs
    · exact (hangs_newLine layout.indent).append (ih hrest)
    · exact (hangs_of_not_mem hpart).append (ih hrest)

theorem not_mem_doubleApostrophes {part : List Char} (h : '\n' ∉ part) :
    '\n' ∉ doubleApostrophes part := by
  intro hmem
  obtain ⟨c, hc, hbreak⟩ := List.mem_flatMap.mp hmem
  have hne : c ≠ '\n' := fun heq => h (heq ▸ hc)
  split_ifs at hbreak
  · simp at hbreak
  · exact hne (List.mem_singleton.mp hbreak).symm

/-- A stretch that does not begin with a line end has none. -/
theorem not_mem_of_head {part : List Char} (h : IsStretch part) (hhead : part.head? ≠ some '\n') :
    '\n' ∉ part := by
  cases h with
  | spaces hne hall => exact fun hmem => absurd (hall _ hmem) (by decide)
  | breaks hne hall =>
    rw [List.head?_eq_some_head hne, hall _ (List.head_mem hne)] at hhead
    exact absurd rfl hhead
  | word hne hall => exact fun hmem => (hall _ hmem).2 rfl

theorem hangs_singleFrom (h : ∀ part ∈ parts, IsStretch part) :
    Hangs layout.indent (singleFrom layout first column parts) := by
  induction parts generalizing first column with
  | nil => trivial
  | cons part rest ih =>
    obtain ⟨hpart, hrest⟩ := List.forall_mem_cons.mp h
    rw [singleFrom]
    split_ifs with hhead
    · refine Hangs.append (hangs_breaks fun c hc => ?_) (ih hrest)
      cases hpart with
      | spaces hne hall =>
        rw [List.head?_eq_some_head hne, hall _ (List.head_mem hne)] at hhead
        exact absurd hhead (by decide)
      | breaks hne hall => exact hall c hc
      | word hne hall => exact absurd rfl (hall _ (List.mem_of_head? hhead)).2
    · exact (hangs_newLine layout.indent).append (ih hrest)
    · have hnone := not_mem_doubleApostrophes (not_mem_of_head hpart hhead)
      exact (hangs_of_not_mem hnone).append (ih hrest)

theorem hangs_foldedLine (space : Bool) : Hangs layout.indent (foldedLine layout space) := by
  have hback : Hangs layout.indent (if space then ['\\'] else []) :=
    hangs_of_not_mem (by split_ifs <;> simp)
  exact Hangs.append ⟨nofun, hangs_newLine layout.indent⟩ hback

theorem not_mem_of_raw (h : ∀ c ∈ pending, needsEscape c = false) : '\n' ∉ pending :=
  fun hmem => absurd (h _ hmem) (by decide)

theorem hangs_doubleFrom (h : ∀ c ∈ pending, needsEscape c = false) :
    Hangs layout.indent (doubleFrom layout first column pending s) := by
  have hraw : ∀ {pending : List Char}, (∀ c ∈ pending, needsEscape c = false) →
      '\n' ∉ pending.reverse := fun h hmem => not_mem_of_raw h (List.mem_reverse.mp hmem)
  induction s generalizing first column pending with
  | nil => exact hangs_of_not_mem (hraw h)
  | cons c s ih =>
    have hwritten : Hangs layout.indent (pending.reverse ++ escape c) :=
      (hangs_of_not_mem (hraw h)).append (hangs_of_not_mem (not_mem_escape c))
    rw [doubleFrom]
    dsimp only
    split_ifs with hneeds hlong hfold
    · exact (hwritten.append (hangs_foldedLine _)).append (ih (List.forall_mem_nil _))
    · exact hwritten.append (ih (List.forall_mem_nil _))
    · have hone : ∀ d ∈ [c], needsEscape d = false := by simpa using hneeds
      exact ((hangs_of_not_mem (hraw h)).append (hangs_foldedLine _)).append (ih hone)
    · exact ih (List.forall_mem_cons.mpr ⟨by simpa using hneeds, h⟩)

theorem hangs_write (layout : Layout) (column : Nat) (s : List Char) :
    Hangs layout.indent (write layout column s) := by
  have hquoted : ∀ {quote : Char} {inside : List Char}, quote ≠ '\n' → Hangs layout.indent inside →
      Hangs layout.indent (quote :: (inside ++ [quote])) := fun hquote hinside =>
    ⟨fun h => absurd h hquote, hinside.append (hangs_of_not_mem (by simpa using hquote.symm))⟩
  rcases write_cases layout column s with ⟨hplain, hwrite⟩ | ⟨-, -, hwrite⟩ | hwrite
  · rw [hwrite]
    refine hangs_plainFrom fun part hpart hmem => ?_
    simp only [isPlain, Bool.and_eq_true, List.all_eq_true, bne_iff_ne] at hplain
    exact (hplain.1.1.1.1.2 _ (mem_of_mem_stretches hpart hmem)).2 rfl
  · rw [hwrite]
    exact hquoted (by decide) (hangs_singleFrom fun part => isStretch_of_mem)
  · rw [hwrite]
    exact hquoted (by decide) (hangs_doubleFrom (List.forall_mem_nil _))

theorem plainFrom_unfolded (indent column : Nat) (parts : List (List Char)) :
    plainFrom ⟨indent, false⟩ column parts = parts.flatten := by
  induction parts generalizing column with
  | nil => rfl
  | cons part rest ih => rw [plainFrom, if_neg (by simp), ih, List.flatten_cons]

theorem not_mem_singleFrom {indent : Nat} (h : ∀ part ∈ parts, '\n' ∉ part) :
    '\n' ∉ singleFrom ⟨indent, false⟩ first column parts := by
  induction parts generalizing first column with
  | nil => exact List.not_mem_nil
  | cons part rest ih =>
    obtain ⟨hpart, hrest⟩ := List.forall_mem_cons.mp h
    have hhead : part.head? ≠ some '\n' := fun hhead => hpart (List.mem_of_head? hhead)
    rw [singleFrom, if_neg hhead, if_neg (by simp)]
    exact List.not_mem_append (not_mem_doubleApostrophes hpart) (ih hrest)

theorem not_mem_doubleFrom {indent : Nat} (h : ∀ c ∈ pending, needsEscape c = false) :
    '\n' ∉ doubleFrom ⟨indent, false⟩ first column pending s := by
  induction s generalizing first column pending with
  | nil => exact fun hmem => not_mem_of_raw h (List.mem_reverse.mp hmem)
  | cons c s ih =>
    have hinside : (!first && !s.isEmpty && false) = false := Bool.and_false _
    rw [doubleFrom]
    dsimp only
    rw [hinside]
    split_ifs with hneeds hlong hfold
    · exact absurd hlong.1 (by decide)
    · refine List.not_mem_append (List.not_mem_append ?_ (not_mem_escape c))
        (ih (List.forall_mem_nil _))
      exact fun hmem => not_mem_of_raw h (List.mem_reverse.mp hmem)
    · exact absurd hfold.1 (by decide)
    · exact ih (List.forall_mem_cons.mpr ⟨by simpa using hneeds, h⟩)

/-- A text of one line is written on one line if it is not to be folded. -/
theorem not_mem_write {indent : Nat} (h : '\n' ∉ s) (column : Nat) :
    '\n' ∉ write ⟨indent, false⟩ column s := by
  have hparts : ∀ part ∈ stretches s, '\n' ∉ part := fun part hpart hmem =>
    h (mem_of_mem_stretches hpart hmem)
  rcases write_cases ⟨indent, false⟩ column s with ⟨-, hwrite⟩ | ⟨-, -, hwrite⟩ | hwrite
  · rwa [hwrite, plainFrom_unfolded, flatten_stretches]
  · rw [hwrite]
    simpa using not_mem_singleFrom hparts
  · rw [hwrite]
    simpa using not_mem_doubleFrom (List.forall_mem_nil _)

end Write

end Cosim.Proofs.Report.Margins
