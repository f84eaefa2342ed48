import Cosim.Proofs.Report.Scalars.Reader
import Mathlib.Data.List.SplitBy

namespace Cosim.Proofs.Report.Scalars

open Cosim.Numeral Cosim.Report.Scalar

section Stretches

/-- A stretch of spaces, of line ends, or of other characters. -/
inductive IsStretch : List Char → Prop
  | spaces {s : List Char} : s ≠ [] → (∀ c ∈ s, c = ' ') → IsStretch s
  | breaks {s : List Char} : s ≠ [] → (∀ c ∈ s, c = '\n') → IsStretch s
  | word {s : List Char} : s ≠ [] → (∀ c ∈ s, c ≠ ' ' ∧ c ≠ '\n') → IsStretch s

def IsWord (s : List Char) : Prop := s ≠ [] ∧ ∀ c ∈ s, c ≠ ' ' ∧ c ≠ '\n'

/-- Stretches with words between the others. -/
structure IsSpaced (parts : List (List Char)) : Prop where
  stretch : ∀ part ∈ parts, IsStretch part
  apart : parts.IsChain fun a b => IsWord a ∨ IsWord b

theorem not_isWord_of_spaces {s : List Char} (hne : s ≠ []) (hall : ∀ c ∈ s, c = ' ') :
    ¬ IsWord s := by
  rintro ⟨-, hword⟩
  obtain ⟨c, hc⟩ := List.exists_mem_of_ne_nil s hne
  exact (hword c hc).1 (hall c hc)

theorem not_isWord_of_breaks {s : List Char} (hne : s ≠ []) (hall : ∀ c ∈ s, c = '\n') :
    ¬ IsWord s := by
  rintro ⟨-, hword⟩
  obtain ⟨c, hc⟩ := List.exists_mem_of_ne_nil s hne
  exact (hword c hc).2 (hall c hc)

theorem ne_space_of_word {s : List Char} (hall : ∀ c ∈ s, c ≠ ' ' ∧ c ≠ '\n') : s ≠ [' '] := by
  rintro rfl
  exact (hall ' ' List.mem_cons_self).1 rfl

theorem IsSpaced.tail {part : List Char} {rest : List (List Char)} (h : IsSpaced (part :: rest)) :
    IsSpaced rest :=
  ⟨fun other hother => h.stretch other (List.mem_cons_of_mem part hother), h.apart.tail⟩

theorem isStretch_of_mem {s part : List Char} (h : part ∈ stretches s) : IsStretch part := by
  have hchain := List.isChain_of_mem_splitBy h
  have hne := List.ne_nil_of_mem_splitBy h
  obtain ⟨a, rest, rfl⟩ := List.exists_cons_of_ne_nil hne
  have hsame : ∀ c ∈ a :: rest, (a == ' ') = (c == ' ') ∧ (a == '\n') = (c == '\n') := by
    clear h hne
    induction rest generalizing a with
    | nil => simp
    | cons b rest ih =>
      obtain ⟨hab, hrest⟩ := List.isChain_cons_cons.mp hchain
      simp only [Bool.and_eq_true, beq_iff_eq (α := Bool)] at hab
      intro c hc
      rcases List.mem_cons.mp hc with rfl | hc
      · exact ⟨rfl, rfl⟩
      · obtain ⟨hspace, hbreak⟩ := ih b hrest c hc
        exact ⟨hab.1.trans hspace, hab.2.trans hbreak⟩
  by_cases hspace : a = ' '
  · refine .spaces hne fun c hc => ?_
    have h := (hsame c hc).1
    simpa [hspace] using h.symm
  · by_cases hbreak : a = '\n'
    · refine .breaks hne fun c hc => ?_
      have h := (hsame c hc).2
      simpa [hbreak] using h.symm
    · refine .word hne fun c hc => ?_
      obtain ⟨h, h'⟩ := hsame c hc
      rw [beq_false_of_ne hspace] at h
      rw [beq_false_of_ne hbreak] at h'
      exact ⟨by simpa using h.symm, by simpa using h'.symm⟩

theorem hasSpaceAtBreak_append {a b : Char} (h : a = ' ' ∧ b = '\n' ∨ a = '\n' ∧ b = ' ')
    (front back : List Char) : hasSpaceAtBreak (front ++ a :: b :: back) = true := by
  induction front with
  | nil => rcases h with ⟨rfl, rfl⟩ | ⟨rfl, rfl⟩ <;> simp [hasSpaceAtBreak]
  | cons c front ih =>
    cases front with
    | nil => rw [List.singleton_append, hasSpaceAtBreak, ← List.nil_append (a :: _), ih,
        Bool.or_true]
    | cons d front =>
      rw [List.cons_append, List.cons_append, hasSpaceAtBreak, ← List.cons_append, ih, Bool.or_true]

/-- Beside line ends there are words, if there is no space. -/
theorem isSpaced_stretches {s : List Char} (h : hasSpaceAtBreak s = false) :
    IsSpaced (stretches s) := by
  refine ⟨fun part => isStretch_of_mem, ?_⟩
  have hkinds := List.isChain_getLast_head_splitBy
    (fun a b : Char => (a == ' ') == (b == ' ') && (a == '\n') == (b == '\n')) s
  rw [List.isChain_iff_forall_rel_of_append_cons_cons] at hkinds ⊢
  intro a b front back hparts
  obtain ⟨ha, hb, hkind⟩ := hkinds hparts
  have hflat : s = front.flatten ++ a.dropLast ++ a.getLast ha :: b.head hb ::
      (b.tail ++ back.flatten) := by
    calc s = (stretches s).flatten := (List.flatten_splitBy _ s).symm
      _ = front.flatten ++ ((a.dropLast ++ [a.getLast ha]) ++
          ((b.head hb :: b.tail) ++ back.flatten)) := by
        rw [List.dropLast_concat_getLast, List.cons_head_tail, hparts, List.flatten_append,
          List.flatten_cons, List.flatten_cons]
      _ = _ := by simp only [List.append_assoc, List.nil_append, List.cons_append]
  have hends : ∀ part ∈ stretches s, ∀ c ∈ part, IsWord part ∨ c = ' ' ∨ c = '\n' := by
    intro part hpart c hc
    cases isStretch_of_mem hpart with
    | spaces hne hall => exact .inr (.inl (hall c hc))
    | breaks hne hall => exact .inr (.inr (hall c hc))
    | word hne hall => exact .inl ⟨hne, hall⟩
  rcases hends a (by simp [hparts]) _ (List.getLast_mem ha) with hword | hlast
  · exact .inl hword
  rcases hends b (by simp [hparts]) _ (List.head_mem hb) with hword | hhead
  · exact .inr hword
  have hbeside :
      ¬ (a.getLast ha = ' ' ∧ b.head hb = '\n' ∨ a.getLast ha = '\n' ∧ b.head hb = ' ') := by
    intro hbeside
    rw [hflat, hasSpaceAtBreak_append hbeside] at h
    cases h
  rcases hlast with hlast | hlast <;> rcases hhead with hhead | hhead <;>
    simp [hlast, hhead] at hkind hbeside

variable {s part : List Char} {parts : List (List Char)}

/-- A text that can be written as it is has words only, with single lines of spaces between them. -/
theorem hasSpaceAtBreak_of_simple (h : ∀ c ∈ s, isSimple c = true ∧ c ≠ '\n') :
    hasSpaceAtBreak s = false := by
  induction s with
  | nil => rfl
  | cons a s ih =>
    obtain ⟨ha, hs⟩ := List.forall_mem_cons.mp h
    cases s with
    | nil => rfl
    | cons b s =>
      rw [hasSpaceAtBreak, ih hs, beq_false_of_ne (hs b List.mem_cons_self).2,
        beq_false_of_ne ha.2]
      simp

theorem mem_of_mem_stretches (hpart : part ∈ stretches s) {c : Char} (hc : c ∈ part) : c ∈ s := by
  rw [← List.flatten_splitBy
    (fun a b : Char => (a == ' ') == (b == ' ') && (a == '\n') == (b == '\n')) s]
  exact List.mem_flatten_of_mem hpart hc

theorem flatten_stretches (s : List Char) : (stretches s).flatten = s := List.flatten_splitBy _ s

theorem isWord_of_mem (hpart : part ∈ stretches s) {c : Char} (hc : c ∈ part)
    (hword : c ≠ ' ' ∧ c ≠ '\n') : IsWord part := by
  cases isStretch_of_mem hpart with
  | spaces hne hall => exact absurd (hall c hc) hword.1
  | breaks hne hall => exact absurd (hall c hc) hword.2
  | word hne hall => exact ⟨hne, hall⟩

theorem isWord_getLast (h : ∀ c ∈ s.getLast?, c ≠ ' ' ∧ c ≠ '\n') :
    ∀ part ∈ (stretches s).getLast?, IsWord part := by
  intro part hpart
  obtain ⟨front, hparts⟩ := List.getLast?_eq_some_iff.mp hpart
  have hmem : part ∈ stretches s := List.mem_of_getLast? hpart
  have hne := List.ne_nil_of_mem_splitBy hmem
  refine isWord_of_mem hmem (List.getLast_mem hne) (h _ ?_)
  rw [← flatten_stretches s, hparts, List.flatten_append, List.flatten_singleton,
    List.getLast?_append_of_ne_nil _ hne]
  exact List.getLast?_eq_some_getLast hne

end Stretches

section Gaps

variable {g : Gap} {part s : List Char} {n : Nat}

theorem foldl_add_spaces (h : ∀ c ∈ part, c = ' ') (s : List Char) :
    part.foldl Gap.add (.blanks s) = .blanks (s ++ part) := by
  induction part generalizing s with
  | nil => rw [List.foldl_nil, List.append_nil]
  | cons c part ih =>
    obtain ⟨rfl, hpart⟩ := List.forall_mem_cons.mp h
    rw [List.foldl_cons, Gap.add, if_neg (by decide), ih hpart, List.append_assoc,
      List.singleton_append]

theorem foldl_add_lines (h : ∀ c ∈ part, c = ' ' ∨ c = '\n') (start : List Char) :
    part.foldl Gap.add (.lines start n) = .lines start (n + part.count '\n') := by
  induction part generalizing n with
  | nil => rfl
  | cons c part ih =>
    obtain ⟨hc, hpart⟩ := List.forall_mem_cons.mp h
    rw [List.foldl_cons, Gap.add, ih hpart, List.count_cons]
    rcases hc with rfl | rfl
    · rfl
    · simp [Nat.add_comm, Nat.add_left_comm]

theorem blank_of_mem_emptyLines (h : ∀ c ∈ part, c = '\n') (indent : Nat) :
    ∀ c ∈ part ++ indentation indent, c = ' ' ∨ c = '\n' := by
  intro c hc
  rcases List.mem_append.mp hc with hc | hc
  · exact .inr (h c hc)
  · exact .inl (List.eq_of_mem_replicate hc)

theorem isGapChar_of_blank {c : Char} (h : c = ' ' ∨ c = '\n') : isGapChar c = true := by
  rcases h with rfl | rfl <;> rfl

theorem isGapChar_of_spaces (h : ∀ c ∈ part, c = ' ') : ∀ c ∈ part, isGapChar c = true :=
  fun c hc => isGapChar_of_blank (.inl (h c hc))

theorem isGapChar_of_mem_emptyLines (h : ∀ c ∈ part, c = '\n') (indent : Nat) :
    ∀ c ∈ '\n' :: (part ++ indentation indent), isGapChar c = true :=
  List.forall_mem_cons.mpr
    ⟨rfl, fun c hc => isGapChar_of_blank (blank_of_mem_emptyLines h indent c hc)⟩

/-- A line end and empty lines behind it, up to the indentation of the next line. -/
theorem foldl_add_emptyLines (h : ∀ c ∈ part, c = '\n') (s : List Char) (indent : Nat) :
    ('\n' :: (part ++ indentation indent)).foldl Gap.add (.blanks s) =
      .lines [' '] part.length := by
  have hcount : part.count '\n' = part.length := List.count_eq_length.mpr fun c hc => (h c hc).symm
  have hnone : (indentation indent).count '\n' = 0 := by
    rw [List.count_eq_zero]
    exact fun hc => absurd (List.eq_of_mem_replicate hc) (by decide)
  rw [List.foldl_cons, Gap.add, if_pos rfl, foldl_add_lines (blank_of_mem_emptyLines h indent),
    List.count_append, hcount, hnone, Nat.zero_add, Nat.add_zero]

theorem isGapChar_of_mem_newLine (indent : Nat) : ∀ c ∈ newLine indent, isGapChar c = true :=
  isGapChar_of_mem_emptyLines (List.forall_mem_nil _) indent

theorem foldl_add_newLine (indent : Nat) : (newLine indent).foldl Gap.add fresh = .lines [' '] 0 :=
  foldl_add_emptyLines (List.forall_mem_nil _) [] indent

theorem text_lines_of_breaks (hne : part ≠ []) (hall : ∀ c ∈ part, c = '\n') :
    (Gap.lines [' '] part.length).text = part := by
  obtain ⟨n, hn⟩ := Nat.exists_eq_succ_of_ne_zero (List.length_pos_iff.mpr hne).ne'
  rw [hn, Gap.text]
  exact (List.eq_replicate_iff.mpr ⟨hn, hall⟩).symm

theorem isGapChar_of_simple {c : Char} (h : isSimple c = true) (hc : c ≠ ' ' ∧ c ≠ '\n') :
    isGapChar c = false := by
  have htab : c ≠ '\t' := by
    rintro rfl
    exact absurd h (by decide)
  simp [isGapChar, isGap, hc.1, hc.2, htab]

end Gaps

end Cosim.Proofs.Report.Scalars
