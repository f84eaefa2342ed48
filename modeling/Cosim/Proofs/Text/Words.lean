import Cosim.Text.Lines
import Mathlib.Data.List.DropRight
import Mathlib.Data.List.TakeWhile

namespace Cosim.Proofs.Text.Words

open Cosim.Text Cosim.Text.Blank

theorem cut_eq_splitOnP (p : Char → Bool) (s : List Char) : cut p s = s.splitOnP p := by
  induction s with
  | nil => rfl
  | cons c s ih =>
    rw [cut, ih, List.splitOnP_cons_eq_if_modifyHead]
    split
    · rfl
    · cases h : s.splitOnP p with
      | nil => exact absurd h (List.splitOnP_ne_nil p s)
      | cons piece pieces => rfl

/-- A word is not empty and holds no blank. -/
def IsSolid (w : List Char) : Prop := w ≠ [] ∧ ∀ c ∈ w, isBlank c = false

instance (w : List Char) : Decidable (IsSolid w) :=
  decidable_of_iff (w ≠ [] ∧ w.all (fun c => !isBlank c) = true) (by simp [IsSolid])

theorem words_blank {b : Char} (hb : isBlank b = true) (s : List Char) :
    words (b :: s) = words s := by
  simp [words, cut_of_hit hb]

theorem words_blanks {blanks : List Char} (hb : ∀ b ∈ blanks, isBlank b = true) (s : List Char) :
    words (blanks ++ s) = words s := by
  induction blanks with
  | nil => rfl
  | cons b blanks ih =>
    rw [List.cons_append, words_blank (hb b (by simp)), ih fun x hx => hb x (by simp [hx])]

theorem words_append_blank {b : Char} (hb : isBlank b = true) (s t : List Char) :
    words (s ++ b :: t) = words s ++ words t := by
  simp only [words, cut_eq_splitOnP, List.splitOnP_append_cons s t hb, List.filter_append]

/-- A word ends where the text ends or a blank follows. -/
theorem words_append {w rest : List Char} (hw : IsSolid w)
    (hr : ∀ b ∈ rest.head?, isBlank b = true) : words (w ++ rest) = w :: words rest := by
  cases rest with
  | nil =>
    have hc : cut isBlank w = [w] := by rw [cut_eq_splitOnP, List.splitOnP_eq_singleton hw.2]
    rw [List.append_nil, words, hc, List.filter_cons_of_pos (by simpa using hw.1)]
    rfl
  | cons b rest =>
    have hb : isBlank b = true := hr b rfl
    have hc : cut isBlank (w ++ b :: rest) = w :: cut isBlank rest := by
      rw [cut_eq_splitOnP, List.splitOnP_append_cons_of_forall_mem hw.2 b hb, cut_eq_splitOnP]
    rw [words_blank hb, words, hc, List.filter_cons_of_pos (by simpa using hw.1), words]

theorem IsSolid.append {a b : List Char} (ha : IsSolid a) (hb : IsSolid b) : IsSolid (a ++ b) :=
  ⟨List.append_ne_nil_of_left_ne_nil ha.1 b, List.forall_mem_append.mpr ⟨ha.2, hb.2⟩⟩

/-- Each word with a space in front. -/
def spaced (ws : List (List Char)) : List Char := ws.flatMap (' ' :: ·)

theorem words_spaced {ws : List (List Char)} (h : ∀ w ∈ ws, IsSolid w) :
    words (spaced ws) = ws := by
  induction ws with
  | nil => rfl
  | cons w ws ih =>
    have ht : spaced (w :: ws) = ' ' :: (w ++ spaced ws) := rfl
    have hr : ∀ b ∈ (spaced ws).head?, isBlank b = true := by
      cases ws with
      | nil => simp [spaced]
      | cons v ws =>
        rintro b ⟨⟩
        rfl
    rw [ht, words_blank rfl, words_append (h w List.mem_cons_self) hr,
      ih fun x hx => h x (List.mem_cons_of_mem w hx)]

theorem not_of_mem_cut {p : Char → Bool} {s : List Char} :
    ∀ piece ∈ cut p s, ∀ c ∈ piece, p c = false := by
  induction s with
  | nil => simp [cut]
  | cons d s ih =>
    unfold cut
    split
    · simpa using ih
    rename_i hd
    rw [Bool.not_eq_true] at hd
    split
    · simpa using hd
    · rename_i first pieces hs
      simp only [hs, List.forall_mem_cons] at ih
      simp only [List.forall_mem_cons]
      exact ⟨⟨hd, ih.1⟩, ih.2⟩

theorem isSolid_of_mem_words {s w : List Char} (h : w ∈ words s) : IsSolid w := by
  obtain ⟨hm, hne⟩ := List.mem_filter.mp h
  exact ⟨by simpa using hne, not_of_mem_cut w hm⟩

theorem mem_of_mem_cut {p : Char → Bool} {s : List Char} :
    ∀ piece ∈ cut p s, ∀ c ∈ piece, c ∈ s := by
  induction s with
  | nil => simp [cut]
  | cons d s ih =>
    unfold cut
    split
    · simp only [List.forall_mem_cons]
      refine ⟨fun c hc => absurd hc List.not_mem_nil, fun piece hp c hc => ?_⟩
      exact List.mem_cons_of_mem d (ih piece hp c hc)
    · split
      · simp
      · rename_i first pieces hs
        simp only [hs, List.forall_mem_cons] at ih
        simp only [List.forall_mem_cons]
        refine ⟨⟨List.mem_cons_self, fun c hc => ?_⟩, fun piece hp c hc => ?_⟩
        · exact List.mem_cons_of_mem d (ih.1 c hc)
        · exact List.mem_cons_of_mem d (ih.2 piece hp c hc)

theorem lines_append (a b : List Char) :
    Lines.lines (a ++ '\n' :: b) = Lines.lines a ++ Lines.lines b := by
  simp only [Lines.lines, cut_eq_splitOnP]
  exact List.splitOnP_append_cons a b (beq_self_eq_true '\n')

theorem lines_of_not_mem {s : List Char} (h : '\n' ∉ s) : Lines.lines s = [s] := by
  rw [Lines.lines, cut_eq_splitOnP]
  apply List.splitOnP_eq_singleton
  intro c hc
  exact beq_false_of_ne fun he => h (he ▸ hc)

theorem lines_cons {c : Char} (hc : c ≠ '\n') (s : List Char) :
    ∃ first rest, Lines.lines s = first :: rest ∧ Lines.lines (c :: s) = (c :: first) :: rest := by
  obtain ⟨first, rest, hs⟩ := List.exists_cons_of_ne_nil (cut_ne_nil (· == '\n') s)
  refine ⟨first, rest, hs, ?_⟩
  rw [Lines.lines, cut, if_neg (by simpa using hc), hs]

theorem length_lines (s : List Char) : (Lines.lines s).length = s.count '\n' + 1 := by
  induction s with
  | nil => rfl
  | cons c s ih =>
    rw [Lines.lines, cut_eq_splitOnP] at ih ⊢
    rw [List.splitOnP_cons_eq_if_modifyHead, List.count_cons]
    split
    · rw [List.length_cons, ih]
    · rw [List.length_modifyHead, ih]

theorem lines_intercalate {pieces : List (List Char)} (hne : pieces ≠ [])
    (h : ∀ piece ∈ pieces, '\n' ∉ piece) :
    Lines.lines (List.intercalate ['\n'] pieces) = pieces := by
  rw [Lines.lines, cut_eq_splitOnP, ← List.splitOn_eq_splitOnP]
  exact List.splitOn_intercalate '\n' h hne

theorem exists_dropEndWhile (p : Char → Bool) (s : List Char) :
    ∃ tail, s = dropEndWhile p s ++ tail ∧ ∀ c ∈ tail, p c = true := by
  refine ⟨(s.reverse.takeWhile p).reverse, ?_, ?_⟩
  · rw [dropEndWhile, ← List.reverse_append, List.takeWhile_append_dropWhile, List.reverse_reverse]
  · exact fun c hc => List.mem_takeWhile_imp (List.mem_reverse.mp hc)

/-- The end of a line loses carriage returns only. -/
theorem exists_chomp (line : List Char) :
    ∃ tail, line = Lines.chomp line ++ tail ∧ ∀ c ∈ tail, c = '\r' := by
  obtain ⟨tail, hline, htail⟩ := exists_dropEndWhile (· == '\r') line
  exact ⟨tail, hline, fun c hc => beq_iff_eq.mp (htail c hc)⟩

theorem chomp_eq_self {line : List Char} (h : '\r' ∉ line) : Lines.chomp line = line := by
  obtain ⟨tail, hline, htail⟩ := exists_chomp line
  cases tail with
  | nil => exact (hline.trans (List.append_nil _)).symm
  | cons c tail =>
    have hc : c ∈ line := hline ▸ List.mem_append_right _ List.mem_cons_self
    exact absurd (htail c List.mem_cons_self ▸ hc) h

theorem chomp_cons {c : Char} (hc : c ≠ '\r') (line : List Char) :
    Lines.chomp (c :: line) = c :: Lines.chomp line := by
  have hlast : [c].dropWhile (· == '\r') = [c] :=
    List.dropWhile_cons_of_neg (by simpa using hc)
  rw [Lines.chomp, Lines.chomp, dropEndWhile, dropEndWhile, List.reverse_cons,
    List.dropWhile_append, hlast]
  split
  · rename_i hnil
    rw [List.isEmpty_iff.mp hnil]
    rfl
  · rw [List.reverse_append]
    rfl

theorem chomp_chomp (line : List Char) : Lines.chomp (Lines.chomp line) = Lines.chomp line :=
  List.rdropWhile_idempotent _ line

theorem all_chomp (line : List Char) : (Lines.chomp line).all isBlank = line.all isBlank := by
  obtain ⟨tail, hline, htail⟩ := exists_chomp line
  have hall : tail.all isBlank = true := by
    rw [List.all_eq_true]
    intro c hc
    rw [htail c hc]
    decide
  calc (Lines.chomp line).all isBlank = (Lines.chomp line ++ tail).all isBlank := by
        rw [List.all_append, hall, Bool.and_true]
    _ = line.all isBlank := by rw [← hline]

/-- What the end of a line loses stands behind every other character. -/
theorem chomp_append {s b : List Char} {c : Char} (hc : c ≠ '\r') :
    ∃ b', Lines.chomp (s ++ c :: b) = s ++ c :: b' ∧ ∀ x ∈ b', x ∈ b := by
  obtain ⟨tail, hline, htail⟩ := exists_chomp (s ++ c :: b)
  have hsplit : (s ++ [c]) ++ b = Lines.chomp (s ++ c :: b) ++ tail := by
    rw [← hline, List.append_assoc, List.singleton_append]
  rcases List.append_eq_append_iff.mp hsplit with ⟨kept, hs, hb⟩ | ⟨lost, hs, ht⟩
  · refine ⟨kept, ?_, fun x hx => hb ▸ List.mem_append_left _ hx⟩
    rw [hs, List.append_assoc, List.singleton_append]
  · rcases List.eq_nil_or_concat lost with rfl | ⟨lost, d, rfl⟩
    · refine ⟨[], ?_, nofun⟩
      rw [List.append_nil] at hs
      exact hs.symm
    · -- the last character that would be lost is `c`
      rw [List.concat_eq_append, ← List.append_assoc] at hs
      have hd : d = c := (List.append_singleton_inj.mp hs).2.symm
      exact absurd (hd ▸ htail d (by simp [ht])) hc

end Cosim.Proofs.Text.Words
