import Cosim.Proofs.Json.Grammar

namespace Cosim.Proofs.Json.Strings

open Cosim.Json Cosim.Json.Reader Cosim.Numeral Cosim.Proofs.Json.Grammar Cosim.Text

section Units

variable {start rest : List Char}

theorem units_plain {c : Char} (hs : 0x20 ≤ c.toNat) (hq : c ≠ '"') (hb : c ≠ '\\') :
    units start (c :: rest) = (units start rest).map (consUnit c.toNat) := by
  rw [units]
  · rw [if_neg hb, if_neg (by omega)]
  · exact hq
  · intro a b c d r hc
    exact absurd hc hb
  · intro l r hc
    exact absurd hc hb

theorem unescape?_of_mem_letters :
    ∀ p ∈ letters, p.1 ≠ 'u' ∧ unescape? p.1 = some p.2 := by decide

theorem units_letter {l c : Char} (h : (l, c) ∈ letters) :
    units start ('\\' :: l :: rest) = (units start rest).map (consUnit c.toNat) := by
  obtain ⟨hu, he⟩ := unescape?_of_mem_letters _ h
  rw [units]
  · rw [if_neg hu]
    simp only [he]
  · intro a b c d r hl
    exact absurd hl hu

theorem units_number {n : Nat} {ds : List Char} (h : IsQuad n ds) (hr : rest ≠ []) :
    units start ('\\' :: 'u' :: (ds ++ rest)) = (units start rest).map (consUnit n) := by
  obtain ⟨hl, hd, hv⟩ := h
  match ds, hl with
  | [a, b, c, d], _ =>
    simp only [List.cons_append, List.nil_append]
    rw [units, if_pos (by simp [hd, hr]), hv]

end Units

section Halves

variable {us : List Nat}

theorem toNat_valid (c : Char) :
    c.toNat < 0xD800 ∨ (0xDFFF < c.toNat ∧ c.toNat < 0x110000) := c.valid

theorem toNat_ne_half (c : Char) : isHighHalf c.toNat = false ∧ isLowHalf c.toNat = false := by
  have hv := toNat_valid c
  simp only [isHighHalf, isLowHalf, Bool.and_eq_false_iff, decide_eq_false_iff_not]
  omega

theorem codePoint_toNat (c : Char) : codePoint c.toNat = .char c := by
  have hv := toNat_valid c
  rw [codePoint, dif_neg (by omega), Char.ofNat_toNat]

theorem codePoint_half (n : Fin 0x800) : codePoint (0xD800 + n.val) = .half n := by
  have hn : 0xD800 + n.val - 0xD800 = n.val := Nat.add_sub_cancel_left 0xD800 n.val
  rw [codePoint, dif_pos (by omega)]
  exact congrArg CodePoint.half (Fin.ext hn)

/-- A number that starts no pair is a code point by itself. -/
theorem joinHalves_cons {u : Nat} (h : isHighHalf u = true → ∀ v ∈ us.head?, isLowHalf v = false) :
    joinHalves (u :: us) = codePoint u :: joinHalves us := by
  cases us with
  | nil => rfl
  | cons v us =>
    rw [joinHalves, if_neg]
    intro hp
    rw [Bool.and_eq_true] at hp
    rw [h hp.1 v rfl] at hp
    exact Bool.false_ne_true hp.2

theorem joinHalves_toNat (c : Char) : joinHalves (c.toNat :: us) = .char c :: joinHalves us := by
  have hh := (toNat_ne_half c).1
  rw [joinHalves_cons (by simp [hh]), codePoint_toNat]

theorem isHalf_of_pair {c : Char} (hc : 0x10000 ≤ c.toNat) :
    isHighHalf (0xD800 + (c.toNat - 0x10000) / 0x400) = true ∧
      isLowHalf (0xDC00 + (c.toNat - 0x10000) % 0x400) = true := by
  have hv := toNat_valid c
  simp only [isHighHalf, isLowHalf, Bool.and_eq_true, decide_eq_true_eq]
  omega

theorem joinHalves_pair {c : Char} (hc : 0x10000 ≤ c.toNat) :
    joinHalves ((0xD800 + (c.toNat - 0x10000) / 0x400) ::
      (0xDC00 + (c.toNat - 0x10000) % 0x400) :: us) = .char c :: joinHalves us := by
  obtain ⟨hh, hl⟩ := isHalf_of_pair hc
  have hn : 0x10000 + (0xD800 + (c.toNat - 0x10000) / 0x400 - 0xD800) * 0x400 +
      (0xDC00 + (c.toNat - 0x10000) % 0x400 - 0xDC00) = c.toNat := by omega
  rw [joinHalves, hh, hl, Bool.and_self, if_pos rfl, hn, Char.ofNat_toNat]

end Halves

/-- The numbers that are read for a text between quotes, and the code points that they are. A half
in front comes from a half in front of the text. -/
structure IsReadAs (s : List Char) (us : List Nat) (cs : Wide) : Prop where
  read : ∀ start rest, units start (s ++ '"' :: rest) = .ok (us, rest)
  join : joinHalves us = cs
  low : ∀ u ∈ us.head?, isLowHalf u = true → StartsLow s

theorem IsReadAs.toNat {s t : List Char} {us : List Nat} {c : Char} {cs : Wide}
    (h : IsReadAs t us cs)
    (hs : ∀ start rest, rest ≠ [] →
      units start (s ++ rest) = (units start rest).map (consUnit c.toNat)) :
    IsReadAs (s ++ t) (c.toNat :: us) (.char c :: cs) where
  read := by
    intro start rest
    rw [List.append_assoc, hs start _ (by simp), h.read]
    rfl
  join := by rw [joinHalves_toNat, h.join]
  low := by
    rintro u ⟨⟩ hu
    rw [(toNat_ne_half c).2] at hu
    cases hu

theorem isReadAs_spelling {s t : List Char} {us : List Nat} {c : Char} {cs : Wide}
    (hs : IsSpelling s c) (h : IsReadAs t us cs) : ∃ vs, IsReadAs (s ++ t) vs (.char c :: cs) := by
  cases hs with
  | plain hs hq hb => exact ⟨_, h.toNat fun _ _ _ => units_plain hs hq hb⟩
  | letter hl => exact ⟨_, h.toNat fun _ _ _ => units_letter hl⟩
  | number hd => exact ⟨_, h.toNat fun _ _ hr => units_number hd hr⟩
  | @pair high low _ hc hh hl =>
    refine ⟨_, ?_, (joinHalves_pair hc).trans (by rw [h.join]), ?_⟩
    · intro start rest
      have ht : '\\' :: 'u' :: (high ++ '\\' :: 'u' :: low) ++ t ++ '"' :: rest =
          '\\' :: 'u' :: (high ++ '\\' :: 'u' :: (low ++ (t ++ '"' :: rest))) := by
        simp only [List.cons_append, List.append_assoc]
      rw [ht, units_number hh (by simp), units_number hl (by simp), h.read]
      rfl
    · rintro u ⟨⟩ hu
      have hv := toNat_valid c
      simp only [isLowHalf, Bool.and_eq_true, decide_eq_true_eq] at hu
      omega

theorem isReadAs_half {n : Fin 0x800} {ds t : List Char} {us : List Nat} {cs : Wide}
    (hd : IsQuad (0xD800 + n.val) ds) (hl : n.val < 0x400 → ¬ StartsLow t) (h : IsReadAs t us cs) :
    IsReadAs ('\\' :: 'u' :: (ds ++ t)) ((0xD800 + n.val) :: us) (.half n :: cs) where
  read := by
    intro start rest
    rw [List.cons_append, List.cons_append, List.append_assoc, units_number hd (by simp), h.read]
    rfl
  join := by
    rw [joinHalves_cons, codePoint_half, h.join]
    intro hh v hv
    simp only [isHighHalf, Bool.and_eq_true, decide_eq_true_eq] at hh
    exact Bool.eq_false_iff.mpr fun hlow => hl (by omega) (h.low v hv hlow)
  low := by
    rintro u ⟨⟩ hu
    simp only [isLowHalf, Bool.and_eq_true, decide_eq_true_eq] at hu
    exact ⟨_, ds, t, rfl, hd, hu⟩

theorem exists_isReadAs {s : List Char} {cs : Wide} (h : IsContent s cs) :
    ∃ us, IsReadAs s us cs := by
  induction h with
  | nil => exact ⟨[], fun _ _ => by rw [List.nil_append, units], rfl, by simp⟩
  | cons hs _ ih =>
    obtain ⟨us, hus⟩ := ih
    exact isReadAs_spelling hs hus
  | half hd hl _ ih =>
    obtain ⟨us, hus⟩ := ih
    exact ⟨_, isReadAs_half hd hl hus⟩

/-- The reader takes a string to its closing quote. -/
theorem string_content {s : List Char} {cs : Wide} (h : IsContent s cs) (rest : List Char) :
    Reader.string (s ++ '"' :: rest) = .ok (cs, rest) := by
  obtain ⟨us, hr, hj, -⟩ := exists_isReadAs h
  rw [Reader.string, hr, ← hj]
  rfl

end Cosim.Proofs.Json.Strings
