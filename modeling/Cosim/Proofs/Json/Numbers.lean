import Cosim.Proofs.Json.Grammar
import Mathlib.Data.List.TakeWhile

namespace Cosim.Proofs.Json.Numbers

open Cosim.Json Cosim.Json.NumberText Cosim.Numeral Cosim.Proofs.Json.Grammar

/-- No number goes on here. -/
def IsEnd (rest : List Char) : Prop :=
  ∀ c ∈ rest.head?, isDecimalDigit c = false ∧ c ≠ '.' ∧ c ≠ 'e' ∧ c ≠ 'E'

def NoDigit (rest : List Char) : Prop := ∀ c ∈ rest.head?, isDecimalDigit c = false

section Digits

variable {ds rest : List Char}

theorem takeWhile_digits (hd : ∀ c ∈ ds, isDecimalDigit c = true) (hr : NoDigit rest) :
    (ds ++ rest).takeWhile isDecimalDigit = ds := by
  rw [List.takeWhile_append_of_pos hd]
  cases rest with
  | nil => simp
  | cons c rest => rw [List.takeWhile_cons_of_neg (by simp [hr c rfl]), List.append_nil]

theorem dropWhile_digits (hd : ∀ c ∈ ds, isDecimalDigit c = true) (hr : NoDigit rest) :
    (ds ++ rest).dropWhile isDecimalDigit = rest := by
  rw [List.dropWhile_append_of_pos hd]
  cases rest with
  | nil => simp
  | cons c rest => rw [List.dropWhile_cons_of_neg (by simp [hr c rfl])]

theorem exists_digit (h : isDecimal ds = true) :
    ∃ d tail, ds = d :: tail ∧ isDecimalDigit d = true ∧ ∀ c ∈ ds, isDecimalDigit c = true := by
  simp only [isDecimal, Bool.and_eq_true, List.all_eq_true] at h
  cases ds with
  | nil => simp at h
  | cons d tail => exact ⟨d, tail, rfl, h.2 d List.mem_cons_self, h.2⟩

theorem ne_of_isDecimalDigit {c d : Char} (hc : isDecimalDigit c = true)
    (hd : isDecimalDigit d = false) : c ≠ d := by
  rintro rfl
  rw [hc] at hd
  cases hd

end Digits

section Parts

variable {rest : List Char}

theorem splitSign_digits {ds : List Char} (h : isDecimal ds = true) :
    Integer.splitSign (ds ++ rest) = (false, ds ++ rest) := by
  obtain ⟨d, tail, rfl, hd, -⟩ := exists_digit h
  rw [List.cons_append, Integer.splitSign]
  · exact fun r he => ne_of_isDecimalDigit hd (by decide) (List.cons.inj he).1
  · exact fun r he => ne_of_isDecimalDigit hd (by decide) (List.cons.inj he).1

theorem splitExponent_mark {e : Char} (he : e = 'e' ∨ e = 'E') {body ds : List Char}
    {negative : Bool} (hs : Integer.splitSign (body ++ rest) = (negative, ds ++ rest))
    (hd : isDecimal ds = true) (hr : IsEnd rest) :
    splitExponent isDecimalDigit (e :: (body ++ rest)) = (some (negative, ds), rest) := by
  obtain ⟨d, tail, hcons, -, hall⟩ := exists_digit hd
  have hn : NoDigit rest := fun c hc => (hr c hc).1
  rw [splitExponent, if_pos he]
  simp only [hs, takeWhile_digits hall hn, dropWhile_digits hall hn]
  rw [if_neg (by simp [hcons])]

theorem splitExponent_text {exponent : List Char} {x : Option (Bool × List Char)}
    (h : IsExponent exponent x) (hr : IsEnd rest) :
    splitExponent isDecimalDigit (exponent ++ rest) = (x, rest) := by
  cases h with
  | none =>
    cases rest with
    | nil => rfl
    | cons c rest =>
      obtain ⟨-, -, he, hE⟩ := hr c rfl
      rw [List.nil_append, splitExponent, if_neg (by simp [he, hE])]
  | plain he hd => exact splitExponent_mark he (splitSign_digits hd) hd hr
  | plus he hd => exact splitExponent_mark he rfl hd hr
  | minus he hd => exact splitExponent_mark he rfl hd hr

/-- Neither an exponent nor what follows a number goes on with a digit or a fraction. -/
theorem head?_exponent {exponent : List Char} {x : Option (Bool × List Char)}
    (h : IsExponent exponent x) (hr : IsEnd rest) :
    ∀ c ∈ (exponent ++ rest).head?, isDecimalDigit c = false ∧ c ≠ '.' := by
  have hmark : ∀ e : Char, e = 'e' ∨ e = 'E' → isDecimalDigit e = false ∧ e ≠ '.' := by
    rintro e (rfl | rfl) <;> decide
  cases h with
  | none => exact fun c hc => ⟨(hr c hc).1, (hr c hc).2.1⟩
  | plain he hd | plus he hd | minus he hd =>
    rintro c ⟨⟩
    exact hmark _ he

theorem splitFraction_text {ds : List Char} (hd : ∀ c ∈ ds, isDecimalDigit c = true)
    (hr : ∀ c ∈ rest.head?, isDecimalDigit c = false ∧ c ≠ '.') :
    splitFraction isDecimalDigit (fractionText ds ++ rest) = (ds, rest) := by
  by_cases hn : ds = []
  · subst hn
    rw [fractionText, if_pos rfl, List.nil_append, splitFraction]
    intro r he
    subst he
    exact (hr '.' rfl).2 rfl
  · have hnd : NoDigit rest := fun c hc => (hr c hc).1
    rw [fractionText, if_neg hn, List.cons_append, splitFraction]
    simp only [takeWhile_digits hd hnd, dropWhile_digits hd hnd]
    rw [if_neg (by simpa using hn)]

theorem noDigit_fraction {ds : List Char}
    (hr : ∀ c ∈ rest.head?, isDecimalDigit c = false ∧ c ≠ '.') :
    NoDigit (fractionText ds ++ rest) := by
  unfold fractionText
  split
  · exact fun c hc => (hr c hc).1
  · rintro c ⟨⟩
    decide

theorem splitMinus_text (negative : Bool) {body : List Char} (hb : body.head? ≠ some '-') :
    splitMinus (minusText negative ++ body) = (negative, body) := by
  cases negative with
  | true => rfl
  | false =>
    rw [minusText, if_neg Bool.false_ne_true, List.nil_append, splitMinus]
    intro r he
    subst he
    exact hb rfl

end Parts

variable {s rest : List Char} {t : NumberText}

section Whole

variable {d : Char} {tail rest : List Char}

/-- Behind a zero no digit is taken, and a whole number has none there. -/
theorem whole_taken (h : IsWhole (d :: tail)) (hr : NoDigit rest) :
    (if d = '0' then [d] else d :: (tail ++ rest).takeWhile isDecimalDigit) = d :: tail := by
  obtain ⟨hdec, hzero⟩ := h
  obtain ⟨-, -, -, -, hall⟩ := exists_digit hdec
  split
  · rename_i h0
    exact h0 ▸ (hzero (congrArg some h0)).symm
  · rw [takeWhile_digits (fun c hc => hall c (List.mem_cons_of_mem d hc)) hr]

theorem whole_dropped (h : IsWhole (d :: tail)) (hr : NoDigit rest) :
    (if d = '0' then tail ++ rest else (tail ++ rest).dropWhile isDecimalDigit) = rest := by
  obtain ⟨hdec, hzero⟩ := h
  obtain ⟨-, -, -, -, hall⟩ := exists_digit hdec
  split
  · rename_i h0
    have ht : tail = [] := (List.cons.inj (hzero (congrArg some h0))).2
    rw [ht, List.nil_append]
  · rw [dropWhile_digits (fun c hc => hall c (List.mem_cons_of_mem d hc)) hr]

end Whole

theorem scan?_number (h : IsNumber s t) (hr : IsEnd rest) :
    scan? isDecimalDigit (s ++ rest) = some (t, rest) := by
  obtain ⟨hwhole, hfrac, exponent, hexp, rfl⟩ := h
  obtain ⟨negative, whole, fraction, x⟩ := t
  dsimp only at hwhole hfrac hexp ⊢
  rw [List.all_eq_true] at hfrac
  obtain ⟨d, tail, rfl, hd, -⟩ := exists_digit hwhole.1
  have hend := head?_exponent hexp hr
  have hnd : NoDigit (fractionText fraction ++ (exponent ++ rest)) := noDigit_fraction hend
  have htext : minusText negative ++ (d :: tail ++ (fractionText fraction ++ exponent)) ++ rest =
      minusText negative ++ (d :: (tail ++ (fractionText fraction ++ (exponent ++ rest)))) := by
    simp only [List.append_assoc, List.cons_append]
  have hminus : (d :: (tail ++ (fractionText fraction ++ (exponent ++ rest)))).head? ≠ some '-' :=
    fun he => ne_of_isDecimalDigit hd (by decide) (Option.some.inj he)
  rw [htext, scan?, splitMinus_text negative hminus]
  dsimp only
  rw [if_pos hd, whole_taken hwhole hnd, whole_dropped hwhole hnd, splitFraction_text hfrac hend]
  dsimp only
  rw [splitExponent_text hexp hr]

theorem exists_head (h : IsNumber s t) (rest : List Char) :
    ∃ d tail, isDecimalDigit d = true ∧
      (s ++ rest = d :: tail ∨ s ++ rest = '-' :: d :: tail) := by
  obtain ⟨⟨hdec, -⟩, -, exponent, -, rfl⟩ := h
  obtain ⟨d, tail, ht, hd, -⟩ := exists_digit hdec
  refine ⟨d, tail ++ (fractionText t.fraction ++ (exponent ++ rest)), hd, ?_⟩
  rw [ht]
  cases t.negative with
  | true => exact .inr (by simp [minusText])
  | false => exact .inl (by simp [minusText])

theorem not_isDecimalDigit_of_mem_names :
    ∀ p ∈ Reader.names, 2 ≤ p.1.length ∧ p.1.any isDecimalDigit = false := by decide

/-- One of the first two characters of a number is a digit, and no name has one. -/
theorem named?_number (h : IsNumber s t) (rest : List Char) : Reader.named? (s ++ rest) = none := by
  obtain ⟨d, tail, hd, hs⟩ := exists_head h rest
  rw [Reader.named?, List.findSome?_eq_none_iff]
  rintro ⟨name, v⟩ hp
  obtain ⟨hlen, hname⟩ := not_isDecimalDigit_of_mem_names _ hp
  rw [List.any_eq_false] at hname
  have hno : ¬ name <+: s ++ rest := by
    rintro ⟨more, hmore⟩
    match name, hlen with
    | a :: b :: name, _ =>
      rcases hs with hs | hs
      · have ha : a = d := (List.cons.inj (hmore.trans hs)).1
        exact hname a (by simp) (ha ▸ hd)
      · have hb : b = d := (List.cons.inj (List.cons.inj (hmore.trans hs)).2).1
        exact hname b (by simp) (hb ▸ hd)
  dsimp only
  rw [Reader.after?, if_neg (by rwa [List.isPrefixOf_iff_prefix]), Option.map_none]

theorem plain_digit {c : Char} (h : isDecimalDigit c = true) : Integer.plain c = c := by
  unfold isDecimalDigit decimalDigit? at h
  split at h
  · rename_i hc
    have h9 : c.toNat ≤ 57 := hc.2
    rw [Integer.plain, if_pos (by omega)]
  · cases h

theorem map_plain {ds : List Char} (h : ∀ c ∈ ds, isDecimalDigit c = true) :
    ds.map Integer.plain = ds := by
  rw [List.map_congr_left fun c hc => plain_digit (h c hc), List.map_id']

theorem scalar_integer (h : IsNumber s t) (hf : t.fraction = []) (he : t.exponent = none)
    (hl : t.whole.length ≤ Integer.digitLimit) (hr : IsEnd rest) :
    Reader.scalar (s ++ rest) =
      .ok (.int (Integer.signed t.negative (decimalValue t.whole)), rest) := by
  obtain ⟨-, -, -, -, hall⟩ := exists_digit h.whole.1
  have hint : t.isInteger = true := by rw [isInteger, hf, he]; rfl
  have hto : t.toInt = .ok (Integer.signed t.negative (decimalValue t.whole)) := by
    rw [toInt, if_neg (Nat.not_lt.mpr hl), map_plain hall]
  rw [Reader.scalar, named?_number h]
  dsimp only
  rw [Reader.number, scan?_number h hr]
  dsimp only
  rw [if_pos hint, hto]

theorem scalar_real (h : IsNumber s t) (hreal : t.fraction ≠ [] ∨ t.exponent ≠ none)
    (hr : IsEnd rest) : Reader.scalar (s ++ rest) = .ok (.real t.toReal, rest) := by
  have hint : t.isInteger = false := by
    rw [isInteger, Bool.and_eq_false_iff]
    rcases hreal with hf | he
    · exact .inl (by simpa using hf)
    · exact .inr (by rwa [← Bool.not_eq_true, Option.isNone_iff_eq_none])
  rw [Reader.scalar, named?_number h]
  dsimp only
  rw [Reader.number, scan?_number h hr]
  dsimp only
  rw [hint, if_neg Bool.false_ne_true]

end Cosim.Proofs.Json.Numbers
