import Cosim.Text.Quoted
import Mathlib.Data.List.TakeWhile

namespace Cosim.Proofs.Numeral.Digits

open Cosim.Numeral

/-- The digits of a base: each value below the base has the digit that is written for it. -/
structure IsBase (digit? : Char → Option Nat) (base : Nat) : Prop where
  one_lt : 1 < base
  digit?_lt : ∀ {c d}, digit? c = some d → d < base
  digit?_digitChar : ∀ d < base, digit? d.digitChar = some d

theorem toNat_le {a b : Char} : a ≤ b ↔ a.toNat ≤ b.toNat := Iff.rfl

theorem isBase_decimal : IsBase decimalDigit? 10 where
  one_lt := by decide
  digit?_lt := by
    intro c d h
    unfold decimalDigit? at h
    split at h
    · rename_i hc
      have h9 : c.toNat ≤ 57 := toNat_le.mp hc.2
      have hd := Option.some.inj h
      omega
    · cases h
  digit?_digitChar := by decide

theorem isBase_hex : IsBase hexDigit? 16 where
  one_lt := by decide
  digit?_lt := by
    intro c d h
    unfold hexDigit? at h
    split at h
    · rename_i hc
      have h9 : c.toNat ≤ 57 := toNat_le.mp hc.2
      have hd := Option.some.inj h
      omega
    split at h
    · rename_i hc
      have hf : c.toNat ≤ 102 := toNat_le.mp hc.2
      have hd := Option.some.inj h
      omega
    split at h
    · rename_i hc
      have hf : c.toNat ≤ 70 := toNat_le.mp hc.2
      have hd := Option.some.inj h
      omega
    · cases h
  digit?_digitChar := by decide

variable {digit? : Char → Option Nat} {base : Nat}

theorem valueBy_append (a b : List Char) :
    valueBy digit? base (a ++ b) =
      valueBy digit? base a * base ^ b.length + valueBy digit? base b := by
  simp only [valueBy, List.map_append, ofDigits_append, List.length_map]

theorem valueBy_singleton (c : Char) : valueBy digit? base [c] = (digit? c).getD 0 := by
  simp [valueBy, ofDigits]

theorem valueBy_cons (c : Char) (s : List Char) :
    valueBy digit? base (c :: s) =
      (digit? c).getD 0 * base ^ s.length + valueBy digit? base s := by
  rw [← List.singleton_append, valueBy_append, valueBy_singleton]

theorem valueBy_lt (hb : IsBase digit? base) (s : List Char) :
    valueBy digit? base s < base ^ s.length := by
  induction s with
  | nil => simp [valueBy, ofDigits]
  | cons c s ih =>
    have hd : (digit? c).getD 0 < base := by
      cases hc : digit? c with
      | none => exact Nat.lt_trans Nat.zero_lt_one hb.one_lt
      | some d => exact hb.digit?_lt hc
    rw [valueBy_cons, List.length_cons, Nat.pow_succ]
    calc (digit? c).getD 0 * base ^ s.length + valueBy digit? base s
        < (digit? c).getD 0 * base ^ s.length + base ^ s.length := Nat.add_lt_add_left ih _
      _ = ((digit? c).getD 0 + 1) * base ^ s.length := by rw [Nat.add_mul, Nat.one_mul]
      _ ≤ base * base ^ s.length := Nat.mul_le_mul_right _ hd
      _ = base ^ s.length * base := Nat.mul_comm _ _

theorem valueBy_zeros (hb : IsBase digit? base) {zeros : List Char} (hz : ∀ c ∈ zeros, c = '0')
    (s : List Char) : valueBy digit? base (zeros ++ s) = valueBy digit? base s := by
  have h0 : digit? '0' = some 0 := hb.digit?_digitChar 0 (Nat.lt_trans Nat.zero_lt_one hb.one_lt)
  induction zeros with
  | nil => rfl
  | cons c zeros ih =>
    rw [List.cons_append, valueBy_cons, hz c (by simp), h0,
      ih fun x hx => hz x (List.mem_cons_of_mem c hx)]
    simp

theorem digits_eq (hb : 1 < base) (n : Nat) :
    digits base n =
      if n < base then [n.digitChar] else digits base (n / base) ++ [(n % base).digitChar] :=
  Nat.toDigits_eq_if hb

theorem valueBy_digits (hb : IsBase digit? base) (n : Nat) :
    valueBy digit? base (digits base n) = n := by
  induction n using Nat.strongRecOn with
  | ind n ih =>
    rw [digits_eq hb.one_lt]
    split
    · rename_i hn
      rw [valueBy_singleton, hb.digit?_digitChar n hn]
      rfl
    · rename_i hn
      have hpos : 0 < n := by have := hb.one_lt; omega
      have hm := Nat.mod_lt n (Nat.lt_trans Nat.zero_lt_one hb.one_lt)
      rw [valueBy_append, valueBy_singleton, ih _ (Nat.div_lt_self hpos hb.one_lt),
        hb.digit?_digitChar _ hm, List.length_singleton, Nat.pow_one]
      exact Nat.div_add_mod' n base

theorem digit?_of_mem_digits (hb : IsBase digit? base) (n : Nat) :
    ∀ c ∈ digits base n, (digit? c).isSome = true := by
  induction n using Nat.strongRecOn with
  | ind n ih =>
    intro c hc
    rw [digits_eq hb.one_lt] at hc
    split at hc
    · rename_i hn
      rw [List.mem_singleton.mp hc, hb.digit?_digitChar n hn]
      rfl
    · rename_i hn
      rcases List.mem_append.mp hc with hc | hc
      · have hpos : 0 < n := by have := hb.one_lt; omega
        exact ih _ (Nat.div_lt_self hpos hb.one_lt) c hc
      · have hm := Nat.mod_lt n (Nat.lt_trans Nat.zero_lt_one hb.one_lt)
        rw [List.mem_singleton.mp hc, hb.digit?_digitChar _ hm]
        rfl

theorem digits_ne_nil (n : Nat) : digits base n ≠ [] := Nat.toDigits_ne_nil

theorem isDecimal_digits (n : Nat) : isDecimal (digits 10 n) = true := by
  simpa [isDecimal, isDecimalDigit, digits_ne_nil] using digit?_of_mem_digits isBase_decimal n

theorem decimalValue_digits (n : Nat) : decimalValue (digits 10 n) = n :=
  valueBy_digits isBase_decimal n

theorem zeroFill_eq (width : Nat) (s : List Char) :
    ∃ zeros, (∀ c ∈ zeros, c = '0') ∧ zeroFill width s = zeros ++ s :=
  ⟨_, fun _ hc => List.eq_of_mem_replicate hc, rfl⟩

/-- Digits filled up to a width that holds them are the digits of all places of that width. -/
theorem zeroFill_digits (hb : 1 < base) {width n : Nat} (hw : 1 ≤ width) (hn : n < base ^ width) :
    zeroFill width (digits base n) =
      (List.range width).reverse.map fun i => (n / base ^ i % base).digitChar := by
  induction width, hw using Nat.le_induction generalizing n with
  | base =>
    rw [Nat.pow_one] at hn
    rw [digits_eq hb, if_pos hn]
    simp [zeroFill, Nat.mod_eq_of_lt hn]
  | succ width hw ih =>
    have hlast : (List.range (width + 1)).reverse.map (fun i => (n / base ^ i % base).digitChar) =
        (List.range width).reverse.map (fun i => (n / base / base ^ i % base).digitChar) ++
          [(n % base).digitChar] := by
      rw [List.range_succ_eq_map, List.reverse_cons, List.map_append, ← List.map_reverse,
        List.map_map]
      congr 1
      · refine List.map_congr_left fun i _ => ?_
        rw [Function.comp_apply, Nat.pow_succ', Nat.div_div_eq_div_mul]
      · simp
    have hdiv : n / base < base ^ width :=
      Nat.div_lt_of_lt_mul (by rwa [Nat.pow_succ'] at hn)
    rw [hlast, ← ih hdiv, digits_eq hb n]
    split
    · rename_i hs
      obtain ⟨w, rfl⟩ : ∃ w, width = w + 1 := ⟨width - 1, by omega⟩
      rw [Nat.div_eq_of_lt hs, digits_eq hb 0, if_pos (Nat.lt_trans Nat.zero_lt_one hb),
        Nat.mod_eq_of_lt hs]
      simp [zeroFill, List.replicate_succ']
    · simp [zeroFill, List.append_assoc]

theorem isHex_zeroFill (width n : Nat) : isHex (zeroFill width (digits 16 n)) = true := by
  obtain ⟨zeros, hz, he⟩ := zeroFill_eq width (digits 16 n)
  have hall : ∀ c ∈ zeros ++ digits 16 n, isHexDigit c = true := by
    intro c hc
    rcases List.mem_append.mp hc with hc | hc
    · rw [hz c hc]
      decide
    · exact digit?_of_mem_digits isBase_hex n c hc
  simp [he, isHex, digits_ne_nil, List.all_eq_true.mpr hall]

theorem hexValue_zeroFill (width n : Nat) : hexValue (zeroFill width (digits 16 n)) = n := by
  obtain ⟨zeros, hz, he⟩ := zeroFill_eq width (digits 16 n)
  rw [he, hexValue, valueBy_zeros isBase_hex hz, valueBy_digits isBase_hex]

/-- A sign in front of digits is no digit. -/
theorem signed_injective {write : Nat → List Char} (hw : Function.Injective write)
    (hs : ∀ n, '-' ∉ write n) {write' : Nat → List Char} (hw' : Function.Injective write') :
    Function.Injective fun v : Int => match v with
      | .ofNat n => write n
      | .negSucc n => '-' :: write' (n + 1) := by
  intro v w h
  cases v with
  | ofNat m =>
    cases w with
    | ofNat n => exact congrArg Int.ofNat (hw h)
    | negSucc n =>
      have hwrite : write m = '-' :: write' (n + 1) := h
      exact absurd (hwrite ▸ List.mem_cons_self) (hs m)
  | negSucc m =>
    cases w with
    | ofNat n =>
      have hwrite : '-' :: write' (m + 1) = write n := h
      exact absurd (hwrite ▸ List.mem_cons_self) (hs n)
    | negSucc n =>
      have hn := hw' (List.cons.inj h).2
      rw [Nat.add_right_cancel hn]

theorem decimal_injective : Function.Injective decimal := by
  have hdigits : Function.Injective (digits 10) :=
    Function.LeftInverse.injective decimalValue_digits
  have hsign : ∀ n, '-' ∉ digits 10 n :=
    fun n h => absurd (digit?_of_mem_digits isBase_decimal n _ h) (by decide)
  intro v w h
  exact signed_injective hdigits hsign hdigits (by cases v <;> cases w <;> exact h)

theorem word_injective : Function.Injective word := by
  have hfill : ∀ width, Function.Injective fun n => zeroFill width (digits 16 n) :=
    fun width => Function.LeftInverse.injective (hexValue_zeroFill width)
  have hsign : ∀ n, '-' ∉ zeroFill 16 (digits 16 n) := by
    intro n h
    have hhex := isHex_zeroFill 16 n
    rw [isHex, Bool.and_eq_true, List.all_eq_true] at hhex
    exact absurd (hhex.2 _ h) (by decide)
  intro v w h
  rw [word, word, String.append_right_inj, String.ofList_inj] at h
  exact signed_injective (hfill 16) hsign (hfill 15) (by cases v <;> cases w <;> exact h)

theorem hexDigit?_eq_zero {c : Char} (h : hexDigit? c = some 0) : c = '0' := by
  unfold hexDigit? at h
  split at h
  · rename_i hc
    have h0 : 48 ≤ c.toNat := toNat_le.mp hc.1
    have hd := Option.some.inj h
    exact Char.toNat_inj.mp (by omega : c.toNat = 48)
  split at h
  · rename_i hc
    have ha : 97 ≤ c.toNat := toNat_le.mp hc.1
    have hd := Option.some.inj h
    omega
  split at h
  · rename_i hc
    have ha : 65 ≤ c.toNat := toNat_le.mp hc.1
    have hd := Option.some.inj h
    omega
  · cases h

theorem hexValue_dropWhile (s : List Char) : hexValue (s.dropWhile (· == '0')) = hexValue s := by
  have hz : ∀ c ∈ s.takeWhile (· == '0'), c = '0' := by
    intro c hc
    simpa using List.mem_takeWhile_imp hc
  have hs := List.takeWhile_append_dropWhile (p := (· == '0')) (l := s)
  calc hexValue (s.dropWhile (· == '0'))
      = hexValue (s.takeWhile (· == '0') ++ s.dropWhile (· == '0')) :=
        (valueBy_zeros isBase_hex hz _).symm
    _ = hexValue s := by rw [hs]

theorem pow_length_le_hexValue {c : Char} (hc : isHexDigit c = true) (hne : c ≠ '0')
    (rest : List Char) : 16 ^ rest.length ≤ hexValue (c :: rest) := by
  obtain ⟨d, hd⟩ := Option.isSome_iff_exists.mp hc
  have hpos : 1 ≤ d := by
    refine Nat.one_le_iff_ne_zero.mpr ?_
    rintro rfl
    exact hne (hexDigit?_eq_zero hd)
  rw [hexValue, valueBy_cons, hd, Option.getD_some]
  calc 16 ^ rest.length = 1 * 16 ^ rest.length := (Nat.one_mul _).symm
    _ ≤ d * 16 ^ rest.length := Nat.mul_le_mul_right _ hpos
    _ ≤ d * 16 ^ rest.length + valueBy hexDigit? 16 rest := Nat.le_add_right _ _

/-- Hexadecimal digits denote a number of at most `n` digits exactly if at most `n` of them are
left after the zeros in front. -/
theorem hexValue_lt_iff {s : List Char} (h : s.all isHexDigit = true) (n : Nat) :
    hexValue s < 16 ^ n ↔ (s.dropWhile (· == '0')).length ≤ n := by
  rw [← hexValue_dropWhile]
  cases hd : s.dropWhile (· == '0') with
  | nil =>
    have hpos : 0 < 16 ^ n := Nat.pow_pos (by decide)
    have hnil : hexValue [] = 0 := rfl
    rw [hnil]
    exact iff_of_true hpos (Nat.zero_le n)
  | cons c rest =>
    have hne : c ≠ '0' := by
      have hhead := List.head_dropWhile_not (· == '0') (l := s) (by simp [hd])
      simpa [hd] using hhead
    have hmem : c ∈ s := (List.dropWhile_sublist _).subset (hd ▸ List.mem_cons_self)
    have hlow := pow_length_le_hexValue (List.all_eq_true.mp h c hmem) hne rest
    have hhigh : hexValue (c :: rest) < 16 ^ (rest.length + 1) := valueBy_lt isBase_hex _
    rw [List.length_cons]
    constructor
    · intro hlt
      exact (Nat.pow_lt_pow_iff_right (by decide)).mp (Nat.lt_of_le_of_lt hlow hlt)
    · intro hle
      exact Nat.lt_of_lt_of_le hhigh (Nat.pow_le_pow_right (by decide) hle)

end Cosim.Proofs.Numeral.Digits
