import Cosim.Proofs.CommitLine.Window
import Cosim.Proofs.Numeral.Hexadecimal

namespace Cosim.Proofs.CommitLine.Words

open Cosim.Numeral Cosim.Trace Cosim.Trace.CommitLine
open Cosim.Proofs.CommitLine.Window Cosim.Proofs.Numeral.Hexadecimal

structure CountsAs (t : Token) (n : Nat) : Prop where
  value : ∀ register rest, isName register = true →
    effects (register :: t :: rest) = (effects rest).map (Effects.withWrite register n)
  address : ∀ rest, effects (mem :: t :: rest) =
    (effects rest).map (Effects.withAccess n (dataAt rest))
  data : ∀ a rest, isOperand a = true → effects (mem :: a :: t :: rest) =
    (effects rest).map (Effects.withAccess (operand a) (some n))

structure IsOverWide (t : Token) : Prop where
  value : ∀ register rest, isName register = true →
    effects (register :: t :: rest) = fail (.tooLarge .register t)
  address : ∀ rest, effects (mem :: t :: rest) = effects rest
  data : ∀ a rest, isOperand a = true → effects (mem :: a :: t :: rest) =
    (effects rest).map (Effects.withAccess (operand a) none)

section Words

variable {t a : Token} {n : Nat}

theorem isWord_iff (hm : isMarked t = true) (hn : Denotes (t.drop 2) n) :
    isWord t = true ↔ n < 2 ^ 64 := by
  obtain ⟨hhex, rfl⟩ := denotes_iff.mp hn
  simp [isWord, hm, hhex]

theorem effects_address (ha : isOperand a = true) (rest : List Token) :
    effects (mem :: a :: rest) =
      (effects rest).map (Effects.withAccess (operand a) (dataAt rest)) := by
  cases rest with
  | nil =>
    rw [effects.eq_def]
    simp only [ha, ↓reduceIte]
    rw [effects.eq_def]
    rfl
  | cons d rest =>
    by_cases hd : isOperand d = true
    · have hword : isWord d = true := isOperand_eq_isWord d ▸ hd
      have hdata : dataAt (d :: rest) = some (operand d) := if_pos hword
      rw [effects_store ha hd, hdata, effects_stray (isMarked_of_isWord hword)]
    · have hdata : dataAt (d :: rest) = none := if_neg (isOperand_eq_isWord d ▸ hd)
      rw [effects_load ha hd, hdata]

theorem countsAs (hm : isMarked t = true) (hn : Denotes (t.drop 2) n) (hlt : n < 2 ^ 64) :
    CountsAs t n := by
  have hword : isWord t = true := (isWord_iff hm hn).mpr hlt
  have hoperand : isOperand t = true := isOperand_eq_isWord t ▸ hword
  have hvalue : hexValue (t.drop 2) = n := (denotes_iff.mp hn).2
  have hn' : operand t = n := congrArg Nat.cast hvalue
  refine ⟨fun register rest hregister => ?_, fun rest => ?_, fun a rest ha => ?_⟩
  · obtain ⟨hmem, hunmarked⟩ := isName_iff.mp hregister
    have hread : registerValue register t = .ok (n : Int) :=
      registerValue_eq_ok.mpr ⟨hword, hn'.symm⟩
    rw [effects_name hmem (by simp [hunmarked]), hread]
    rfl
  · rw [effects_address hoperand, hn']
  · rw [effects_store ha hoperand, hn']

theorem number_tooLarge {field : Field} (hhex : field.isDecimal = false) (token : Token)
    {digits : Token} (hn : Denotes digits n) (hle : 2 ^ field.bits ≤ n) :
    number field token digits = fail (.tooLarge field token) := by
  obtain ⟨hdigits, rfl⟩ := denotes_iff.mp hn
  rw [number, if_neg (by simp [hhex]), hdigits, if_neg (by decide), if_pos hle]

theorem isOverWide (hm : isMarked t = true) (hn : Denotes (t.drop 2) n) (hle : 2 ^ 64 ≤ n) :
    IsOverWide t := by
  have hword : ¬ isWord t = true := by
    rw [isWord_iff hm hn]
    exact Nat.not_lt.mpr hle
  have hoperand : ¬ isOperand t = true := isOperand_eq_isWord t ▸ hword
  refine ⟨fun register rest hregister => ?_, fun rest => ?_, fun a rest ha => ?_⟩
  · obtain ⟨hmem, hunmarked⟩ := isName_iff.mp hregister
    have hread : registerValue register t = fail (.tooLarge .register t) := by
      rw [registerValue, if_pos hm]
      exact number_tooLarge rfl t hn hle
    rw [effects_name hmem (by simp [hunmarked]), hread]
    rfl
  · rw [effects_mem hoperand, effects_stray hm]
  · rw [effects_load ha hoperand, effects_stray hm]

end Words

/-- The recogniser of operands and the readers of 64-bit numbers take the same tokens with the same
values, and what is too large for the one is too large for the others. -/
theorem operand_iff_number {field : Field} (hhex : field.isDecimal = false)
    (hbits : field.bits = 64) (token t : Token) :
    (isOperand t = true ↔
      isMarked t = true ∧ ∃ v, number field token (t.drop 2) = .ok v) ∧
    (isOperand t = true → ∃ n : Nat, Denotes (t.drop 2) n ∧ n < 2 ^ 64 ∧ operand t = n ∧
      number field token (t.drop 2) = .ok (n : Int)) ∧
    ∀ n, isMarked t = true → Denotes (t.drop 2) n →
      (n < 2 ^ 64 → CountsAs t n) ∧
      (2 ^ 64 ≤ n → number field token (t.drop 2) = fail (.tooLarge field token) ∧
        IsOverWide t) := by
  refine ⟨?_, fun h => ?_, fun n hm hn => ⟨countsAs hm hn, fun hle => ?_⟩⟩
  · rw [isOperand_eq_isWord, isWord]
    simp only [number_eq_ok hhex, hbits, Bool.and_eq_true, decide_eq_true_eq, and_assoc]
    refine and_congr_right fun _ => ?_
    simp only [exists_and_left, exists_eq, and_true]
  · rw [isOperand_eq_isWord, isWord, Bool.and_eq_true, Bool.and_eq_true, decide_eq_true_eq] at h
    obtain ⟨⟨-, hdigits⟩, hlt⟩ := h
    refine ⟨hexValue (t.drop 2), denotes_iff.mpr ⟨hdigits, rfl⟩, hlt, rfl, ?_⟩
    exact (number_eq_ok hhex).mpr ⟨hdigits, hbits ▸ hlt, rfl⟩
  · exact ⟨number_tooLarge hhex token hn (hbits ▸ hle), isOverWide hm hn hle⟩

/-- After any number of zeros sixteen digits are a number, and seventeen are none. -/
theorem zeros_before_digits :
    CountsAs "0x000ffffffffffffffff".toList (2 ^ 64 - 1) ∧
      IsOverWide "0x00010000000000000000".toList := by
  have hmost : Denotes ("0x000ffffffffffffffff".toList.drop 2) (2 ^ 64 - 1) :=
    denotes_iff.mpr ⟨by decide, by decide⟩
  have hleast : Denotes ("0x00010000000000000000".toList.drop 2) (2 ^ 64) :=
    denotes_iff.mpr ⟨by decide, by decide⟩
  have hhex : Field.register.isDecimal = false := rfl
  obtain ⟨-, -, hcounts⟩ := operand_iff_number hhex rfl [] "0x000ffffffffffffffff".toList
  obtain ⟨-, -, hwide⟩ := operand_iff_number hhex rfl [] "0x00010000000000000000".toList
  exact ⟨(hcounts _ (by decide) hmost).1 (by decide), ((hwide _ (by decide) hleast).2 le_rfl).2⟩

end Cosim.Proofs.CommitLine.Words
