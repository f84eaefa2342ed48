import Cosim.Text.Utf8

namespace Cosim.Proofs.Text.Utf8

open Cosim.Text.Utf8

variable {v low high : Nat} {seen rest : List UInt8}

theorem toNat_octet {n : Nat} (h : n < 256) : (UInt8.ofNat n).toNat = n :=
  UInt8.toNat_ofNat_of_lt h

section Tails

theorem scan_last (hl : low ≤ v % 64 + 128) (hh : v % 64 + 128 ≤ high) :
    scanFrom (some ⟨seen, v / 64, 1, low, high⟩) (UInt8.ofNat (v % 64 + 128) :: rest) =
      .char (Char.ofNat v) :: scanFrom none rest := by
  have hv : v / 64 * 64 + (v % 64 + 128 - 0x80) = v := by omega
  rw [scanFrom, step, toNat_octet (by omega)]
  simp only [hl, hh, decide_true, Bool.and_self, ↓reduceIte, hv]
  rfl

theorem scan_next {missing : Nat} (hm : missing ≠ 0) (hl : low ≤ v % 64 + 128)
    (hh : v % 64 + 128 ≤ high) :
    scanFrom (some ⟨seen, v / 64, missing + 1, low, high⟩) (UInt8.ofNat (v % 64 + 128) :: rest) =
      scanFrom (some ⟨UInt8.ofNat (v % 64 + 128) :: seen, v, missing, 0x80, 0xBF⟩) rest := by
  have hv : v / 64 * 64 + (v % 64 + 128 - 0x80) = v := by omega
  rw [scanFrom, step, toNat_octet (by omega)]
  simp only [hl, hh, decide_true, Bool.and_self, ↓reduceIte, hv]
  rw [if_neg (by omega)]
  rfl

theorem scan_two (hl : low ≤ v / 64 % 64 + 128) (hh : v / 64 % 64 + 128 ≤ high) :
    scanFrom (some ⟨seen, v / 4096, 2, low, high⟩)
        (UInt8.ofNat (v / 64 % 64 + 128) :: UInt8.ofNat (v % 64 + 128) :: rest) =
      .char (Char.ofNat v) :: scanFrom none rest := by
  have hv : v / 4096 = v / 64 / 64 := by omega
  rw [hv, scan_next (by omega) hl hh, scan_last (by omega) (by omega)]

theorem scan_three (hl : low ≤ v / 4096 % 64 + 128) (hh : v / 4096 % 64 + 128 ≤ high) :
    scanFrom (some ⟨seen, v / 262144, 3, low, high⟩)
        (UInt8.ofNat (v / 4096 % 64 + 128) :: UInt8.ofNat (v / 64 % 64 + 128) ::
          UInt8.ofNat (v % 64 + 128) :: rest) =
      .char (Char.ofNat v) :: scanFrom none rest := by
  have hv : v / 262144 = v / 4096 / 64 := by omega
  rw [hv, scan_next (by omega) hl hh, scan_two (by omega) (by omega)]

end Tails

section Leads

theorem start_one (h : v < 0x80) : start (UInt8.ofNat v) = ([.char (Char.ofNat v)], none) := by
  rw [start, toNat_octet (by omega)]
  exact if_pos h

theorem start_two (h : 0x80 ≤ v) (h' : v ≤ 0x7FF) :
    start (UInt8.ofNat (v / 64 % 32 + 192)) =
      ([], some ⟨[UInt8.ofNat (v / 64 % 32 + 192)], v / 64, 1, 0x80, 0xBF⟩) := by
  have hv : v / 64 % 32 + 192 - 0xC0 = v / 64 := by omega
  rw [start, toNat_octet (by omega)]
  dsimp only
  rw [if_neg (by omega), if_neg (by omega), if_pos (by omega), hv]

/-- The bounds keep out characters that have a shorter form, and halves of pairs. -/
theorem start_three (h : 0x800 ≤ v) (h' : v ≤ 0xFFFF) (hs : v < 0xD800 ∨ 0xDFFF < v) :
    ∃ low high, start (UInt8.ofNat (v / 4096 % 16 + 224)) =
        ([], some ⟨[UInt8.ofNat (v / 4096 % 16 + 224)], v / 4096, 2, low, high⟩) ∧
      low ≤ v / 64 % 64 + 128 ∧ v / 64 % 64 + 128 ≤ high := by
  have hv : v / 4096 % 16 + 224 - 0xE0 = v / 4096 := by omega
  rw [start, toNat_octet (by omega)]
  dsimp only
  rw [if_neg (by omega), if_neg (by omega), if_neg (by omega), hv]
  by_cases h0 : v / 4096 % 16 + 224 = 0xE0
  · rw [if_pos h0]
    have hz : v / 4096 = 0 := by omega
    exact ⟨0xA0, 0xBF, by rw [hz], by omega, by omega⟩
  rw [if_neg h0]
  by_cases hd : v / 4096 % 16 + 224 = 0xED
  · rw [if_pos hd]
    have hz : v / 4096 = 13 := by omega
    exact ⟨0x80, 0x9F, by rw [hz], by omega, by omega⟩
  rw [if_neg hd, if_pos (by omega)]
  exact ⟨0x80, 0xBF, rfl, by omega, by omega⟩

theorem start_four (h : 0x10000 ≤ v) (h' : v < 0x110000) :
    ∃ low high, start (UInt8.ofNat (v / 262144 % 8 + 240)) =
        ([], some ⟨[UInt8.ofNat (v / 262144 % 8 + 240)], v / 262144, 3, low, high⟩) ∧
      low ≤ v / 4096 % 64 + 128 ∧ v / 4096 % 64 + 128 ≤ high := by
  have hv : v / 262144 % 8 + 240 - 0xF0 = v / 262144 := by omega
  rw [start, toNat_octet (by omega)]
  dsimp only
  rw [if_neg (by omega), if_neg (by omega), if_neg (by omega), if_neg (by omega),
    if_neg (by omega), if_neg (by omega), hv]
  by_cases h0 : v / 262144 % 8 + 240 = 0xF0
  · rw [if_pos h0]
    have hz : v / 262144 = 0 := by omega
    exact ⟨0x90, 0xBF, by rw [hz], by omega, by omega⟩
  rw [if_neg h0]
  by_cases hm : v / 262144 % 8 + 240 < 0xF4
  · rw [if_pos hm]
    exact ⟨0x80, 0xBF, rfl, by omega, by omega⟩
  have hz : v / 262144 = 4 := by omega
  rw [if_neg hm, if_pos (by omega)]
  exact ⟨0x80, 0x8F, by rw [hz], by omega, by omega⟩

end Leads

/-- The octets of a character are scanned as that character. -/
theorem scan_char (c : Char) (rest : List UInt8) :
    scanFrom none (String.utf8EncodeChar c ++ rest) = .char c :: scanFrom none rest := by
  have hc : Char.ofNat c.val.toNat = c := Char.ofNat_toNat c
  have hvalid : c.val.toNat < 0xD800 ∨ 0xDFFF < c.val.toNat ∧ c.val.toNat < 0x110000 := c.valid
  rw [String.utf8EncodeChar]
  generalize c.val.toNat = v at hc hvalid
  subst hc
  split
  · rw [List.cons_append, scanFrom, step, start_one (by omega)]
    rfl
  split
  · rw [List.cons_append, scanFrom, step, start_two (by omega) (by omega)]
    exact scan_last (by omega) (by omega)
  split
  · obtain ⟨low, high, hstart, hl, hh⟩ := start_three (v := v) (by omega) (by omega) (by omega)
    rw [List.cons_append, scanFrom, step, hstart]
    exact scan_two hl hh
  · obtain ⟨low, high, hstart, hl, hh⟩ := start_four (v := v) (by omega) (by omega)
    rw [List.cons_append, scanFrom, step, hstart]
    exact scan_three hl hh

theorem scan_encode (s : List Char) : scan (encode s) = s.map .char := by
  induction s with
  | nil => rfl
  | cons c s ih =>
    rw [scan, encode] at ih
    rw [scan, encode, List.flatMap_cons, scan_char, ih, List.map_cons]

theorem decodeLossy_encode (s : List Char) : decodeLossy (encode s) = s := by
  rw [decodeLossy, scan_encode, List.map_map]
  exact List.map_id s

end Cosim.Proofs.Text.Utf8
