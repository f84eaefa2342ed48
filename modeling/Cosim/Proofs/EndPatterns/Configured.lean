import Cosim.Align.Compare
import Cosim.Proofs.LogEntries
import Cosim.Proofs.CommitLine.RoundTrip
import Cosim.Proofs.Numeral.Hexadecimal

namespace Cosim.Proofs.EndPatterns.Configured

open Cosim.Json Cosim.Numeral Cosim.Text Cosim.Text.Wide Cosim.Trace Cosim.Trace.EndPattern
open Cosim.Proofs.CommitLine.RoundTrip Cosim.Proofs.LogEntries Cosim.Proofs.Numeral.Hexadecimal
  Cosim.Proofs.Outcome

def IsMarkedWord (s : List Char) (n : Nat) : Prop :=
  ∃ digits, s = '0' :: 'x' :: digits ∧ Denotes digits n

def IsMarkedNumeral (s : List Char) (v : Int) : Prop :=
  ∃ rest, s = '0' :: 'x' :: rest ∧ IsNumeral rest v

/-- The members ask for a write, which is also what is meant where they name no action, and give
the two texts. -/
structure Gives (members : List (Wide × Value)) (address data : String) : Prop where
  action : (members.lookup ↑"action").getD (.text "write") = .text "write"
  address : members.lookup ↑"memory_address" = some (.text address)
  data : members.lookup ↑"data" = some (.text data)

def IsProper (members : List (Wide × Value)) (p : EndPattern) : Prop :=
  ∃ (address data : String) (m n : Nat), Gives members address data ∧
    IsMarkedWord address.toList m ∧ IsMarkedWord data.toList n ∧
    m < 2 ^ 64 ∧ n < 2 ^ 64 ∧ p = ⟨m, n⟩

section Reading

variable {members : List (Wide × Value)} {p : EndPattern} {key : String} {v : Value} {n : Int}

theorem isWrite_iff {v : Option Value} :
    isWrite v = true ↔ v.getD (.text "write") = .text "write" := by
  cases v with
  | none => simp [isWrite]
  | some v => cases v <;> simp [isWrite]

theorem required_eq_ok : required members key = .ok v ↔ members.lookup ↑key = some v := by
  unfold required
  cases members.lookup ↑key <;> simp

theorem readHex_eq_ok_iff {s : Wide} :
    EndPattern.readHex s = .ok n ↔ ∃ t : List Char, s = t ∧ IsNumeral t n := by
  unfold EndPattern.readHex
  constructor
  · intro h
    split at h
    · rename_i t ht
      exact ⟨t.toList, spelled_eq_ok.mp ht, readHex_eq_ok.mp h⟩
    · cases h
  · rintro ⟨t, rfl, ht⟩
    simp only [spelled_ofChars, String.toList_ofList, readHex_eq_ok.mpr ht]

theorem number_eq_ok : EndPattern.number key v = .ok n ↔
    ∃ s : String, v = .text s ∧ IsMarkedNumeral s.toList n ∧ n < 2 ^ 64 := by
  unfold EndPattern.number
  constructor
  · intro h
    split at h
    · split at h
      · split at h
        · rename_i rest m hm
          by_cases hlarge : 2 ^ 64 ≤ m
          · rw [if_pos hlarge] at h
            cases h
          · rw [if_neg hlarge] at h
            cases h
            obtain ⟨t, rfl, ht⟩ := readHex_eq_ok_iff.mp hm
            refine ⟨String.ofList ('0' :: 'x' :: t), ?_, ?_, Int.not_le.mp hlarge⟩
            · rw [ofString, String.toList_ofList]
              rfl
            · rw [String.toList_ofList]
              exact ⟨t, rfl, ht⟩
        · cases h
      · cases h
    · cases h
  · rintro ⟨s, rfl, ⟨rest, hs, hrest⟩, hn⟩
    have htext : ofString s = .char '0' :: .char 'x' :: ofChars rest := by
      rw [ofString, hs]
      rfl
    have hread : EndPattern.readHex rest = .ok n := readHex_eq_ok_iff.mpr ⟨rest, rfl, hrest⟩
    simp only [htext, hread]
    exact if_neg (Int.not_le.mpr hn)

theorem ofMembers_eq_ok : ofMembers members = .ok p ↔
    ∃ address data, Gives members address data ∧ IsMarkedNumeral address.toList p.address ∧
      IsMarkedNumeral data.toList p.data ∧ p.address < 2 ^ 64 ∧ p.data < 2 ^ 64 := by
  unfold ofMembers
  by_cases hw : isWrite (members.lookup ↑"action") = true
  · simp only [hw, Bool.not_true, Bool.false_eq_true, ↓reduceIte, bind_eq_ok, required_eq_ok,
      number_eq_ok]
    constructor
    · rintro ⟨_, ha, _, hd, x, ⟨a, rfl, hx, hxl⟩, y, ⟨d, rfl, hy, hyl⟩, ⟨⟩⟩
      exact ⟨a, d, ⟨isWrite_iff.mp hw, ha, hd⟩, hx, hy, hxl, hyl⟩
    · rintro ⟨a, d, hg, hx, hy, hxl, hyl⟩
      exact ⟨_, hg.address, _, hg.data, _, ⟨a, rfl, hx, hxl⟩, _, ⟨d, rfl, hy, hyl⟩, rfl⟩
  · have hno : ∀ address data, ¬ Gives members address data :=
      fun _ _ hg => hw (isWrite_iff.mpr hg.action)
    simp [hw, hno, bind, Except.bind, throw, throwThe, MonadExceptOf.throw]

theorem IsMarkedWord.isMarkedNumeral {s : List Char} {m : Nat} (h : IsMarkedWord s m) :
    IsMarkedNumeral s m := by
  obtain ⟨digits, rfl, hd⟩ := h
  exact ⟨digits, rfl, isNumeral_of_denotes hd⟩

theorem lt_word_iff {m : Nat} : (m : Int) < 2 ^ 64 ↔ m < 2 ^ 64 := by
  exact_mod_cast Iff.rfl

theorem IsProper.ofMembers_eq (h : IsProper members p) : ofMembers members = .ok p := by
  obtain ⟨a, d, m, n, hg, ha, hd, hm, hn, rfl⟩ := h
  exact ofMembers_eq_ok.mpr ⟨a, d, hg, ha.isMarkedNumeral, hd.isMarkedNumeral,
    lt_word_iff.mpr hm, lt_word_iff.mpr hn⟩

/-- Behind the mark of a given text stands nothing but hexadecimal digits. -/
def HasPlainText (members : List (Wide × Value)) (key : String) : Prop :=
  ∀ (s : String) rest, members.lookup ↑key = some (.text s) → s.toList = '0' :: 'x' :: rest →
    ∀ c ∈ rest, isHexDigit c = true

theorem exists_word {s : String} (hp : HasPlainText members key)
    (hs : members.lookup ↑key = some (.text s)) (h : IsMarkedNumeral s.toList n) :
    ∃ m : Nat, n = m ∧ IsMarkedWord s.toList m := by
  obtain ⟨rest, hrest, hn⟩ := h
  obtain ⟨m, hm, hd⟩ := denotes_of_isNumeral hn (hp s rest hs hrest)
  exact ⟨m, hm, rest, hrest, hd⟩

theorem isProper_of_plain (ha : HasPlainText members "memory_address")
    (hd : HasPlainText members "data") (h : ofMembers members = .ok p) : IsProper members p := by
  obtain ⟨a, d, hg, hx, hy, hxl, hyl⟩ := ofMembers_eq_ok.mp h
  obtain ⟨m, hm, hwm⟩ := exists_word ha hg.address hx
  obtain ⟨n, hn, hwn⟩ := exists_word hd hg.data hy
  obtain ⟨x, y⟩ := p
  obtain rfl : x = m := hm
  obtain rfl : y = n := hn
  exact ⟨a, d, m, n, hg, hwm, hwn, lt_word_iff.mp hxl, lt_word_iff.mp hyl, rfl⟩

end Reading

/-- Members are refused, or they ask for a write and the pattern holds the two numbers below
`2 ^ 64` that their texts stand for in the liberal notation. A pair of words is always taken, and it
is all that is taken where nothing but hexadecimal digits stands behind the marks. -/
theorem pattern_of_members (members : List (Wide × Value)) (p : EndPattern) :
    (ofMembers members = .ok p ↔
      ∃ address data, Gives members address data ∧ IsMarkedNumeral address.toList p.address ∧
        IsMarkedNumeral data.toList p.data ∧ p.address < 2 ^ 64 ∧ p.data < 2 ^ 64) ∧
    (IsProper members p → ofMembers members = .ok p) ∧
    (HasPlainText members "memory_address" → HasPlainText members "data" →
      ofMembers members = .ok p → IsProper members p) :=
  ⟨ofMembers_eq_ok, IsProper.ofMembers_eq, isProper_of_plain⟩

def writeOf (address data : String) : List (Wide × Value) :=
  [("action", .text "write"), ("memory_address", .text address), ("data", .text data)]

theorem gives_writeOf (address data : String) : Gives (writeOf address data) address data :=
  ⟨rfl, rfl, rfl⟩

theorem hasPlainText_of_lookup {members : List (Wide × Value)} {key s : String}
    (h : members.lookup ↑key = some (.text s)) (hs : (s.toList.drop 2).all isHexDigit = true) :
    HasPlainText members key := by
  intro s' rest hs' hrest
  obtain rfl : s = s' := by simpa using h.symm.trans hs'
  rw [hrest] at hs
  exact List.all_eq_true.mp hs

/-- Letters of both cases, and the largest word. -/
theorem mixedCase_proper :
    IsProper (writeOf "0xdeadBEEF" "0xffffffffffffffff") ⟨0xdeadbeef, 2 ^ 64 - 1⟩ ∧
      ofMembers (writeOf "0xdeadBEEF" "0xffffffffffffffff") = .ok ⟨0xdeadbeef, 2 ^ 64 - 1⟩ := by
  have ha : IsMarkedWord "0xdeadBEEF".toList 0xdeadbeef :=
    ⟨"deadBEEF".toList, rfl, denotes_iff.mpr (by decide)⟩
  have hd : IsMarkedWord "0xffffffffffffffff".toList (2 ^ 64 - 1) :=
    ⟨"ffffffffffffffff".toList, rfl, denotes_iff.mpr (by decide)⟩
  have hproper : IsProper (writeOf "0xdeadBEEF" "0xffffffffffffffff") ⟨0xdeadbeef, 2 ^ 64 - 1⟩ :=
    ⟨_, _, _, _, gives_writeOf _ _, ha, hd, by decide, by decide, rfl⟩
  have hread := (pattern_of_members _ _).2.1 hproper
  exact ⟨(pattern_of_members _ _).2.2 (hasPlainText_of_lookup rfl (by decide))
    (hasPlainText_of_lookup rfl (by decide)) hread, hread⟩

theorem isPlain_of_commits {text : List Char} {commits : List Commit}
    (h : Log.commits text = .ok commits) : ∀ c ∈ commits, IsPlain c := by
  have hread := ((reads_commits text).ok_iff commits).mp h
  generalize entries 1 ((Text.Lines.lines text).map Text.Lines.chomp) = lines at hread
  clear h
  induction hread with
  | nil => exact nofun
  | @cons entry c _ _ hc _ ih =>
    have hline : Log.commitLine 1 entry.1 = .ok c := mapError_eq_ok.mpr hc
    exact List.forall_mem_cons.mpr ⟨isPlain_of_commitLine hline, ih⟩

theorem endPc?_of_negative {p : EndPattern} (hp : p.address < 0 ∨ p.data < 0) {text : List Char}
    {commits : List Commit} (h : Log.commits text = .ok commits) :
    Align.endPc? commits p = none := by
  rw [Align.endPc?, Option.map_eq_none_iff, List.find?_eq_none]
  intro c hc hany
  obtain ⟨a, ha, hmatch⟩ := List.any_eq_true.mp hany
  obtain ⟨haddress, hdata⟩ := (isPlain_of_commits h c hc).accesses a ha
  simp only [isMatch, Bool.and_eq_true, beq_iff_eq] at hmatch
  have hlow := haddress.1
  have hlow' := (hdata p.data hmatch.2).1
  omega

theorem not_isMarkedWord {s : List Char} (h : isHex (s.drop 2) = false) (n : Nat) :
    ¬ IsMarkedWord s n := by
  rintro ⟨digits, rfl, hd⟩
  have hhex := (denotes_iff.mp hd).1
  rw [List.drop_succ_cons, List.drop_succ_cons, List.drop_zero, hhex] at h
  cases h

theorem not_isProper_writeOf {address data : String}
    (h : isHex (address.toList.drop 2) = false) (p : EndPattern) :
    ¬ IsProper (writeOf address data) p := by
  rintro ⟨a, _, m, _, hg, ha, -⟩
  have haddress := (gives_writeOf address data).address.symm.trans hg.address
  obtain rfl : address = a := by simpa using haddress
  exact not_isMarkedWord h m ha

theorem ofMembers_writeOf {s : String} {rest : List Char} {v : Int}
    (hs : s.toList = '0' :: 'x' :: rest) (hv : Integer.readHex rest = .ok v) (hl : v < 2 ^ 64) :
    ofMembers (writeOf s "0x0") = .ok ⟨v, 0⟩ :=
  ofMembers_eq_ok.mpr ⟨_, _, gives_writeOf _ _, ⟨rest, hs, readHex_eq_ok.mp hv⟩,
    ⟨['0'], rfl, isNumeral_of_isRun (.last (.inl (by decide)))⟩, hl,
    (by decide : (0 : Int) < 2 ^ 64)⟩

theorem stray_taken {s : String} {rest : List Char} {v : Int} (hs : s.toList = '0' :: 'x' :: rest)
    (hstray : isHex rest = false) (hv : Integer.readHex rest = .ok v) (hl : v < 2 ^ 64) :
    ofMembers (writeOf s "0x0") = .ok ⟨v, 0⟩ ∧ ∀ p, ¬ IsProper (writeOf s "0x0") p := by
  have hdrop : isHex (s.toList.drop 2) = false := by rwa [hs]
  exact ⟨ofMembers_writeOf hs hv hl, not_isProper_writeOf hdrop⟩

/-- Texts with more than hexadecimal digits behind the mark are taken. One of them stands for a
negative number, and no commit of any log performs a write to that address. -/
theorem stray_numerals_taken :
    (∀ t ∈ [("0x-1", -1), ("0x+1", 1), ("0x 1", 1), ("0x1_0", 16), ("0x0x1", 1), ("0x\u0661", 1)],
      ofMembers (writeOf t.1 "0x0") = .ok ⟨t.2, 0⟩ ∧ ∀ p, ¬ IsProper (writeOf t.1 "0x0") p) ∧
    ∀ text commits, Log.commits text = .ok commits → Align.endPc? commits ⟨-1, 0⟩ = none := by
  refine ⟨?_, fun _ _ => endPc?_of_negative (.inl (by decide))⟩
  have harabic : Integer.readHex ['\u0661'] = .ok 1 :=
    readHex_eq_ok.mpr (isNumeral_of_isRun (.last (.inr ⟨by decide, by decide⟩)))
  simp only [List.forall_mem_cons]
  exact ⟨stray_taken rfl (by decide) (by with_unfolding_all rfl) (by decide),
    stray_taken rfl (by decide) (by with_unfolding_all rfl) (by decide),
    stray_taken rfl (by decide) (by with_unfolding_all rfl) (by decide),
    stray_taken rfl (by decide) (by with_unfolding_all rfl) (by decide),
    stray_taken rfl (by decide) (by with_unfolding_all rfl) (by decide),
    stray_taken rfl (by decide) harabic (by decide), nofun⟩

end Cosim.Proofs.EndPatterns.Configured
