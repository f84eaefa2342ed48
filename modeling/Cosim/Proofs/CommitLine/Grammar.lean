import Cosim.Proofs.CommitLine.Window
import Cosim.Trace.Log

namespace Cosim.Proofs.CommitLine.Grammar

open Cosim.Numeral Cosim.Text Cosim.Trace Cosim.Trace.CommitLine
open Cosim.Proofs.CommitLine.Window Cosim.Proofs.Outcome

/-- Decimal digits of a value below `2 ^ bits`. -/
def IsDecimalOf (bits : Nat) (v : Int) (digits : Token) : Prop :=
  isDecimal digits = true ∧ decimalValue digits < 2 ^ bits ∧ v = decimalValue digits

def IsHexOf (bits : Nat) (v : Int) (digits : Token) : Prop :=
  isHex digits = true ∧ hexValue digits < 2 ^ bits ∧ v = hexValue digits

instance (bits : Nat) (v : Int) (digits : Token) : Decidable (IsDecimalOf bits v digits) :=
  inferInstanceAs (Decidable (_ ∧ _))

instance (bits : Nat) (v : Int) (digits : Token) : Decidable (IsHexOf bits v digits) :=
  inferInstanceAs (Decidable (_ ∧ _))

/-- The tokens are a sentence of the grammar, and it describes the commit. -/
def Describes (tokens : List Token) (c : Commit) : Prop :=
  ∃ n core privilege pc instruction tail,
    tokens = List.replicate n "core".toList ++
      (core ++ [':']) :: privilege :: ('0' :: 'x' :: pc) ::
        ('(' :: '0' :: 'x' :: instruction ++ [')']) :: tail ∧
    IsDecimalOf 8 c.core core ∧ IsDecimalOf 8 c.privilege privilege ∧ IsHexOf 64 c.pc pc ∧
    IsHexOf 32 c.instruction instruction ∧ NamesHaveValues tail ∧
    c.registerWrites = registerWrites tail ∧ c.memoryAccesses = memoryAccesses tail

/-- The two decimal tokens have no more digits than are converted. -/
def Convertible (tokens : List Token) : Prop :=
  ∀ t ∈ (tokens.dropWhile (· = "core".toList)).take 2,
    (t.filter isDecimalDigit).length ≤ Integer.digitLimit

instance (tokens : List Token) : Decidable (Convertible tokens) :=
  inferInstanceAs (Decidable (∀ t ∈ _, _))

theorem number_decimal_eq_ok {field : Field} (hf : field.isDecimal = true)
    {token digits : Token} {v : Int} :
    number field token digits = .ok v ↔
      IsDecimalOf field.bits v digits ∧ digits.length ≤ Integer.digitLimit := by
  unfold number
  rw [if_pos hf]
  cases hd : isDecimal digits with
  | false => simp [fail, IsDecimalOf, hd]
  | true =>
    rw [if_neg (by simp)]
    by_cases hl : Integer.digitLimit < digits.length
    · rw [if_pos hl]
      simp [Nat.not_le.mpr hl]
    rw [if_neg hl]
    by_cases hv : decimalValue digits < 2 ^ field.bits
    · rw [if_neg (Nat.not_le.mpr hv)]
      simp [IsDecimalOf, hd, hv, Nat.not_lt.mp hl, eq_comm]
    · rw [if_pos (Nat.not_lt.mp hv)]
      simp [IsDecimalOf, hv, fail]

theorem number_decimal_tooLong {field : Field} {token digits : Token} {n : Nat}
    (h : number field token digits = .error (.tooLong n)) :
    isDecimal digits = true ∧ digits.length = n ∧ Integer.digitLimit < n := by
  unfold number at h
  split at h
  · split at h
    · cases h
    split at h
    · cases h
      simp_all
    split at h <;> cases h
  · split at h
    · cases h
    split at h <;> cases h

theorem core_eq_ok {t : Token} {v : Int} :
    core t = .ok v ↔
      ∃ digits, t = digits ++ [':'] ∧ IsDecimalOf 8 v digits ∧
        digits.length ≤ Integer.digitLimit := by
  unfold core
  split
  · rename_i hl
    obtain ⟨digits, rfl⟩ := List.getLast?_eq_some_iff.mp hl
    rw [List.dropLast_concat, number_decimal_eq_ok rfl]
    simp [Field.bits]
  · rename_i hl
    simp only [fail, reduceCtorEq, false_iff, not_exists, not_and]
    rintro digits rfl
    simp at hl

theorem privilege_eq_ok {t : Token} {v : Int} :
    privilege t = .ok v ↔ IsDecimalOf 8 v t ∧ t.length ≤ Integer.digitLimit :=
  number_decimal_eq_ok rfl

theorem isMarked_iff {t : Token} : isMarked t = true ↔ ∃ digits, t = '0' :: 'x' :: digits := by
  rw [isMarked, List.isPrefixOf_iff_prefix]
  constructor
  · rintro ⟨digits, rfl⟩
    exact ⟨digits, rfl⟩
  · rintro ⟨digits, rfl⟩
    exact ⟨digits, rfl⟩

theorem pc_eq_ok {t : Token} {v : Int} :
    CommitLine.pc t = .ok v ↔ ∃ digits, t = '0' :: 'x' :: digits ∧ IsHexOf 64 v digits := by
  unfold CommitLine.pc
  split
  · rename_i hm
    obtain ⟨digits, rfl⟩ := isMarked_iff.mp hm
    rw [number_eq_ok rfl]
    simp [IsHexOf, Field.bits]
  · rename_i hm
    simp only [fail, reduceCtorEq, false_iff, not_exists, not_and]
    rintro digits rfl
    exact absurd (isMarked_iff.mpr ⟨digits, rfl⟩) hm

theorem dropLast_drop (digits : Token) :
    (('(' :: '0' :: 'x' :: digits ++ [')']).drop 3).dropLast = digits :=
  List.dropLast_concat

theorem instruction_eq_ok {t : Token} {v : Int} :
    CommitLine.instruction t = .ok v ↔
      ∃ digits, t = '(' :: '0' :: 'x' :: digits ++ [')'] ∧ IsHexOf 32 v digits := by
  unfold CommitLine.instruction
  constructor
  · intro h
    split at h
    · cases h
    split at h
    · cases h
    rename_i hp hl
    rw [Bool.not_eq_true', Bool.not_eq_false, List.isPrefixOf_iff_prefix] at hp
    obtain ⟨rest, rfl⟩ := hp
    rw [not_not] at hl
    cases rest with
    | nil => simp at hl
    | cons d rest =>
      obtain ⟨digits, hd⟩ := List.getLast?_eq_some_iff.mp (by simpa using hl)
      have ht : ['(', '0', 'x'] ++ d :: rest = '(' :: '0' :: 'x' :: digits ++ [')'] := by
        rw [hd]
        rfl
      rw [ht, dropLast_drop] at h
      exact ⟨digits, ht, (number_eq_ok rfl).mp h⟩
  · rintro ⟨digits, rfl, hd⟩
    have hl : ('(' :: '0' :: 'x' :: digits ++ [')']).getLast? = some ')' := List.getLast?_concat
    have hp : ['(', '0', 'x'].isPrefixOf ('(' :: '0' :: 'x' :: digits ++ [')']) = true := rfl
    rw [if_neg (by simp only [hp]; decide), if_neg (not_not_intro hl), dropLast_drop]
    exact (number_eq_ok rfl).mpr hd

theorem part_eq_ok {stage : Stage} {read : Token → Read Int} {tokens rest : List Token} {v : Int} :
    part stage read tokens = .ok (v, rest) ↔ ∃ t, tokens = t :: rest ∧ read t = .ok v := by
  cases tokens with
  | nil => simp [part, fail]
  | cons t tokens =>
    rw [part, map_eq_ok]
    constructor
    · rintro ⟨a, ha, he⟩
      obtain ⟨rfl, rfl⟩ := Prod.mk.inj he
      exact ⟨t, rfl, ha⟩
    · rintro ⟨t', he, ha⟩
      obtain ⟨rfl, rfl⟩ := List.cons.inj he
      exact ⟨v, ha, rfl⟩

theorem ofTokens_eq_ok {tokens : List Token} {c : Commit} :
    ofTokens tokens = .ok c ↔
      ∃ core privilege pc instruction tail,
        tokens.dropWhile (· = "core".toList) =
          core :: privilege :: pc :: instruction :: tail ∧
        CommitLine.core core = .ok c.core ∧ CommitLine.privilege privilege = .ok c.privilege ∧
        CommitLine.pc pc = .ok c.pc ∧ CommitLine.instruction instruction = .ok c.instruction ∧
        effects tail = .ok ⟨c.registerWrites, c.memoryAccesses⟩ := by
  simp only [ofTokens, bind_eq_ok, Prod.exists, part_eq_ok]
  constructor
  · rintro ⟨_, _, ⟨co, hco, h1⟩, _, _, ⟨pr, rfl, h2⟩, _, _, ⟨pc, rfl, h3⟩, _, tail, ⟨i, rfl, h4⟩, e,
      h5, hc⟩
    cases hc
    exact ⟨co, pr, pc, i, tail, hco, h1, h2, h3, h4, h5⟩
  · rintro ⟨co, pr, pc, i, tail, hco, h1, h2, h3, h4, h5⟩
    exact ⟨_, _, ⟨co, hco, h1⟩, _, _, ⟨pr, rfl, h2⟩, _, _, ⟨pc, rfl, h3⟩, _, _, ⟨i, rfl, h4⟩, _,
      h5, rfl⟩

theorem dropWhile_replicate {core : Token} (h : core ≠ "core".toList) (n : Nat)
    (rest : List Token) :
    (List.replicate n "core".toList ++ core :: rest).dropWhile
      (· = "core".toList) = core :: rest := by
  rw [List.dropWhile_append_of_pos, List.dropWhile_cons_of_neg (by simpa using h)]
  intro t ht
  simpa using List.eq_of_mem_replicate ht

theorem concat_ne_core (core : Token) : core ++ [':'] ≠ "core".toList := by
  intro he
  have hl := congrArg List.getLast? he
  rw [List.getLast?_concat] at hl
  cases hl

theorem eq_replicate_append (tokens : List Token) :
    ∃ n, tokens = List.replicate n "core".toList ++
      tokens.dropWhile (· = "core".toList) := by
  refine ⟨(tokens.takeWhile (· = "core".toList)).length, ?_⟩
  have hr : tokens.takeWhile (· = "core".toList) =
      List.replicate (tokens.takeWhile (· = "core".toList)).length "core".toList :=
    List.eq_replicate_of_mem fun t ht => by simpa using List.mem_takeWhile_imp ht
  rw [← hr, List.takeWhile_append_dropWhile]

theorem length_le_of_convertible {digits : Token} (hd : isDecimal digits = true) {t : Token}
    (ht : digits.Sublist t) (hl : (t.filter isDecimalDigit).length ≤ Integer.digitLimit) :
    digits.length ≤ Integer.digitLimit := by
  have hall : digits.filter isDecimalDigit = digits := by
    simp only [isDecimal, Bool.and_eq_true, List.all_eq_true] at hd
    exact List.filter_eq_self.mpr hd.2
  rw [← hall]
  exact (ht.filter isDecimalDigit).length_le.trans hl

theorem describes_of_ofTokens {tokens : List Token} {c : Commit}
    (h : ofTokens tokens = .ok c) : Describes tokens c := by
  obtain ⟨co, pr, pc, i, tail, ht, h1, h2, h3, h4, h5⟩ := ofTokens_eq_ok.mp h
  obtain ⟨digits, rfl, hcore, -⟩ := core_eq_ok.mp h1
  obtain ⟨pcDigits, rfl, hpc⟩ := pc_eq_ok.mp h3
  obtain ⟨word, rfl, hi⟩ := instruction_eq_ok.mp h4
  obtain ⟨hn, hs⟩ := (effects_eq_ok tail _).mp h5
  obtain ⟨hw, ha⟩ := Effects.mk.inj hs
  obtain ⟨n, hr⟩ := eq_replicate_append tokens
  rw [ht] at hr
  exact ⟨n, digits, pr, pcDigits, word, tail, hr, hcore, (privilege_eq_ok.mp h2).1, hpc, hi, hn,
    hw.symm, ha.symm⟩

theorem ofTokens_of_describes {tokens : List Token} (h : Convertible tokens) {c : Commit}
    (hd : Describes tokens c) : ofTokens tokens = .ok c := by
  obtain ⟨n, core, pr, pc, i, tail, rfl, hcore, hpr, hpc, hi, hn, hw, ha⟩ := hd
  have hd := dropWhile_replicate (concat_ne_core core) n (pr :: ('0' :: 'x' :: pc) ::
    ('(' :: '0' :: 'x' :: i ++ [')']) :: tail)
  rw [Convertible, hd] at h
  have hlc := length_le_of_convertible hcore.1 (List.sublist_append_left core [':'])
    (h (core ++ [':']) (by simp))
  have hlp := length_le_of_convertible hpr.1 (List.Sublist.refl pr) (h pr (by simp))
  have he : effects tail = .ok ⟨c.registerWrites, c.memoryAccesses⟩ :=
    (effects_eq_ok tail _).mpr ⟨hn, by rw [hw, ha]; rfl⟩
  exact ofTokens_eq_ok.mpr ⟨_, _, _, _, _, hd, core_eq_ok.mpr ⟨core, rfl, hcore, hlc⟩,
    privilege_eq_ok.mpr ⟨hpr, hlp⟩, pc_eq_ok.mpr ⟨pc, rfl, hpc⟩,
    instruction_eq_ok.mpr ⟨i, rfl, hi⟩, he⟩

theorem part_eq_tooLong {stage : Stage} {read : Token → Read Int} {tokens : List Token} {n : Nat}
    (h : part stage read tokens = .error (.tooLong n)) :
    ∃ t rest, tokens = t :: rest ∧ read t = .error (.tooLong n) := by
  cases tokens with
  | nil => simp [part, fail] at h
  | cons t rest => exact ⟨t, rest, rfl, map_eq_error.mp h⟩

theorem core_tooLong {t : Token} {n : Nat} (h : CommitLine.core t = .error (.tooLong n)) :
    ∃ digits, t = digits ++ [':'] ∧ isDecimal digits = true ∧ digits.length = n ∧
      Integer.digitLimit < n := by
  unfold CommitLine.core at h
  split at h
  · rename_i hl
    obtain ⟨digits, rfl⟩ := List.getLast?_eq_some_iff.mp hl
    rw [List.dropLast_concat] at h
    exact ⟨digits, rfl, number_decimal_tooLong h⟩
  · simp [fail] at h

theorem pc_ne_tooLong (t : Token) (n : Nat) : CommitLine.pc t ≠ .error (.tooLong n) := by
  unfold CommitLine.pc
  split
  · exact number_ne_tooLong rfl _ _ n
  · simp [fail]

theorem instruction_ne_tooLong (t : Token) (n : Nat) :
    CommitLine.instruction t ≠ .error (.tooLong n) := by
  unfold CommitLine.instruction
  split
  · simp [fail]
  split
  · simp [fail]
  · exact number_ne_tooLong rfl _ _ n

/-- The token is a decimal number of so many digits, with or without a colon. -/
def IsNumberToken (n : Nat) (t : Token) : Prop :=
  ∃ digits, isDecimal digits = true ∧ digits.length = n ∧ (t = digits ∨ t = digits ++ [':'])

theorem IsNumberToken.le_length {n : Nat} {t : Token} (h : IsNumberToken n t) : n ≤ t.length := by
  obtain ⟨digits, -, rfl, rfl | rfl⟩ := h <;> simp

theorem ofTokens_tooLong {tokens : List Token} {n : Nat}
    (h : ofTokens tokens = .error (.tooLong n)) :
    Integer.digitLimit < n ∧
      ∃ t ∈ (tokens.dropWhile (· = "core".toList)).take 2, IsNumberToken n t := by
  simp only [ofTokens, bind_eq_error, Prod.exists, part_eq_ok] at h
  rcases h with h | ⟨_, _, ⟨t, ht, -⟩, h | ⟨_, _, -, h | ⟨_, _, -, h | ⟨_, tail, -, h | h⟩⟩⟩⟩
  · obtain ⟨t, rest, ht, hc⟩ := part_eq_tooLong h
    obtain ⟨digits, rfl, hd, hn, hl⟩ := core_tooLong hc
    exact ⟨hl, _, by rw [ht]; simp, digits, hd, hn, .inr rfl⟩
  · obtain ⟨p, rest, rfl, hp⟩ := part_eq_tooLong h
    obtain ⟨hd, hn, hl⟩ := number_decimal_tooLong hp
    exact ⟨hl, p, by rw [ht]; simp, p, hd, hn, .inl rfl⟩
  · obtain ⟨t, rest, -, hp⟩ := part_eq_tooLong h
    exact absurd hp (pc_ne_tooLong t n)
  · obtain ⟨t, rest, -, hi⟩ := part_eq_tooLong h
    exact absurd hi (instruction_ne_tooLong t n)
  · exact absurd h (effects_ne_tooLong tail n)
  · simp [pure, Except.pure] at h

theorem ofTokens_ne_tooLong {tokens : List Token} (h : Convertible tokens) (n : Nat) :
    ofTokens tokens ≠ .error (.tooLong n) := by
  intro he
  obtain ⟨hlong, t, ht, digits, hd, rfl, hdigits⟩ := ofTokens_tooLong he
  have hsub : digits.Sublist t := by
    rcases hdigits with rfl | rfl
    · exact List.Sublist.refl _
    · exact List.sublist_append_left _ _
  exact Nat.not_le.mpr hlong (length_le_of_convertible hd hsub (h t ht))

theorem part_bind {α : Type} (stage : Stage) (read : Token → Read Int) (t : Token)
    (rest : List Token) (f : Int × List Token → Read α) :
    (part stage read (t :: rest) >>= f) = read t >>= fun v => f (v, rest) := by
  rw [part]
  cases read t <;> rfl

/-- Behind the parts that every line has, only the effects of the tokens matter. -/
theorem ofTokens_append {head : List Token}
    (h : (head.dropWhile (· = "core".toList)).length = 4) {tail tail' : List Token}
    (ht : effects tail = effects tail') : ofTokens (head ++ tail) = ofTokens (head ++ tail') := by
  obtain ⟨co, pr, pc, i, hd⟩ : ∃ co pr pc i,
      head.dropWhile (· = "core".toList) = [co, pr, pc, i] := by
    match head.dropWhile (· = "core".toList), h with
    | [co, pr, pc, i], _ => exact ⟨co, pr, pc, i, rfl⟩
  have hdrop : ∀ tail, (head ++ tail).dropWhile (· = "core".toList) =
      co :: pr :: pc :: i :: tail := by
    intro tail
    rw [List.dropWhile_append, hd]
    rfl
  simp only [ofTokens, hdrop, part_bind, ht]

/-- A line is read exactly if its tokens are a sentence, and then as the commit that the sentence
describes. All other lines are reported with their number and text. A marked token behind tokens
that do not wait for one can be left out of a line. -/
theorem commitLine_iff_describes (number : Int) (line : List Char)
    (h : Convertible (Blank.words line)) :
    (∀ c, Log.commitLine number line = .ok c ↔ Describes (Blank.words line) c) ∧
      ((¬ ∃ c, Describes (Blank.words line) c) →
        ∃ f, Log.commitLine number line = .error (.badLine number line (.commit f))) ∧
      ∀ other head before x after, (head.dropWhile (· = "core".toList)).length = 4 →
        isMarked x = true → IsIdle before →
        Blank.words line = head ++ (before ++ x :: after) →
        Blank.words other = head ++ (before ++ after) →
        CommitLine.read line = CommitLine.read other := by
  have hok : ∀ c, Log.commitLine number line = .ok c ↔ Describes (Blank.words line) c := by
    intro c
    rw [Log.commitLine, mapError_eq_ok]
    exact ⟨describes_of_ofTokens, ofTokens_of_describes h⟩
  refine ⟨hok, fun hn => ?_, ?_⟩
  · cases hr : read line with
    | ok c => exact absurd ⟨c, (hok c).mp (mapError_eq_ok.mpr hr)⟩ hn
    | error r =>
      cases r with
      | fault f => exact ⟨f, by rw [Log.commitLine, hr]; rfl⟩
      | tooLong n => exact absurd hr (ofTokens_ne_tooLong h n)
  · intro other head before x after hh hx hi hline hother
    rw [CommitLine.read, CommitLine.read, hline, hother]
    exact ofTokens_append hh (effects_insert hx hi after)

def strayLine : List Char := "core   0: 3 0x80 (0x13) x5 0x1 0x7 mem 0x10".toList

def strayCommit : Commit := ⟨0, 3, 0x80, 0x13, [⟨"x5", 1⟩], [⟨0x10, none⟩]⟩

/-- The stray number can be left out, and a line that ends too early is no sentence. -/
theorem strayLine_read :
    Log.commitLine 1 strayLine = .ok strayCommit ∧
      CommitLine.read strayLine =
        CommitLine.read "core 0: 3 0x80 (0x13) x5 0x1 mem 0x10".toList ∧
      ∃ f, Log.commitLine 2 "core 0: 3".toList =
        .error (.badLine 2 "core 0: 3".toList (.commit f)) := by
  have hc : Convertible (Blank.words strayLine) := by decide
  have hc' : Convertible (Blank.words "core 0: 3".toList) := by decide
  have hn : NamesHaveValues ["x5".toList, "0x1".toList, "0x7".toList, mem, "0x10".toList] :=
    (shown_of_name rfl rfl _).2.mpr
      ((shown_of_isMarked rfl _).2.mpr ((shown_of_address rfl _).2.mpr namesHaveValues_nil))
  have hd : Describes (Blank.words strayLine) strayCommit :=
    ⟨1, ['0'], ['3'], ['8', '0'], ['1', '3'], _, rfl, by decide, by decide, by decide, by decide,
      hn, rfl, rfl⟩
  have hi : IsIdle ["x5".toList, "0x1".toList] := by
    intro init t ht
    have hx : init = ["x5".toList] := (congrArg List.dropLast ht).trans List.dropLast_concat |>.symm
    obtain rfl : "0x1".toList = t :=
      Option.some.inj ((congrArg List.getLast? ht).trans List.getLast?_concat)
    subst hx
    decide
  refine ⟨((commitLine_iff_describes 1 strayLine hc).1 strayCommit).mpr hd,
    (commitLine_iff_describes 1 strayLine hc).2.2 _
      ["core".toList, "0:".toList, "3".toList, "0x80".toList, "(0x13)".toList]
      ["x5".toList, "0x1".toList] "0x7".toList [mem, "0x10".toList] (by decide) rfl hi rfl rfl,
    (commitLine_iff_describes 2 "core 0: 3".toList hc').2.1 ?_⟩
  rintro ⟨c, n, core, privilege, pc, instruction, tail, ht, -⟩
  have hl := congrArg List.length ht
  have h3 : (Blank.words "core 0: 3".toList).length = 3 := by decide
  simp only [h3, List.length_append, List.length_replicate, List.length_cons] at hl
  omega

end Cosim.Proofs.CommitLine.Grammar
