import Cosim.Cli.CompareCommand
import Cosim.Proofs.EndPatterns.Configured

namespace Cosim.Proofs.EndPatterns.CommandLine

open Cosim.Cli Cosim.Json Cosim.Numeral Cosim.Text Cosim.Trace Cosim.Trace.CommitLine
  Cosim.Trace.EndPattern
open Cosim.Proofs.CommitLine.Grammar Cosim.Proofs.CommitLine.RoundTrip
  Cosim.Proofs.CommitLine.Window
  Cosim.Proofs.EndPatterns.Configured Cosim.Proofs.Numeral.Digits Cosim.Proofs.Numeral.Hexadecimal
  Cosim.Proofs.Outcome Cosim.Proofs.Text.Words

section Tokens

variable {t : Token} {tail rest : List Token}

theorem accessAt_append_mem (t : Token) (tail rest : List Token) :
    accessAt (t :: (tail ++ mem :: rest)) = accessAt (t :: tail) := by
  have hmem : isWord mem = false := rfl
  match tail with
  | [] => simp [accessAt, hmem]
  | [a] => simp [accessAt, dataAt, hmem]
  | a :: d :: tail => rfl

theorem writeAt_append (h : isName t = true → tail ≠ []) (rest : List Token) :
    writeAt (t :: (tail ++ rest)) = writeAt (t :: tail) := by
  cases tail with
  | cons v tail => rfl
  | nil =>
    have ht : isName t = false := by simpa using h
    rw [writeAt_of_not_isName ht, writeAt_of_not_isName ht]

theorem shown_append_mem (h : NamesHaveValues tail) (rest : List Token) :
    shown (tail ++ mem :: rest) =
        ⟨(shown tail).registerWrites ++ (shown (mem :: rest)).registerWrites,
          (shown tail).memoryAccesses ++ (shown (mem :: rest)).memoryAccesses⟩ ∧
      (NamesHaveValues (tail ++ mem :: rest) ↔ NamesHaveValues rest) := by
  induction tail with
  | nil => exact ⟨rfl, namesHaveValues_mem rest⟩
  | cons t tail ih =>
    obtain ⟨ht, htail⟩ := (namesHaveValues_cons t tail).mp h
    obtain ⟨hshown, hnames⟩ := ih htail
    have hne : isName t = true → tail ≠ [] := by
      rintro hn rfl
      obtain ⟨v, hv, -⟩ := ht hn
      cases hv
    have hhead : isName t = true → ∃ v, (tail ++ mem :: rest).head? = some v ∧ isWord v = true := by
      intro hn
      rw [List.head?_append_of_ne_nil _ (hne hn)]
      exact ht hn
    rw [List.cons_append, namesHaveValues_cons, hnames]
    refine ⟨?_, and_iff_right hhead⟩
    rw [shown_cons, hshown, shown_cons t tail, accessAt_append_mem, writeAt_append hne]
    simp only [List.append_assoc]

end Tokens

theorem exists_of_append_eq {α : Type} {head tail front rest : List α} {x : α} (hx : x ∉ head)
    (h : head ++ tail = front ++ x :: rest) : ∃ before, tail = before ++ x :: rest := by
  obtain ⟨before, -, htail⟩ | ⟨back, hhead, hback⟩ := List.append_eq_append_iff.mp h
  · exact ⟨before, htail⟩
  · cases back with
    | nil => exact ⟨[], hback.symm⟩
    | cons y back =>
      obtain ⟨rfl, -⟩ := List.cons.inj hback
      exact absurd (hhead ▸ by simp) hx

section Lines

variable {line : List Char} {c : Commit} {front rest : List Token} {a d : Token}

def headOf (n : Nat) (core privilege pc instruction : Token) : List Token :=
  List.replicate n "core".toList ++
    [core ++ [':'], privilege, '0' :: 'x' :: pc, '(' :: '0' :: 'x' :: instruction ++ [')']]

theorem mem_not_mem_headOf (n : Nat) (core pc instruction : Token) {privilege : Token}
    (hp : isDecimal privilege = true) : mem ∉ headOf n core privilege pc instruction := by
  intro h
  obtain h | h := List.mem_append.mp h
  · exact absurd (List.eq_of_mem_replicate h) (by decide)
  simp only [List.mem_cons, List.not_mem_nil, or_false] at h
  obtain h | rfl | h | h := h
  · have hlast := congrArg List.getLast? h
    rw [List.getLast?_concat] at hlast
    cases hlast
  · cases hp
  · exact absurd (List.cons.inj h).1 (by decide)
  · exact absurd (List.cons.inj h).1 (by decide)

theorem exists_before (hread : CommitLine.read line = .ok c)
    (hwords : Blank.words line = front ++ mem :: rest) :
    ∃ before, c.memoryAccesses = memoryAccesses (before ++ mem :: rest) := by
  obtain ⟨n, core, privilege, pc, instruction, tail, htokens, -, hp, -, -, -, -, haccesses⟩ :=
    describes_of_ofTokens hread
  have hhead : Blank.words line = headOf n core privilege pc instruction ++ tail := by
    rw [htokens, headOf, List.append_assoc]
    rfl
  obtain ⟨before, rfl⟩ := exists_of_append_eq (mem_not_mem_headOf n core pc instruction hp.1)
    (hhead.symm.trans hwords)
  exact ⟨before, haccesses⟩

theorem mem_memoryAccesses (hread : CommitLine.read line = .ok c)
    (hwords : Blank.words line = front ++ mem :: a :: rest) (ha : isWord a = true) :
    ⟨wordValue a, dataAt rest⟩ ∈ c.memoryAccesses := by
  obtain ⟨before, hc⟩ := exists_before hread hwords
  rw [hc, memoryAccesses, List.mem_filterMap]
  exact ⟨mem :: a :: rest, (List.mem_tails _ _).mpr (List.suffix_append before _),
    if_pos ⟨rfl, ha⟩⟩

theorem isSolid_of_isWord {t : Token} (h : isWord t = true) : IsSolid t := by
  obtain ⟨digits, rfl⟩ := isMarked_iff.mp (isMarked_of_isWord h)
  simp only [isWord, Bool.and_eq_true] at h
  have hmark : IsSolid ['0', 'x'] := by decide
  exact hmark.append (isSolid_of_isHex h.1.2)

theorem effects_append_store {tail : List Token} {e : Effects} (h : effects tail = .ok e)
    (ha : isWord a = true) (hd : isWord d = true) :
    effects (tail ++ [mem, a, d]) = .ok ⟨e.registerWrites,
      e.memoryAccesses ++ [⟨wordValue a, some (wordValue d)⟩]⟩ := by
  obtain ⟨hnames, rfl⟩ := (effects_eq_ok tail e).mp h
  obtain ⟨hshown, hiff⟩ := shown_append_mem hnames [a, d]
  obtain ⟨haddress, -⟩ := shown_of_address ha [d]
  obtain ⟨hdata, -⟩ := shown_of_isMarked (isMarked_of_isWord hd) []
  have hnil : shown [] = Effects.none := rfl
  rw [effects_eq_ok, hshown, hiff, haddress, hdata, hnil]
  refine ⟨?_, by simp [Effects.withAccess, Effects.none, dataAt, hd]⟩
  rw [namesHaveValues_cons, namesHaveValues_cons]
  simp [isName_of_isMarked (isMarked_of_isWord ha), isName_of_isMarked (isMarked_of_isWord hd),
    namesHaveValues_nil]

theorem read_append_store (hread : CommitLine.read line = .ok c) (ha : isWord a = true)
    (hd : isWord d = true) : CommitLine.read (line ++ spaced [mem, a, d]) =
      .ok { c with memoryAccesses := c.memoryAccesses ++ [⟨wordValue a, some (wordValue d)⟩] } := by
  have hsolid : ∀ w ∈ [mem, a, d], IsSolid w := by
    simp only [List.forall_mem_cons]
    exact ⟨by decide, isSolid_of_isWord ha, isSolid_of_isWord hd, nofun⟩
  have hwords : Blank.words (line ++ spaced [mem, a, d]) = Blank.words line ++ [mem, a, d] := by
    have hspaced := words_spaced hsolid
    rw [spaced, List.flatMap_cons, List.cons_append, words_blank rfl] at hspaced
    rw [spaced, List.flatMap_cons, List.cons_append, words_append_blank rfl, hspaced]
  obtain ⟨core, privilege, pc, instruction, tail, hdrop, hcore, hprivilege, hpc, hinstruction,
    heffects⟩ := ofTokens_eq_ok.mp hread
  rw [CommitLine.read, hwords, ofTokens_eq_ok]
  refine ⟨core, privilege, pc, instruction, tail ++ [mem, a, d], ?_, hcore, hprivilege, hpc,
    hinstruction, effects_append_store heffects ha hd⟩
  rw [List.dropWhile_append, hdrop]
  rfl

end Lines

section Words

variable {s : String} {v : Nat}

theorem isMarkedWord_of_read? (h : HexWord.read? s.toList = some v) :
    IsMarkedWord s.toList v ∧ v < 2 ^ 64 := by
  unfold HexWord.read? at h
  split at h
  · rename_i digits hs
    split at h
    · rename_i hdigits
      obtain rfl := Option.some.inj h
      rw [Bool.and_eq_true, decide_eq_true_eq] at hdigits
      refine ⟨⟨digits, hs, denotes_iff.mpr ⟨hdigits.1, rfl⟩⟩, ?_⟩
      calc hexValue digits < 16 ^ digits.length := valueBy_lt isBase_hex digits
        _ ≤ 16 ^ 16 := Nat.pow_le_pow_right (by decide) hdigits.2
        _ = 2 ^ 64 := by decide
    · cases h
  · cases h

theorem isWord_token {t : Token} (h : IsMarkedWord t v) (hv : v < 2 ^ 64) :
    isWord t = true ∧ wordValue t = v := by
  obtain ⟨digits, rfl, hd⟩ := h
  obtain ⟨hhex, rfl⟩ := denotes_iff.mp hd
  refine ⟨?_, rfl⟩
  rw [isWord, isMarked_iff.mpr ⟨digits, rfl⟩]
  simpa [hhex] using hv

/-- A text stands for `v` wherever a word of 64 bits may be given: on a command line, in a
configuration, and as the address or the data of an access in a commit log. -/
structure StandsFor (s : String) (v : Nat) : Prop where
  word : IsMarkedWord s.toList v
  lt : v < 2 ^ 64
  commandLine : CompareCommand.asWord (.text s) = .ok v
  configuration : ∀ key, EndPattern.number key (.text s) = .ok v
  address : ∀ {line c front rest}, CommitLine.read line = .ok c →
    Blank.words line = front ++ mem :: s.toList :: rest → ⟨v, dataAt rest⟩ ∈ c.memoryAccesses
  data : ∀ {line c front a rest}, CommitLine.read line = .ok c →
    Blank.words line = front ++ mem :: a :: s.toList :: rest → isWord a = true →
      ⟨wordValue a, some ↑v⟩ ∈ c.memoryAccesses

theorem standsFor_of_read? (h : HexWord.read? s.toList = some v) : StandsFor s v := by
  obtain ⟨hword, hlt⟩ := isMarkedWord_of_read? h
  obtain ⟨htoken, hvalue⟩ := isWord_token hword hlt
  refine ⟨hword, hlt, ?_, fun key => ?_, fun hread hwords => ?_, fun hread hwords ha => ?_⟩
  · rw [CompareCommand.asWord, h]
  · exact number_eq_ok.mpr ⟨s, rfl, hword.isMarkedNumeral, lt_word_iff.mpr hlt⟩
  · rw [← hvalue]
    exact mem_memoryAccesses hread hwords htoken
  · have hdata := mem_memoryAccesses hread hwords ha
    rwa [dataAt, if_pos htoken, hvalue] at hdata

theorem ofMembers_of_read? {members : List (Wide × Value)} {a d : String} {x y : Nat}
    (ha : HexWord.read? a.toList = some x) (hd : HexWord.read? d.toList = some y)
    (hg : Gives members a d) : ofMembers members = .ok ⟨x, y⟩ := by
  obtain ⟨hx, hxl⟩ := isMarkedWord_of_read? ha
  obtain ⟨hy, hyl⟩ := isMarkedWord_of_read? hd
  exact IsProper.ofMembers_eq ⟨a, d, x, y, hg, hx, hy, hxl, hyl, rfl⟩

end Words

/-- A word that a command line takes stands for the same number everywhere. The pattern of two such
words is the configured one, traces compare alike up to either, and a line of a commit log with a
store of the two words behind it is read with an access that is the end. -/
theorem given_words_stand :
    (∀ (s : String) (v : Nat), HexWord.read? s.toList = some v → StandsFor s v) ∧
    ∀ (a d : String) (x y : Nat), HexWord.read? a.toList = some x →
      HexWord.read? d.toList = some y →
      (∀ members, Gives members a d → ofMembers members = .ok ⟨x, y⟩ ∧
        ∀ commits events, (ofMembers members).map (Align.compare commits events ∘ some) =
          .ok (Align.compare commits events (some ⟨x, y⟩))) ∧
      (∀ line c, CommitLine.read line = .ok c →
        CommitLine.read (line ++ spaced [mem, a.toList, d.toList]) =
          .ok { c with memoryAccesses := c.memoryAccesses ++ [⟨x, some ↑y⟩] }) ∧
      isMatch ⟨x, y⟩ ⟨x, some ↑y⟩ = true := by
  refine ⟨fun s v => standsFor_of_read?, fun a d x y ha hd => ⟨fun members hg => ?_, ?_, ?_⟩⟩
  · have hmembers := ofMembers_of_read? ha hd hg
    exact ⟨hmembers, fun commits events => by rw [hmembers]; rfl⟩
  · intro line c hread
    obtain ⟨hx, hxl⟩ := isMarkedWord_of_read? ha
    obtain ⟨hy, hyl⟩ := isMarkedWord_of_read? hd
    obtain ⟨hax, hxv⟩ := isWord_token hx hxl
    obtain ⟨hdy, hyv⟩ := isWord_token hy hyl
    rw [read_append_store hread hax hdy, hxv, hyv]
  · simp [isMatch]

/-- The largest word in capitals, and sixteen digits with zeros in front. -/
theorem largestWord_stands :
    HexWord.read? "0xFFFFFFFFFFFFFFFF".toList = some (2 ^ 64 - 1) ∧
      HexWord.read? "0x00000000000000aB".toList = some 0xab ∧
      StandsFor "0xFFFFFFFFFFFFFFFF" (2 ^ 64 - 1) ∧
      ofMembers (writeOf "0xFFFFFFFFFFFFFFFF" "0x00000000000000aB") = .ok ⟨2 ^ 64 - 1, 0xab⟩ ∧
      CommitLine.read "0: 3 0x80 (0x23) mem 0xFFFFFFFFFFFFFFFF 0x00000000000000aB".toList =
        .ok ⟨0, 3, 0x80, 0x23, [], [⟨2 ^ 64 - 1, some 0xab⟩]⟩ := by
  have ha : HexWord.read? "0xFFFFFFFFFFFFFFFF".toList = some (2 ^ 64 - 1) := by decide
  have hd : HexWord.read? "0x00000000000000aB".toList = some 0xab := by decide
  have hread : CommitLine.read "0: 3 0x80 (0x23)".toList = .ok ⟨0, 3, 0x80, 0x23, [], []⟩ := by
    with_unfolding_all rfl
  obtain ⟨hpattern, hline, -⟩ := given_words_stand.2 _ _ _ _ ha hd
  exact ⟨ha, hd, given_words_stand.1 _ _ ha, (hpattern _ (gives_writeOf _ _)).1, hline _ _ hread⟩

end Cosim.Proofs.EndPatterns.CommandLine
