import Cosim.Proofs.CommitLine.Grammar
import Cosim.Proofs.LogLines

namespace Cosim.Proofs.CommitLine.RoundTrip

open Cosim.Numeral Cosim.Text Cosim.Text.Blank Cosim.Trace Cosim.Trace.CommitLine
open Cosim.Proofs.CommitLine.Grammar Cosim.Proofs.CommitLine.Window Cosim.Proofs.LogLines
open Cosim.Proofs.Numeral.Digits Cosim.Proofs.Outcome Cosim.Proofs.Text.Words

def IsUnsigned (bits : Nat) (v : Int) : Prop := 0 ≤ v ∧ v < 2 ^ bits

instance (bits : Nat) (v : Int) : Decidable (IsUnsigned bits v) :=
  inferInstanceAs (Decidable (_ ∧ _))

/-- The numbers fit their fields, and a name is a word that is neither `mem` nor marked. -/
structure IsPlain (c : Commit) : Prop where
  core : IsUnsigned 8 c.core
  privilege : IsUnsigned 8 c.privilege
  pc : IsUnsigned 64 c.pc
  instruction : IsUnsigned 32 c.instruction
  writes : ∀ w ∈ c.registerWrites,
    IsSolid w.name.toList ∧ isName w.name.toList = true ∧ IsUnsigned 64 w.value
  accesses : ∀ a ∈ c.memoryAccesses, IsUnsigned 64 a.address ∧ ∀ d ∈ a.data, IsUnsigned 64 d

section Numbers

variable {bits : Nat} {v : Int}

theorem IsUnsigned.exists_nat (h : IsUnsigned bits v) : ∃ n : Nat, v = n ∧ n < 2 ^ bits := by
  obtain ⟨n, rfl⟩ := Int.eq_ofNat_of_zero_le h.1
  exact ⟨n, rfl, by exact_mod_cast h.2⟩

theorem isUnsigned_of_nat {n : Nat} (h : n < 2 ^ bits) : IsUnsigned bits n :=
  ⟨Int.natCast_nonneg n, by exact_mod_cast h⟩

theorem isUnsigned_of_isDecimalOf {digits : Token} (h : IsDecimalOf bits v digits) :
    IsUnsigned bits v := by
  rw [h.2.2]
  exact isUnsigned_of_nat h.2.1

theorem isUnsigned_of_isHexOf {digits : Token} (h : IsHexOf bits v digits) :
    IsUnsigned bits v := by
  rw [h.2.2]
  exact isUnsigned_of_nat h.2.1

theorem isDecimalOf_decimal (h : IsUnsigned bits v) : IsDecimalOf bits v (decimal v) := by
  obtain ⟨n, rfl, hn⟩ := h.exists_nat
  have hv : decimalValue (decimal n) = n := decimalValue_digits n
  refine ⟨isDecimal_digits n, ?_, ?_⟩ <;> rw [hv]
  exact hn

theorem isHexOf_hexFilled (h : IsUnsigned bits v) (width : Nat) :
    IsHexOf bits v (hexFilled width v) := by
  obtain ⟨n, rfl, hn⟩ := h.exists_nat
  have hv : hexValue (hexFilled width n) = n := hexValue_zeroFill width n
  refine ⟨isHex_zeroFill width n, ?_, ?_⟩ <;> rw [hv]
  exact hn

theorem length_decimal_le (h : IsUnsigned 8 v) : (decimal v).length ≤ 3 := by
  obtain ⟨n, rfl, hn⟩ := h.exists_nat
  have hn : n < 10 ^ 3 := Nat.lt_trans hn (by decide)
  exact (Nat.length_toDigits_le_iff (by decide) (by decide)).mpr hn

end Numbers

theorem isHexDigit_of_isDecimalDigit {c : Char} (h : isDecimalDigit c = true) :
    isHexDigit c = true := by
  unfold isDecimalDigit decimalDigit? at h
  split at h
  · rename_i hc
    simp [isHexDigit, hexDigit?, hc]
  · cases h

theorem isBlank_of_isHexDigit {c : Char} (h : isHexDigit c = true) : isBlank c = false := by
  have hrange : (48 ≤ c.toNat ∧ c.toNat ≤ 57) ∨ (65 ≤ c.toNat ∧ c.toNat ≤ 70) ∨
      (97 ≤ c.toNat ∧ c.toNat ≤ 102) := by
    unfold isHexDigit hexDigit? at h
    split at h
    · rename_i hc
      exact Or.inl ⟨toNat_le.mp hc.1, toNat_le.mp hc.2⟩
    split at h
    · rename_i hc
      exact Or.inr (Or.inr ⟨toNat_le.mp hc.1, toNat_le.mp hc.2⟩)
    split at h
    · rename_i hc
      exact Or.inr (Or.inl ⟨toNat_le.mp hc.1, toNat_le.mp hc.2⟩)
    · cases h
  simp only [isBlank, Bool.or_eq_false_iff, Bool.and_eq_false_iff, decide_eq_false_iff_not,
    beq_eq_false_iff_ne]
  omega

theorem isSolid_of_isHex {s : List Char} (h : isHex s = true) : IsSolid s := by
  simp only [isHex, Bool.and_eq_true, List.all_eq_true] at h
  exact ⟨by simpa using h.1, fun c hc => isBlank_of_isHexDigit (h.2 c hc)⟩

theorem isSolid_of_isDecimal {s : List Char} (h : isDecimal s = true) : IsSolid s := by
  simp only [isDecimal, Bool.and_eq_true, List.all_eq_true] at h
  exact ⟨by simpa using h.1, fun c hc =>
    isBlank_of_isHexDigit (isHexDigit_of_isDecimalDigit (h.2 c hc))⟩

section Printed

variable {c : Commit}

/-- The token that is printed for a word. -/
def printed (v : Int) : Token := '0' :: 'x' :: hexFilled 16 v

def headTokens (c : Commit) : List Token :=
  [decimal c.core ++ [':'], decimal c.privilege, printed c.pc,
    '(' :: '0' :: 'x' :: hexFilled 8 c.instruction ++ [')']]

def writeTokens (writes : List RegisterWrite) : List Token :=
  writes.flatMap fun w => [w.name.toList, printed w.value]

def accessTokens (accesses : List MemoryAccess) : List Token :=
  accesses.flatMap fun a => mem :: printed a.address :: a.data.toList.map printed

def tailTokens (c : Commit) : List Token :=
  writeTokens c.registerWrites ++ accessTokens c.memoryAccesses

theorem isWord_printed {v : Int} (h : IsUnsigned 64 v) :
    isWord (printed v) = true ∧ wordValue (printed v) = v := by
  obtain ⟨hx, hlt, hv⟩ := isHexOf_hexFilled h 16
  have hd : (printed v).drop 2 = hexFilled 16 v := rfl
  have hm : isMarked (printed v) = true := rfl
  refine ⟨?_, by rw [wordValue, hd, ← hv]⟩
  rw [isWord, hd, hm, hx, decide_eq_true hlt]
  rfl

/-- What follows an access is never its data. -/
theorem dataAt_accessTokens (accesses : List MemoryAccess) :
    dataAt (accessTokens accesses) = none := by
  cases accesses with
  | nil => rfl
  | cons a accesses => rfl

theorem shown_accessTokens {accesses : List MemoryAccess}
    (h : ∀ a ∈ accesses, IsUnsigned 64 a.address ∧ ∀ d ∈ a.data, IsUnsigned 64 d) :
    shown (accessTokens accesses) = ⟨[], accesses⟩ ∧ NamesHaveValues (accessTokens accesses) := by
  induction accesses with
  | nil => exact ⟨rfl, namesHaveValues_nil⟩
  | cons a accesses ih =>
    obtain ⟨ihs, ihn⟩ := ih fun x hx => h x (List.mem_cons_of_mem a hx)
    obtain ⟨ha, hd⟩ := h a List.mem_cons_self
    obtain ⟨address, data⟩ := a
    obtain ⟨hw, hv⟩ := isWord_printed ha
    cases data with
    | none =>
      have ht : accessTokens (⟨address, none⟩ :: accesses) =
          mem :: printed address :: accessTokens accesses := rfl
      obtain ⟨hs, hn⟩ := shown_of_address hw (accessTokens accesses)
      rw [ht, hs, hn, ihs, hv, dataAt_accessTokens]
      exact ⟨rfl, ihn⟩
    | some d =>
      have ht : accessTokens (⟨address, some d⟩ :: accesses) =
          mem :: printed address :: printed d :: accessTokens accesses := rfl
      obtain ⟨hwd, hvd⟩ := isWord_printed (hd d rfl)
      obtain ⟨hs, hn⟩ := shown_of_address hw (printed d :: accessTokens accesses)
      obtain ⟨hs', hn'⟩ := shown_of_isMarked (isMarked_of_isWord hwd) (accessTokens accesses)
      have hdata : dataAt (printed d :: accessTokens accesses) = some d := by
        rw [dataAt, if_pos hwd, hvd]
      rw [ht, hs, hn, hs', hn', ihs, hv, hdata]
      exact ⟨rfl, ihn⟩

theorem shown_writeTokens_append {writes : List RegisterWrite}
    (h : ∀ w ∈ writes, isName w.name.toList = true ∧ IsUnsigned 64 w.value)
    (rest : List Token) :
    shown (writeTokens writes ++ rest) =
        ⟨writes ++ (shown rest).registerWrites, (shown rest).memoryAccesses⟩ ∧
      (NamesHaveValues (writeTokens writes ++ rest) ↔ NamesHaveValues rest) := by
  induction writes with
  | nil => exact ⟨rfl, Iff.rfl⟩
  | cons w writes ih =>
    obtain ⟨ihs, ihn⟩ := ih fun x hx => h x (List.mem_cons_of_mem w hx)
    obtain ⟨hname, hu⟩ := h w List.mem_cons_self
    obtain ⟨hw, hv⟩ := isWord_printed hu
    have ht : writeTokens (w :: writes) ++ rest =
        w.name.toList :: printed w.value :: (writeTokens writes ++ rest) := rfl
    obtain ⟨hs, hn⟩ := shown_of_name hname hw (writeTokens writes ++ rest)
    rw [ht, hs, hn, ihs, ihn, hv]
    refine ⟨?_, Iff.rfl⟩
    rw [Effects.withWrite, String.ofList_toList]
    rfl

/-- The printed writes and accesses are what the window shows. -/
theorem shown_tailTokens (h : IsPlain c) :
    shown (tailTokens c) = ⟨c.registerWrites, c.memoryAccesses⟩ ∧
      NamesHaveValues (tailTokens c) := by
  obtain ⟨hsa, hna⟩ := shown_accessTokens h.accesses
  obtain ⟨hsw, hnw⟩ := shown_writeTokens_append (fun w hw => (h.writes w hw).2)
    (accessTokens c.memoryAccesses)
  rw [tailTokens, hsw, hnw, hsa]
  exact ⟨by simp, hna⟩

theorem describes_printed (h : IsPlain c) :
    Describes ("core".toList :: (headTokens c ++ tailTokens c)) c := by
  obtain ⟨hs, hn⟩ := shown_tailTokens h
  obtain ⟨hw, ha⟩ := Effects.mk.inj hs
  exact ⟨1, decimal c.core, decimal c.privilege, hexFilled 16 c.pc, hexFilled 8 c.instruction,
    tailTokens c, rfl, isDecimalOf_decimal h.core, isDecimalOf_decimal h.privilege,
    isHexOf_hexFilled h.pc 16, isHexOf_hexFilled h.instruction 8, hn, hw.symm, ha.symm⟩

theorem isSolid_printed {v : Int} (h : IsUnsigned 64 v) : IsSolid (printed v) := by
  have hmark : IsSolid ['0', 'x'] := by decide
  exact hmark.append (isSolid_of_isHex (isHexOf_hexFilled h 16).1)

theorem isSolid_of_mem_headTokens (h : IsPlain c) : ∀ t ∈ headTokens c, IsSolid t := by
  have hco := isSolid_of_isDecimal (isDecimalOf_decimal h.core).1
  have hpr := isSolid_of_isDecimal (isDecimalOf_decimal h.privilege).1
  have hin := isSolid_of_isHex (isHexOf_hexFilled h.instruction 8).1
  have hopen : IsSolid ['(', '0', 'x'] := by decide
  simp only [headTokens, List.forall_mem_cons]
  exact ⟨hco.append (by decide), hpr, isSolid_printed h.pc,
    (hopen.append hin).append (by decide), by simp⟩

theorem isSolid_of_mem_tailTokens (h : IsPlain c) : ∀ t ∈ tailTokens c, IsSolid t := by
  intro t ht
  rcases List.mem_append.mp ht with ht | ht
  · obtain ⟨w, hw, ht⟩ := List.mem_flatMap.mp ht
    obtain ⟨hname, -, hv⟩ := h.writes w hw
    rcases List.mem_pair.mp ht with rfl | rfl
    · exact hname
    · exact isSolid_printed hv
  · obtain ⟨a, ha, ht⟩ := List.mem_flatMap.mp ht
    obtain ⟨haddr, hd⟩ := h.accesses a ha
    rcases List.mem_cons.mp ht with rfl | ht
    · exact (by decide : IsSolid mem)
    rcases List.mem_cons.mp ht with rfl | ht
    · exact isSolid_printed haddr
    · obtain ⟨d, hd', rfl⟩ := List.mem_map.mp ht
      exact isSolid_printed (hd d (by simpa using hd'))

theorem isSolid_of_mem_tokens (h : IsPlain c) :
    ∀ t ∈ headTokens c ++ tailTokens c, IsSolid t :=
  List.forall_mem_append.mpr ⟨isSolid_of_mem_headTokens h, isSolid_of_mem_tailTokens h⟩

theorem renderHead_eq (c : Commit) :
    c.renderHead = "core".toList ++ (List.replicate (3 - (decimal c.core).length) ' ' ++
      spaced (headTokens c)) := by
  have hspace : ∀ n, ' ' :: List.replicate n ' ' = List.replicate n ' ' ++ [' '] :=
    fun n => List.replicate_succ'
  have hcore : "core ".toList = "core".toList ++ [' '] := rfl
  have hcolon : ": ".toList = [':', ' '] := rfl
  have hmark : " 0x".toList = [' ', '0', 'x'] := rfl
  have hopen : " (0x".toList = [' ', '(', '0', 'x'] := rfl
  unfold Commit.renderHead decimalRight
  rw [hcore, hcolon, hmark, hopen]
  simp only [headTokens, spaced, printed, List.flatMap_cons, List.flatMap_nil, List.append_assoc,
    List.cons_append, List.nil_append, List.append_nil]
  rw [← List.cons_append, hspace, List.append_assoc]
  rfl

/-- A printed line is its tokens with spaces between them, more of them where the core is
short. -/
theorem render_eq (c : Commit) :
    c.render = "core".toList ++ (List.replicate (3 - (decimal c.core).length) ' ' ++
      spaced (headTokens c ++ tailTokens c)) := by
  have hw : c.registerWrites.flatMap (fun w => ' ' :: w.render) =
      spaced (writeTokens c.registerWrites) := by
    rw [spaced, writeTokens, List.flatMap_assoc]
    congr 1
    funext w
    simp [RegisterWrite.render, printed]
  have ha : c.memoryAccesses.flatMap (fun a => ' ' :: a.render) =
      spaced (accessTokens c.memoryAccesses) := by
    rw [spaced, accessTokens, List.flatMap_assoc]
    congr 1
    funext a
    obtain ⟨address, data⟩ := a
    cases data <;> simp [MemoryAccess.render, printed, mem]
  unfold Commit.render
  rw [hw, ha, renderHead_eq, tailTokens]
  simp only [spaced, List.flatMap_append, List.append_assoc]

theorem words_render (h : IsPlain c) :
    words c.render = "core".toList :: (headTokens c ++ tailTokens c) := by
  have hcore : IsSolid "core".toList := by decide
  have hblank : ∀ b ∈ List.replicate (3 - (decimal c.core).length) ' ', isBlank b = true := by
    intro b hb
    rw [List.eq_of_mem_replicate hb]
    rfl
  have hnext : ∀ b ∈ (List.replicate (3 - (decimal c.core).length) ' ' ++
      spaced (headTokens c ++ tailTokens c)).head?, isBlank b = true := by
    cases hn : 3 - (decimal c.core).length with
    | zero =>
      rintro b ⟨⟩
      rfl
    | succ n =>
      rintro b ⟨⟩
      rfl
  rw [render_eq, words_append hcore hnext, words_blanks hblank,
    words_spaced (isSolid_of_mem_tokens h)]

theorem convertible_printed (h : IsPlain c) :
    Convertible ("core".toList :: (headTokens c ++ tailTokens c)) := by
  have hd := dropWhile_replicate (concat_ne_core (decimal c.core)) 1
    (decimal c.privilege :: printed c.pc ::
      ('(' :: '0' :: 'x' :: hexFilled 8 c.instruction ++ [')']) :: tailTokens c)
  have htake : (("core".toList :: (headTokens c ++ tailTokens c)).dropWhile
      (· = "core".toList)).take 2 = [decimal c.core ++ [':'], decimal c.privilege] :=
    congrArg (List.take 2) hd
  have hcl := length_decimal_le h.core
  have hpl := length_decimal_le h.privilege
  have hlimit : 4 ≤ Integer.digitLimit := by decide
  intro t ht
  rw [htake] at ht
  refine (List.length_filter_le isDecimalDigit t).trans (le_trans ?_ hlimit)
  rcases List.mem_pair.mp ht with rfl | rfl
  · rw [List.length_append, List.length_singleton]
    omega
  · omega

/-- A printed commit reads back under any line number. -/
theorem commitLine_render (h : IsPlain c) (number : Int) :
    Log.commitLine number c.render = .ok c := by
  have hr : CommitLine.read c.render = .ok c := by
    rw [CommitLine.read, words_render h]
    exact ofTokens_of_describes (convertible_printed h) (describes_printed h)
  rw [Log.commitLine, hr]
  rfl

/-- The only blank in a printed line is the space. -/
theorem eq_space_of_mem_render (h : IsPlain c) {x : Char} (hx : x ∈ c.render)
    (hb : isBlank x = true) : x = ' ' := by
  rw [render_eq] at hx
  rcases List.mem_append.mp hx with hx | hx
  · have hcore : IsSolid "core".toList := by decide
    rw [hcore.2 x hx] at hb
    cases hb
  rcases List.mem_append.mp hx with hx | hx
  · exact List.eq_of_mem_replicate hx
  · obtain ⟨t, ht, hx⟩ := List.mem_flatMap.mp hx
    rcases List.mem_cons.mp hx with rfl | hx
    · rfl
    · rw [(isSolid_of_mem_tokens h t ht).2 x hx] at hb
      cases hb

theorem not_all_blank (c : Commit) : c.render.all isBlank = false := by
  rw [render_eq]
  rfl

end Printed

section Logs

theorem not_mem_render {c : Commit} (hc : IsPlain c) {b : Char} (hb : isBlank b = true)
    (hne : b ≠ ' ') : b ∉ c.render :=
  fun hm => hne (eq_space_of_mem_render hc hm hb)

theorem commits_render {cs : List Commit} (h : ∀ c ∈ cs, IsPlain c) :
    Log.commits (List.intercalate ['\n'] (cs.map Commit.render)) = .ok cs := by
  refine readText_of_isLog ?_ (isLog_map Commit.render cs) ?_
  · rintro c hc line rfl
    refine ⟨not_all_blank c, fun number => ?_⟩
    rw [chomp_eq_self (not_mem_render (h c hc) rfl (by decide)), commitLine_render (h c hc)]
  · intro line hl
    obtain ⟨c, hc, rfl⟩ := List.mem_map.mp hl
    exact not_mem_render (h c hc) rfl (by decide)

end Logs

section Read

theorem isUnsigned_wordValue {t : Token} (h : isWord t = true) : IsUnsigned 64 (wordValue t) := by
  simp only [isWord, Bool.and_eq_true, decide_eq_true_eq] at h
  exact isUnsigned_of_nat h.2

theorem isPlain_of_mem_registerWrites {tail : List Token} (h : NamesHaveValues tail)
    (hs : ∀ t ∈ tail, IsSolid t) {w : RegisterWrite} (hw : w ∈ registerWrites tail) :
    IsSolid w.name.toList ∧ isName w.name.toList = true ∧ IsUnsigned 64 w.value := by
  obtain ⟨suffix, hm, hw⟩ := List.mem_filterMap.mp hw
  have hsuf : suffix <:+ tail := (List.mem_tails suffix tail).mp hm
  rcases suffix with _ | ⟨n, _ | ⟨v, rest⟩⟩
  · cases hw
  · cases hw
  rw [writeAt] at hw
  split at hw
  · rename_i hn
    obtain ⟨v', hv', hword⟩ := ((namesHaveValues_cons n _).mp (h.of_suffix hsuf)).1 hn
    obtain rfl := Option.some.inj hv'
    obtain rfl := Option.some.inj hw
    rw [String.toList_ofList]
    exact ⟨hs n (hsuf.subset List.mem_cons_self), hn, isUnsigned_wordValue hword⟩
  · cases hw

theorem isPlain_of_mem_memoryAccesses {tail : List Token} {a : MemoryAccess}
    (ha : a ∈ memoryAccesses tail) :
    IsUnsigned 64 a.address ∧ ∀ d ∈ a.data, IsUnsigned 64 d := by
  obtain ⟨suffix, -, ha⟩ := List.mem_filterMap.mp ha
  rcases suffix with _ | ⟨t, _ | ⟨address, rest⟩⟩
  · cases ha
  · cases ha
  rw [accessAt] at ha
  split at ha
  · rename_i hw
    obtain rfl := Option.some.inj ha
    refine ⟨isUnsigned_wordValue hw.2, fun d hd => ?_⟩
    cases rest with
    | nil => cases hd
    | cons x rest =>
      simp only [dataAt] at hd
      split at hd
      · rename_i hx
        obtain rfl := Option.some.inj hd
        exact isUnsigned_wordValue hx
      · cases hd
  · cases ha

theorem isPlain_of_describes {tokens : List Token} {c : Commit} (h : Describes tokens c)
    (hs : ∀ t ∈ tokens, IsSolid t) : IsPlain c := by
  obtain ⟨n, co, pr, pc, i, tail, rfl, hco, hpr, hpc, hi, hn, hw, ha⟩ := h
  have hst : ∀ t ∈ tail, IsSolid t := fun t ht => hs t (by simp [ht])
  exact {
    core := isUnsigned_of_isDecimalOf hco
    privilege := isUnsigned_of_isDecimalOf hpr
    pc := isUnsigned_of_isHexOf hpc
    instruction := isUnsigned_of_isHexOf hi
    writes := fun w hm => isPlain_of_mem_registerWrites hn hst (hw ▸ hm)
    accesses := fun a hm => isPlain_of_mem_memoryAccesses (ha ▸ hm) }

theorem isPlain_of_commitLine {number : Int} {line : List Char} {c : Commit}
    (h : Log.commitLine number line = .ok c) : IsPlain c :=
  isPlain_of_describes (describes_of_ofTokens (mapError_eq_ok.mp h))
    fun _ ht => isSolid_of_mem_words ht

end Read

/-- A log of plain commits reads back as these commits. Whatever line is read, its commit is plain,
so that the commit is read again from the line that is printed for it. -/
theorem plain_commits_read_back :
    (∀ cs : List Commit, (∀ c ∈ cs, IsPlain c) →
        Log.commits (List.intercalate ['\n'] (cs.map Commit.render)) = .ok cs) ∧
      ∀ number line c, Log.commitLine number line = .ok c →
        IsPlain c ∧ ∀ again, Log.commitLine again c.render = .ok c := by
  refine ⟨fun cs h => commits_render h, fun number line c h => ?_⟩
  have hc := isPlain_of_commitLine h
  exact ⟨hc, commitLine_render hc⟩

/-- A load in front of a store, and a line without effects. -/
def loadStoreLog : List Commit :=
  [⟨0, 3, 0x80, 0x13, [⟨"x5", 1⟩], [⟨0x10, none⟩, ⟨0x20, some 0x30⟩]⟩, ⟨12, 0, 0x84, 0x6f, [], []⟩]

theorem loadStoreLog_read_back :
    Log.commits (List.intercalate ['\n'] (loadStoreLog.map Commit.render)) = .ok loadStoreLog ∧
      Log.commitLine 7 (Commit.render ⟨12, 0, 0x84, 0x6f, [], []⟩) =
        .ok ⟨12, 0, 0x84, 0x6f, [], []⟩ := by
  have hp : ∀ c ∈ loadStoreLog, IsPlain c := by
    refine List.forall_mem_cons.mpr ⟨?_, List.forall_mem_cons.mpr ⟨?_, by simp⟩⟩ <;>
      constructor <;> decide
  have hl : Log.commitLine 1 "core 12: 0 0x84 (0x6F)".toList = .ok ⟨12, 0, 0x84, 0x6f, [], []⟩ := by
    refine mapError_eq_ok.mpr (ofTokens_of_describes (by decide) ?_)
    exact ⟨1, "12".toList, "0".toList, "84".toList, "6F".toList, [], rfl,
      by decide, by decide, by decide, by decide, namesHaveValues_nil, rfl, rfl⟩
  exact ⟨plain_commits_read_back.1 loadStoreLog hp, (plain_commits_read_back.2 1 _ _ hl).2 7⟩

end Cosim.Proofs.CommitLine.RoundTrip
