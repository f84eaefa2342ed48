import Cosim.Proofs.Alignment.Agreement
import Cosim.Proofs.CommitLine.RoundTrip

namespace Cosim.Proofs.Alignment.WrongValue

open Cosim.Numeral Cosim.Text Cosim.Trace Cosim.Align Cosim.Report
open Cosim.Proofs.Retirement.Segment Cosim.Proofs.Numeral.Digits
open Cosim.Proofs.Alignment.SegmentWalk Cosim.Proofs.Alignment.Assignment
open Cosim.Proofs.Alignment.Agreement Cosim.Proofs.CommitLine.RoundTrip

def sixteen (v : Int) : String := String.ofList (Quoted.hexDigits 16 v.toNat)

def registerText (index : Int) : String := "x" ++ String.ofList (decimal index)

/-- The lines of the diagnostic on a change that carries a wrong value, where the commit writes `w`
to the same register. -/
def wrongValueLines (c : Commit) (e : StateChange) (w : RegisterWrite) : List Wide :=
  [↑("At PC=0x" ++ sixteen c.pc ++ " boat write 0x" ++ sixteen e.value ++ " to register " ++
      registerText e.register ++ ","),
    "but this action was not found at spike side.",
    ↑("Spike wrote 0x" ++ sixteen w.value ++ " to " ++ registerText e.register ++ " (" ++ w.name ++
      ") instead."),
    "", "------------", "|Event Dump|", "------------", "",
    "We get boat:", e.render, "", "But have spike:", c.render, ""]

theorem word_eq {v : Int} (h : IsUnsigned 64 v) : word v = "0x" ++ sixteen v := by
  obtain ⟨n, rfl, hn⟩ := h.exists_nat
  have hpow : (16 : Nat) ^ 16 = 2 ^ 64 := by decide
  rw [← hpow] at hn
  have hf : hexFilled 16 n = zeroFill 16 (digits 16 n) := rfl
  rw [word, hf, zeroFill_digits (by decide) (by decide) hn, sixteen, Quoted.hexDigits,
    Int.toNat_natCast]

theorem numbered_eq (index : Int) : Register.numbered index = registerText index := by
  rw [Register.numbered, registerText, ← List.singleton_append, String.ofList_append]

theorem message_mismatch {c : Commit} {e : StateChange} {w : RegisterWrite}
    (hw : c.findWrite? e.register = some w) (he : e.pc = c.pc) (hpc : IsUnsigned 64 c.pc)
    (hv : IsUnsigned 64 e.value) (hwv : IsUnsigned 64 w.value) :
    (Divergence.mismatch c e).message = Wide.unlines (wrongValueLines c e w) := by
  have hm : (Divergence.mismatch c e).message = Divergence.mismatchText c e := rfl
  have hinstead : Divergence.insteadLine c e = ["Spike wrote " ++ word w.value ++ " to " ++
      Register.numbered e.register ++ " (" ++ w.name ++ ") instead."] := by
    unfold Divergence.insteadLine
    rw [hw]
  have hat : "At PC=" ++ "0x" = "At PC=0x" := by decide
  have hboat : " boat write " ++ "0x" = " boat write 0x" := by decide
  have hspike : "Spike wrote " ++ "0x" = "Spike wrote 0x" := by decide
  rw [hm, Divergence.mismatchText, hinstead, he, word_eq hpc, word_eq hv, word_eq hwv, numbered_eq,
    wrongValueLines, ← hat, ← hboat, ← hspike]
  simp only [String.append_assoc, List.cons_append, List.nil_append, List.map_cons, List.map_nil]

theorem exists_first_write {c : Commit} {e : StateChange}
    (h : ∃ w ∈ c.registerWrites, w.isMatch e.register e.value = true) :
    ∃ older w newer, c.registerWrites = older ++ w :: newer ∧
      (∀ u ∈ older, u.writesTo e.register = false) ∧ w.writesTo e.register = true ∧
      c.findWrite? e.register = some w := by
  obtain ⟨u, hu, hm⟩ := h
  rw [RegisterWrite.isMatch, Bool.and_eq_true] at hm
  have hs : (c.findWrite? e.register).isSome = true :=
    List.find?_isSome.mpr ⟨u, hu, hm.1⟩
  obtain ⟨w, hw⟩ := Option.isSome_iff_exists.mp hs
  obtain ⟨ht, older, newer, hsplit, hold⟩ := List.find?_eq_some_iff_append.mp hw
  exact ⟨older, w, newer, hsplit, by simpa using hold, ht, hw⟩

theorem find?_wrong {c : Commit} {left right : List StateChange} {e : StateChange}
    (hl : ∀ x ∈ left, isReported c x = true) (he : isReported c e = false) :
    (left ++ e :: right).find? (fun x => !isReported c x) = some e := by
  have hn : left.find? (fun x => !isReported c x) = none := by
    rw [List.find?_eq_none]
    intro x hx
    simp [hl x hx]
  rw [List.find?_append, hn, Option.none_or, List.find?_cons_of_pos (by simp [he])]

theorem firstDifference_wrong {passed : List Commit} {taken : List (List StateChange)}
    (h : List.Forall₂ Passes passed taken) {c : Commit} {e : StateChange}
    {left right : List StateChange} (hpc : ∀ x ∈ left ++ e :: right, x.pc = c.pc)
    (hl : ∀ x ∈ left, isReported c x = true) (he : isReported c e = false) (commits : List Commit)
    (rest : List (List StateChange)) :
    firstDifference (passed ++ c :: commits) (taken ++ (left ++ e :: right) :: rest) =
      some (.mismatch c e) := by
  have hat := isAt_of_pc (by simp) hpc
  rw [firstDifference_append h, firstDifference, List.dropWhile_cons_of_neg (by simp [hat])]
  simp only [find?_wrong hl he]

section Changed

variable {reset : Int} {before after : List Commit} {c : Commit}
variable {retiredBefore retiredAfter : List (Int × List StateChange)} {word v : Int}
variable {left right : List StateChange} {e : StateChange} {events : List Event}

theorem pc_changed (h : Agrees c (word, left ++ e :: right)) (v : Int) :
    ∀ x ∈ left ++ { e with value := v } :: right, x.pc = c.pc := by
  have hall := h.pc
  rw [List.forall_mem_append, List.forall_mem_cons] at hall ⊢
  exact hall

theorem segments_wrong (hbefore : List.Forall₂ Agrees before retiredBefore)
    (h : Agrees c (word, left ++ e :: right)) (hafter : List.Forall₂ Agrees after retiredAfter)
    (ht : IsTrace reset
      (retiredBefore ++ (word, left ++ { e with value := v } :: right) :: retiredAfter) events) :
    ∃ rest, segments events = ((retiredBefore.map Prod.snd).filter fun s => !s.isEmpty) ++
      (left ++ { e with value := v } :: right) :: rest := by
  have hpc : ∀ r ∈ retiredBefore ++ (word, left ++ { e with value := v } :: right) :: retiredAfter,
      ∃ pc, ∀ x ∈ r.2, x.pc = pc := by
    rw [List.forall_mem_append, List.forall_mem_cons]
    exact ⟨exists_pc_of_agree hbefore, ⟨c.pc, pc_changed h v⟩, exists_pc_of_agree hafter⟩
  obtain ⟨rest, hs⟩ := segments_of_isTrace hpc ht
  rw [List.map_append, List.map_cons, List.filter_append,
    List.filter_cons_of_pos (by simp), List.append_assoc, List.cons_append] at hs
  exact ⟨_, hs⟩

end Changed

/-- In traces that agree, one change gets a value that its commit does not report for the register.
The comparison fails there. -/
theorem wrong_value_located {reset : Int} {boot before after : List Commit} {c : Commit}
    {retiredBefore retiredAfter : List (Int × List StateChange)} {word v : Int}
    {left right : List StateChange} {e : StateChange} {events : List Event}
    (hb : ∀ d ∈ boot, d.pc ≠ reset)
    (hfirst : (before ++ c :: after).head?.map Commit.pc = some reset)
    (hbefore : List.Forall₂ Agrees before retiredBefore)
    (h : Agrees c (word, left ++ e :: right)) (hafter : List.Forall₂ Agrees after retiredAfter)
    (hpc : IsUnsigned 64 c.pc) (hvalues : ∀ w ∈ c.registerWrites, IsUnsigned 64 w.value)
    (hv : IsUnsigned 64 v) (hwrong : ∀ w ∈ c.registerWrites, w.isMatch e.register v = false)
    (ht : IsTrace reset
      (retiredBefore ++ (word, left ++ { e with value := v } :: right) :: retiredAfter) events) :
    ∃ older w newer, c.registerWrites = older ++ w :: newer ∧
      (∀ u ∈ older, u.writesTo e.register = false) ∧ w.writesTo e.register = true ∧
      (Align.compare (boot ++ (before ++ c :: after)) events none).map Verdict.ofComparison =
        .ok (.fail (Wide.unlines (wrongValueLines c { e with value := v } w))) := by
  have hmem : e ∈ left ++ e :: right := by simp
  obtain ⟨older, w, newer, hsplit, hold, hw, hfind⟩ := exists_first_write (h.matched e hmem)
  refine ⟨older, w, newer, hsplit, hold, hw, ?_⟩
  obtain ⟨rest, hs⟩ := segments_wrong hbefore h hafter ht
  have hl : ∀ x ∈ left, isReported c x = true :=
    fun x hx => isReported_iff.mpr (h.matched x (List.mem_append_left _ hx))
  have he : isReported c { e with value := v } = false := by
    rw [isReported, List.any_eq_false]
    exact fun u hu => by simp [hwrong u hu]
  have hwrites : c.hasRegisterWrites = true := by
    rw [Commit.hasRegisterWrites, hsplit]
    simp
  -- everything in front of the wrong value is reported, so the walk gets there
  have hd : firstDifference (walked (boot ++ (before ++ c :: after)) reset none)
      (segments events) = some (.mismatch c { e with value := v }) := by
    rw [hs, walked_none hb hfirst, List.filter_append, List.filter_cons_of_pos hwrites]
    exact firstDifference_wrong (passes_of_agree hbefore) (pc_changed h v) hl he _ rest
  have hmessage : (Divergence.mismatch c { e with value := v }).message =
      Wide.unlines (wrongValueLines c { e with value := v } w) :=
    message_mismatch hfind (h.pc e hmem) hpc hv (hvalues w (hsplit ▸ by simp))
  rw [compare_of_resets hfirst ht.resets, difference, if_neg (not_all_ne hfirst), hd, verdict,
    hmessage]

def wrongRound : Commit := ⟨0, 3, 0x80, 0x13, [⟨"a0", 7⟩, ⟨"sp", 2⟩, ⟨"x2", 4⟩], []⟩

/-- The second round of a loop shows 3 for the stack pointer. -/
def wrongRoundEvents : List Event :=
  [.memory "read" 4 0x80, .reset 0x80, .fetch 0x13, .change ⟨"write", 0x80, 2, 1⟩, .fetch 0x13,
    .change ⟨"write", 0x80, 10, 7⟩, .memory "read" 4 0x80, .change ⟨"write", 0x80, 2, 3⟩,
    .fetch 0x6f]

theorem wrongRound_located :
    ∃ older w newer, wrongRound.registerWrites = older ++ w :: newer ∧
      (∀ u ∈ older, u.writesTo 2 = false) ∧ w.writesTo 2 = true ∧
      (Align.compare (bootCommits ++ ([⟨0, 3, 0x80, 0x13, [⟨"sp", 1⟩], []⟩] ++
        wrongRound :: [⟨0, 3, 0x84, 0x6f, [], []⟩])) wrongRoundEvents none).map
          Verdict.ofComparison =
        .ok (.fail (Wide.unlines (wrongValueLines wrongRound ⟨"write", 0x80, 2, 3⟩ w))) := by
  have hround : Agrees wrongRound
      (0x13, [⟨"write", 0x80, 10, 7⟩] ++ ⟨"write", 0x80, 2, 2⟩ :: []) :=
    ⟨by decide, by decide, by decide⟩
  have ht : IsTrace 0x80 ([(0x13, [⟨"write", 0x80, 2, 1⟩])] ++
      (0x13, [⟨"write", 0x80, 10, 7⟩] ++ ⟨"write", 0x80, 2, 3⟩ :: []) :: [(0x6f, [])])
      wrongRoundEvents := ⟨rfl, [], rfl, by decide⟩
  have hb : ∀ c ∈ bootCommits, c.pc ≠ 0x80 := by decide
  exact wrong_value_located hb (by decide)
    (.cons ⟨by decide, by decide, by decide⟩ .nil) hround
    (.cons ⟨by decide, by decide, by decide⟩ .nil) (by decide) (by decide) (by decide)
    (by decide) ht

end Cosim.Proofs.Alignment.WrongValue
