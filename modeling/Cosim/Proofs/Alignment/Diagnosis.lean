import Cosim.Proofs.Alignment.Assignment
import Cosim.Proofs.Alignment.Observation
import Cosim.Proofs.Numeral.Digits
import Cosim.Proofs.Retirement.Position

namespace Cosim.Proofs.Alignment.Diagnosis

open Cosim.Numeral Cosim.Text Cosim.Trace Cosim.Align Cosim.Report
open Cosim.Proofs.Numeral.Digits Cosim.Proofs.Retirement.Position
open Cosim.Proofs.Retirement.Segment
open Cosim.Proofs.Alignment.SegmentWalk Cosim.Proofs.Alignment.Assignment
open Cosim.Proofs.Alignment.Observation (commit?)

def IsSpelling (index : Int) (name : String) : Prop :=
  name = Register.numbered index ∨ ∃ i : Nat, Register.index? name = some i ∧ (i : Int) = index

section Spellings

variable {index : Int}

theorem numbered_injective : Function.Injective Register.numbered := by
  intro i j h
  rw [Register.numbered, Register.numbered, String.ofList_inj] at h
  exact decimal_injective (List.cons.inj h).2

theorem index?_numbered (index : Int) : Register.index? (Register.numbered index) = none := by
  have hx : (Register.numbered index).toList.head? = some 'x' := by
    rw [Register.numbered, String.toList_ofList]
    rfl
  have hroles : ∀ name ∈ "fp" :: Register.roles, name.toList.head? ≠ some 'x' := by decide
  have hne : ∀ name ∈ "fp" :: Register.roles, Register.numbered index ≠ name :=
    fun name hname h => hroles name hname (h ▸ hx)
  rw [Register.index?, if_neg (hne "fp" List.mem_cons_self), List.idxOf?_eq_none_iff]
  exact fun hmem => hne _ (List.mem_cons_of_mem _ hmem) rfl

theorem writesTo_iff (w : RegisterWrite) : w.writesTo index = true ↔ IsSpelling index w.name := by
  rw [RegisterWrite.writesTo, beq_iff_eq, Register.canonical, IsSpelling]
  cases hrole : Register.index? w.name with
  | none => simp
  | some i =>
    have hnumber : w.name ≠ Register.numbered index := by
      intro h
      rw [h, index?_numbered] at hrole
      cases hrole
    simp [hnumber, numbered_injective.eq_iff]

end Spellings

def openingLines (b : StateChange) : List Wide :=
  [↑("At PC=" ++ word b.pc ++ " boat write " ++ word b.value ++ " to register " ++
      Register.numbered b.register ++ ","),
    "but this action was not found at spike side."]

/-- The line that shows a write to a register instead. -/
def insteadLine (index : Int) (w : RegisterWrite) : Wide :=
  ↑("Spike wrote " ++ word w.value ++ " to " ++ Register.numbered index ++ " (" ++ w.name ++
    ") instead.")

def dumpLines (c : Commit) (b : StateChange) : List Wide :=
  ["", "------------", "|Event Dump|", "------------", "", "We get boat:", b.render, "",
    "But have spike:", c.render, ""]

/-- The lines of the diagnostic on a change that the commit does not report. -/
def mismatchLines (c : Commit) (b : StateChange) (shown : Option RegisterWrite) : List Wide :=
  openingLines b ++ (shown.map (insteadLine b.register)).toList ++ dumpLines c b

def Matched (c : Commit) (e : StateChange) : Prop :=
  ∃ w ∈ c.registerWrites, w.isMatch e.register e.value = true

/-- What the diagnostic shows beside a change: the first write of the commit to the register, if it
has one, and its value is another one. -/
structure Shows (c : Commit) (b : StateChange) (shown : Option RegisterWrite) : Prop where
  line_iff : (∃ w, insteadLine b.register w ∈ mismatchLines c b shown) ↔
    ∃ w ∈ c.registerWrites, IsSpelling b.register w.name
  first : ∀ w ∈ shown, ∃ older newer, c.registerWrites = older ++ w :: newer ∧
    IsSpelling b.register w.name ∧ ∀ u ∈ older, ¬ IsSpelling b.register u.name
  differs : ∀ w ∈ shown, w.value ≠ b.value ∧ word w.value ≠ word b.value

section Texts

variable {c : Commit} {b : StateChange} {shown : Option RegisterWrite}

theorem mismatchText_eq (c : Commit) (b : StateChange) : Divergence.mismatchText c b =
    Wide.unlines (mismatchLines c b (c.findWrite? b.register)) := by
  rw [Divergence.mismatchText, Divergence.insteadLine]
  cases c.findWrite? b.register <;> rfl

theorem head?_render (b : StateChange) : b.render.head? = some (.char 'P') := by
  simp [StateChange.render, Wide.ofString_append, Wide.head?_ofString]

theorem head?_of_mem_lines {line : Wide} (h : line ∈ openingLines b ++ dumpLines c b) :
    line.head? ≠ some (.char 'S') := by
  have hcommit : (c.render : Wide).head? = some (.char 'c') := rfl
  simp only [openingLines, dumpLines, List.cons_append, List.nil_append, List.mem_cons,
    List.not_mem_nil, or_false] at h
  rcases h with rfl | rfl | rfl | rfl | rfl | rfl | rfl | rfl | rfl | rfl | rfl | rfl | rfl
  all_goals simp [Wide.head?_ofString, head?_render, hcommit]

theorem head?_insteadLine (index : Int) (w : RegisterWrite) :
    (insteadLine index w).head? = some (.char 'S') := by
  delta insteadLine
  simp [Wide.head?_ofString]

theorem exists_insteadLine_iff (c : Commit) (b : StateChange) (shown : Option RegisterWrite) :
    (∃ w, insteadLine b.register w ∈ mismatchLines c b shown) ↔ shown.isSome = true := by
  constructor
  · rintro ⟨w, hw⟩
    by_contra hnone
    rw [Bool.not_eq_true, Option.isSome_eq_false_iff, Option.isNone_iff_eq_none] at hnone
    rw [mismatchLines, hnone] at hw
    have hline : insteadLine b.register w ∈ openingLines b ++ dumpLines c b := by simpa using hw
    exact head?_of_mem_lines hline (head?_insteadLine b.register w)
  · intro hsome
    obtain ⟨w, rfl⟩ := Option.isSome_iff_exists.mp hsome
    exact ⟨w, by simp [mismatchLines]⟩

theorem shows_findWrite? (h : ¬ Matched c b) : Shows c b (c.findWrite? b.register) where
  line_iff := by
    rw [exists_insteadLine_iff, Commit.findWrite?, List.find?_isSome]
    simp only [writesTo_iff]
  first w hw := by
    obtain ⟨hto, older, newer, hsplit, hold⟩ := List.find?_eq_some_iff_append.mp hw
    refine ⟨older, newer, hsplit, (writesTo_iff w).mp hto, fun u hu hspelled => ?_⟩
    have hu := hold u hu
    rw [(writesTo_iff u).mpr hspelled] at hu
    cases hu
  differs w hw := by
    have hne : w.value ≠ b.value := by
      intro hv
      refine h ⟨w, List.mem_of_find?_eq_some hw, ?_⟩
      rw [RegisterWrite.isMatch, List.find?_some hw, hv]
      simp
    exact ⟨hne, fun hword => hne (word_injective hword)⟩

end Texts

/-- What a walk tells of the commit that it fails at, from the index on that the commits before it
have come to. -/
inductive Told (events : List Event) (c : Commit) (cursor : Nat) : Divergence → Wide → Prop
  | missing (h : ∀ i, cursor ≤ i → ¬ ChangedAt events c.pc i) :
      Told events c cursor (.missing c) (Divergence.missingText c)
  | mismatch {b : StateChange} {start stop : Nat} {before after : List StateChange}
      {shown : Option RegisterWrite} (first : IsFirst events c.pc cursor start)
      (run : IsRun events c.pc start stop (before ++ b :: after)) (pc_eq : b.pc = c.pc)
      (matched : ∀ e ∈ before, Matched c e) (unmatched : ¬ Matched c b) (shows : Shows c b shown) :
      Told events c cursor (.mismatch c b) (Wide.unlines (mismatchLines c b shown))

def reached (cursor : Nat) (spans : List (Nat × Nat)) : Nat :=
  (spans.getLast?.map Prod.snd).getD cursor

theorem reached_cons (cursor : Nat) (span : Nat × Nat) (spans : List (Nat × Nat)) :
    reached cursor (span :: spans) = reached span.2 spans := by
  cases spans <;> simp [reached, List.getLast?_cons]

section Walk

variable {events : List Event} {commits : List Commit} {c : Commit} {cursor : Nat}
  {d : Divergence} {pattern : Option EndPattern} {reset : Int}

theorem told_of_stops (h : Stops c (events.drop cursor) d) :
    Told events c cursor d d.message := by
  -- what the walk stops with is what the search finds from the same index on
  rcases located_next events cursor c.pc with
    ⟨hnext, hnone⟩ | ⟨start, stop, group, hnext, hne, hfirst, hrun⟩
  · cases h with
    | missing => exact .missing hnone
    | mismatch hfind =>
      rw [hnext] at hfind
      cases hfind
  · cases h with
    | missing hempty =>
      rw [hnext] at hempty
      exact absurd hempty hne
    | @mismatch b hfind =>
      rw [hnext] at hfind
      obtain ⟨hb, before, after, rfl, hbefore⟩ := List.find?_eq_some_iff_append.mp hfind
      have hreported : ∀ e, isReported c e = true ↔ Matched c e := fun e => List.any_eq_true
      have hmatched : ∀ e ∈ before, Matched c e := by
        intro e he
        rw [← hreported]
        simpa using hbefore e he
      have hunmatched : ¬ Matched c b := by
        rw [← hreported]
        simpa using hb
      have hmessage : (Divergence.mismatch c b).message = _ := mismatchText_eq c b
      rw [hmessage]
      exact .mismatch hfirst hrun (hrun.pc_eq b (by simp)) hmatched hunmatched
        (shows_findWrite? hunmatched)

theorem exists_reached {pre left : List Event} (hp : IsBoundary pre left)
    (h : firstDifference commits (segments left) = some d) :
    ∃ earlier c later spans, commits = earlier ++ c :: later ∧
      Aligned (pre ++ left) pre.length earlier spans ∧
      Stops c ((pre ++ left).drop (reached pre.length spans)) d := by
  induction commits generalizing pre left with
  | nil => cases h
  | cons c commits ih =>
    rcases passes_or_stops c left with
      ⟨before, body, after, rfl, hb, hg, ha, hr, hd⟩ | ⟨d', hstops, hd⟩
    · obtain ⟨earlier, c', later, spans, rfl, hs, hstops⟩ :=
        ih (isBoundary_back (pre ++ before) hg ha) (hd commits ▸ h)
      refine ⟨c :: earlier, c', later, _, rfl, .cut hp hb hg ha hr hs, ?_⟩
      rw [reached_cons]
      simpa only [List.append_assoc] using hstops
    · obtain rfl := Option.some.inj ((hd commits).symm.trans h)
      refine ⟨[], c, commits, [], rfl, .nil _, ?_⟩
      rwa [reached, List.getLast?_nil, Option.map_none, Option.getD_none, List.drop_left]

theorem firstDifference_of_commit? (h : difference reset commits events pattern = some d)
    (hc : commit? d = some c) :
    firstDifference (walked commits reset (stop? commits pattern)) (segments events) = some d := by
  rcases difference_cases reset commits events pattern with hd | ⟨p, hd⟩ | hd
  · obtain rfl := Option.some.inj (hd.symm.trans h)
    cases hc
  · obtain rfl := Option.some.inj (hd.symm.trans h)
    cases hc
  · exact hd.symm.trans h

theorem commit?_of_stops (h : Stops c events d) : commit? d = some c := by
  cases h <;> rfl

end Walk

/-- A walk that fails tells of the first commit that does not take a retirement of its own: all
commits before it have taken theirs, and the diagnostic says of this one what is so. -/
theorem first_divergence_told {commits : List Commit} {events : List Event}
    {pattern : Option EndPattern} {r : Comparison} {d : Divergence} {c : Commit}
    (h : Align.compare commits events pattern = .ok r) (hd : r.divergence = some d)
    (hc : commit? d = some c) :
    ∃ reset earlier later spans text, events.filterMap Event.resetTarget? = [reset] ∧
      walked commits reset (stop? commits pattern) = earlier ++ c :: later ∧
      Aligned events 0 earlier spans ∧ Verdict.ofComparison r = .fail text ∧
      Told events c (reached 0 spans) d text := by
  obtain ⟨-, -, reset, hreset, rfl⟩ := compare_eq_ok.mp h
  rw [divergence_compareFrom] at hd
  obtain ⟨earlier, c', later, spans, hsplit, hs, hstops⟩ :=
    exists_reached (isBoundary_nil events) (firstDifference_of_commit? hd hc)
  obtain rfl : c' = c := Option.some.inj ((commit?_of_stops hstops).symm.trans hc)
  refine ⟨reset, earlier, later, spans, d.message, hreset, hsplit, hs, ?_, told_of_stops hstops⟩
  rw [ofComparison_compareFrom, hd]
  rfl

def firstRound : Commit := ⟨0, 3, 0x80, 0x13, [⟨"sp", 1⟩], []⟩

def secondRound : Commit := ⟨0, 3, 0x80, 0x13, [⟨"a0", 7⟩, ⟨"sp", 2⟩, ⟨"x2", 4⟩], []⟩

def roundsWith (behind : List Event) : List Event :=
  [.reset 0x80, .fetch 0x13, .change ⟨"write", 0x80, 2, 1⟩] ++ behind

def wrongBehind : List Event :=
  [.fetch 0x13, .change ⟨"write", 0x80, 10, 7⟩, .memory "read" 4 0x90,
    .change ⟨"write", 0x80, 2, 3⟩]

/-- The second round is told of, with a wrong value and where it is not shown at all. -/
theorem secondRound_told :
    (∃ earlier later spans text, [firstRound, secondRound] = earlier ++ secondRound :: later ∧
      Aligned (roundsWith wrongBehind) 0 earlier spans ∧
      Told (roundsWith wrongBehind) secondRound (reached 0 spans)
        (.mismatch secondRound ⟨"write", 0x80, 2, 3⟩) text) ∧
    ∃ earlier later spans text, [firstRound, secondRound] = earlier ++ secondRound :: later ∧
      Aligned (roundsWith []) 0 earlier spans ∧
      Told (roundsWith []) secondRound (reached 0 spans) (.missing secondRound) text := by
  have hwalked : walked [firstRound, secondRound] 0x80 none = [firstRound, secondRound] := by
    decide
  have hwrong : Align.compare [firstRound, secondRound] (roundsWith wrongBehind) none =
      .ok ⟨some (.mismatch secondRound ⟨"write", 0x80, 2, 3⟩), [.synced 0x80 0]⟩ := by
    decide
  have hmissing : Align.compare [firstRound, secondRound] (roundsWith []) none =
      .ok ⟨some (.missing secondRound), [.synced 0x80 0]⟩ := by
    decide
  constructor
  · obtain ⟨reset, earlier, later, spans, text, hreset, hsplit, hs, -, htold⟩ :=
      first_divergence_told hwrong rfl rfl
    obtain ⟨rfl, -⟩ := List.cons.inj hreset
    exact ⟨earlier, later, spans, text, hwalked.symm.trans hsplit, hs, htold⟩
  · obtain ⟨reset, earlier, later, spans, text, hreset, hsplit, hs, -, htold⟩ :=
      first_divergence_told hmissing rfl rfl
    obtain ⟨rfl, -⟩ := List.cons.inj hreset
    exact ⟨earlier, later, spans, text, hwalked.symm.trans hsplit, hs, htold⟩

end Cosim.Proofs.Alignment.Diagnosis
