import Cosim.Proofs.Alignment.SegmentWalk
import Mathlib.Data.List.Forall2

namespace Cosim.Proofs.Alignment.Assignment

open Cosim.Trace Cosim.Align Cosim.Report
open Cosim.Proofs.Retirement.Group Cosim.Proofs.Retirement.Segment
open Cosim.Proofs.Alignment.SegmentWalk

/-- The events from `start` up to `stop` are a whole retirement at `pc`. -/
structure IsRetirement (events : List Event) (pc : Int) (start stop : Nat) : Prop where
  start_lt : start < stop
  stop_le : stop ≤ events.length
  group : IsGroup pc (events.extract start stop)
  front : IsBoundary (events.take start) (events.drop start)
  back : IsBoundary (events.take stop) (events.drop stop)

/-- A commit takes the retirement between two positions, and reports all its changes. -/
structure Takes (events : List Event) (c : Commit) (span : Nat × Nat) : Prop where
  retirement : IsRetirement events c.pc span.1 span.2
  reported : ∀ e ∈ (events.extract span.1 span.2).filterMap Event.change?, isReported c e = true

theorem isBoundary_extend {pre before after : List Event} (hp : IsBoundary pre (before ++ after))
    (hb : IsBoundary before after) : IsBoundary (pre ++ before) after := by
  intro x hx y hy
  rw [List.filter_append] at hx
  by_cases hn : before.filter isRelevant = []
  · rw [hn, List.append_nil] at hx
    refine hp x hx y ?_
    rwa [List.filter_append, hn, List.nil_append]
  · rw [List.getLast?_append_of_ne_nil _ hn] at hx
    exact hb x hx y hy

theorem isRetirement_cut {pc : Int} {a body after : List Event} (hg : IsGroup pc body)
    (hf : IsBoundary a (body ++ after)) (ha : Ends pc after) :
    IsRetirement (a ++ (body ++ after)) pc a.length (a.length + body.length) ∧
      (a ++ (body ++ after)).extract a.length (a.length + body.length) = body := by
  have he : (a ++ (body ++ after)).extract a.length (a.length + body.length) = body := by
    simp
  have hl : 0 < body.length := List.length_pos_iff.mpr hg.ne_nil
  refine ⟨⟨by omega, by simp, by rwa [he], ?_, ?_⟩, he⟩
  · simpa using hf
  · rw [← List.append_assoc, ← List.length_append, List.take_left, List.drop_left]
    exact isBoundary_back a hg ha

/-- How the walk stops at a commit, with the events that are left for it. -/
inductive Stops (c : Commit) (left : List Event) : Divergence → Prop
  | missing (h : (Retirement.next c.pc left).1 = []) : Stops c left (.missing c)
  | mismatch {b : StateChange}
      (h : (Retirement.next c.pc left).1.find? (fun e => !isReported c e) = some b) :
      Stops c left (.mismatch c b)

theorem passes_or_stops (c : Commit) (left : List Event) :
    (∃ before body after, left = before ++ (body ++ after) ∧
      (∀ e ∈ before, e.changesAt c.pc = false) ∧ IsGroup c.pc body ∧ Ends c.pc after ∧
      (∀ e ∈ body.filterMap Event.change?, isReported c e = true) ∧
      ∀ commits, firstDifference (c :: commits) (segments left) =
        firstDifference commits (segments after)) ∨
    ∃ d, Stops c left d ∧ ∀ commits, firstDifference (c :: commits) (segments left) = some d := by
  simp only [firstDifference_cons]
  rcases hn : Retirement.next c.pc left with ⟨group, rest⟩
  have hf := found_next c.pc left
  rw [hn] at hf
  cases hf with
  | none => exact .inr ⟨_, .missing (by rw [hn]), fun _ => rfl⟩
  | @group before body _ hb hg ha =>
    obtain ⟨e, group, hc⟩ := List.exists_cons_of_ne_nil hg.changes_ne_nil
    simp only [hc]
    cases hr : (e :: group).find? fun e => !isReported c e with
    | some x => exact .inr ⟨_, .mismatch (by rw [hn, hc]; exact hr), fun _ => rfl⟩
    | none =>
      refine .inl ⟨before, body, rest, rfl, hb, hg, ha, fun x hx => ?_, fun _ => rfl⟩
      rw [hc] at hx
      simpa using List.find?_eq_none.mp hr x hx

theorem IsRetirement.ends {events : List Event} {pc : Int} {start stop : Nat}
    (h : IsRetirement events pc start stop) : Ends pc (events.drop stop) := by
  intro y hy
  rw [← Bool.not_eq_true]
  intro hp
  -- the last change of the retirement and this one would belong together
  obtain ⟨front, e, hbody, hlast⟩ := h.group.exists_concat
  have htake : events.take stop = events.take start ++ (front ++ [e]) := by
    rw [← hbody, List.extract_eq_take_drop, ← List.take_add, Nat.add_sub_cancel' h.start_lt.le]
  have hx : e ∈ ((events.take stop).filter isRelevant).getLast? := by
    rw [htake, ← List.append_assoc, List.filter_append,
      List.filter_cons_of_pos (isRelevant_of_changesAt hlast)]
    simp
  have hy' : y ∈ ((events.drop stop).filter isRelevant).head? := by rwa [List.head?_filter]
  have := h.back e hx y hy'
  rw [together_eq_true hlast hp] at this
  cases this

theorem extract_append_drop (events : List Event) {start stop : Nat} (h : start ≤ stop) :
    events.extract start stop ++ events.drop stop = events.drop start := by
  have hd : events.drop stop = (events.drop start).drop (stop - start) := by
    rw [List.drop_drop, Nat.add_sub_cancel' h]
  rw [hd]
  exact List.take_append_drop _ _

theorem IsRetirement.unique {events : List Event} {pc : Int} {cursor : Nat} {s t : Nat × Nat}
    (hs : IsRetirement events pc s.1 s.2) (ht : IsRetirement events pc t.1 t.2)
    (hcs : cursor ≤ s.1) (hct : cursor ≤ t.1)
    (hskips : ∀ e ∈ events.extract cursor s.1, e.changesAt pc = false)
    (hskipt : ∀ e ∈ events.extract cursor t.1, e.changesAt pc = false) : s = t := by
  have hcut : events.extract cursor s.1 ++ (events.extract s.1 s.2 ++ events.drop s.2) =
      events.extract cursor t.1 ++ (events.extract t.1 t.2 ++ events.drop t.2) := by
    rw [extract_append_drop events hs.start_lt.le, extract_append_drop events ht.start_lt.le,
      extract_append_drop events hcs, extract_append_drop events hct]
  have hfront : events.extract cursor s.1 = events.extract cursor t.1 := by
    have := congrArg (List.takeWhile fun e => !e.changesAt pc) hcut
    rwa [takeWhile_front hskips hs.group, takeWhile_front hskipt ht.group] at this
  rw [hfront] at hcut
  have hbody : events.extract s.1 s.2 = events.extract t.1 t.2 :=
    hs.group.toIsStretch.unique ht.group.toIsStretch hs.ends ht.ends
      (List.append_cancel_left hcut)
  have hlen := congrArg List.length hfront
  have hlen' := congrArg List.length hbody
  have := hs.start_lt
  have := hs.stop_le
  have := ht.start_lt
  have := ht.stop_le
  simp only [List.extract_eq_take_drop, List.length_take, List.length_drop] at hlen hlen'
  apply Prod.ext <;> omega

/-- From an index on the commits take retirements one behind the other, each of them the next one at
its address: no change that is passed over on the way stands at that address. -/
inductive Aligned (events : List Event) : Nat → List Commit → List (Nat × Nat) → Prop
  | nil (cursor : Nat) : Aligned events cursor [] []
  | cons {cursor : Nat} {c : Commit} {span : Nat × Nat} {commits : List Commit}
      {spans : List (Nat × Nat)} (takes : Takes events c span) (front : cursor ≤ span.1)
      (skipped : ∀ e ∈ events.extract cursor span.1, e.changesAt c.pc = false)
      (rest : Aligned events span.2 commits spans) :
      Aligned events cursor (c :: commits) (span :: spans)

namespace Aligned

variable {events : List Event} {cursor : Nat} {commits : List Commit} {spans : List (Nat × Nat)}

theorem forall_takes (h : Aligned events cursor commits spans) :
    List.Forall₂ (Takes events) commits spans := by
  induction h with
  | nil cursor => exact .nil
  | cons takes _ _ _ ih => exact .cons takes ih

theorem le_start (h : Aligned events cursor commits spans) : ∀ s ∈ spans, cursor ≤ s.1 := by
  induction h with
  | nil cursor => simp
  | cons takes front _ _ ih =>
    intro s hs
    have hlt := takes.retirement.start_lt
    rcases List.mem_cons.mp hs with rfl | hs
    · exact front
    · have := ih s hs
      omega

theorem pairwise (h : Aligned events cursor commits spans) :
    spans.Pairwise fun s t => s.2 ≤ t.1 := by
  induction h with
  | nil cursor => exact .nil
  | cons _ _ _ rest ih => exact .cons rest.le_start ih

theorem unique {others : List (Nat × Nat)} (h : Aligned events cursor commits spans)
    (ho : Aligned events cursor commits others) : spans = others := by
  induction h generalizing others with
  | nil cursor => cases ho with
    | nil => rfl
  | cons takes front skipped _ ih => cases ho with
    | cons takes' front' skipped' rest' =>
      obtain rfl := takes.retirement.unique takes'.retirement front front' skipped skipped'
      rw [ih rest']

end Aligned

theorem Aligned.cut {c : Commit} {commits : List Commit} {spans : List (Nat × Nat)}
    {pre before body after : List Event} (hp : IsBoundary pre (before ++ (body ++ after)))
    (hb : ∀ e ∈ before, e.changesAt c.pc = false) (hg : IsGroup c.pc body) (ha : Ends c.pc after)
    (hr : ∀ e ∈ body.filterMap Event.change?, isReported c e = true)
    (h : Aligned (pre ++ before ++ body ++ after) (pre ++ before ++ body).length commits spans) :
    Aligned (pre ++ (before ++ (body ++ after))) pre.length (c :: commits)
      (((pre ++ before).length, (pre ++ before ++ body).length) :: spans) := by
  have hf : IsBoundary (pre ++ before) (body ++ after) :=
    isBoundary_extend hp (isBoundary_front hb hg)
  obtain ⟨hret, hext⟩ := isRetirement_cut hg hf ha
  have he : pre ++ before ++ body ++ after = pre ++ (before ++ (body ++ after)) := by
    simp only [List.append_assoc]
  have he' : pre ++ before ++ (body ++ after) = pre ++ (before ++ (body ++ after)) := by
    simp only [List.append_assoc]
  rw [he, List.length_append] at h
  rw [he'] at hret hext
  have hlength : (pre ++ before ++ body).length = (pre ++ before).length + body.length :=
    List.length_append
  rw [hlength]
  have hskip : (pre ++ (before ++ (body ++ after))).extract pre.length (pre ++ before).length =
      before := by
    simp
  exact .cons ⟨hret, by rwa [hext]⟩ (by simp) (by rwa [hskip]) h

theorem exists_aligned {commits : List Commit} {pre left : List Event} (hp : IsBoundary pre left)
    (h : firstDifference commits (segments left) = none) :
    ∃ spans, Aligned (pre ++ left) pre.length commits spans := by
  induction commits generalizing pre left with
  | nil => exact ⟨[], .nil _⟩
  | cons c commits ih =>
    rcases passes_or_stops c left with
      ⟨before, body, after, rfl, hb, hg, ha, hr, hd⟩ | ⟨d, -, hd⟩
    · obtain ⟨spans, hs⟩ := ih (isBoundary_back (pre ++ before) hg ha) (hd commits ▸ h)
      exact ⟨_, .cut hp hb hg ha hr hs⟩
    · rw [hd] at h
      cases h

theorem exists_spans {commits : List Commit} {pre left : List Event} (hp : IsBoundary pre left)
    (h : firstDifference commits (segments left) = none) :
    ∃ spans : List (Nat × Nat), List.Forall₂ (Takes (pre ++ left)) commits spans ∧
      spans.Pairwise (fun s t => s.2 ≤ t.1) ∧ ∀ s ∈ spans, pre.length ≤ s.1 := by
  obtain ⟨spans, hs⟩ := exists_aligned hp h
  exact ⟨spans, hs.forall_takes, hs.pairwise, hs.le_start⟩

theorem exists_taken {commits : List Commit} {segments : List (List StateChange)}
    (h : firstDifference commits segments = none) :
    ∃ taken, List.Sublist taken segments ∧
      List.Forall₂ (fun (c : Commit) s => isAt c.pc s = true) commits taken := by
  induction commits generalizing segments with
  | nil => exact ⟨[], List.nil_sublist _, .nil⟩
  | cons c commits ih =>
    rw [firstDifference] at h
    cases hd : segments.dropWhile fun s => !isAt c.pc s with
    | nil => simp [hd] at h
    | cons s rest =>
      simp only [hd] at h
      cases hr : s.find? fun e => !isReported c e with
      | some e => simp [hr] at h
      | none =>
        simp only [hr] at h
        obtain ⟨taken, hs, ht⟩ := ih h
        have hsub : (s :: rest).Sublist segments := hd ▸ List.dropWhile_sublist _
        have hat : isAt c.pc s = true := by
          have hn : segments.dropWhile (fun s => !isAt c.pc s) ≠ [] := by simp [hd]
          simpa [hd] using List.head_dropWhile_not _ hn
        exact ⟨s :: taken, (hs.cons_cons s).trans hsub, .cons hat ht⟩

theorem countP_le_of_forall₂ {commits : List Commit} {taken : List (List StateChange)}
    (h : List.Forall₂ (fun (c : Commit) s => isAt c.pc s = true) commits taken) (pc : Int) :
    commits.countP (·.pc == pc) ≤ taken.countP (isAt pc) := by
  induction h with
  | nil => simp
  | @cons c s commits taken hat _ ih =>
    rw [List.countP_cons, List.countP_cons]
    by_cases hc : c.pc = pc
    · subst hc
      simp [hat, ih]
    · simp only [beq_iff_eq, hc, ↓reduceIte]
      omega

/-- What one executed instruction leaves in the event trace: a fetch and its changes. -/
def logged (r : Int × List StateChange) : List Event := .fetch r.1 :: r.2.map .change

def traceOf (reset : Int) (retired : List (Int × List StateChange)) : List Event :=
  .reset reset :: retired.flatMap logged

def Retires (c : Commit) (r : Int × List StateChange) : Prop :=
  r.2 ≠ [] ∧ ∀ e ∈ r.2, e.pc = c.pc

instance (c : Commit) (r : Int × List StateChange) : Decidable (Retires c r) :=
  inferInstanceAs (Decidable (_ ∧ _))

theorem isGroup_map {pc : Int} {changes : List StateChange} (hn : changes ≠ [])
    (hp : ∀ e ∈ changes, e.pc = pc) : IsGroup pc (changes.map .change) := by
  have hall : ∀ e ∈ changes.map Event.change, e.changesAt pc = true := by
    intro e he
    obtain ⟨c, hc, rfl⟩ := List.mem_map.mp he
    simpa [Event.changesAt] using hp c hc
  refine ⟨⟨fun e he _ => hall e he, fun e he => hall e (List.mem_of_getLast? he)⟩, ?_⟩
  obtain ⟨c, rest, rfl⟩ := List.exists_cons_of_ne_nil hn
  exact ⟨.change c, rfl, hall _ (by simp)⟩

theorem isBoundary_fetch (w : Int) (events : List Event) : IsBoundary [.fetch w] events := by
  intro x hx y _
  have hx' : Event.fetch w = x := by simpa [isRelevant] using hx
  subst hx'
  rfl

theorem isBoundary_logged (before : List Event) (retired : List (Int × List StateChange)) :
    IsBoundary before (retired.flatMap logged) := by
  intro x _ y hy
  cases retired with
  | nil => simp at hy
  | cons r retired =>
    have hy' : Event.fetch r.1 = y := by simpa [logged, isRelevant] using hy
    subst hy'
    cases x <;> rfl

theorem segments_changes {changes : List StateChange} {pc : Int} (hp : ∀ e ∈ changes, e.pc = pc) :
    segments (changes.map .change) = if changes = [] then [] else [changes] := by
  by_cases hn : changes = []
  · rw [if_pos hn, hn]
    rfl
  · have hc : (changes.map Event.change).filterMap Event.change? = changes := by
      rw [List.filterMap_map]
      exact List.filterMap_some
    rw [if_neg hn, segments_group (isGroup_map hn hp), hc]

theorem segments_logged {r : Int × List StateChange} {pc : Int} (hn : r.2 ≠ [])
    (hp : ∀ e ∈ r.2, e.pc = pc) : segments (logged r) = [r.2] := by
  rw [logged, ← List.singleton_append, segments_append (isBoundary_fetch _ _),
    segments_changes hp, if_neg hn]
  rfl

theorem segments_flatMap_logged {retired : List (Int × List StateChange)}
    (h : ∀ r ∈ retired, ∃ pc, ∀ e ∈ r.2, e.pc = pc) :
    segments (retired.flatMap logged) = (retired.map Prod.snd).filter fun s => !s.isEmpty := by
  induction retired with
  | nil => rfl
  | cons r retired ih =>
    obtain ⟨pc, hp⟩ := h r (by simp)
    rw [List.flatMap_cons, segments_append (isBoundary_logged _ _),
      ih fun x hx => h x (by simp [hx]), List.map_cons]
    by_cases hn : r.2 = []
    · rw [logged, hn, List.filter_cons_of_neg (by simp)]
      rfl
    · rw [segments_logged hn hp, List.filter_cons_of_pos (by simpa using hn)]
      rfl

theorem segments_traceOf {reset : Int} {retired : List (Int × List StateChange)}
    (h : ∀ r ∈ retired, ∃ c, Retires c r) :
    segments (traceOf reset retired) = retired.map Prod.snd := by
  have hpc : ∀ r ∈ retired, ∃ pc, ∀ e ∈ r.2, e.pc = pc := by
    intro r hr
    obtain ⟨c, -, hp⟩ := h r hr
    exact ⟨c.pc, hp⟩
  have hne : ∀ s ∈ retired.map Prod.snd, (!s.isEmpty) = true := by
    intro s hs
    obtain ⟨r, hr, rfl⟩ := List.mem_map.mp hs
    obtain ⟨c, hn, -⟩ := h r hr
    simpa using hn
  rw [← List.filter_eq_self.mpr hne, ← segments_flatMap_logged hpc]
  rfl

theorem resets_traceOf (reset : Int) (retired : List (Int × List StateChange)) :
    (traceOf reset retired).filterMap Event.resetTarget? = [reset] := by
  have hn : (retired.flatMap logged).filterMap Event.resetTarget? = [] := by
    rw [List.filterMap_eq_nil_iff]
    intro e he
    obtain ⟨r, -, hr⟩ := List.mem_flatMap.mp he
    rcases List.mem_cons.mp hr with rfl | hr
    · rfl
    · obtain ⟨c, -, rfl⟩ := List.mem_map.mp hr
      rfl
  simp [traceOf, Event.resetTarget?, hn]

theorem exists_retires {commits : List Commit} {retired : List (Int × List StateChange)}
    (h : List.Forall₂ Retires commits retired) : ∀ r ∈ retired, ∃ c, Retires c r := by
  induction h with
  | nil => simp
  | @cons c r _ _ hr _ ih =>
    intro x hx
    rcases List.mem_cons.mp hx with rfl | hx
    · exact ⟨c, hr⟩
    · exact ih x hx

theorem difference_of_pass {reset : Int} {commits : List Commit} {events : List Event}
    {pattern : Option EndPattern}
    (h : Verdict.ofComparison (compareFrom reset commits events pattern) = .pass) :
    difference reset commits events pattern = none := by
  rw [ofComparison_compareFrom] at h
  cases hd : difference reset commits events pattern with
  | none => rfl
  | some d =>
    rw [hd] at h
    cases h

theorem length_le_of_difference {reset : Int} {commits : List Commit} {events : List Event}
    {pattern : Option EndPattern} (h : difference reset commits events pattern = none) :
    (walked commits reset (stop? commits pattern)).length ≤ (segments events).length := by
  obtain ⟨taken, hs, ht⟩ := exists_taken (firstDifference_of_difference h)
  rw [ht.length_eq]
  exact hs.length_le

theorem compare_eraseIdx_fails {commits : List Commit} {reset : Int}
    {retired : List (Int × List StateChange)}
    (h : List.Forall₂ Retires (walked commits reset none) retired) {i : Nat}
    (hi : i < retired.length) :
    ∃ d, (Align.compare commits (traceOf reset (retired.eraseIdx i)) none).map
      Verdict.ofComparison = .ok (.fail d) := by
  have hne : commits ≠ [] := by
    rintro rfl
    have hl := h.length_eq
    simp only [walked, List.dropWhile_nil, List.takeWhile_nil, List.filter_nil,
      List.length_nil] at hl
    omega
  have hok : Align.compare commits (traceOf reset (retired.eraseIdx i)) none =
      .ok (compareFrom reset commits (traceOf reset (retired.eraseIdx i)) none) :=
    compare_eq_ok.mpr ⟨hne, by simp [traceOf], reset, resets_traceOf _ _, rfl⟩
  rw [hok]
  cases hv : Verdict.ofComparison
      (compareFrom reset commits (traceOf reset (retired.eraseIdx i)) none) with
  | fail d => exact ⟨d, congrArg Except.ok hv⟩
  | pass =>
    have hle := length_le_of_difference (difference_of_pass hv)
    have hr : ∀ r ∈ retired.eraseIdx i, ∃ c, Retires c r :=
      fun r hr => exists_retires h r (List.mem_of_mem_eraseIdx hr)
    rw [segments_traceOf hr, List.length_map, List.length_eraseIdx_of_lt hi, stop?,
      Option.bind_none, h.length_eq] at hle
    omega

/-- A comparison that passes has given the commits disjoint retirements in order, and a trace of
retirements from which one is deleted does not pass. -/
theorem retirements_taken_once :
    (∀ (commits : List Commit) (events : List Event) (pattern : Option EndPattern)
        (r : Comparison), Align.compare commits events pattern = .ok r →
      Verdict.ofComparison r = .pass →
      ∃ reset spans, events.filterMap Event.resetTarget? = [reset] ∧
        List.Forall₂ (Takes events) (walked commits reset (stop? commits pattern)) spans ∧
        spans.Pairwise (fun s t => s.2 ≤ t.1) ∧
        (∀ n, Note.compared n ∈ r.notes ↔
          n = (walked commits reset (stop? commits pattern)).length) ∧
        ∀ pc, (walked commits reset (stop? commits pattern)).countP (·.pc == pc) ≤
          (segments events).countP (isAt pc)) ∧
    ∀ (commits : List Commit) (reset : Int) (retired : List (Int × List StateChange)),
      List.Forall₂ Retires (walked commits reset none) retired →
      ∀ i < retired.length, ∃ d,
        (Align.compare commits (traceOf reset (retired.eraseIdx i)) none).map
          Verdict.ofComparison = .ok (.fail d) := by
  refine ⟨?_, fun commits reset retired h i hi => compare_eraseIdx_fails h hi⟩
  intro commits events pattern r hr hv
  obtain ⟨-, -, reset, hreset, rfl⟩ := compare_eq_ok.mp hr
  have hd := difference_of_pass hv
  have hf := firstDifference_of_difference hd
  have hstart : IsBoundary [] events := by intro x hx; simp at hx
  obtain ⟨spans, hs, hpw, -⟩ := exists_spans hstart hf
  obtain ⟨taken, hsub, ht⟩ := exists_taken hf
  refine ⟨reset, spans, hreset, hs, hpw, compared_mem_notes hd, ?_⟩
  intro pc
  exact (countP_le_of_forall₂ ht pc).trans (hsub.countP_le)

def loopCommits : List Commit :=
  [⟨0, 3, 0x1000, 0x13, [⟨"x5", 0⟩], []⟩, ⟨0, 3, 0x1004, 0x13, [⟨"t1", 1⟩], []⟩,
    ⟨0, 3, 0x1004, 0x13, [⟨"t1", 1⟩], []⟩]

def loopRetired : List (Int × List StateChange) :=
  [(0x13, [⟨"WRITE", 0x1000, 5, 0⟩]), (0x13, [⟨"WRITE", 0x1004, 6, 1⟩]),
    (0x13, [⟨"WRITE", 0x1004, 6, 1⟩])]

/-- The loop passes with an own retirement for each iteration, and does not pass without one. -/
theorem loop_taken_once :
    (∃ spans, List.Forall₂ (Takes (traceOf 0x1000 loopRetired)) loopCommits spans ∧
        spans.Pairwise fun s t => s.2 ≤ t.1) ∧
      ∃ d, (Align.compare loopCommits (traceOf 0x1000 (loopRetired.eraseIdx 1)) none).map
        Verdict.ofComparison = .ok (.fail d) := by
  have hr : List.Forall₂ Retires (walked loopCommits 0x1000 none) loopRetired :=
    .cons (by decide) (.cons (by decide) (.cons (by decide) .nil))
  refine ⟨?_, retirements_taken_once.2 loopCommits 0x1000 loopRetired hr 1 (by decide)⟩
  obtain ⟨reset, spans, hreset, hs, hp, -⟩ :=
    retirements_taken_once.1 loopCommits (traceOf 0x1000 loopRetired) none _ rfl (by decide)
  rw [resets_traceOf] at hreset
  obtain ⟨rfl, -⟩ := List.cons.inj hreset
  exact ⟨spans, hs, hp⟩

end Cosim.Proofs.Alignment.Assignment
