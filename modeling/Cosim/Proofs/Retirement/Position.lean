import Cosim.Proofs.Retirement.Group

namespace Cosim.Proofs.Retirement.Position

open Cosim.Trace Cosim.Align.Retirement Cosim.Proofs.Retirement.Group

def ChangedAt (events : List Event) (pc : Int) (i : Nat) : Prop :=
  ∃ e, events[i]? = some e ∧ e.changesAt pc = true

structure IsFirst (events : List Event) (pc : Int) (cursor start : Nat) : Prop where
  le : cursor ≤ start
  changed : ChangedAt events pc start
  least : ∀ i, cursor ≤ i → i < start → ¬ ChangedAt events pc i

structure IsRun (events : List Event) (pc : Int) (start stop : Nat) (group : List StateChange) :
    Prop where
  start_lt : start < stop
  stop_le : stop ≤ events.length
  last : ChangedAt events pc (stop - 1)
  group_eq : group = (events.extract start stop).filterMap Event.change?
  pc_eq : ∀ c ∈ group, c.pc = pc
  no_fetch : ∀ i e, start ≤ i → i < stop → events[i]? = some e → e.isFetch = false
  maximal : ∀ e ∈ (events.drop stop).find? isRelevant,
    e.isFetch = true ∨ ∃ c, e = .change c ∧ c.pc ≠ pc

variable {events before body after : List Event} {pc : Int} {cursor i : Nat}

theorem changedAt_iff_mem_drop :
    (∃ i, cursor ≤ i ∧ ChangedAt events pc i) ↔
      ∃ e ∈ events.drop cursor, e.changesAt pc = true := by
  constructor
  · rintro ⟨i, hi, e, he, hp⟩
    refine ⟨e, List.mem_of_getElem? (i := i - cursor) ?_, hp⟩
    rw [List.getElem?_drop, Nat.add_sub_cancel' hi, he]
  · rintro ⟨e, he, hp⟩
    obtain ⟨j, hj⟩ := List.mem_iff_getElem?.mp he
    rw [List.getElem?_drop] at hj
    exact ⟨cursor + j, Nat.le_add_right cursor j, e, hj, hp⟩

theorem not_changedAt_iff :
    (∀ i, cursor ≤ i → ¬ ChangedAt events pc i) ↔
      ∀ e ∈ events.drop cursor, e.changesAt pc = false := by
  have h : (¬ ∃ i, cursor ≤ i ∧ ChangedAt events pc i) ↔
      ¬ ∃ e ∈ events.drop cursor, e.changesAt pc = true := not_congr changedAt_iff_mem_drop
  simpa using h

section Cuts

variable {pre : List Event}

theorem isFirst_cut (hb : ∀ e ∈ before, e.changesAt pc = false) (hg : IsGroup pc body) :
    IsFirst (pre ++ (before ++ (body ++ after))) pc pre.length (pre.length + before.length) where
  le := Nat.le_add_right _ _
  changed := by
    obtain ⟨e, he, hp⟩ := hg.first
    obtain ⟨rest, rfl⟩ := List.head?_eq_some_iff.mp he
    refine ⟨e, ?_, hp⟩
    rw [List.getElem?_append_right (by omega), Nat.add_sub_cancel_left,
      List.getElem?_append_right (Nat.le_refl _), Nat.sub_self]
    rfl
  least := by
    rintro i hi hlt ⟨e, he, hp⟩
    rw [List.getElem?_append_right hi, List.getElem?_append_left (by omega)] at he
    rw [hb e (List.mem_of_getElem? he)] at hp
    cases hp

theorem getElem?_cut (h : i < body.length) :
    (pre ++ (before ++ (body ++ after)))[pre.length + before.length + i]? = body[i]? := by
  rw [← List.append_assoc, List.getElem?_append_right (by simp), List.length_append,
    Nat.add_sub_cancel_left, List.getElem?_append_left h]

theorem isRun_cut (hg : IsGroup pc body) (ha : Ends pc after) :
    IsRun (pre ++ (before ++ (body ++ after))) pc (pre.length + before.length)
      (pre.length + before.length + body.length) (body.filterMap Event.change?) where
  start_lt := Nat.lt_add_of_pos_right (List.length_pos_iff.mpr hg.ne_nil)
  stop_le := by
    simp only [List.length_append]
    omega
  last := by
    obtain ⟨front, e, rfl, hp⟩ := hg.exists_concat
    have hlen : pre.length + before.length + (front ++ [e]).length - 1 =
        pre.length + before.length + front.length := by
      rw [List.length_append, List.length_singleton]
      omega
    refine ⟨e, ?_, hp⟩
    rw [hlen, getElem?_cut (by simp), List.getElem?_concat_length]
  group_eq := by
    have hcut : (pre ++ (before ++ (body ++ after))).extract (pre.length + before.length)
        (pre.length + before.length + body.length) = body := by
      rw [← List.append_assoc, ← List.length_append]
      simp
    rw [hcut]
  pc_eq := by
    intro c hc
    obtain ⟨e, he, hec⟩ := List.mem_filterMap.mp hc
    cases e with
    | change d =>
      obtain rfl := Option.some.inj hec
      simpa [Event.changesAt] using hg.inside _ he rfl
    | memory | fetch | reset => cases hec
  no_fetch := by
    intro i e hi hlt he
    obtain ⟨j, rfl⟩ := Nat.exists_eq_add_of_le hi
    rw [getElem?_cut (by omega)] at he
    cases e with
    | fetch w => exact absurd (hg.inside _ (List.mem_of_getElem? he) rfl) Bool.false_ne_true
    | memory | change | reset => rfl
  maximal := by
    have hdrop : (pre ++ (before ++ (body ++ after))).drop
        (pre.length + before.length + body.length) = after := by
      rw [← List.append_assoc, ← List.append_assoc, ← List.length_append, ← List.length_append,
        List.drop_left]
    -- what follows is asked only for its first event that delimits retirements
    rw [hdrop]
    intro e he
    have hrelevant : isRelevant e = true := List.find?_some he
    have hp := ha e he
    cases e with
    | fetch w => exact .inl rfl
    | change c => exact .inr ⟨c, rfl, by simpa [Event.changesAt] using hp⟩
    | memory | reset => cases hrelevant

end Cuts

theorem located_next (events : List Event) (cursor : Nat) (pc : Int) :
    (next pc (events.drop cursor) = ([], events.drop cursor) ∧
        ∀ i, cursor ≤ i → ¬ ChangedAt events pc i) ∨
      ∃ start stop group, next pc (events.drop cursor) = (group, events.drop stop) ∧ group ≠ [] ∧
        IsFirst events pc cursor start ∧ IsRun events pc start stop group := by
  rcases hn : next pc (events.drop cursor) with ⟨group, left⟩
  have hf := found_next pc (events.drop cursor)
  rw [hn] at hf
  generalize hd : events.drop cursor = found at hf ⊢
  cases hf with
  | none h =>
    refine .inl ⟨rfl, not_changedAt_iff.mpr ?_⟩
    rwa [hd]
  | @group before body _ hb hg ha =>
    right
    have hlt : cursor < events.length := by
      by_contra hge
      rw [List.drop_eq_nil_of_le (by omega)] at hd
      exact hg.ne_nil (by simp_all)
    -- counted from the cursor: what is before it, what is passed over, the group, what is left
    obtain ⟨pre, rfl, hlen⟩ : ∃ pre, events = pre ++ (before ++ (body ++ left)) ∧
        pre.length = cursor :=
      ⟨events.take cursor, by rw [← hd, List.take_append_drop], List.length_take_of_le hlt.le⟩
    subst hlen
    refine ⟨_, _, _, ?_, hg.changes_ne_nil, isFirst_cut hb hg, isRun_cut hg ha⟩
    rw [← List.append_assoc, ← List.append_assoc, ← List.length_append, ← List.length_append,
      List.drop_left]

theorem nextFrom?_eq (events : List Event) (cursor : Nat) (pc : Int) :
    nextFrom? events cursor pc = match next pc (events.drop cursor) with
      | ([], _) => some ([], (cursor : Int))
      | (group, left) =>
        some (group, (cursor : Int) + ((events.drop cursor).length - left.length : Nat)) := by
  rw [nextFrom?, eventsFrom?, if_pos (Int.natCast_nonneg cursor), Int.toNat_natCast]
  rcases hnext : next pc (events.drop cursor) with ⟨_ | ⟨c, rest⟩, left⟩
  · simp only [Option.map_some, hnext]
  · simp only [Option.map_some, hnext]

/-- The search from an index on finds nothing if no change at the address follows. Otherwise it
finds the whole group that starts at the first one, and gives the index behind its last member. -/
theorem next_group_located (events : List Event) (cursor : Nat) (pc : Int) :
    (nextFrom? events cursor pc = some ([], (cursor : Int)) ↔
        ∀ i, cursor ≤ i → ¬ ChangedAt events pc i) ∧
      ((∃ i, cursor ≤ i ∧ ChangedAt events pc i) →
        ∃ (start stop : Nat) (group : List StateChange),
          nextFrom? events cursor pc = some (group, (stop : Int)) ∧
          cursor < stop ∧ IsFirst events pc cursor start ∧ IsRun events pc start stop group) := by
  rcases located_next events cursor pc with
    ⟨hnext, hnone⟩ | ⟨start, stop, group, hnext, hne, hfirst, hrun⟩
  · have hfound : nextFrom? events cursor pc = some ([], (cursor : Int)) := by
      rw [nextFrom?_eq, hnext]
    refine ⟨⟨fun _ => hnone, fun _ => hfound⟩, ?_⟩
    rintro ⟨i, hi, hchanged⟩
    exact absurd hchanged (hnone i hi)
  · obtain ⟨c, rest, rfl⟩ := List.exists_cons_of_ne_nil hne
    have hlt : cursor < stop := Nat.lt_of_le_of_lt hfirst.le hrun.start_lt
    have hfound : nextFrom? events cursor pc = some (c :: rest, (stop : Int)) := by
      have hlength := hrun.stop_le
      rw [nextFrom?_eq, hnext]
      simp only [List.length_drop, Option.some.injEq, Prod.mk.injEq, true_and]
      omega
    refine ⟨⟨fun h => ?_, fun h => absurd hfirst.changed (h start hfirst.le)⟩, fun _ => ?_⟩
    · rw [hfound] at h
      cases h
    · exact ⟨start, stop, c :: rest, hfound, hlt, hfirst, hrun⟩

def strewn : List Event :=
  [.reset 0x80, .fetch 0x13, .change ⟨"write", 0x80, 5, 1⟩, .fetch 0x13,
    .change ⟨"write", 0x84, 6, 1⟩, .memory "read" 4 0x90, .reset 0x90,
    .change ⟨"write", 0x84, 7, 2⟩, .memory "read" 4 0x94, .fetch 0x13,
    .change ⟨"write", 0x84, 6, 3⟩]

/-- The group ends directly behind its second change. -/
theorem strewn_located : ∃ start, IsFirst strewn 0x84 1 start ∧
    IsRun strewn 0x84 start 8 [⟨"write", 0x84, 6, 1⟩, ⟨"write", 0x84, 7, 2⟩] := by
  obtain ⟨start, stop, group, hfound, -, hfirst, hrun⟩ :=
    (next_group_located strewn 1 0x84).2 ⟨4, by decide, _, rfl, rfl⟩
  have hvalue : nextFrom? strewn 1 0x84 =
      some ([⟨"write", 0x84, 6, 1⟩, ⟨"write", 0x84, 7, 2⟩], 8) := by
    decide
  obtain ⟨rfl, hstop⟩ := Prod.mk.inj (Option.some.inj (hvalue.symm.trans hfound))
  obtain rfl : 8 = stop := by omega
  exact ⟨start, hfirst, hrun⟩

end Cosim.Proofs.Retirement.Position
