import Cosim.Align.Retirement
import Mathlib.Data.List.TakeWhile

namespace Cosim.Proofs.Retirement.Group

open Cosim.Trace Cosim.Align.Retirement

def isRelevant : Event → Bool
  | .change _ | .fetch _ => true
  | _ => false

/-- What is relevant here, and the last event in any case, are changes at `pc`. -/
structure IsStretch (pc : Int) (body : List Event) : Prop where
  inside : ∀ e ∈ body, isRelevant e = true → e.changesAt pc = true
  last : ∀ e ∈ body.getLast?, e.changesAt pc = true

/-- The events of a retirement at `pc`, from its first change to its last. -/
structure IsGroup (pc : Int) (body : List Event) : Prop extends IsStretch pc body where
  first : ∃ e ∈ body.head?, e.changesAt pc = true

def Ends (pc : Int) (events : List Event) : Prop :=
  ∀ e ∈ events.find? isRelevant, e.changesAt pc = false

variable {pc : Int}

theorem isRelevant_of_changesAt {e : Event} (h : e.changesAt pc = true) : isRelevant e = true := by
  cases e with
  | change c => rfl
  | memory a w p | fetch w | reset t => simp [Event.changesAt] at h

theorem change?_of_changesAt {e : Event} (h : e.changesAt pc = true) :
    ∃ c, e = .change c ∧ c.pc = pc := by
  cases e with
  | change c => exact ⟨c, rfl, by simpa [Event.changesAt] using h⟩
  | memory a w p | fetch w | reset t => simp [Event.changesAt] at h

theorem isStretch_nil (pc : Int) : IsStretch pc [] := ⟨by simp, by simp⟩

theorem IsStretch.cons {e : Event} {body : List Event}
    (he : isRelevant e = true → e.changesAt pc = true) (h : IsStretch pc body)
    (hl : body = [] → e.changesAt pc = true) : IsStretch pc (e :: body) where
  inside := by
    intro x hx
    rcases List.mem_cons.mp hx with rfl | hx
    · exact he
    · exact h.inside x hx
  last := by
    intro x hx
    cases body with
    | nil =>
      have hx' : e = x := by simpa using hx
      exact hx' ▸ hl rfl
    | cons b body => exact h.last x (by simpa [List.getLast?_cons_cons] using hx)

theorem IsStretch.eq_nil {body : List Event} (h : IsStretch pc body)
    (hc : body.filterMap Event.change? = []) : body = [] := by
  cases hb : body.getLast? with
  | none => exact List.getLast?_eq_none_iff.mp hb
  | some e =>
    obtain ⟨c, rfl, -⟩ := change?_of_changesAt (h.last e hb)
    have hn := List.filterMap_eq_nil_iff.mp hc _ (List.mem_of_getLast? hb)
    simp [Event.change?] at hn

theorem IsGroup.ne_nil {body : List Event} (h : IsGroup pc body) : body ≠ [] := by
  obtain ⟨e, he, -⟩ := h.first
  rintro rfl
  simp at he

theorem IsGroup.changes_ne_nil {body : List Event} (h : IsGroup pc body) :
    body.filterMap Event.change? ≠ [] :=
  fun hc => h.ne_nil (h.eq_nil hc)

theorem IsGroup.exists_concat {body : List Event} (h : IsGroup pc body) :
    ∃ front e, body = front ++ [e] ∧ e.changesAt pc = true := by
  obtain ⟨front, e, rfl⟩ := (List.eq_nil_or_concat body).resolve_left h.ne_nil
  exact ⟨front, e, List.concat_eq_append, h.last e (by simp)⟩

theorem IsStretch.eq_nil_of_ends {body more after : List Event} (h : IsStretch pc (body ++ more))
    (ha : Ends pc (more ++ after)) : more = [] := by
  by_contra hn
  have hlast : (more.getLast hn).changesAt pc = true := by
    apply h.last
    rw [List.getLast?_append, List.getLast?_eq_some_getLast hn]
    rfl
  have hsome : (more.find? isRelevant).isSome = true :=
    List.find?_isSome.mpr ⟨_, List.getLast_mem hn, isRelevant_of_changesAt hlast⟩
  obtain ⟨f, hf⟩ := Option.isSome_iff_exists.mp hsome
  have hin : f.changesAt pc = true :=
    h.inside f (List.mem_append_right _ (List.mem_of_find?_eq_some hf)) (List.find?_some hf)
  have hout : f.changesAt pc = false := by
    apply ha
    rw [List.find?_append, hf]
    rfl
  rw [hin] at hout
  cases hout

theorem IsStretch.unique {a b afterA afterB : List Event} (ha : IsStretch pc a)
    (hb : IsStretch pc b) (hea : Ends pc afterA) (heb : Ends pc afterB)
    (h : a ++ afterA = b ++ afterB) : a = b := by
  rcases List.append_eq_append_iff.mp h with ⟨more, rfl, rfl⟩ | ⟨more, rfl, rfl⟩
  · rw [hb.eq_nil_of_ends hea, List.append_nil]
  · rw [ha.eq_nil_of_ends heb, List.append_nil]

theorem takeWhile_front {before body after : List Event}
    (hb : ∀ e ∈ before, e.changesAt pc = false) (hg : IsGroup pc body) :
    (before ++ (body ++ after)).takeWhile (fun e => !e.changesAt pc) = before := by
  obtain ⟨e, he, hp⟩ := hg.first
  obtain ⟨rest, rfl⟩ := List.head?_eq_some_iff.mp he
  have hpos : ∀ e ∈ before, (!e.changesAt pc) = true := by
    intro e he
    simp [hb e he]
  rw [List.takeWhile_append_of_pos hpos, List.cons_append,
    List.takeWhile_cons_of_neg (by simp [hp]), List.append_nil]

theorem splitGroup_spec (pc : Int) (events : List Event) :
    ∃ body, events = body ++ (splitGroup pc events).2 ∧ IsStretch pc body ∧
      (splitGroup pc events).1 = body.filterMap Event.change? ∧
      Ends pc (splitGroup pc events).2 := by
  fun_induction splitGroup pc events with
  | case1 => exact ⟨[], rfl, isStretch_nil pc, rfl, by simp [Ends]⟩
  | case2 w rest =>
    exact ⟨[], rfl, isStretch_nil pc, rfl, by simp [Ends, isRelevant, Event.changesAt]⟩
  | case3 c rest hc group left hs ih =>
    obtain ⟨body, he, hb, hg, hl⟩ := ih
    rw [hs] at he hg hl
    have hcp : (Event.change c).changesAt pc = true := by simp [Event.changesAt, hc]
    refine ⟨.change c :: body, by simpa using he, hb.cons (fun _ => hcp) (fun _ => hcp), ?_, hl⟩
    simpa [Event.change?] using hg
  | case4 c rest hc =>
    exact ⟨[], rfl, isStretch_nil pc, rfl, by simp [Ends, isRelevant, Event.changesAt, hc]⟩
  | case5 e rest hf hc left hs ih =>
    -- no change follows, so the stretch is empty and the event stays with the rest
    obtain ⟨body, he, hb, hg, hl⟩ := ih
    rw [hs] at he hg hl
    have hn := hb.eq_nil hg.symm
    subst hn
    have hr : isRelevant e = false := by cases e <;> simp_all [isRelevant]
    refine ⟨[], rfl, isStretch_nil pc, rfl, ?_⟩
    simp only [List.nil_append] at he
    simpa [Ends, hr, he] using hl
  | case6 e rest hf hc c group left hs ih =>
    obtain ⟨body, he, hb, hg, hl⟩ := ih
    rw [hs] at he hg hl
    have hr : isRelevant e = false := by cases e <;> simp_all [isRelevant]
    have hn : body ≠ [] := by rintro rfl; simp at hg
    have hc' : e.change? = none := by cases e <;> simp_all [Event.change?]
    refine ⟨e :: body, by simpa using he, hb.cons (by simp [hr]) (absurd · hn), ?_, hl⟩
    simpa [hc'] using hg

/-- What the search for a group at `pc` can find. -/
inductive Found (pc : Int) : List Event → List StateChange × List Event → Prop
  | none {events : List Event} (h : ∀ e ∈ events, e.changesAt pc = false) :
      Found pc events ([], events)
  | group {before body after : List Event} (hb : ∀ e ∈ before, e.changesAt pc = false)
      (hg : IsGroup pc body) (ha : Ends pc after) :
      Found pc (before ++ (body ++ after)) (body.filterMap Event.change?, after)

theorem found_next (pc : Int) (events : List Event) : Found pc events (next pc events) := by
  let p : Event → Bool := fun e => !e.changesAt pc
  have hb : ∀ e ∈ events.takeWhile p, e.changesAt pc = false := by
    intro e he
    simpa [p] using List.mem_takeWhile_imp he
  have hcut : events.takeWhile p ++ events.dropWhile p = events := List.takeWhile_append_dropWhile
  unfold next
  split
  · rename_i hd
    rw [hd, List.append_nil] at hcut
    exact .none (hcut ▸ hb)
  · rename_i found hd
    obtain ⟨body, he, hs, hg, ha⟩ := splitGroup_spec pc (events.dropWhile p)
    obtain ⟨e, rest, hf⟩ := List.exists_cons_of_ne_nil hd
    have hp : e.changesAt pc = true := by
      have := List.head_dropWhile_not p hd
      simpa [p, hf] using this
    -- the stretch cannot be empty: the event that the search stopped at belongs to it
    have hfirst : ∃ e ∈ body.head?, e.changesAt pc = true := by
      cases body with
      | nil =>
        rw [List.nil_append] at he
        rw [← he, hf] at ha
        have := ha e (by simp [isRelevant_of_changesAt hp])
        rw [hp] at this
        cases this
      | cons b body =>
        rw [hf, List.cons_append] at he
        obtain ⟨rfl, -⟩ := List.cons.inj he
        exact ⟨e, rfl, hp⟩
    have h := Found.group hb ⟨hs, hfirst⟩ ha
    rwa [← he, hcut, ← hg] at h

end Cosim.Proofs.Retirement.Group
