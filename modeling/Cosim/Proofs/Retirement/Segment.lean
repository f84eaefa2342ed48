import Cosim.Proofs.Retirement.Group
import Mathlib.Data.List.SplitBy

namespace Cosim.Proofs.Retirement.Segment

open Cosim.Trace Cosim.Align.Retirement Cosim.Proofs.Retirement.Group

/-- Whether a change directly after another belongs to the same retirement. -/
def together : Event → Event → Bool
  | .change c, .change d => c.pc == d.pc
  | _, _ => false

/-- The segments of a trace. Fetches make runs of their own, which hold no change. -/
def segments (events : List Event) : List (List StateChange) :=
  (((events.filter isRelevant).splitBy together).map fun run =>
    run.filterMap Event.change?).filter fun s => !s.isEmpty

def isAt (pc : Int) (s : List StateChange) : Bool := s.any (·.pc == pc)

/-- A place in a trace with no retirement that goes on from one side to the other. -/
def IsBoundary (before after : List Event) : Prop :=
  ∀ x ∈ (before.filter isRelevant).getLast?, ∀ y ∈ (after.filter isRelevant).head?,
    together x y = false

theorem isBoundary_nil (events : List Event) : IsBoundary [] events := by
  intro x hx
  simp at hx

theorem segments_append {a b : List Event} (h : IsBoundary a b) :
    segments (a ++ b) = segments a ++ segments b := by
  simp only [segments, List.filter_append, List.splitBy_append h, List.map_append]

theorem filterMap_filter_isRelevant (events : List Event) :
    (events.filter isRelevant).filterMap Event.change? = events.filterMap Event.change? := by
  rw [List.filterMap_filter]
  congr 1
  funext e
  cases e <;> rfl

theorem flatten_segments (events : List Event) :
    (segments events).flatten = events.filterMap Event.change? := by
  rw [segments, List.flatten_filter_not_isEmpty, ← List.filterMap_flatten, List.flatten_splitBy,
    filterMap_filter_isRelevant]

variable {pc : Int}

theorem together_eq_true {e f : Event} (he : e.changesAt pc = true) (hf : f.changesAt pc = true) :
    together e f = true := by
  obtain ⟨c, rfl, hc⟩ := change?_of_changesAt he
  obtain ⟨d, rfl, hd⟩ := change?_of_changesAt hf
  simp [together, hc, hd]

theorem changesAt_eq_of_together {e f : Event} (h : together e f = true) (pc : Int) :
    e.changesAt pc = f.changesAt pc := by
  cases e with
  | change c =>
    cases f with
    | change d =>
      have hp : c.pc = d.pc := by simpa [together] using h
      simp [Event.changesAt, hp]
    | memory a w p | fetch w | reset t => simp [together] at h
  | memory a w p | fetch w | reset t => simp [together] at h

theorem together_eq_false (pc : Int) {e f : Event} (h : e.changesAt pc ≠ f.changesAt pc) :
    together e f = false := by
  rw [← Bool.not_eq_true]
  exact fun ht => h (changesAt_eq_of_together ht pc)

theorem changesAt_of_mem_filter {body : List Event} (h : IsGroup pc body) {e : Event}
    (he : e ∈ body.filter isRelevant) : e.changesAt pc = true := by
  obtain ⟨hm, hr⟩ := List.mem_filter.mp he
  exact h.inside e hm hr

theorem filter_ne_nil {body : List Event} (h : IsGroup pc body) : body.filter isRelevant ≠ [] := by
  obtain ⟨e, he, hp⟩ := h.first
  exact List.ne_nil_of_mem
    (List.mem_filter.mpr ⟨List.mem_of_mem_head? he, isRelevant_of_changesAt hp⟩)

theorem segments_group {body : List Event} (h : IsGroup pc body) :
    segments body = [body.filterMap Event.change?] := by
  have hchain : (body.filter isRelevant).IsChain fun x y => together x y = true := by
    refine List.Pairwise.isChain (List.pairwise_of_forall_mem_list ?_)
    intro x hx y hy
    exact together_eq_true (changesAt_of_mem_filter h hx) (changesAt_of_mem_filter h hy)
  rw [segments, List.splitBy_of_isChain (filter_ne_nil h) hchain]
  simp [filterMap_filter_isRelevant, h.changes_ne_nil]

/-- In front of a retirement at an address stands no change at that address. -/
theorem isBoundary_front {before body after : List Event}
    (hb : ∀ e ∈ before, e.changesAt pc = false) (hg : IsGroup pc body) :
    IsBoundary before (body ++ after) := by
  intro x hx y hy
  have hy' : y ∈ (body.filter isRelevant).head? := by
    rwa [List.filter_append, List.head?_append_of_ne_nil _ (filter_ne_nil hg)] at hy
  have hyp := changesAt_of_mem_filter hg (List.mem_of_mem_head? hy')
  have hxp := hb x (List.mem_of_mem_filter (List.mem_of_getLast? hx))
  exact together_eq_false pc (by simp [hxp, hyp])

theorem isBoundary_back {body after : List Event} (before : List Event) (hg : IsGroup pc body)
    (ha : Ends pc after) : IsBoundary (before ++ body) after := by
  intro x hx y hy
  have hx' : x ∈ (body.filter isRelevant).getLast? := by
    rwa [List.filter_append, List.getLast?_append_of_ne_nil _ (filter_ne_nil hg)] at hx
  have hxp := changesAt_of_mem_filter hg (List.mem_of_getLast? hx')
  have hyp : y.changesAt pc = false := ha y (by rwa [List.head?_filter] at hy)
  exact together_eq_false pc (by simp [hxp, hyp])

theorem isAt_of_mem_segments {events : List Event} (hn : ∀ e ∈ events, e.changesAt pc = false)
    {s : List StateChange} (hs : s ∈ segments events) : isAt pc s = false := by
  rw [isAt, List.any_eq_false]
  intro c hc hp
  have hm : c ∈ events.filterMap Event.change? := by
    rw [← flatten_segments]
    exact List.mem_flatten_of_mem hs hc
  obtain ⟨e, he, hec⟩ := List.mem_filterMap.mp hm
  have := hn e he
  cases e <;> simp_all [Event.change?, Event.changesAt]

theorem isAt_group {body : List Event} (h : IsGroup pc body) :
    isAt pc (body.filterMap Event.change?) = true := by
  obtain ⟨e, he, hp⟩ := h.first
  obtain ⟨c, rfl, hc⟩ := change?_of_changesAt hp
  rw [isAt, List.any_eq_true]
  exact ⟨c, List.mem_filterMap.mpr ⟨_, List.mem_of_mem_head? he, rfl⟩, by simpa using hc⟩

theorem segments_cut {before body after : List Event}
    (hb : ∀ e ∈ before, e.changesAt pc = false) (hg : IsGroup pc body) (ha : Ends pc after) :
    segments (before ++ (body ++ after)) =
      segments before ++ body.filterMap Event.change? :: segments after := by
  have hback : IsBoundary body after := isBoundary_back [] hg ha
  rw [segments_append (isBoundary_front hb hg), segments_append hback, segments_group hg]
  rfl

theorem dropWhile_segments (pc : Int) (events : List Event) :
    (segments events).dropWhile (fun s => !isAt pc s) =
      match next pc events with
      | ([], _) => []
      | (group, left) => group :: segments left := by
  cases hn : next pc events with
  | mk group left =>
    have hf := found_next pc events
    rw [hn] at hf
    cases hf with
    | none h =>
      rw [List.dropWhile_eq_nil_iff]
      intro s hs
      simp [isAt_of_mem_segments h hs]
    | group hb hg ha =>
      rename_i before body
      obtain ⟨c, group, hc⟩ := List.exists_cons_of_ne_nil hg.changes_ne_nil
      have hbefore : ∀ s ∈ segments before, (!isAt pc s) = true := by
        intro s hs
        simp [isAt_of_mem_segments hb hs]
      rw [segments_cut hb hg ha, List.dropWhile_append_of_pos hbefore,
        List.dropWhile_cons_of_neg (by simp [isAt_group hg]), hc]

end Cosim.Proofs.Retirement.Segment
