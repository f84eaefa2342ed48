import Cosim.Proofs.Outcome
import Cosim.Run.Command
import Mathlib.Data.List.Basic

namespace Cosim.Proofs.Files.Changes

open Cosim.Files Cosim.Files.Tree Cosim.Run Cosim.Proofs.Outcome

section Trees

variable {t : Tree} {place other old new q : Location} {content : ByteArray}

theorem node?_of_ne_nil (h : q ≠ []) : t.node? q = t.entries.lookup q := by
  rw [node?, if_neg (by simpa using h)]

theorem node?_fill_of_ne (h : q ≠ place) : (t.fill place content).node? q = t.node? q := by
  rw [fill]
  split
  · rfl
  · exact node?_set_of_ne t _ h

theorem node?_fill_self (h : place ≠ []) : (t.fill place content).node? place =
    if (t.node? place).any Node.isDevice then t.node? place
    else some (.file content (t.mode place)) := by
  rw [fill]
  split
  · rfl
  · exact node?_set_self t _ h

theorem here_fill : (t.fill place content).here = t.here := by
  rw [fill]
  split <;> rfl

theorem node?_remove_of_ne (h : q ≠ place) : (t.remove place).node? q = t.node? q := by
  rw [node?, node?, remove, lookup_filter_of_ne h]

theorem node?_remove_self (h : place ≠ []) : (t.remove place).node? place = none := by
  rw [node?_of_ne_nil h, remove, List.lookup_eq_none_iff]
  intro e he
  have hne : e.1 ≠ place := by simpa using (List.mem_filter.mp he).2
  simpa using hne.symm

theorem lookup_map {f : Location → Location} {entries : List (Location × Node)}
    (hf : ∀ e ∈ entries, f e.1 = q ↔ e.1 = other) :
    (entries.map fun (p, node) => (f p, node)).lookup q = entries.lookup other := by
  induction entries with
  | nil => rfl
  | cons e rest ih =>
    obtain ⟨hfirst, hrest⟩ := List.forall_mem_cons.mp hf
    have hb : (q == f e.1) = (other == e.1) := by
      rw [Bool.eq_iff_iff, beq_iff_eq, beq_iff_eq, eq_comm, hfirst, eq_comm]
    rw [List.map_cons, List.lookup_cons, List.lookup_cons, hb, ih hrest]

theorem moved_of_isPrefix {rest : Location} : moved old new (old ++ rest) = new ++ rest := by
  rw [moved, if_pos (by simp), List.drop_left]

theorem moved_of_not (h : ¬ old <+: place) : moved old new place = place :=
  if_neg (by simpa using h)

theorem node?_move_of_not (hold : ¬ old <+: q) (hnew : ¬ new <+: q) :
    (t.move old new).node? q = t.node? q := by
  have hmoved : ∀ p, moved old new p = q ↔ p = q := by
    intro p
    by_cases hp : old <+: p
    · obtain ⟨rest, rfl⟩ := hp
      rw [moved_of_isPrefix]
      exact ⟨fun h => absurd ⟨rest, h⟩ hnew, fun h => absurd ⟨rest, h⟩ hold⟩
    · rw [moved_of_not hp]
  have hne : q ≠ new := fun h => hnew (h ▸ List.prefix_rfl)
  rw [node?, node?, move, lookup_map fun e _ => hmoved e.1, remove, lookup_filter_of_ne hne]

/-- What is moved is at the new location then, but for what takes itself there. -/
theorem node?_move_new (hold : old ≠ []) (hnew : ¬ old <+: new) :
    (t.move old new).node? new = if new = [] then some .directory else t.node? old := by
  have hmoved : ∀ e ∈ (t.remove new).entries, moved old new e.1 = new ↔ e.1 = old := by
    intro e he
    by_cases hp : old <+: e.1
    · obtain ⟨rest, hrest⟩ := hp
      rw [← hrest, moved_of_isPrefix, List.append_right_eq_self, List.append_right_eq_self]
    · have hne : e.1 ≠ new := by simpa using (List.mem_filter.mp he).2
      rw [moved_of_not hp]
      exact ⟨fun h => absurd h hne, fun h => absurd (h ▸ List.prefix_rfl) hp⟩
  have hne : old ≠ new := fun h => hnew (h ▸ List.prefix_rfl)
  split_ifs with hempty
  · rw [hempty]
    rfl
  · rw [node?_of_ne_nil hempty, node?_of_ne_nil hold, move, lookup_map hmoved, remove,
      lookup_filter_of_ne hne]

theorem node?_move_old (hq : q ≠ []) (hold : old <+: q) (hnew : ¬ new <+: q) :
    (t.move old new).node? q = none := by
  rw [node?_of_ne_nil hq, move, List.lookup_eq_none_iff]
  intro e he
  obtain ⟨e, -, rfl⟩ := List.mem_map.mp he
  refine bne_iff_ne.mpr fun h => ?_
  replace h : q = moved old new e.1 := h
  by_cases hp : old <+: e.1
  · obtain ⟨rest, hrest⟩ := hp
    rw [← hrest, moved_of_isPrefix] at h
    exact hnew ⟨rest, h.symm⟩
  · rw [moved_of_not hp] at h
    exact hp (h ▸ hold)

/-- No file comes to be at a location, and what is there stays. A directory may come to be where
nothing is. -/
def Unwritten (t t' : Tree) (q : Location) : Prop :=
  t'.node? q = t.node? q ∨ t.node? q = none ∧ t'.node? q = some .directory

theorem Unwritten.trans {u : Tree} (h : Unwritten t u q) {t' : Tree} (h' : Unwritten u t' q) :
    Unwritten t t' q := by
  rcases h with h | ⟨hnone, hdir⟩
  · rwa [Unwritten, ← h]
  · rcases h' with h' | ⟨hnone', -⟩
    · exact .inr ⟨hnone, h'.trans hdir⟩
    · rw [hdir] at hnone'
      cases hnone'

theorem Unwritten.keeps {t' : Tree} {node : Node} (h : Unwritten t t' q)
    (hq : t.node? q = some node) : t'.node? q = some node := by
  rcases h with h | ⟨hnone, -⟩
  · rwa [h]
  · rw [hq] at hnone
    cases hnone

/-- A tree has what another one has, and possibly more directories. -/
structure Grows (t t' : Tree) : Prop where
  here_eq : t'.here = t.here
  unwritten : ∀ q, Unwritten t t' q

theorem Grows.refl (t : Tree) : Grows t t := ⟨rfl, fun _ => .inl rfl⟩

theorem Grows.trans {u : Tree} (h : Grows t u) {t' : Tree} (h' : Grows u t') : Grows t t' :=
  ⟨h'.here_eq.trans h.here_eq, fun q => (h.unwritten q).trans (h'.unwritten q)⟩

section Directories

variable {t' : Tree} {path : String}

theorem grows_makeDirectory (h : t.makeDirectory path = .ok t') : Grows t t' := by
  rw [makeDirectory, bind_eq_ok] at h
  obtain ⟨place, -, h⟩ := h
  cases hnode : t.node? place with
  | some node =>
    rw [hnode] at h
    cases h
  | none =>
    rw [hnode] at h
    have hne : place ≠ [] := by
      rintro rfl
      cases hnode
    split at h
    · cases h
    · obtain rfl := Except.ok.inj h
      refine ⟨rfl, fun q => ?_⟩
      by_cases hq : q = place
      · subst hq
        exact .inr ⟨hnode, node?_set_self t .directory hne⟩
      · exact .inl (node?_set_of_ne t .directory hq)
    · cases h
    · cases h
    · cases h

theorem grows_make (dir : Path) (t : Tree) : Grows t (makeDirectories.make dir t).1 := by
  rw [makeDirectories.make]
  split
  · next hmade => exact grows_makeDirectory hmade
  · exact .refl t

theorem grows_makeDirectories (dir : Path) (t : Tree) : Grows t (t.makeDirectories dir).1 := by
  have hgo : ∀ fuel dir, Grows t (makeDirectories.go fuel dir t).1 := by
    intro fuel
    induction fuel with
    | zero => exact fun dir => grows_make dir t
    | succ fuel ih =>
      intro dir
      rw [makeDirectories.go]
      split
      · have hparent := ih dir.parent
        split
        · next made hgo =>
          rw [hgo] at hparent
          exact hparent.trans (grows_make dir made)
        · exact hparent
      · exact grows_make dir t
  exact hgo _ dir

end Directories

end Trees

/-- An effect may put something at a location. What a program says on a channel goes where the
channel leads. -/
def Makes (q : Location) : Effect → Prop
  | .put place _ | .write place .. => place = q
  | .move _ new => new <+: q
  | .say .. | .remove _ => False

/-- An effect may take something from a location. -/
def Takes (q : Location) : Effect → Prop
  | .remove place => place = q
  | .move old _ => old <+: q
  | .say .. | .put .. | .write .. => False

def Touches (q : Location) (e : Effect) : Prop := Makes q e ∨ Takes q e

/-- No channel leads to a location. -/
structure AwayFrom (q : Location) (s : Streams) : Prop where
  output : ∀ h, s.output = some h → h.place ≠ q
  errors : ∀ h, s.errors = some h → h.place ≠ q

section Playing

variable {q : Location} {e : Effect} {p : Playing} {handle : Option Handle}

theorem spare_eq_some {place : Location} {x y : Handle} (h : Playing.spare place x = some y) :
    y = x := by
  rw [Playing.spare] at h
  split at h
  · cases h
  · exact (Option.some.inj h).symm

theorem sayThrough_of_ne (t : Tree) (octets : ByteArray)
    (h : ∀ x, handle = some x → x.place ≠ q) :
    (Playing.sayThrough t handle octets).1.node? q = t.node? q ∧
      ∀ x, (Playing.sayThrough t handle octets).2 = some x → x.place ≠ q := by
  cases handle with
  | none => exact ⟨rfl, nofun⟩
  | some x =>
    refine ⟨node?_fill_of_ne (h x rfl).symm, ?_⟩
    rintro y ⟨⟩
    exact h x rfl

theorem AwayFrom.follow {s : Streams} {f : Handle → Option Handle}
    (hf : ∀ x y, x.place ≠ q → f x = some y → y.place ≠ q) (h : AwayFrom q s) :
    AwayFrom q (Playing.follow f s) where
  output y hy := by
    obtain ⟨x, hx, hxy⟩ := Option.bind_eq_some_iff.mp hy
    exact hf x y (h.output x hx) hxy
  errors y hy := by
    obtain ⟨x, hx, hxy⟩ := Option.bind_eq_some_iff.mp hy
    exact hf x y (h.errors x hx) hxy

theorem away_play (he : ¬ Makes q e) (hs : AwayFrom q p.streams) :
    AwayFrom q (p.play e).streams := by
  cases e with
  | say channel octets =>
    rw [Playing.play]
    split
    · exact ⟨(sayThrough_of_ne p.tree octets hs.output).2, hs.errors⟩
    · exact ⟨hs.output, (sayThrough_of_ne p.tree octets hs.errors).2⟩
  | put | write => exact hs
  | remove place =>
    refine hs.follow fun x y hx hxy => ?_
    rwa [spare_eq_some hxy]
  | move old new =>
    refine hs.follow fun x y hx hxy => ?_
    obtain ⟨z, hz, rfl⟩ := Option.map_eq_some_iff.mp hxy
    rw [spare_eq_some hz]
    by_cases hp : old <+: x.place
    · obtain ⟨rest, hrest⟩ := hp
      intro h
      rw [← hrest] at h
      exact he ⟨rest, moved_of_isPrefix.symm.trans h⟩
    · rwa [moved_of_not hp]

theorem node?_play (he : ¬ Touches q e) (hs : AwayFrom q p.streams) :
    (p.play e).tree.node? q = p.tree.node? q := by
  obtain ⟨hmakes, htakes⟩ := not_or.mp he
  cases e with
  | say channel octets =>
    rw [Playing.play]
    split
    · exact (sayThrough_of_ne p.tree octets hs.output).1
    · exact (sayThrough_of_ne p.tree octets hs.errors).1
  | put place node => exact node?_set_of_ne p.tree node fun h => hmakes h.symm
  | write place offset octets => exact node?_fill_of_ne fun h => hmakes h.symm
  | remove place => exact node?_remove_of_ne fun h => htakes h.symm
  | move old new => exact node?_move_of_not htakes hmakes

theorem node?_foldl_play {effects : List Effect} (he : ∀ e ∈ effects, ¬ Touches q e)
    (hs : AwayFrom q p.streams) : (effects.foldl Playing.play p).tree.node? q = p.tree.node? q := by
  induction effects generalizing p with
  | nil => rfl
  | cons e effects ih =>
    obtain ⟨hfirst, hrest⟩ := List.forall_mem_cons.mp he
    exact (ih hrest (away_play (not_or.mp hfirst).1 hs)).trans (node?_play hfirst hs)

theorem none_play (he : ¬ Makes q e) (hs : AwayFrom q p.streams) (h : p.tree.node? q = none) :
    (p.play e).tree.node? q = none := by
  by_cases htakes : Takes q e
  · have hne : q ≠ [] := by
      rintro rfl
      cases h
    cases e with
    | say | put | write => cases htakes
    | remove place => exact htakes ▸ node?_remove_self (htakes ▸ hne)
    | move old new => exact node?_move_old hne htakes he
  · exact (node?_play (not_or.mpr ⟨he, htakes⟩) hs).trans h

theorem none_foldl_play {effects : List Effect} (he : ∀ e ∈ effects, ¬ Makes q e)
    (hs : AwayFrom q p.streams) (h : p.tree.node? q = none) :
    (effects.foldl Playing.play p).tree.node? q = none := by
  induction effects generalizing p with
  | nil => exact h
  | cons e effects ih =>
    obtain ⟨hfirst, hrest⟩ := List.forall_mem_cons.mp he
    exact ih hrest (away_play hfirst hs) (none_play hfirst hs h)

theorem here_sayThrough (t : Tree) (handle : Option Handle) (octets : ByteArray) :
    (Playing.sayThrough t handle octets).1.here = t.here := by
  cases handle with
  | none => rfl
  | some x => exact here_fill

/-- An effect takes what is at a location, or a directory above it, elsewhere. -/
def Carries (q : Location) : Effect → Prop
  | .move old _ => old <+: q
  | .say .. | .put .. | .write .. | .remove _ => False

theorem here_play (he : ¬ Carries p.tree.here e) : (p.play e).tree.here = p.tree.here := by
  cases e with
  | say channel octets =>
    rw [Playing.play]
    split <;> exact here_sayThrough p.tree _ octets
  | put | remove => rfl
  | write place offset octets => exact here_fill
  | move old new => exact moved_of_not he

theorem here_foldl_play {effects : List Effect} (he : ∀ e ∈ effects, ¬ Carries p.tree.here e) :
    (effects.foldl Playing.play p).tree.here = p.tree.here := by
  induction effects generalizing p with
  | nil => rfl
  | cons e effects ih =>
    obtain ⟨hfirst, hrest⟩ := List.forall_mem_cons.mp he
    have hhere := here_play hfirst
    rw [List.foldl_cons, ih (by rwa [hhere]), hhere]

end Playing

end Cosim.Proofs.Files.Changes
