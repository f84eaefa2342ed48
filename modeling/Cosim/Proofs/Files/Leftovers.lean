import Cosim.Proofs.Files.Changes
import Cosim.Proofs.Files.Ways

namespace Cosim.Proofs.Files.Leftovers

open Cosim.Files Cosim.Files.Tree Cosim.Run Cosim.Proofs.Files.Changes Cosim.Proofs.Files.Ways

def without (places : List Location) (t : Tree) : Tree :=
  ⟨t.entries.filter fun e => !places.contains e.1, t.here⟩

/-- The same, but for whether a file may be run. -/
def Equal (a b : Option Node) : Prop :=
  a = b ∨ ∃ content x y, a = some (.file content x) ∧ b = some (.file content y)

def IsPlain : Option Node → Prop
  | none | some (.file ..) => True
  | some .directory | some (.device _) => False

/-- The same, or each of them nothing or a file. -/
def Similar (a b : Option Node) : Prop := a = b ∨ IsPlain a ∧ IsPlain b

section Nodes

variable {a b : Option Node} {t t' : Tree} {place : Location}

theorem Equal.similar (h : Equal a b) : Similar a b := by
  rcases h with rfl | ⟨content, x, y, rfl, rfl⟩
  · exact .inl rfl
  · exact .inr ⟨trivial, trivial⟩

theorem Similar.devices (h : Similar a b) :
    (a = b ∧ a.any Node.isDevice = true) ∨
      a.any Node.isDevice = false ∧ b.any Node.isDevice = false := by
  have hplain : ∀ {a : Option Node}, IsPlain a → a.any Node.isDevice = false := by
    intro a ha
    cases a with
    | none => rfl
    | some node => cases node <;> first | rfl | cases ha
  rcases h with rfl | ⟨ha, hb⟩
  · cases hdevice : a.any Node.isDevice with
    | true => exact .inl ⟨rfl, rfl⟩
    | false => exact .inr ⟨rfl, rfl⟩
  · exact .inr ⟨hplain ha, hplain hb⟩

theorem Similar.device_iff (h : Similar a b) (d : Device) :
    a = some (.device d) ↔ b = some (.device d) := by
  rcases h with rfl | ⟨ha, hb⟩
  · rfl
  · constructor
    · rintro rfl
      cases ha
    · rintro rfl
      cases hb

theorem IsPlain.shut_eq (h : IsPlain a) : shut a = none := by
  cases a with
  | none => rfl
  | some node => cases node <;> first | rfl | cases h

theorem Similar.shut_eq (h : Similar a b) : shut a = shut b := by
  rcases h with rfl | ⟨ha, hb⟩
  · rfl
  · rw [ha.shut_eq, hb.shut_eq]

theorem content_eq_of_equal (h : Equal (t.node? place) (t'.node? place)) :
    t.content place = t'.content place := by
  rw [content, content]
  rcases h with h | ⟨c, x, y, h, h'⟩
  · rw [h]
  · rw [h, h']

end Nodes

/-- Trees that are the same but for leftovers at some locations, and that hold the same at those of
the locations that are fresh. -/
structure Alike (places : List Location) (IsFresh : Location → Prop) (t t' : Tree) : Prop where
  without_eq : without places t = without places t'
  similar : ∀ q ∈ places, Similar (t.node? q) (t'.node? q)
  equal : ∀ q ∈ places, IsFresh q → Equal (t.node? q) (t'.node? q)

section Without

variable {places : List Location} {t t' : Tree} {q : Location} {node : Node}

theorem node?_without (h : q ∉ places) : (without places t).node? q = t.node? q := by
  have hlookup : ∀ entries : List (Location × Node),
      (entries.filter fun e => !places.contains e.1).lookup q = entries.lookup q := by
    intro entries
    induction entries with
    | nil => rfl
    | cons e rest ih =>
      by_cases he : e.1 ∈ places
      · have hne : (q == e.1) = false := beq_false_of_ne fun hq => h (hq ▸ he)
        rw [List.filter_cons_of_neg (by simpa using he), ih, List.lookup_cons, hne]
      · rw [List.filter_cons_of_pos (by simpa using he), List.lookup_cons, List.lookup_cons, ih]
  rw [node?, node?, without, hlookup]

theorem without_set_of_mem (h : q ∈ places) : without places (t.set q node) = without places t := by
  rw [without, without, Tree.set, List.filter_cons_of_neg (by simpa using h), List.filter_filter]
  congr 1
  refine List.filter_congr fun e _ => ?_
  by_cases he : e.1 ∈ places
  · simp [he]
  · have hne : e.1 ≠ q := fun hq => he (hq ▸ h)
    simp [he, hne]

theorem without_fill (h : q ∈ places) (content : ByteArray) :
    without places (t.fill q content) = without places t := by
  rw [fill]
  split
  · rfl
  · exact without_set_of_mem h

theorem without_set (h : without places t = without places t') :
    without places (t.set q node) = without places (t'.set q node) := by
  by_cases hq : q ∈ places
  · rw [without_set_of_mem hq, without_set_of_mem hq, h]
  · obtain ⟨hentries, hhere⟩ := Tree.mk.inj h
    rw [without, without, Tree.set, Tree.set, List.filter_cons_of_pos (by simpa using hq),
      List.filter_cons_of_pos (by simpa using hq), List.filter_comm, hentries, List.filter_comm,
      hhere]

theorem without_remove (h : without places t = without places t') :
    without places (t.remove q) = without places (t'.remove q) := by
  obtain ⟨hentries, hhere⟩ := Tree.mk.inj h
  rw [without, without, remove, remove, List.filter_comm, hentries, List.filter_comm, hhere]

theorem without_move {old new : Location} (hspared : ∀ q ∈ places, ¬ old <+: q)
    (h : without places t = without places t') :
    without places (t.move old new) = without places (t'.move old new) := by
  -- what is at the locations stays there, so that the rest is moved by itself
  have hmove : ∀ (f : Location × Node → Location × Node) (entries : List (Location × Node)),
      (∀ e, (f e).1 = moved old new e.1) →
      ((entries.filter (·.1 != new)).map f).filter (fun e => !places.contains e.1) =
        (((entries.filter fun e => !places.contains e.1).filter (·.1 != new)).map f).filter
          fun e => !places.contains e.1 := by
    intro f entries hf
    rw [List.filter_map, List.filter_map, List.filter_filter, List.filter_filter,
      List.filter_filter]
    congr 1
    refine List.filter_congr fun e _ => ?_
    by_cases he : e.1 ∈ places
    · simp [he, hf, moved_of_not (hspared e.1 he)]
    · simp [he]
  obtain ⟨hentries, hhere⟩ := Tree.mk.inj h
  rw [without, without, move, move, remove, remove, hmove _ _ fun _ => rfl, hentries,
    ← hmove _ _ fun _ => rfl, hhere]

end Without

namespace Alike

variable {places : List Location} {IsFresh : Location → Prop} {t t' : Tree} {q : Location}

theorem here_eq (h : Alike places IsFresh t t') : t.here = t'.here :=
  (Tree.mk.inj h.without_eq).2

theorem node?_eq (h : Alike places IsFresh t t') (hq : q ∉ places) : t.node? q = t'.node? q := by
  rw [← node?_without hq, h.without_eq, node?_without hq]

theorem similar_all (h : Alike places IsFresh t t') (q : Location) :
    Similar (t.node? q) (t'.node? q) := by
  by_cases hq : q ∈ places
  · exact h.similar q hq
  · exact .inl (h.node?_eq hq)

/-- Whether a location holds the same in both trees. -/
def IsSure (places : List Location) (IsFresh : Location → Prop) (q : Location) : Prop :=
  q ∈ places → IsFresh q

theorem equal_of_sure (h : Alike places IsFresh t t') (hq : IsSure places IsFresh q) :
    Equal (t.node? q) (t'.node? q) := by
  by_cases hm : q ∈ places
  · exact h.equal q hm (hq hm)
  · exact .inl (h.node?_eq hm)

theorem mono {IsFresh' : Location → Prop} (h : Alike places IsFresh t t')
    (hf : ∀ q, IsFresh' q → IsFresh q) : Alike places IsFresh' t t' :=
  ⟨h.without_eq, h.similar, fun q hq hfresh => h.equal q hq (hf q hfresh)⟩

theorem change {u u' : Tree} (h : Alike places IsFresh t t')
    (hwithout : without places u = without places u')
    (hother : ∀ r ∈ places, r ≠ q → u.node? r = t.node? r ∧ u'.node? r = t'.node? r)
    (hself : q ∈ places → Equal (u.node? q) (u'.node? q)) :
    Alike places (fun r => r = q ∨ IsFresh r) u u' where
  without_eq := hwithout
  similar r hr := by
    by_cases hrq : r = q
    · exact (hrq ▸ hself (hrq ▸ hr)).similar
    · rw [(hother r hr hrq).1, (hother r hr hrq).2]
      exact h.similar r hr
  equal r hr hfresh := by
    by_cases hrq : r = q
    · exact hrq ▸ hself (hrq ▸ hr)
    · rw [(hother r hr hrq).1, (hother r hr hrq).2]
      exact h.equal r hr (hfresh.resolve_left hrq)

theorem set (h : Alike places IsFresh t t') (q : Location) (node : Node) :
    Alike places (fun r => r = q ∨ IsFresh r) (t.set q node) (t'.set q node) := by
  refine h.change (without_set h.without_eq)
    (fun r _ hr => ⟨node?_set_of_ne t node hr, node?_set_of_ne t' node hr⟩) fun _ => .inl ?_
  by_cases hq : q = []
  · rw [hq]
    rfl
  · rw [node?_set_self t node hq, node?_set_self t' node hq]

theorem remove (h : Alike places IsFresh t t') (q : Location) :
    Alike places (fun r => r = q ∨ IsFresh r) (t.remove q) (t'.remove q) := by
  refine h.change (without_remove h.without_eq)
    (fun r _ hr => ⟨node?_remove_of_ne hr, node?_remove_of_ne hr⟩) fun _ => .inl ?_
  by_cases hq : q = []
  · rw [hq]
    rfl
  · rw [node?_remove_self hq, node?_remove_self hq]

theorem move {old new : Location} (h : Alike places IsFresh t t')
    (hold : ∀ q ∈ places, ¬ old <+: q) (hnew : ∀ q ∈ places, new <+: q → new = q) :
    Alike places (fun r => r = new ∨ IsFresh r) (t.move old new) (t'.move old new) := by
  refine h.change (without_move hold h.without_eq) (fun r hr hne => ?_) fun hmem => .inl ?_
  · have hbelow : ¬ new <+: r := fun hp => hne (hnew r hr hp).symm
    exact ⟨node?_move_of_not (hold r hr) hbelow, node?_move_of_not (hold r hr) hbelow⟩
  · have hempty : old ≠ [] := fun he => hold new hmem (he ▸ List.nil_prefix)
    have hnode := h.node?_eq (q := old) fun he => hold old he List.prefix_rfl
    rw [node?_move_new hempty (hold new hmem), node?_move_new hempty (hold new hmem), hnode]

theorem fill (h : Alike places IsFresh t t') (q : Location) (content : ByteArray) :
    Alike places (fun r => r = q ∨ IsFresh r) (t.fill q content) (t'.fill q content) := by
  by_cases hq : q ∈ places
  · refine h.change (by rw [without_fill hq, without_fill hq, h.without_eq])
      (fun r _ hr => ⟨node?_fill_of_ne hr, node?_fill_of_ne hr⟩) fun _ => ?_
    by_cases hempty : q = []
    · exact .inl (hempty ▸ rfl)
    rw [node?_fill_self hempty, node?_fill_self hempty]
    rcases (h.similar q hq).devices with ⟨he, hdevice⟩ | ⟨ha, hb⟩
    · rw [← he, if_pos hdevice, if_pos hdevice]
      exact .inl rfl
    · rw [ha, hb]
      exact .inr ⟨content, _, _, rfl, rfl⟩
  · have hnode := h.node?_eq hq
    have hmode : t.mode q = t'.mode q := by rw [mode, mode, hnode]
    rw [Tree.fill, Tree.fill, ← hnode, ← hmode]
    split
    · exact h.change h.without_eq (fun _ _ _ => ⟨rfl, rfl⟩) fun hm => absurd hm hq
    · exact h.set q _

theorem write (h : Alike places IsFresh t t') (q : Location) (offset : Nat) (octets : ByteArray) :
    Alike places IsFresh (t.fill q (overlay (t.content q) offset octets))
      (t'.fill q (overlay (t'.content q) offset octets)) := by
  by_cases hsure : IsSure places IsFresh q
  · rw [content_eq_of_equal (h.equal_of_sure hsure)]
    exact (h.fill q _).mono fun r hr => .inr hr
  · obtain ⟨hq, hstale⟩ := Classical.not_imp.mp hsure
    refine ⟨by rw [without_fill hq, without_fill hq, h.without_eq], fun r hr => ?_,
      fun r hr hfresh => ?_⟩
    · by_cases hrq : r = q
      · subst hrq
        by_cases hempty : r = []
        · exact .inl (hempty ▸ rfl)
        rw [node?_fill_self hempty, node?_fill_self hempty]
        rcases (h.similar r hr).devices with ⟨he, hdevice⟩ | ⟨ha, hb⟩
        · rw [← he, if_pos hdevice, if_pos hdevice]
          exact .inl rfl
        · rw [ha, hb]
          exact .inr ⟨trivial, trivial⟩
      · rw [node?_fill_of_ne hrq, node?_fill_of_ne hrq]
        exact h.similar r hr
    · have hrq : r ≠ q := fun he => hstale (he ▸ hfresh)
      rw [node?_fill_of_ne hrq, node?_fill_of_ne hrq]
      exact h.equal r hr hfresh

end Alike

/-- An effect puts something new at a location, or nothing. -/
def Renews (q : Location) : Effect → Prop
  | .put place _ | .remove place => place = q
  | .move _ new => new = q
  | .say .. | .write .. => False

/-- An effect does not carry what is at some locations elsewhere, nor directories over them. -/
def Spares (places : List Location) : Effect → Prop
  | .move old new => ∀ q ∈ places, ¬ old <+: q ∧ (new <+: q → new = q)
  | .say .. | .put .. | .write .. | .remove _ => True

section Playing

variable {places : List Location} {IsFresh : Location → Prop} {p p' : Playing} {e : Effect}
  {effects : List Effect}

theorem alike_sayThrough {t t' : Tree} (h : Alike places IsFresh t t') (handle : Option Handle)
    (octets : ByteArray) :
    Alike places IsFresh (Playing.sayThrough t handle octets).1
        (Playing.sayThrough t' handle octets).1 ∧
      (Playing.sayThrough t handle octets).2 = (Playing.sayThrough t' handle octets).2 := by
  cases handle with
  | none => exact ⟨h, rfl⟩
  | some x => exact ⟨h.write x.place x.offset octets, rfl⟩

theorem alike_play (h : Alike places IsFresh p.tree p'.tree) (hs : p.streams = p'.streams)
    (he : Spares places e) :
    Alike places (fun q => Renews q e ∨ IsFresh q) (p.play e).tree (p'.play e).tree ∧
      (p.play e).streams = (p'.play e).streams := by
  cases e with
  | say channel octets =>
    rw [Playing.play, Playing.play, ← hs]
    split
    · obtain ⟨htree, hhandle⟩ := alike_sayThrough h p.streams.output octets
      exact ⟨htree.mono fun q hq => hq.resolve_left id,
        congrArg (fun output => { p.streams with output := output }) hhandle⟩
    · obtain ⟨htree, hhandle⟩ := alike_sayThrough h p.streams.errors octets
      exact ⟨htree.mono fun q hq => hq.resolve_left id,
        congrArg (fun errors => { p.streams with errors := errors }) hhandle⟩
  | put place node =>
    exact ⟨(h.set place node).mono fun q hq => hq.imp_left Eq.symm, hs⟩
  | write place offset octets =>
    exact ⟨(h.write place offset octets).mono fun q hq => hq.resolve_left id, hs⟩
  | remove place =>
    exact ⟨(h.remove place).mono fun q hq => hq.imp_left Eq.symm,
      congrArg (Playing.follow (Playing.spare place)) hs⟩
  | move old new =>
    exact ⟨(h.move (fun q hq => (he q hq).1) fun q hq => (he q hq).2).mono
      fun q hq => hq.imp_left Eq.symm, by rw [Playing.play, Playing.play, hs]⟩

theorem alike_foldl_play (h : Alike places IsFresh p.tree p'.tree) (hs : p.streams = p'.streams)
    (he : ∀ e ∈ effects, Spares places e) :
    Alike places (fun q => (∃ e ∈ effects, Renews q e) ∨ IsFresh q)
      (effects.foldl Playing.play p).tree (effects.foldl Playing.play p').tree := by
  induction effects generalizing p p' IsFresh with
  | nil => exact h.mono fun q hq => hq.resolve_left fun ⟨e, he, _⟩ => nomatch he
  | cons e effects ih =>
    obtain ⟨hfirst, hrest⟩ := List.forall_mem_cons.mp he
    obtain ⟨htree, hstreams⟩ := alike_play h hs hfirst
    refine (ih htree hstreams hrest).mono ?_
    rintro q (⟨x, hx, hq⟩ | hq)
    · rcases List.mem_cons.mp hx with rfl | hx
      · exact .inr (.inl hq)
      · exact .inl ⟨x, hx, hq⟩
    · exact .inr (.inr hq)

end Playing

end Cosim.Proofs.Files.Leftovers
