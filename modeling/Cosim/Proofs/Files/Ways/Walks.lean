import Cosim.Files.Tree
import Cosim.Proofs.Outcome
import Cosim.Proofs.Text.Words

namespace Cosim.Proofs.Files.Ways

open Cosim.Files Cosim.Files.Tree Cosim.Text Cosim.Text.Blank Cosim.Proofs.Outcome
  Cosim.Proofs.Text.Words

def next (place : Location) (name : String) : Location :=
  if isIdle name then place else if name = ".." then place.dropLast else place ++ [name]

def way (place : Location) : List String → List Location
  | [] => []
  | name :: rest => place :: way (next place name) rest

def goal (place : Location) (names : List String) : Location := names.foldl next place

def isTaken (name : String) : Bool :=
  isIdle name || name == ".." || name.utf8ByteSize ≤ nameLimit

/-- Why a walk does not go on from a node. -/
def bar : Option Node → Option Errno
  | some .directory => none
  | some (.file ..) | some (.device _) => some .notDirectory
  | none => some .noEntry

/-- The directories that lead to a location are there. -/
def IsReached (t : Tree) (place : Location) : Prop :=
  ∀ q, q <+: place → q ≠ place → t.node? q = some .directory

/-- Why no file is written over a node. -/
def shut : Option Node → Option Errno
  | some .directory => some .isDirectory
  | some (.device .terminal) => some .noDevice
  | none | some (.file ..) | some (.device _) => none

section Walks

variable {t t' : Tree} {place q : Location} {names : List String} {name : String}

theorem bar_eq_none {node : Option Node} : bar node = none ↔ node = some .directory := by
  cases node with
  | none => simp [bar]
  | some node => cases node <;> simp [bar]

theorem walk_cons (t : Tree) (place : Location) (name : String) (rest : List String) :
    t.walk place (name :: rest) = match bar (t.node? place) with
      | some e => .error e
      | none => if isTaken name then t.walk (next place name) rest else .error .nameTooLong := by
  rw [walk]
  cases t.node? place with
  | none => rfl
  | some node =>
    cases node with
    | file | device => rfl
    | directory =>
      dsimp only [bar, next]
      by_cases hidle : isIdle name = true
      · simp [isTaken, hidle]
      by_cases hup : name = ".."
      · simp [isTaken, hidle, if_pos hup, beq_iff_eq.mpr hup]
      by_cases hlong : nameLimit < name.utf8ByteSize
      · simp [isTaken, hidle, hup, hlong, Nat.not_le.mpr hlong]
      · simp [isTaken, hidle, hup, hlong, Nat.not_lt.mp hlong]

theorem walk_congr (h : ∀ p ∈ way place names, bar (t.node? p) = bar (t'.node? p)) :
    t.walk place names = t'.walk place names := by
  induction names generalizing place with
  | nil => rfl
  | cons name rest ih =>
    obtain ⟨hplace, hrest⟩ := List.forall_mem_cons.mp h
    rw [walk_cons, walk_cons, hplace, ih hrest]

theorem walk_eq_ok : t.walk place names = .ok q ↔
    (∀ p ∈ way place names, t.node? p = some .directory) ∧
      (∀ name ∈ names, isTaken name = true) ∧ goal place names = q := by
  induction names generalizing place with
  | nil => simp [walk, way, goal]
  | cons name rest ih =>
    rw [walk_cons, way, goal, List.foldl_cons, ← goal, List.forall_mem_cons, List.forall_mem_cons,
      ← bar_eq_none]
    cases hb : bar (t.node? place) with
    | some e => simp
    | none =>
      cases hname : isTaken name with
      | true => simp [ih]
      | false => simp

theorem walk_append (a b : List String) :
    t.walk place (a ++ b) = t.walk place a >>= fun q => t.walk q b := by
  induction a generalizing place with
  | nil => rfl
  | cons name a ih =>
    rw [List.cons_append, walk_cons, walk_cons, ih]
    split
    · rfl
    · split <;> rfl

theorem way_append (a b : List String) :
    way place (a ++ b) = way place a ++ way (goal place a) b := by
  induction a generalizing place with
  | nil => rfl
  | cons name a ih =>
    rw [List.cons_append, way, ih, way, List.cons_append]
    rfl

theorem goal_append (a b : List String) : goal place (a ++ b) = goal (goal place a) b :=
  List.foldl_append

theorem IsReached.next (h : IsReached t place) (hplace : t.node? place = some .directory)
    (name : String) : IsReached t (next place name) := by
  have hall : ∀ q, q <+: place → t.node? q = some .directory := by
    intro q hq
    by_cases heq : q = place
    · exact heq ▸ hplace
    · exact h q hq heq
  intro q hq hne
  rw [Ways.next] at hq hne
  split_ifs at hq hne
  · exact hall q hq
  · exact hall q (hq.trans (List.dropLast_prefix place))
  · rcases List.prefix_concat_iff.mp hq with rfl | hq
    · exact absurd rfl hne
    · exact hall q hq

theorem isReached_of_walk (h : IsReached t place) (hwalk : t.walk place names = .ok q) :
    IsReached t q := by
  induction names generalizing place with
  | nil =>
    obtain rfl := Except.ok.inj hwalk
    exact h
  | cons name rest ih =>
    rw [walk_cons] at hwalk
    cases hbar : bar (t.node? place) with
    | some e =>
      rw [hbar] at hwalk
      cases hwalk
    | none =>
      rw [hbar] at hwalk
      dsimp only at hwalk
      split_ifs at hwalk
      exact ih (h.next (bar_eq_none.mp hbar) name) hwalk

theorem directory_of_walk_up (h : IsReached t place)
    (hwalk : t.walk place (names ++ [".."]) = .ok q) : t.node? q = some .directory := by
  rw [walk_append, bind_eq_ok] at hwalk
  obtain ⟨p, hp, hwalk⟩ := hwalk
  obtain ⟨hdir, -, hgoal⟩ := walk_eq_ok.mp hwalk
  obtain rfl : p.dropLast = q := hgoal
  have hthere : t.node? p = some .directory := hdir p List.mem_cons_self
  by_cases heq : p.dropLast = p
  · exact heq.symm ▸ hthere
  · exact isReached_of_walk h hp _ (List.dropLast_prefix p) heq

end Walks

end Cosim.Proofs.Files.Ways
