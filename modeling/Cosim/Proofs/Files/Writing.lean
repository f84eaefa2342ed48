import Cosim.Proofs.Files.Changes
import Cosim.Proofs.Files.Ways

namespace Cosim.Proofs.Files.Writing

open Cosim.Files Cosim.Files.Tree Cosim.Text Cosim.Text.Blank Cosim.Proofs.Files.Changes
  Cosim.Proofs.Files.Ways Cosim.Proofs.Outcome

variable {t t' : Tree} {path other : String} {place q : Location} {content : ByteArray}
  {octets : List UInt8}

/-- A node lets a file be written over it. Where none is, the directory has to be there. -/
def IsOpen (t : Tree) (place : Location) : Prop :=
  shut (t.node? place) = none ∧
    (t.node? place = none → t.node? place.dropLast = some .directory)

theorem stem_eq_self (h : path.endsWith "/" = false) :
    String.ofList (dropEndWhile (· == '/') path.toList) = path := by
  have hdrop : dropEndWhile (· == '/') path.toList = path.toList := by
    refine List.rdropWhile_eq_self_iff.mpr fun hne hlast => ?_
    have hend : ¬ "/".toList <:+ path.toList := by
      rw [← String.copy_toSlice (s := path)]
      exact String.Slice.endsWith_string_eq_false_iff.mp h
    have hslash : path.toList.getLast hne = '/' := by simpa using hlast
    refine hend ⟨path.toList.dropLast, ?_⟩
    have hparts := List.dropLast_concat_getLast hne
    rwa [hslash] at hparts
  rw [hdrop, String.ofList_toList]

theorem target_eq_ok : t.target path = .ok place ↔
    path.endsWith "/" = false ∧ t.locate path = .ok place ∧ IsOpen t place := by
  rw [target, bind_eq_ok]
  cases hend : path.endsWith "/" with
  | true => simp
  | false =>
    rw [stem_eq_self hend, ite_self]
    cases hplace : t.locate path with
    | error e => simp
    | ok q =>
      have hsame : q = place ∧ IsOpen t place ↔ IsOpen t q ∧ q = place := by
        rw [and_comm]
        exact and_congr_left fun hq => by rw [hq]
      simp only [Except.ok.injEq, Bool.false_eq_true, ↓reduceIte, exists_eq_left', true_and]
      rw [hsame, IsOpen]
      cases t.node? q with
      | none =>
        cases t.node? q.dropLast with
        | none => simp [shut]
        | some up => cases up <;> simp [shut]
      | some node =>
        cases node with
        | directory | file => simp [shut]
        | device d => cases d <;> simp [shut]

theorem locate_of_target (h : t.target path = .ok place) : t.locate path = .ok place :=
  (target_eq_ok.mp h).2.1

theorem ne_nil_of_target (h : t.target path = .ok place) : place ≠ [] := by
  rintro rfl
  exact not_directory_of_target h rfl

theorem write_eq_ok : t.write path octets = .ok t' ↔
    ∃ place, t.target path = .ok place ∧
      (t.node? place = some (.device .full) → octets = []) ∧
      t' = t.fill place ⟨octets.toArray⟩ := by
  rw [Tree.write, bind_eq_ok]
  refine exists_congr fun place => and_congr_right fun _ => ?_
  by_cases hfull : t.node? place = some (.device .full)
  · cases octets with
    | nil => simp [hfull, eq_comm, pure, Except.pure]
    | cons octet octets => simp [hfull]
  · simp [hfull, eq_comm, pure, Except.pure]

section Fill

variable (h : t.target path = .ok place)

include h

theorem directory_fill (hq : t.node? q = some .directory) :
    (t.fill place content).node? q = some .directory := by
  refine (node?_fill_of_ne ?_).trans hq
  rintro rfl
  exact not_directory_of_target h hq

theorem locate_fill (hq : t.locate other = .ok q) :
    (t.fill place content).locate other = .ok q :=
  locate_of_kept here_fill (fun _ _ => directory_fill h) hq

theorem target_fill (hq : t.target other = .ok q) :
    (t.fill place content).target other = .ok q := by
  obtain ⟨hend, hlocate, hshut, hup⟩ := target_eq_ok.mp hq
  refine target_eq_ok.mpr ⟨hend, locate_fill h hlocate, ?_⟩
  by_cases heq : q = place
  · subst heq
    rw [IsOpen, node?_fill_self (ne_nil_of_target h)]
    cases hdevice : (t.node? q).any Node.isDevice with
    | true =>
      exact ⟨hshut, fun hnone => directory_fill h (hup hnone)⟩
    | false => exact ⟨rfl, nofun⟩
  · rw [IsOpen, node?_fill_of_ne heq]
    exact ⟨hshut, fun hnone => directory_fill h (hup hnone)⟩

theorem read_fill (hdevice : (t.node? place).any Node.isDevice = false) :
    (t.fill place ⟨octets.toArray⟩).read path = .ok octets := by
  rw [Tree.read, find_of_locate (locate_fill h (locate_of_target h)),
    node?_fill_self (ne_nil_of_target h), hdevice]
  simp [bind, Except.bind]

end Fill

/-- Any text can be written to a file. -/
structure Writable (t : Tree) (path : String) : Prop where
  no_zero : '\x00' ∉ path.toList
  exists_write : ∀ octets, ∃ t', t.write path octets = .ok t'

theorem Writable.fill (hw : Writable t path) (h : t.target other = .ok place) :
    Writable (t.fill place content) path := by
  refine ⟨hw.no_zero, fun octets => ?_⟩
  obtain ⟨t', hwrite⟩ := hw.exists_write octets
  obtain ⟨q, hq, hfull, -⟩ := write_eq_ok.mp hwrite
  refine ⟨_, write_eq_ok.mpr ⟨q, target_fill h hq, fun hnode => hfull ?_, rfl⟩⟩
  by_cases heq : q = place
  · subst heq
    rw [node?_fill_self (ne_nil_of_target h)] at hnode
    split_ifs at hnode
    · exact hnode
    · cases hnode
  · rwa [node?_fill_of_ne heq] at hnode

end Cosim.Proofs.Files.Writing
