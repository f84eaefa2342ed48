import Cosim.Proofs.Files.Ways.Walks

namespace Cosim.Proofs.Files.Ways

open Cosim.Files Cosim.Files.Tree Cosim.Text Cosim.Text.Blank Cosim.Proofs.Outcome
  Cosim.Proofs.Text.Words

section Paths

variable {t t' : Tree} {path : String} {place : Location}

def origin (here : Location) (path : String) : Location := if path.startsWith "/" then [] else here

/-- The locations that a path looks into. -/
def wayTo (here : Location) (path : String) : List Location :=
  way (origin here path) (pieces path)

theorem locate_eq (t : Tree) (path : String) : t.locate path =
    if path.isEmpty then .error .noEntry
    else if pathLimit < path.utf8ByteSize then .error .nameTooLong
    else t.walk (origin t.here path) (pieces path) := rfl

theorem locate_congr (hhere : t.here = t'.here)
    (h : ∀ p ∈ wayTo t.here path, bar (t.node? p) = bar (t'.node? p)) :
    t.locate path = t'.locate path := by
  rw [locate_eq, locate_eq, ← hhere, walk_congr h]

theorem directory_of_locate (h : t.locate path = .ok place) :
    ∀ p ∈ wayTo t.here path, t.node? p = some .directory := by
  rw [locate_eq] at h
  split_ifs at h
  exact (walk_eq_ok.mp h).1

theorem isTaken_of_locate (h : t.locate path = .ok place) :
    ∀ name ∈ pieces path, isTaken name = true := by
  rw [locate_eq] at h
  split_ifs at h
  exact (walk_eq_ok.mp h).2.1

theorem goal_of_locate (h : t.locate path = .ok place) :
    place = goal (origin t.here path) (pieces path) := by
  rw [locate_eq] at h
  split_ifs at h
  exact (walk_eq_ok.mp h).2.2.symm

theorem directory_of_locate_up {front : List String} (hhere : IsReached t t.here)
    (hpieces : pieces path = front ++ [".."]) (h : t.locate path = .ok place) :
    t.node? place = some .directory := by
  have horigin : IsReached t (origin t.here path) := by
    rw [origin]
    split_ifs
    · exact fun q hq hne => absurd (List.prefix_nil.mp hq) hne
    · exact hhere
  rw [locate_eq, hpieces] at h
  split_ifs at h
  exact directory_of_walk_up horigin h

theorem not_directory_of_target (h : t.target path = .ok place) :
    t.node? place ≠ some .directory := by
  rw [target, bind_eq_ok] at h
  obtain ⟨q, -, h⟩ := h
  intro hdir
  have hq : t.node? q ≠ some .directory := by
    intro hq
    rw [hq, ite_self] at h
    cases h
  split at h
  · cases h
  · split at h
    all_goals cases h
    all_goals exact hq hdir

theorem find_eq_ok {node : Node} : t.find path = .ok node ↔
    ∃ place, t.locate path = .ok place ∧ t.node? place = some node := by
  rw [find, bind_eq_ok]
  refine exists_congr fun place => and_congr_right fun _ => ?_
  cases t.node? place <;> simp

theorem isFile_iff : t.isFile path = true ↔ ∃ place content runnable, t.locate path = .ok place ∧
    t.node? place = some (.file content runnable) := by
  constructor
  · intro h
    rw [isFile] at h
    split at h
    · next content runnable hfind =>
      obtain ⟨place, hlocate, hnode⟩ := find_eq_ok.mp hfind
      exact ⟨place, content, runnable, hlocate, hnode⟩
    · cases h
  · rintro ⟨place, content, runnable, hlocate, hnode⟩
    rw [isFile, find_eq_ok.mpr ⟨place, hlocate, hnode⟩]

theorem find_of_locate (h : t.locate path = .ok place) :
    t.find path = match t.node? place with
      | none => .error .noEntry
      | some node => .ok node := by
  rw [find, h]
  rfl

/-- A path still leads where it led if the directories on its way stay. -/
theorem locate_of_kept (hhere : t'.here = t.here)
    (hway : ∀ q ∈ wayTo t.here path, t.node? q = some .directory → t'.node? q = some .directory)
    (h : t.locate path = .ok place) : t'.locate path = .ok place := by
  rw [← h]
  refine locate_congr hhere fun q hq => ?_
  rw [hhere] at hq
  have hdir := directory_of_locate h q hq
  rw [hdir, hway q hq hdir]

/-- What a path leads to stays there if its way and its end do. -/
theorem find_of_kept {node : Node} (hhere : t'.here = t.here)
    (hway : ∀ q ∈ wayTo t.here path, t.node? q = some .directory → t'.node? q = some .directory)
    (hend : ∀ node, t.node? (goal (origin t.here path) (pieces path)) = some node →
      t'.node? (goal (origin t.here path) (pieces path)) = some node)
    (h : t.find path = .ok node) : t'.find path = .ok node := by
  obtain ⟨place, hplace, hnode⟩ := find_eq_ok.mp h
  obtain rfl := goal_of_locate hplace
  exact find_eq_ok.mpr ⟨_, locate_of_kept hhere hway hplace, hend node hnode⟩

theorem read_of_find {octets : List UInt8}
    (hfind : ∀ node, t.find path = .ok node → t'.find path = .ok node)
    (h : t.read path = .ok octets) : t'.read path = .ok octets := by
  rw [Tree.read, bind_eq_ok] at h
  obtain ⟨node, hnode, h⟩ := h
  rw [Tree.read, hfind node hnode]
  exact h

theorem makeDirectories_there {dir : Path} (h : t.locate dir.text = .ok place)
    (hdir : t.node? place = some .directory) : t.makeDirectories dir = (t, none) := by
  have hexists : t.makeDirectory dir.text = .error .exists := by
    rw [makeDirectory, h]
    simp only [bind, Except.bind, hdir]
  have hthere : t.isDirectory dir.text = true := by
    rw [isDirectory, find_of_locate h, hdir]
  have hmake : makeDirectories.make dir t = (t, none) := by
    rw [makeDirectories.make, hexists]
    exact congrArg _ (if_pos hthere)
  rw [makeDirectories]
  cases dir.names.length with
  | zero => exact hmake
  | succ n =>
    rw [makeDirectories.go, hexists]
    exact hmake

end Paths

end Cosim.Proofs.Files.Ways
