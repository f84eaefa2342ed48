import Cosim.Proofs.Files.Ways
import Mathlib.Data.List.TakeWhile

namespace Cosim.Proofs.Files.Joining

open Cosim.Files Cosim.Files.Tree Cosim.Text.Blank Cosim.Proofs.Files.Ways Cosim.Proofs.Outcome
  Cosim.Proofs.Text.Words

/-- The pieces of a text that say something. -/
def named (text : String) : List String := (pieces text).filter fun name => !isIdle name

/-- A name that stays in a path. -/
structure IsName (name : String) : Prop where
  no_slash : '/' ∉ name.toList
  not_idle : isIdle name = false

theorem IsName.ne_empty {name : String} (h : IsName name) : name ≠ "" := by
  rintro rfl
  exact absurd h.not_idle (by decide)

section Pieces

variable {text x name d : String} {names : List String}

theorem ofString_eq (text : String) : Path.ofString text = ⟨Path.slashesOf text, named text⟩ := rfl

theorem pieces_append (a b : String) : pieces (a ++ "/" ++ b) = pieces a ++ pieces b := by
  have htext : (a ++ "/" ++ b).toList = a.toList ++ '/' :: b.toList := by simp
  rw [pieces, htext, cut_eq_splitOnP, List.splitOnP_append_cons _ _ rfl, ← cut_eq_splitOnP,
    ← cut_eq_splitOnP, List.map_append, pieces, pieces]

theorem pieces_of_no_slash (h : '/' ∉ x.toList) : pieces x = [x] := by
  have hcut : cut (· == '/') x.toList = [x.toList] := by
    rw [cut_eq_splitOnP]
    exact List.splitOnP_eq_singleton fun c hc => beq_false_of_ne fun he => h (he ▸ hc)
  rw [pieces, hcut, List.map_singleton, String.ofList_toList]

theorem startsWith_of_no_slash (h : '/' ∉ x.toList) : x.startsWith "/" = false := by
  rw [← Bool.not_eq_true, String.startsWith_string_iff]
  exact fun hfront => h (hfront.subset (by simp))

theorem endsWith_iff : d.endsWith "/" = true ↔ ∃ e, d = e ++ "/" := by
  have hslice : d.endsWith "/" = true ↔ "/".toList <:+ d.toList := by
    rw [← String.copy_toSlice (s := d), ← String.Slice.endsWith_string_iff, String.copy_toSlice]
    rfl
  rw [hslice]
  constructor
  · rintro ⟨front, hfront⟩
    refine ⟨String.ofList front, ?_⟩
    rw [← String.toList_inj, ← hfront]
    simp
  · rintro ⟨e, rfl⟩
    exact ⟨e.toList, by simp⟩

/-- What is put behind the text of a directory stands behind one slash there. -/
theorem exists_joinText (hd : d ≠ "") : ∃ e, (d = e ++ "/" ∨ d = e ∧ e.endsWith "/" = false) ∧
    ∀ x : String, x.startsWith "/" = false → joinText d x = e ++ "/" ++ x := by
  have hempty : d.isEmpty = false := by simpa using hd
  cases hend : d.endsWith "/" with
  | true =>
    obtain ⟨e, rfl⟩ := endsWith_iff.mp hend
    refine ⟨e, .inl rfl, fun x hx => ?_⟩
    rw [joinText, hx, hempty, hend]
    rfl
  | false =>
    refine ⟨d, .inr ⟨rfl, hend⟩, fun x hx => ?_⟩
    rw [joinText, hx, hempty, hend]
    rfl

theorem joinText_empty (x : String) : joinText "" x = x := by
  rw [joinText]
  simp

theorem named_append (a b : String) : named (a ++ "/" ++ b) = named a ++ named b := by
  rw [named, pieces_append, List.filter_append, named, named]

theorem exists_front (d : String) : ∃ front, (front.filter fun name => !isIdle name) = named d ∧
    ∀ x : String, x.startsWith "/" = false → pieces (joinText d x) = front ++ pieces x := by
  by_cases hd : d = ""
  · subst hd
    exact ⟨[], rfl, fun x _ => by rw [joinText_empty, List.nil_append]⟩
  · obtain ⟨e, hde, hjoin⟩ := exists_joinText hd
    refine ⟨pieces e, ?_, fun x hx => by rw [hjoin x hx, pieces_append]⟩
    rcases hde with rfl | ⟨rfl, -⟩
    · have htop := named_append e ""
      rw [String.append_empty] at htop
      rw [htop]
      simp [named, pieces, cut, isIdle]
    · rfl

theorem named_joinText (hx : x.startsWith "/" = false) :
    named (joinText d x) = named d ++ named x := by
  obtain ⟨front, hfront, hpieces⟩ := exists_front d
  rw [named, hpieces x hx, List.filter_append, hfront]
  rfl

theorem joinText_ne_empty (hx : x.startsWith "/" = false) (hne : x ≠ "") : joinText d x ≠ "" := by
  by_cases hd : d = ""
  · subst hd
    rwa [joinText_empty]
  · obtain ⟨e, -, hjoin⟩ := exists_joinText hd
    rw [hjoin x hx]
    simp

theorem startsWith_eq_false : text.startsWith "/" = false ↔
    text.toList.takeWhile (· == '/') = [] := by
  rw [← Bool.not_eq_true, String.startsWith_string_iff]
  cases htext : text.toList with
  | nil => simp
  | cons c rest =>
    have htop : "/".toList <+: c :: rest ↔ c = '/' := by
      rw [show "/".toList = ['/'] from rfl, List.cons_prefix_cons, eq_comm]
      exact and_iff_left List.nil_prefix
    rw [htop]
    by_cases hc : c = '/'
    · simp [hc]
    · simp [List.takeWhile_cons_of_neg, hc]

/-- Slashes that a text begins with are not more if something else follows. -/
theorem slashesOf_append (front : String) (hx : x.startsWith "/" = false) :
    Path.slashesOf (front ++ x) = Path.slashesOf front := by
  have htake : (front ++ x).toList.takeWhile (· == '/') =
      front.toList.takeWhile (· == '/') := by
    rw [String.toList_append, List.takeWhile_append]
    split_ifs with hall
    · rw [startsWith_eq_false.mp hx, List.append_nil]
      exact ((List.takeWhile_prefix _).eq_of_length hall).symm
    · rfl
  rw [Path.slashesOf, htake]
  rfl

theorem slashesOf_back (hend : x.endsWith "/" = false) (hne : x ≠ "") (back : String) :
    Path.slashesOf (x ++ back) = Path.slashesOf x := by
  have hlast : ¬ "/".toList <:+ x.toList := by
    rw [← String.copy_toSlice (s := x)]
    exact String.Slice.endsWith_string_eq_false_iff.mp hend
  have htake : (x ++ back).toList.takeWhile (· == '/') = x.toList.takeWhile (· == '/') := by
    rw [String.toList_append, List.takeWhile_append]
    split_ifs with hall
    · have hslashes : x.toList.takeWhile (· == '/') = x.toList :=
        (List.takeWhile_prefix _).eq_of_length hall
      have hne' : x.toList ≠ [] := by simpa using hne
      have hmem : x.toList.getLast hne' ∈ x.toList.takeWhile (· == '/') := by
        rw [hslashes]
        exact List.getLast_mem hne'
      have hc := List.mem_takeWhile_imp hmem
      have hparts := List.dropLast_concat_getLast hne'
      rw [beq_iff_eq.mp hc] at hparts
      exact absurd ⟨_, hparts⟩ hlast
    · rfl
  rw [Path.slashesOf, htake]
  rfl

theorem slashesOf_joinText (hx : x.startsWith "/" = false) :
    Path.slashesOf (joinText d x) = Path.slashesOf d := by
  by_cases hd : d = ""
  · subst hd
    rw [joinText_empty, Path.slashesOf, startsWith_eq_false.mp hx]
    rfl
  · obtain ⟨e, hde, hjoin⟩ := exists_joinText hd
    rw [hjoin x hx, slashesOf_append _ hx]
    rcases hde with rfl | ⟨rfl, hend⟩
    · rfl
    · exact slashesOf_back hend hd "/"

theorem pieces_joined (h : ∀ name ∈ names, '/' ∉ name.toList) (hne : names ≠ []) :
    pieces (Path.joined names) = names := by
  induction names with
  | nil => exact absurd rfl hne
  | cons name rest ih =>
    obtain ⟨hname, hrest⟩ := List.forall_mem_cons.mp h
    by_cases htail : rest = []
    · rw [htail, Path.joined, String.intercalate_singleton, pieces_of_no_slash hname]
    · rw [Path.joined, String.intercalate_cons_of_ne_nil htail, ← Path.joined, pieces_append,
        pieces_of_no_slash hname, ih hrest htail, List.singleton_append]

theorem named_joined (h : ∀ name ∈ names, IsName name) : named (Path.joined names) = names := by
  by_cases hne : names = []
  · subst hne
    rfl
  · rw [named, pieces_joined (fun name hname => (h name hname).no_slash) hne]
    refine List.filter_eq_self.mpr fun name hname => ?_
    rw [(h name hname).not_idle]
    rfl

theorem startsWith_joined_cons (hname : IsName name) (rest : List String) :
    (Path.joined (name :: rest)).startsWith "/" = false := by
  have hne : name.toList ≠ [] := by simpa using hname.ne_empty
  obtain ⟨c, tail, htext⟩ := List.exists_cons_of_ne_nil hne
  have hc : c ≠ '/' := fun he => hname.no_slash (by simp [htext, he])
  have hfront : ∃ back, (Path.joined (name :: rest)).toList = name.toList ++ back := by
    by_cases htail : rest = []
    · exact ⟨[], by rw [htail, Path.joined, String.intercalate_singleton, List.append_nil]⟩
    · refine ⟨'/' :: (Path.joined rest).toList, ?_⟩
      rw [Path.joined, String.intercalate_cons_of_ne_nil htail, ← Path.joined]
      simp
  obtain ⟨back, hback⟩ := hfront
  rw [startsWith_eq_false, hback, htext, List.cons_append]
  exact List.takeWhile_cons_of_neg (by simpa using hc)

theorem startsWith_joined (h : ∀ name ∈ names, IsName name) :
    (Path.joined names).startsWith "/" = false := by
  cases names with
  | nil => decide +kernel
  | cons name rest => exact startsWith_joined_cons (List.forall_mem_cons.mp h).1 rest

end Pieces

section Starts

variable {t : Tree} {text d name : String} {place q : Location} {names : List String}

/-- Where the names of a path are followed from. -/
def root (here : Location) (slashes : Nat) : Location := if slashes = 0 then here else []

theorem origin_eq_root (here : Location) (text : String) :
    origin here text = root here (Path.slashesOf text) := by
  have hzero : Path.slashesOf text = 0 ↔ text.startsWith "/" = false := by
    rw [startsWith_eq_false, Path.slashesOf]
    split <;> simp_all
  rw [origin, root]
  cases hstart : text.startsWith "/" with
  | true =>
    have hne : Path.slashesOf text ≠ 0 := fun h => by simp [hzero.mp h] at hstart
    rw [if_pos rfl, if_neg hne]
  | false => rw [if_neg (by decide), if_pos (hzero.mpr hstart)]

theorem walk_filter (h : t.walk place names = .ok q) :
    t.walk place (names.filter fun name => !isIdle name) = .ok q := by
  induction names generalizing place with
  | nil => exact h
  | cons name rest ih =>
    rw [walk_cons] at h
    cases hbar : bar (t.node? place) with
    | some e =>
      rw [hbar] at h
      cases h
    | none =>
      rw [hbar] at h
      dsimp only at h
      split_ifs at h with htaken
      cases hidle : isIdle name with
      | true =>
        rw [next, if_pos hidle] at h
        rw [List.filter_cons_of_neg (by simp [hidle])]
        exact ih h
      | false =>
        rw [List.filter_cons_of_pos (by simp [hidle]), walk_cons, hbar]
        dsimp only
        rw [if_pos htaken]
        exact ih h

theorem directory_of_walk (h : t.walk place names = .ok q) (hne : names ≠ []) :
    t.node? place = some .directory := by
  obtain ⟨name, rest, rfl⟩ := List.exists_cons_of_ne_nil hne
  exact (walk_eq_ok.mp h).1 place List.mem_cons_self

theorem walk_of_filter (h : t.walk place (names.filter fun name => !isIdle name) = .ok q)
    (hq : t.node? q = some .directory) : t.walk place names = .ok q := by
  induction names generalizing place with
  | nil => exact h
  | cons name rest ih =>
    cases hidle : isIdle name with
    | true =>
      rw [List.filter_cons_of_neg (by simp [hidle])] at h
      -- a name that says nothing is taken only in a directory
      have hplace : t.node? place = some .directory := by
        by_cases hne : (rest.filter fun name => !isIdle name) = []
        · rw [hne] at h
          obtain rfl := Except.ok.inj h
          exact hq
        · exact directory_of_walk h hne
      rw [walk_cons, bar_eq_none.mpr hplace]
      dsimp only
      rw [if_pos (by simp [isTaken, hidle]), next, if_pos hidle]
      exact ih h
    | false =>
      rw [List.filter_cons_of_pos (by simp [hidle]), walk_cons] at h
      rw [walk_cons]
      cases hbar : bar (t.node? place) with
      | some e =>
        rw [hbar] at h
        cases h
      | none =>
        rw [hbar] at h
        dsimp only at h ⊢
        split_ifs at h ⊢
        exact ih h

theorem walk_of_locate (h : t.locate text = .ok q) :
    t.walk (root t.here (Path.slashesOf text)) (named text) = .ok q := by
  rw [locate_eq] at h
  split_ifs at h
  rw [← origin_eq_root]
  exact walk_filter h

theorem locate_of_walk (hne : text ≠ "") (hsize : text.utf8ByteSize ≤ pathLimit)
    (h : t.walk (root t.here (Path.slashesOf text)) (named text) = .ok q)
    (hq : t.node? q = some .directory) : t.locate text = .ok q := by
  rw [locate_eq, if_neg (by simpa using hne), if_neg (by omega), origin_eq_root]
  exact walk_of_filter h hq

theorem locate_joinText (hname : IsName name)
    (h : t.walk (root t.here (Path.slashesOf d)) (named d) = .ok place)
    (hplace : t.node? place = some .directory)
    (hsize : (joinText d name).utf8ByteSize ≤ pathLimit) :
    t.locate (joinText d name) = t.walk place [name] := by
  have hstart := startsWith_of_no_slash hname.no_slash
  obtain ⟨front, hfront, hpieces⟩ := exists_front d
  rw [← hfront] at h
  have hne := joinText_ne_empty (d := d) hstart hname.ne_empty
  rw [locate_eq, if_neg (by simpa using hne), if_neg (by omega), origin_eq_root,
    slashesOf_joinText hstart, hpieces name hstart, pieces_of_no_slash hname.no_slash, walk_append,
    walk_of_filter h hplace]
  rfl

/-- A name that says nothing is found behind a directory only. -/
theorem directory_of_locate_idle (hname : '/' ∉ name.toList) (hidle : isIdle name = true)
    (h : t.locate (joinText d name) = .ok q) : t.node? q = some .directory := by
  obtain ⟨front, -, hpieces⟩ := exists_front d
  rw [locate_eq, hpieces name (startsWith_of_no_slash hname), pieces_of_no_slash hname] at h
  split_ifs at h
  rw [walk_append, bind_eq_ok] at h
  obtain ⟨p, -, h⟩ := h
  have hgoal : next p name = q := (walk_eq_ok.mp h).2.2
  rw [next, if_pos hidle] at hgoal
  exact hgoal ▸ directory_of_walk h (List.cons_ne_nil name [])

end Starts

section Paths

variable {t : Tree} {p : Path} {text : String}

/-- A path that is read of a text. -/
structure IsPath (p : Path) : Prop where
  slashes : p.slashes ≤ 2
  names : ∀ name ∈ p.names, IsName name

end Paths

end Cosim.Proofs.Files.Joining
