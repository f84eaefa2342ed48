import Cosim.Proofs.Files.Ways.Paths

namespace Cosim.Proofs.Files.Ways

open Cosim.Files Cosim.Files.Tree Cosim.Text Cosim.Text.Blank Cosim.Proofs.Outcome
  Cosim.Proofs.Text.Words

/-- A name that stands for itself, and is short enough. -/
structure IsPlainName (name : String) : Prop where
  no_slash : '/' ∉ name.toList
  not_idle : isIdle name = false
  not_up : name ≠ ".."
  short : name.utf8ByteSize ≤ nameLimit

section Children

variable {t t' : Tree} {dir : Path} {name : String} {place : Location}

theorem text_child (h : dir.names ≠ []) (name : String) :
    (dir.child name).text = dir.text ++ "/" ++ name := by
  have hnames : dir.names ++ [name] ≠ [] := by simp
  simp only [Path.text, Path.child, List.isEmpty_eq_false_iff.mpr h,
    List.isEmpty_eq_false_iff.mpr hnames, Bool.and_false, Bool.false_eq_true, ↓reduceIte]
  rw [Path.joined, String.intercalate_append_of_ne_nil h (List.cons_ne_nil name []),
    String.intercalate_singleton, ← String.append_assoc, ← String.append_assoc]
  rfl

theorem pieces_child (h : '/' ∉ name.toList) (path : String) :
    pieces (path ++ "/" ++ name) = pieces path ++ [name] := by
  have hcut : cut (· == '/') name.toList = [name.toList] := by
    rw [cut_eq_splitOnP]
    exact List.splitOnP_eq_singleton fun c hc => beq_false_of_ne fun he => h (he ▸ hc)
  have htext : (path ++ "/" ++ name).toList = path.toList ++ '/' :: name.toList := by simp
  rw [pieces, htext, cut_eq_splitOnP, List.splitOnP_append_cons _ _ rfl, ← cut_eq_splitOnP,
    ← cut_eq_splitOnP, hcut, List.map_append, pieces]
  simp

theorem origin_child (h : dir.names ≠ []) (hd : dir.text ≠ "") (here : Location) (name : String) :
    origin here (dir.child name).text = origin here dir.text := by
  have hne : dir.text.toList ≠ [] := by simpa using hd
  obtain ⟨c, tail, htext⟩ := List.exists_cons_of_ne_nil hne
  have hstart : (dir.child name).text.startsWith "/" = dir.text.startsWith "/" := by
    rw [Bool.eq_iff_iff, String.startsWith_string_iff, String.startsWith_string_iff, text_child h]
    simp [htext]
  rw [origin, origin, hstart]

theorem wayTo_child (h : dir.names ≠ []) (hname : '/' ∉ name.toList) (hd : dir.text ≠ "")
    (here : Location) : wayTo here (dir.child name).text =
      wayTo here dir.text ++ [goal (origin here dir.text) (pieces dir.text)] := by
  rw [wayTo, origin_child h hd, text_child h, pieces_child hname, way_append]
  rfl

theorem goal_singleton (hname : IsPlainName name) (place : Location) :
    goal place [name] = place ++ [name] := by
  rw [goal, List.foldl_cons, List.foldl_nil, next, if_neg (by simp [hname.not_idle]),
    if_neg hname.not_up]

theorem goal_child (h : dir.names ≠ []) (hname : IsPlainName name) (hd : dir.text ≠ "")
    (here : Location) :
    goal (origin here (dir.child name).text) (pieces (dir.child name).text) =
      goal (origin here dir.text) (pieces dir.text) ++ [name] := by
  rw [origin_child h hd, text_child h, pieces_child hname.no_slash, goal_append,
    goal_singleton hname]

theorem ne_empty_of_locate {path : String} (h : t.locate path = .ok place) : path ≠ "" := by
  rintro rfl
  cases h

theorem exists_last (hname : IsPlainName name) : ∃ init c, name.toList = init ++ [c] ∧ c ≠ '/' := by
  have hne : name.toList ≠ [] := by
    intro he
    have hidle := hname.not_idle
    rw [String.toList_eq_nil_iff.mp he] at hidle
    cases hidle
  refine ⟨name.toList.dropLast, name.toList.getLast hne,
    (List.dropLast_concat_getLast hne).symm, ?_⟩
  exact fun he => hname.no_slash (he ▸ List.getLast_mem hne)

/-- The text of an entry does not end with a slash. -/
theorem last_child (h : dir.names ≠ []) (hname : IsPlainName name) :
    String.ofList (dropEndWhile (· == '/') (dir.child name).text.toList) = (dir.child name).text ∧
      (dir.child name).text.endsWith "/" = false := by
  obtain ⟨init, c, hlast, hc⟩ := exists_last hname
  have htext : (dir.child name).text.toList = dir.text.toList ++ '/' :: init ++ [c] := by
    rw [text_child h]
    simp [hlast]
  constructor
  · have hdrop : dropEndWhile (· == '/') (dir.child name).text.toList =
        (dir.child name).text.toList := by
      rw [htext]
      exact List.rdropWhile_concat_neg _ _ _ (by simpa using hc)
    rw [hdrop, String.ofList_toList]
  · show (dir.child name).text.toSlice.endsWith "/" = false
    rw [String.Slice.endsWith_string_eq_false_iff, String.copy_toSlice, htext]
    intro hsuffix
    have hsame := List.IsSuffix.getLast hsuffix (by simp)
    simp at hsame
    exact hc hsame.symm

/-- An entry of a directory can be written unless there is a node that does not let it. -/
theorem target_child (h : dir.names ≠ []) (hname : IsPlainName name) (t : Tree) :
    t.target (dir.child name).text = t.locate (dir.child name).text >>= fun q =>
      match shut (t.node? q) with
      | some e => .error e
      | none => .ok q := by
  obtain ⟨hstem, hend⟩ := last_child h hname
  rw [target, hstem, ite_self, hend]
  cases hplace : t.locate (dir.child name).text with
  | error e => rfl
  | ok q =>
    -- the way leads through the directory of the entry
    have hup : t.node? q.dropLast = some .directory := by
      have hway := directory_of_locate hplace
      rw [goal_of_locate hplace]
      rw [wayTo, text_child h, pieces_child hname.no_slash, way_append] at hway
      rw [text_child h, pieces_child hname.no_slash, goal_append, goal_singleton hname,
        List.dropLast_concat]
      exact hway _ (List.mem_append_right _ (List.mem_singleton_self _))
    simp only [bind, Except.bind, Bool.false_eq_true, ↓reduceIte, hup]
    cases t.node? q with
    | none => rfl
    | some node =>
      cases node with
      | directory | file => rfl
      | device d => cases d <;> rfl

end Children

/-- Where the path of a directory leads from the current directory, if it leads anywhere. -/
structure Leads (here : Location) (dir : Path) (place : Location) : Prop where
  names : dir.names ≠ []
  text : dir.text ≠ ""
  leads : goal (origin here dir.text) (pieces dir.text) = place

section Leads

variable {here place q : Location} {dir : Path} {name : String} {t : Tree}

theorem Leads.way_child (h : Leads here dir place) (hname : IsPlainName name) :
    wayTo here (dir.child name).text = wayTo here dir.text ++ [place] := by
  rw [wayTo_child h.names hname.no_slash h.text, h.leads]

theorem Leads.goal_child (h : Leads here dir place) (hname : IsPlainName name) :
    goal (origin here (dir.child name).text) (pieces (dir.child name).text) = place ++ [name] := by
  rw [Ways.goal_child h.names hname h.text, h.leads]

theorem Leads.place_of_locate (h : Leads here dir place) (hname : IsPlainName name)
    (hhere : t.here = here) (hq : t.locate (dir.child name).text = .ok q) :
    q = place ++ [name] := by
  rw [goal_of_locate hq, hhere, h.goal_child hname]

theorem Leads.locate_of_target (h : Leads here dir place) (hname : IsPlainName name)
    (hhere : t.here = here) (hq : t.target (dir.child name).text = .ok q) :
    t.locate (dir.child name).text = .ok (place ++ [name]) ∧ q = place ++ [name] := by
  rw [target_child h.names hname, bind_eq_ok] at hq
  obtain ⟨q', hlocate, hq⟩ := hq
  obtain rfl : q' = q := by
    cases hshut : shut (t.node? q') with
    | none =>
      rw [hshut] at hq
      exact Except.ok.inj hq
    | some e =>
      rw [hshut] at hq
      cases hq
  obtain rfl := h.place_of_locate hname hhere hlocate
  exact ⟨hlocate, rfl⟩

theorem Leads.place_of_target (h : Leads here dir place) (hname : IsPlainName name)
    (hhere : t.here = here) (hq : t.target (dir.child name).text = .ok q) : q = place ++ [name] :=
  (h.locate_of_target hname hhere hq).2

theorem pieces_slashes (n : Nat) (text : List Char) (h : '/' ∉ text) :
    pieces (String.ofList (List.replicate n '/' ++ text)) =
      List.replicate n "" ++ [String.ofList text] := by
  have hcut : ∀ n, Cosim.Text.Blank.cut (· == '/') (List.replicate n '/' ++ text) =
      List.replicate n [] ++ [text] := by
    intro n
    induction n with
    | zero =>
      rw [cut_eq_splitOnP]
      exact List.splitOnP_eq_singleton fun c hc => beq_false_of_ne fun he => h (he ▸ hc)
    | succ n ih =>
      rw [cut_eq_splitOnP] at ih ⊢
      rw [List.replicate_succ, List.cons_append]
      have hfirst : ('/' :: (List.replicate n '/' ++ text)).splitOnP (· == '/') =
          [].splitOnP (· == '/') ++ (List.replicate n '/' ++ text).splitOnP (· == '/') :=
        List.splitOnP_append_cons [] _ rfl
      rw [hfirst, ih]
      rfl
  rw [pieces, String.toList_ofList, hcut]
  simp

theorem goal_idle {names : List String} (h : ∀ name ∈ names, isIdle name = true) :
    goal place names = place ∧ ∀ q ∈ way place names, q = place := by
  induction names with
  | nil => exact ⟨rfl, nofun⟩
  | cons name rest ih =>
    obtain ⟨hname, hrest⟩ := List.forall_mem_cons.mp h
    have hnext : next place name = place := if_pos hname
    obtain ⟨hgoal, hway⟩ := ih hrest
    rw [goal, List.foldl_cons, hnext, ← goal, way, hnext]
    exact ⟨hgoal, List.forall_mem_cons.mpr ⟨rfl, hway⟩⟩

theorem ne_empty_of_plain (hname : IsPlainName name) : name ≠ "" := by
  rintro rfl
  exact absurd hname.not_idle (by decide)

theorem text_entry (slashes : Nat) (name : String) : Path.text ⟨slashes, [name]⟩ =
    String.ofList (List.replicate slashes '/' ++ name.toList) := by
  simp [Path.text, Path.joined]

theorem text_top (slashes : Nat) : Path.text ⟨slashes + 1, []⟩ =
    String.ofList (List.replicate (slashes + 1) '/' ++ []) := by
  simp [Path.text, Path.joined]

theorem idle_bare (slashes : Nat) : ∀ x ∈ pieces (Path.text ⟨slashes, []⟩), isIdle x = true := by
  cases slashes with
  | zero => decide
  | succ n =>
    rw [text_top, pieces_slashes (n + 1) [] List.not_mem_nil]
    intro x hx
    rcases List.mem_append.mp hx with hx | hx
    · rw [List.eq_of_mem_replicate hx]
      rfl
    · rw [List.mem_singleton.mp hx]
      rfl

theorem origin_bare (hname : IsPlainName name) (here : Location) (slashes : Nat) :
    origin here (Path.text ⟨slashes, [name]⟩) = origin here (Path.text ⟨slashes, []⟩) := by
  cases slashes with
  | zero =>
    have hstart : name.startsWith "/" = false := by
      rw [← Bool.not_eq_true, String.startsWith_string_iff]
      exact fun hfront => hname.no_slash (hfront.subset (by simp))
    have hdot : (Path.text ⟨0, []⟩).startsWith "/" = false := by decide +kernel
    rw [origin, origin, hdot, text_entry, List.replicate_zero, List.nil_append,
      String.ofList_toList, hstart]
  | succ n =>
    have hstart : ∀ rest : List Char,
        (String.ofList (List.replicate (n + 1) '/' ++ rest)).startsWith "/" = true := by
      intro rest
      rw [String.startsWith_string_iff]
      simp [List.replicate_succ]
    rw [origin, origin, text_entry, text_top, hstart, hstart]

theorem leads_bare (hname : IsPlainName name) (here : Location) (slashes : Nat) :
    goal (origin here (Path.text ⟨slashes, [name]⟩)) (pieces (Path.text ⟨slashes, [name]⟩)) =
        goal (origin here (Path.text ⟨slashes, []⟩)) (pieces (Path.text ⟨slashes, []⟩)) ++ [name] ∧
      ∀ q ∈ wayTo here (Path.text ⟨slashes, [name]⟩),
        q = goal (origin here (Path.text ⟨slashes, []⟩)) (pieces (Path.text ⟨slashes, []⟩)) := by
  have hidle : ∀ x ∈ List.replicate slashes "", isIdle x = true := by
    intro x hx
    rw [List.eq_of_mem_replicate hx]
    rfl
  rw [wayTo, origin_bare hname, (goal_idle (idle_bare slashes)).1, text_entry,
    pieces_slashes slashes name.toList hname.no_slash, goal_append, way_append,
    (goal_idle hidle).1, String.ofList_toList, goal_singleton hname]
  refine ⟨rfl, fun q hq => ?_⟩
  rcases List.mem_append.mp hq with hq | hq
  · exact (goal_idle hidle).2 q hq
  · exact List.mem_singleton.mp hq

/-- An entry of a directory is below it, and the way to it goes through the directory. -/
theorem leads_child (dir : Path) (hd : dir.text ≠ "") (hname : IsPlainName name)
    (here : Location) :
    Leads here (dir.child name) (goal (origin here dir.text) (pieces dir.text) ++ [name]) ∧
      ∀ q ∈ wayTo here (dir.child name).text,
        q ∈ wayTo here dir.text ∨ q = goal (origin here dir.text) (pieces dir.text) := by
  have hnames : (dir.child name).names ≠ [] := by simp [Path.child]
  by_cases h : dir.names = []
  · obtain ⟨slashes, names⟩ := dir
    obtain rfl : names = [] := h
    obtain ⟨hgoal, hway⟩ := leads_bare hname here slashes
    refine ⟨⟨hnames, fun hempty => ?_, hgoal⟩, fun q hq => .inr (hway q hq)⟩
    have hlength := congrArg String.toList hempty
    simp [Path.child, Path.text, Path.joined, ne_empty_of_plain hname] at hlength
  · refine ⟨⟨hnames, ?_, goal_child h hname hd here⟩, fun q hq => ?_⟩
    · rw [text_child h]
      simp [ne_empty_of_plain hname]
    · rw [wayTo_child h hname.no_slash hd] at hq
      exact (List.mem_append.mp hq).imp_right List.mem_singleton.mp

theorem pieces_child_concat (dir : Path) (h : '/' ∉ name.toList) :
    ∃ front, pieces (dir.child name).text = front ++ [name] := by
  by_cases hnames : dir.names = []
  · obtain ⟨slashes, names⟩ := dir
    obtain rfl : names = [] := hnames
    refine ⟨List.replicate slashes "", ?_⟩
    rw [Path.child, List.nil_append, text_entry, pieces_slashes slashes name.toList h,
      String.ofList_toList]
  · rw [text_child hnames, pieces_child h]
    exact ⟨_, rfl⟩

/-- A path without names leads to a directory, if it leads anywhere. -/
theorem no_slash_of_mem_pieces {text : String} (h : name ∈ pieces text) : '/' ∉ name.toList := by
  obtain ⟨piece, hcut, rfl⟩ := List.mem_map.mp h
  rw [String.toList_ofList]
  exact fun hc => absurd (not_of_mem_cut piece hcut '/' hc) (by decide)

theorem directory_of_bare {slashes : Nat} (h : t.locate (Path.text ⟨slashes, []⟩) = .ok place) :
    t.node? place = some .directory := by
  refine directory_of_locate h place ?_
  rw [goal_of_locate h, (goal_idle (idle_bare slashes)).1, wayTo]
  have hne : pieces (Path.text ⟨slashes, []⟩) ≠ [] := by
    rw [pieces, cut_eq_splitOnP]
    simp
  obtain ⟨x, rest, hpieces⟩ := List.exists_cons_of_ne_nil hne
  rw [hpieces]
  exact List.mem_cons_self

theorem isPlainName_of_isFile {text : String} (hhere : IsReached t t.here)
    (h : t.isFile (Path.ofString text).text = true) :
    IsPlainName (Path.ofString text).name := by
  obtain ⟨place, content, runnable, hplace, hfile⟩ := isFile_iff.mp h
  have hnode : t.node? place ≠ some .directory := by
    rw [hfile]
    nofun
  have hmem : ∀ name ∈ (Path.ofString text).names, name ∈ pieces text ∧ isIdle name = false := by
    intro name hname
    obtain ⟨hpiece, hidle⟩ := List.mem_filter.mp hname
    exact ⟨hpiece, by simpa using hidle⟩
  generalize Path.ofString text = p at *
  obtain ⟨slashes, names⟩ := p
  rcases List.eq_nil_or_concat names with rfl | ⟨init, name, rfl⟩
  · exact absurd (directory_of_bare hplace) hnode
  · have hlast : Path.name ⟨slashes, init ++ [name]⟩ = name := by simp [Path.name]
    rw [List.concat_eq_append] at *
    rw [hlast]
    obtain ⟨hpiece, hidle⟩ := hmem name (by simp)
    have hslash := no_slash_of_mem_pieces hpiece
    obtain ⟨front, hpieces⟩ := pieces_child_concat ⟨slashes, init⟩ hslash
    have hup : name ≠ ".." := by
      rintro rfl
      exact hnode (directory_of_locate_up hhere hpieces hplace)
    have htaken := isTaken_of_locate hplace name (hpieces ▸ List.mem_concat_self)
    refine ⟨hslash, hidle, hup, ?_⟩
    simpa [isTaken, hidle, hup] using htaken

end Leads

end Cosim.Proofs.Files.Ways
