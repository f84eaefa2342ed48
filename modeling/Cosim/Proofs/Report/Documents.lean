import Cosim.Proofs.Report.Outline

namespace Cosim.Proofs.Report.Documents

open Cosim.Report Cosim.Report.Scalar Cosim.Text Cosim.Proofs.Report.Margins
  Cosim.Proofs.Report.Outline Cosim.Proofs.Report.Scalars Cosim.Proofs.Text.Words

section Keys

variable {s x value : List Char} {n : Nat}

/-- A written key is on one line, and it ends at the colon behind it. -/
structure IsKey (written key : List Char) : Prop where
  oneLine : '\n' ∉ written
  head (x : List Char) : IsHead (written ++ ':' :: x)
  unmarked (x : List Char) : ¬ ['?', ' '] <+: written ++ ':' :: x
  reads {x value : List Char} : behindColon (':' :: x) = some value →
    key? (written ++ ':' :: x) = some (key, value)

/-- The first colon that ends a key is the one behind it, if no colon means structure. -/
theorem upToColon_append {afterGap : Bool} (h : holdsStructure afterGap s = false)
    (hx : behindColon (':' :: x) = some value) : upToColon (s ++ ':' :: x) = some (s, value) := by
  induction s generalizing afterGap with
  | nil => rw [List.nil_append, upToColon, hx]
  | cons c s ih =>
    simp only [holdsStructure, Bool.or_eq_false_iff] at h
    obtain ⟨⟨hcolon, -⟩, hs⟩ := h
    have hnone : behindColon (c :: (s ++ ':' :: x)) = none := by
      by_cases hc : c = ':'
      · subst hc
        cases s with
        | nil => cases hcolon
        | cons d s =>
          have hd : d ≠ ' ' := by
            rintro rfl
            cases hcolon
          rw [List.cons_append, behindColon]
          · exact nofun
          · exact fun s' hs' => hd (List.cons.inj (List.cons.inj hs').2).1
      · rw [behindColon]
        · exact fun hs' => hc (List.cons.inj hs').1
        · exact fun s' hs' => hc (List.cons.inj hs').1
    rw [List.cons_append, upToColon, hnone, ih hs]
    rfl

theorem isKey_of_plain (h : isPlain s = true) : IsKey s s := by
  have hwritten : write ⟨0, false⟩ 0 s = s := by
    rw [write_of_plain h, plainFrom_unfolded, flatten_stretches]
  have hread : readText s = some s := by
    have hread : readText (write ⟨0, false⟩ 0 s) = some s := readText_write (by decide) 0 s
    rwa [hwritten] at hread
  simp only [isPlain, Bool.and_eq_true, Bool.not_eq_true', List.all_eq_true, bne_iff_ne] at h
  obtain ⟨⟨⟨⟨⟨hclear, hsimple⟩, hspace⟩, -⟩, hstarts⟩, hholds⟩ := h
  obtain ⟨c, tail, rfl⟩ := List.exists_cons_of_ne_nil (l := s) (by rintro rfl; cases hclear)
  simp only [startsStructure, Bool.or_eq_false_iff, Bool.and_eq_false_iff] at hstarts
  obtain ⟨⟨⟨hindicator, hgap⟩, -⟩, -⟩ := hstarts
  -- a mark and a space would be structure, and so would a mark in front of the colon of the key
  have hmark : ∀ mark, (mark == '?' || mark == ':' || mark == '-') = true → ∀ x,
      ¬ [mark, ' '] <+: (c :: tail) ++ ':' :: x := by
    rintro mark hmark x ⟨back, hback⟩
    obtain ⟨rfl, hrest⟩ := List.cons.inj hback
    have hgap : beforeGap tail = false := hgap.resolve_left fun hnone => by simp [hnone] at hmark
    cases tail with
    | nil => cases hgap
    | cons d tail =>
      obtain ⟨rfl, -⟩ := List.cons.inj hrest
      cases hgap
  refine ⟨fun hmem => (hsimple _ hmem).2 rfl, fun x => ?_, hmark '?' rfl, fun {x value} hx => ?_⟩
  · exact ⟨c, tail ++ ':' :: x, rfl, fun hc => hspace (congrArg some hc), hmark '-' rfl x⟩
  · have hquote : c ≠ '\'' ∧ c ≠ '"' := by
      constructor <;> rintro rfl <;> exact absurd hindicator (by decide)
    have hcolon := upToColon_append hholds hx
    rw [key?, if_neg (by simpa using hquote.1), if_neg (by simpa using hquote.2), hcolon,
      Option.bind_some, hread]
    rfl

theorem isKey_of_quoted {quote : Char} {inside : List Char} (hquote : quote = '\'' ∨ quote = '"')
    (hline : '\n' ∉ inside) (hread : ∀ x, (if quote = '\'' then single fresh (inside ++ ':' :: x)
      else double (.text fresh) (inside ++ ':' :: x)) = some (s, ':' :: x)) :
    IsKey (quote :: inside) s := by
  have hbreak : '\n' ≠ quote := by rcases hquote with rfl | rfl <;> decide
  refine ⟨List.not_mem_cons_of_ne_of_not_mem hbreak hline, fun x =>
    ⟨quote, inside ++ ':' :: x, rfl, ?_,
    fun h => ?_⟩, fun x h => ?_, fun {x value} hx => ?_⟩
  · rcases hquote with rfl | rfl <;> decide
  · have h := (List.cons_prefix_cons.mp h).1
    rcases hquote with rfl | rfl <;> exact absurd h (by decide)
  · have h := (List.cons_prefix_cons.mp h).1
    rcases hquote with rfl | rfl <;> exact absurd h (by decide)
  · have hread := hread x
    rcases hquote with rfl | rfl
    · rw [if_pos rfl] at hread
      rw [List.cons_append, key?, List.head?_cons, if_pos rfl, List.tail_cons, hread,
        Option.bind_some,
        hx]
      rfl
    · rw [if_neg (by decide)] at hread
      rw [List.cons_append, key?, List.head?_cons, if_neg (by decide), if_pos rfl, List.tail_cons,
        hread,
        Option.bind_some, hx]
      rfl

/-- A text of one line is written as a key if it is not to be folded. -/
theorem isKey_write (hn : n + 1 ≤ lineWidth) (h : '\n' ∉ s) (column : Nat) :
    IsKey (write ⟨n, false⟩ column s) s := by
  have hline : '\n' ∉ write ⟨n, false⟩ column s := not_mem_write h column
  rcases write_cases ⟨n, false⟩ column s with
    ⟨hplain, hwrite⟩ | ⟨hsimple, hbreak, hwrite⟩ | hwrite
  · rw [hwrite, plainFrom_unfolded, flatten_stretches]
    exact isKey_of_plain hplain
  · rw [hwrite] at hline ⊢
    refine isKey_of_quoted (.inl rfl) (List.not_mem_of_not_mem_cons hline) fun x => ?_
    rw [if_pos rfl, List.append_assoc, List.singleton_append]
    exact single_written hsimple hbreak _ _ (by simp)
  · rw [hwrite] at hline ⊢
    refine isKey_of_quoted (.inr rfl) (List.not_mem_of_not_mem_cons hline) fun x => ?_
    rw [if_neg (by decide), List.append_assoc, List.singleton_append]
    have hwidth : (⟨n, false⟩ : Layout).indent + 1 ≤ lineWidth := hn
    exact double_written hwidth _ s _

end Keys

section Spelling

variable {indent : Nat} {text a b body line : List Char} {more ls : List (List Char)}
  {ms ms' : List (List Char × List (List Char))}

/-- What follows a text begins a line behind its lines. -/
def HasLines (text : List Char) (ls : List (List Char)) : Prop :=
  ∀ rest, Lines.lines (text ++ rest) = ls ++ Lines.lines rest

theorem hasLines_nil : HasLines [] [] := fun _ => rfl

theorem HasLines.append {ls' : List (List Char)} (h : HasLines a ls) (h' : HasLines b ls') :
    HasLines (a ++ b) (ls ++ ls') := fun rest => by
  rw [List.append_assoc, h, h', List.append_assoc]

theorem hasLines_closed (s : List Char) : HasLines (s ++ ['\n']) (Lines.lines s) := fun rest => by
  rw [List.append_assoc, List.singleton_append, lines_append]

theorem HasLines.withFront (h : HasLines (a ++ body) ((a ++ line) :: more)) (ha : '\n' ∉ a)
    (hb : '\n' ∉ b) : HasLines (b ++ body) ((b ++ line) :: more) := fun rest => by
  obtain ⟨first, others, hbody, hlines⟩ := lines_front ha (body ++ rest)
  obtain ⟨first', others', hbody', hlines'⟩ := lines_front hb (body ++ rest)
  obtain ⟨rfl, rfl⟩ := List.cons.inj (hbody.symm.trans hbody')
  have heq := h rest
  rw [List.append_assoc, hlines, List.cons_append] at heq
  obtain ⟨hfirst, rfl⟩ := List.cons.inj heq
  rw [List.append_assoc, hlines', List.append_cancel_left hfirst]
  rfl

/-- A text spells members in lines of its own. -/
def IsSpelt (indent : Nat) (text : List Char) (ms : List (List Char × List (List Char))) : Prop :=
  ∃ groups, Spells indent groups ms ∧ HasLines text groups.flatten

theorem isSpelt_nil : IsSpelt indent [] [] := ⟨[], .nil, hasLines_nil⟩

theorem IsSpelt.append (h : IsSpelt indent a ms) (h' : IsSpelt indent b ms') :
    IsSpelt indent (a ++ b) (ms ++ ms') := by
  obtain ⟨groups, hgroups, hlines⟩ := h
  obtain ⟨groups', hgroups', hlines'⟩ := h'
  exact ⟨groups ++ groups', hgroups.append hgroups',
    List.flatten_append ▸ hlines.append hlines'⟩

theorem IsSpelt.exists_lines (h : IsSpelt indent text ms) (hne : ms ≠ []) :
    ∃ line more, HasLines text ((indentation indent ++ line) :: more) ∧
      mapping ((indentation indent ++ line) :: more) = some ms ∧
      ∀ other ∈ more, IsIndented indent other := by
  obtain ⟨groups, hgroups, hlines⟩ := h
  have hgroups' : groups ≠ [] := by
    rintro rfl
    cases hgroups
    exact hne rfl
  have hmapping := hgroups.mapping_eq hgroups'
  have hindented := hgroups.isIndented
  obtain ⟨line, more, hflat⟩ := hgroups.exists_first hne
  rw [hflat] at hlines hmapping hindented
  exact ⟨line, more, hlines, hmapping, (List.forall_mem_cons.mp hindented).2⟩

variable {written key w : List Char}

/-- The first line of a written text has something in front, and the others are below. -/
theorem exists_hung {front : List Char} (hfront : '\n' ∉ front) (hw : Hangs (indent + 2) w) :
    ∃ first rest, Lines.lines w = first :: rest ∧
      HasLines (front ++ w ++ ['\n']) ((front ++ first) :: rest) ∧
      ∀ other ∈ rest, IsIndented (indent + 1) other := by
  obtain ⟨first, rest, hfirst, hlines⟩ := lines_front hfront w
  have hrest := margin_of_hangs hw
  rw [hfirst] at hrest
  exact ⟨first, rest, hfirst, hlines ▸ hasLines_closed (front ++ w),
    fun other hother => IsIndented.mono (hrest other hother) (Nat.le_succ _)⟩

theorem not_mem_head (hkey : IsKey written key) {mark : List Char} (hmark : '\n' ∉ mark) :
    '\n' ∉ indentation indent ++ written ++ mark :=
  List.not_mem_append (List.not_mem_append (not_mem_indentation indent) hkey.oneLine) hmark

theorem isSpelt_value (hkey : IsKey written key) (hw : Hangs (indent + 2) w) :
    IsSpelt indent (indentation indent ++ written ++ [':', ' '] ++ w ++ ['\n'])
      [(key, Lines.lines w)] := by
  have hfront : '\n' ∉ indentation indent ++ written ++ [':', ' '] := not_mem_head hkey (by decide)
  obtain ⟨first, rest, hfirst, hlines, hrest⟩ := exists_hung hfront hw
  have hline : indentation indent ++ written ++ [':', ' '] ++ first =
      indentation indent ++ (written ++ ':' :: ' ' :: first) := by
    simp only [List.append_assoc, List.cons_append, List.nil_append]
  have hread : behindColon (':' :: ' ' :: first) = some first := rfl
  rw [hline] at hlines
  rw [hfirst]
  exact ⟨[_ :: rest], .member (hkey.head _) (hkey.unmarked _) (hkey.reads hread)
    (fun other hother => .inl (hrest other hother)) .nil, List.flatten_singleton ▸ hlines⟩

theorem isSpelt_under (hkey : IsKey written key) (hbody : HasLines body ls)
    (hls : ∀ line ∈ ls, IsIndented (indent + 1) line ∨ isItem indent line = true) :
    IsSpelt indent (indentation indent ++ written ++ [':'] ++ ['\n'] ++ body)
      [(key, [] :: ls)] := by
  have hfront : '\n' ∉ indentation indent ++ written ++ [':'] := not_mem_head hkey (by decide)
  have hlines := lines_of_not_mem hfront
  have hhead := (hasLines_closed (indentation indent ++ written ++ [':'])).append hbody
  rw [hlines] at hhead
  refine ⟨[(indentation indent ++ (written ++ [':'])) :: ls],
    .member (hkey.head []) (hkey.unmarked []) (hkey.reads rfl) hls .nil, ?_⟩
  rw [List.flatten_singleton, ← List.append_assoc]
  exact hhead

end Spelling

section Values

variable {layout : Layout} {indent : Nat} {key value : List Char}

theorem unlines_lines (s : List Char) : unlines (Lines.lines s) = s := by
  rw [unlines, Lines.lines, cut_eq_splitOnP, ← List.splitOn_eq_splitOnP]
  exact List.intercalate_splitOn '\n'

theorem readString_write (hwidth : layout.indent + 1 ≤ lineWidth) (column : Nat) (s : String) :
    readString (Lines.lines (write layout column s.toList)) = some s := by
  rw [readString, unlines_lines, readText_write hwidth, Option.map_some, String.ofList_toList]

theorem isSpelt_member (indent : Nat) {written : List Char} (hkey : IsKey written key)
    (value : List Char) : ∃ column, IsSpelt indent (Block.member indent written value)
      [(key, Lines.lines (write ⟨indent + 2, true⟩ column value))] :=
  ⟨_, isSpelt_value hkey (hangs_write ⟨indent + 2, true⟩ _ value)⟩

theorem isSpelt_marked (hwidth : indent + 3 ≤ lineWidth) (key value : List Char) :
    IsSpelt indent
      (indentation indent ++ ['?', ' '] ++ write ⟨indent + 2, true⟩ (indent + 2) key ++ ['\n'] ++
        (indentation indent ++ [':', ' '] ++ write ⟨indent + 2, true⟩ (indent + 2) value ++ ['\n']))
      [(key, Lines.lines (write ⟨indent + 2, true⟩ (indent + 2) value))] := by
  have hfront : ∀ mark, '\n' ≠ mark → '\n' ∉ indentation indent ++ [mark, ' '] := fun mark hmark =>
    List.not_mem_append (not_mem_indentation indent)
      (List.not_mem_cons_of_ne_of_not_mem hmark (by decide))
  obtain ⟨first, rest, hkey, hlines, hrest⟩ := exists_hung (hfront '?' (by decide))
    (hangs_write ⟨indent + 2, true⟩ (indent + 2) key)
  obtain ⟨first', rest', hvalue, hlines', hrest'⟩ := exists_hung (hfront ':' (by decide))
    (hangs_write ⟨indent + 2, true⟩ (indent + 2) value)
  have hread : readText (unlines (first :: rest)) = some key := by
    rw [← hkey, unlines_lines, readText_write hwidth]
  have hboth := hlines.append hlines'
  rw [List.append_assoc (indentation indent) _ first,
    List.append_assoc (indentation indent) _ first']
    at hboth
  rw [hvalue]
  exact ⟨[_ :: rest, _ :: rest'], .marked hread (List.forall_mem_append.mpr ⟨hrest, hrest'⟩) .nil,
    by simpa using hboth⟩

theorem isSpelt_freeMember (hwidth : indent + 3 ≤ lineWidth) (key value : List Char) :
    ∃ column, IsSpelt indent (Block.freeMember indent key value)
      [(key, Lines.lines (write ⟨indent + 2, true⟩ column value))] := by
  rw [Block.freeMember]
  split_ifs with hshort
  · simp only [Block.isShortKey, Bool.and_eq_true, Bool.not_eq_true', List.any_eq_false] at hshort
    have hline : '\n' ∉ key := fun hmem => hshort.2 _ hmem rfl
    exact isSpelt_member indent (isKey_write hwidth hline indent) value
  · have hmarked := isSpelt_marked hwidth key value
    simp only [List.append_assoc] at hmarked ⊢
    exact ⟨indent + 2, hmarked⟩

theorem exists_members (fs : List (String × String)) : ∃ ms,
    IsSpelt 4 (fs.flatMap fun f => Block.freeMember 4 f.1.toList f.2.toList) ms ∧
      ms.length = fs.length ∧ ms.mapM readFact = some fs := by
  induction fs with
  | nil => exact ⟨[], isSpelt_nil, rfl, rfl⟩
  | cons f fs ih =>
    obtain ⟨ms, hms, hlength, hread⟩ := ih
    have hwidth : 4 + 3 ≤ lineWidth := by decide
    obtain ⟨column, hf⟩ := isSpelt_freeMember hwidth f.1.toList f.2.toList
    have hvalue : readString (Lines.lines (write ⟨4 + 2, true⟩ column f.2.toList)) = some f.2 :=
      readString_write hwidth column f.2
    exact ⟨_, hf.append hms, by simp [hlength], by simp [readFact, hvalue, hread]⟩

theorem exists_facts (fs : List (String × String)) :
    ∃ lines, IsSpelt 2 (Block.facts fs) [("logs".toList, lines)] ∧ readFacts lines = some fs := by
  have hkey : IsKey "logs".toList "logs".toList := isKey_of_plain (by decide)
  cases fs with
  | nil =>
    refine ⟨_, isSpelt_value hkey (hangs_of_not_mem (s := "{}".toList) (by decide)), ?_⟩
    rfl
  | cons f fs =>
    obtain ⟨ms, hms, hlength, hread⟩ := exists_members (f :: fs)
    have hne : ms ≠ [] := List.ne_nil_of_length_pos (hlength ▸ Nat.succ_pos _)
    obtain ⟨line, more, hlines, hmapping, hmore⟩ := hms.exists_lines hne
    have hindented :=
      List.forall_mem_cons.mpr ⟨.inr (List.prefix_append (indentation 4) line), hmore⟩
    refine ⟨_, isSpelt_under hkey hlines fun other hother =>
      .inl (IsIndented.mono (hindented other hother) (by decide)), ?_⟩
    rw [readFacts, hmapping, Option.bind_some, hread]

end Values

section Entries

def entryOf (r : CaseResult) : Entry :=
  ⟨r.elf, r.verdict.isPass, r.verdict.diagnostic, r.facts⟩

def truthText (passed : Bool) : List Char := (if passed then "true" else "false").toList

def entryText (r : CaseResult) : List Char :=
  Block.member 2 "elf".toList r.elf.toList ++
    (indentation 2 ++ "passed".toList ++ [':', ' '] ++ truthText r.verdict.isPass ++ ['\n'] ++
      (Block.member 2 "diagnostic".toList r.verdict.diagnostic.toList ++ Block.facts r.facts))

theorem exists_mark (r : CaseResult) :
    ∃ body, Block.entry r = ['-', ' '] ++ body ∧ entryText r = indentation 2 ++ body := by
  have hpassed : "  passed: ".toList = indentation 2 ++ "passed".toList ++ [':', ' '] := rfl
  refine ⟨"elf: ".toList ++ (write ⟨4, true⟩ 7 r.elf.toList ++ (['\n'] ++ ("  passed: ".toList ++
    (truthText r.verdict.isPass ++ (['\n'] ++ (Block.member 2 "diagnostic".toList
      r.verdict.diagnostic.toList ++ Block.facts r.facts)))))), ?_, ?_⟩
  · unfold Block.entry truthText
    dsimp only
    simp only [List.append_assoc]
    rfl
  · rw [hpassed]
    unfold entryText Block.member
    dsimp only
    simp only [List.append_assoc]
    rfl

theorem readTruth_eq (passed : Bool) : readTruth [truthText passed] = some passed := by
  cases passed <;> rfl

theorem exists_entry (r : CaseResult) : ∃ line more,
    HasLines (Block.entry r) ((['-', ' '] ++ line) :: more) ∧ (∀ other ∈ more, IsIndented 2 other) ∧
      readEntry ((indentation 2 ++ line) :: more) = some (entryOf r) := by
  obtain ⟨column, helf⟩ := isSpelt_member 2 (isKey_of_plain (s := "elf".toList) (by decide))
    r.elf.toList
  obtain ⟨column', hdiagnostic⟩ := isSpelt_member 2
    (isKey_of_plain (s := "diagnostic".toList) (by decide)) r.verdict.diagnostic.toList
  have htruth : '\n' ∉ truthText r.verdict.isPass := by
    cases r.verdict.isPass <;> decide
  have hpassed : IsSpelt 2 _ [("passed".toList, Lines.lines (truthText r.verdict.isPass))] :=
    isSpelt_value (isKey_of_plain (by decide)) (hangs_of_not_mem htruth)
  rw [lines_of_not_mem htruth] at hpassed
  obtain ⟨logs, hfacts, hlogs⟩ := exists_facts r.facts
  have hall : IsSpelt 2 (entryText r) [("elf".toList, _), ("passed".toList, _),
      ("diagnostic".toList, _), ("logs".toList, logs)] :=
    helf.append (hpassed.append (hdiagnostic.append hfacts))
  obtain ⟨line, more, hlines, hmapping, hmore⟩ := hall.exists_lines (List.cons_ne_nil _ _)
  obtain ⟨body, hentry, htext⟩ := exists_mark r
  rw [htext] at hlines
  rw [hentry]
  refine ⟨line, more, hlines.withFront (not_mem_indentation 2) (by decide), hmore, ?_⟩
  rw [readEntry, hmapping]
  dsimp only
  rw [if_pos rfl, readString_write (by decide), readString_write (by decide), readTruth_eq, hlogs]
  rfl

theorem exists_tests (results : List CaseResult) : ∃ groups : List (List (List Char)),
    HasLines (results.flatMap Block.entry) groups.flatten ∧
      (∀ lines ∈ groups, IsGroup (isItem 0) lines) ∧
      (groups.map (unmark 0)).mapM readEntry = some (results.map entryOf) ∧
      ∀ line ∈ groups.flatten, IsIndented 1 line ∨ isItem 0 line = true := by
  induction results with
  | nil => exact ⟨[], hasLines_nil, nofun, rfl, nofun⟩
  | cons r results ih =>
    obtain ⟨groups, hlines, hgroups, hread, hbelow⟩ := ih
    obtain ⟨line, more, hentry, hmore, hr⟩ := exists_entry r
    have hitem : isItem 0 (['-', ' '] ++ line) = true := rfl
    have hothers : ∀ other ∈ more, isItem 0 other = false := fun other hother => by
      rcases hmore other hother with rfl | ⟨back, rfl⟩
      · rfl
      · rfl
    refine ⟨((['-', ' '] ++ line) :: more) :: groups, hentry.append hlines,
      List.forall_mem_cons.mpr ⟨⟨_, _, rfl, hitem, hothers⟩, hgroups⟩, ?_,
      List.forall_mem_append.mpr ⟨List.forall_mem_cons.mpr ⟨.inr hitem, fun other hother =>
        .inl (IsIndented.mono (hmore other hother) (by decide))⟩, hbelow⟩⟩
    have hunmark : unmark 0 ((['-', ' '] ++ line) :: more) = (indentation 2 ++ line) :: more := rfl
    rw [List.map_cons, List.mapM_cons, hunmark, hr, hread]
    rfl

theorem read_document (results : List CaseResult) :
    Outline.read (Block.document results) = some ⟨summaryLine results, results.map entryOf⟩ := by
  obtain ⟨column, hsummary⟩ := isSpelt_member 0
    (isKey_of_plain (s := "summary".toList) (by decide)) (summaryLine results).toList
  have htests : ∃ lines, IsSpelt 0 (if results.isEmpty then "tests: []\n".toList
      else "tests:\n".toList ++ results.flatMap Block.entry) [("tests".toList, lines)] ∧
      readTests lines = some (results.map entryOf) := by
    have hkey : IsKey "tests".toList "tests".toList := isKey_of_plain (by decide)
    cases results with
    | nil => exact ⟨_, isSpelt_value hkey (hangs_of_not_mem (s := "[]".toList) (by decide)), rfl⟩
    | cons r results =>
      obtain ⟨groups, hlines, hgroups, hread, hbelow⟩ := exists_tests (r :: results)
      have hne : groups ≠ [] := by
        rintro rfl
        cases hread
      refine ⟨_, isSpelt_under hkey hlines hbelow, ?_⟩
      rw [readTests, items_flatten hgroups hne, Option.bind_some, hread]
  obtain ⟨lines, htests, hread⟩ := htests
  have hall : IsSpelt 0 _ [("summary".toList, _), ("tests".toList, lines)] := hsummary.append htests
  obtain ⟨line, more, hlines, hmapping, -⟩ := hall.exists_lines (List.cons_ne_nil _ _)
  have hdocument : Lines.lines (Block.document results).toList =
      ((indentation 0 ++ line) :: more) ++ [[]] := by
    rw [Block.document, String.toList_ofList, ← List.append_nil (_ ++ ite _ _ _)]
    exact hlines []
  rw [Outline.read, hdocument, List.dropLast_concat, hmapping]
  dsimp only
  rw [if_pos ⟨List.getLast?_concat, rfl⟩, readString_write (by decide), hread]
  rfl

example : Outline.read ("summary: 0 PASSED, 1 FAILED\ntests:\n- elf: t.elf\n  passed: false\n" ++
    "  diagnostic: 'pc: it''s 0'\n  logs:\n    log: \"a\\tb\"\n") =
    some ⟨"0 PASSED, 1 FAILED", [⟨"t.elf", false, "pc: it's 0", [("log", "a\tb")]⟩]⟩ := by
  decide +kernel

end Entries

end Cosim.Proofs.Report.Documents
