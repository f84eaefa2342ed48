import Cosim.Proofs.Report.Margins
import Cosim.Report.Block

namespace Cosim.Proofs.Report.Outline

open Cosim.Report Cosim.Report.Scalar Cosim.Text Cosim.Proofs.Report.Margins
  Cosim.Proofs.Report.Scalars Cosim.Proofs.Text.Words

structure Entry where
  elf : String
  passed : Bool
  diagnostic : String
  logs : List (String × String)
deriving DecidableEq, Repr

structure Contents where
  summary : String
  tests : List Entry
deriving DecidableEq, Repr

def indentOf (line : List Char) : Nat := (line.takeWhile (· == ' ')).length

/-- Whether a line is left empty or deeper than an indentation. -/
def isBelow (indent : Nat) (line : List Char) : Bool :=
  line.all (· == ' ') || indent < indentOf line

def isItem (indent : Nat) (line : List Char) : Bool :=
  (indentation indent ++ ['-', ' ']).isPrefixOf line

/-- Whether a line begins a member. The items of a list belong to the key in front of them. -/
def opens (indent : Nat) (line : List Char) : Bool := !isBelow indent line && !isItem indent line

/-- The lines in front of the first that begins a group, and the groups. -/
def group (begins : List Char → Bool) :
    List (List Char) → List (List Char) × List (List (List Char))
  | [] => ([], [])
  | line :: rest =>
    let (more, groups) := group begins rest
    if begins line then ([], (line :: more) :: groups) else (line :: more, groups)

def unlines (lines : List (List Char)) : List Char := List.intercalate ['\n'] lines

/-- What stands behind a colon, if there is one that ends a key. -/
def behindColon : List Char → Option (List Char)
  | [':'] => some []
  | ':' :: ' ' :: s => some s
  | _ => none

/-- What stands in front of the first colon that ends a key, and what behind. -/
def upToColon : List Char → Option (List Char × List Char)
  | [] => none
  | c :: s =>
    match behindColon (c :: s) with
    | some value => some ([], value)
    | none => (upToColon s).map (emit [c])

def key? (line : List Char) : Option (List Char × List Char) :=
  if line.head? = some '\'' then
    (single fresh line.tail).bind fun r => (behindColon r.2).map fun value => (r.1, value)
  else if line.head? = some '"' then
    (double (.text fresh) line.tail).bind fun r =>
      (behindColon r.2).map fun value => (r.1, value)
  else (upToColon line).bind fun r => (readText r.1).map fun key => (key, r.2)

def outdent (indent : Nat) : List (List Char) → Option (List Char × List (List Char))
  | [] => none
  | line :: more => if indentOf line = indent then some (line.drop indent, more) else none

/-- The members of a document, each with its key and the lines of its value. -/
def members (indent : Nat) :
    List (List (List Char)) → Option (List (List Char × List (List Char)))
  | [] => some []
  | lines :: rest =>
    match outdent indent lines with
    | none => none
    | some ('?' :: ' ' :: key, more) =>
      match rest with
      | [] => none
      | value :: rest =>
        match outdent indent value with
        | some (':' :: ' ' :: text, below) =>
          (readText (unlines (key :: more))).bind fun key =>
            (members indent rest).map ((key, text :: below) :: ·)
        | _ => none
    | some (line, more) =>
      (key? line).bind fun (key, text) => (members indent rest).map ((key, text :: more) :: ·)

def mapping (lines : List (List Char)) : Option (List (List Char × List (List Char))) :=
  let indent := indentOf (lines.headD [])
  match group (opens indent) lines with
  | ([], groups) => members indent groups
  | _ => none

def unmark (indent : Nat) : List (List Char) → List (List Char)
  | [] => []
  | line :: more => (indentation (indent + 2) ++ line.drop (indent + 2)) :: more

def items (lines : List (List Char)) : Option (List (List (List Char))) :=
  let indent := indentOf (lines.headD [])
  match group (isItem indent) lines with
  | ([], groups) => some (groups.map (unmark indent))
  | _ => none

def readString (lines : List (List Char)) : Option String :=
  (readText (unlines lines)).map String.ofList

def readTruth (lines : List (List Char)) : Option Bool :=
  if lines = ["true".toList] then some true
  else if lines = ["false".toList] then some false
  else none

def readFact (m : List Char × List (List Char)) : Option (String × String) :=
  (readString m.2).map fun text => (String.ofList m.1, text)

def readFacts : List (List Char) → Option (List (String × String))
  | [] :: lines => (mapping lines).bind (List.mapM readFact)
  | lines => if lines = ["{}".toList] then some [] else none

def readEntry (lines : List (List Char)) : Option Entry :=
  match mapping lines with
  | some [(elfKey, elf), (passedKey, passed), (diagnosticKey, diagnostic), (logsKey, logs)] =>
    if [elfKey, passedKey, diagnosticKey, logsKey] =
        ["elf".toList, "passed".toList, "diagnostic".toList, "logs".toList] then do
      return ⟨← readString elf, ← readTruth passed, ← readString diagnostic, ← readFacts logs⟩
    else none
  | _ => none

def readTests : List (List Char) → Option (List Entry)
  | [] :: lines => (items lines).bind (List.mapM readEntry)
  | lines => if lines = ["[]".toList] then some [] else none

def read (document : String) : Option Contents :=
  let lines := Lines.lines document.toList
  match mapping lines.dropLast with
  | some [(summaryKey, summary), (testsKey, tests)] =>
    if lines.getLast? = some [] ∧
        [summaryKey, testsKey] = ["summary".toList, "tests".toList] then do
      return ⟨← readString summary, ← readTests tests⟩
    else none
  | _ => none

section Groups

variable {begins : List Char → Bool} {more rest : List (List Char)}
  {groups : List (List (List Char))}

theorem group_more (h : ∀ line ∈ more, begins line = false) (rest : List (List Char)) :
    group begins (more ++ rest) = (more ++ (group begins rest).1, (group begins rest).2) := by
  induction more with
  | nil => rfl
  | cons line more ih =>
    obtain ⟨hline, hmore⟩ := List.forall_mem_cons.mp h
    rw [List.cons_append, group, ih hmore]
    dsimp only
    rw [if_neg (by simp [hline]), List.cons_append]

/-- A line that begins a group, and lines that begin none. -/
def IsGroup (begins : List Char → Bool) (lines : List (List Char)) : Prop :=
  ∃ line more, lines = line :: more ∧ begins line = true ∧ ∀ other ∈ more, begins other = false

theorem group_flatten (h : ∀ lines ∈ groups, IsGroup begins lines) :
    group begins groups.flatten = ([], groups) := by
  induction groups with
  | nil => rfl
  | cons lines groups ih =>
    obtain ⟨⟨line, more, rfl, hline, hmore⟩, hgroups⟩ := List.forall_mem_cons.mp h
    rw [List.flatten_cons, List.cons_append, group, group_more hmore, ih hgroups]
    dsimp only
    rw [if_pos hline, List.append_nil]

end Groups

section Lines

variable {n indent : Nat} {line s : List Char}

def IsIndented (indent : Nat) (line : List Char) : Prop := line = [] ∨ indentation indent <+: line

theorem IsIndented.mono (h : IsIndented n line) (hn : indent ≤ n) : IsIndented indent line := by
  refine h.imp_right fun hfront => List.IsPrefix.trans ?_ hfront
  exact ⟨indentation (n - indent), by
    rw [indentation, indentation, List.replicate_append_replicate, Nat.add_sub_cancel' hn,
      indentation]⟩

/-- What a line of a member begins with, behind its indentation. -/
def IsHead (s : List Char) : Prop := ∃ c rest, s = c :: rest ∧ c ≠ ' ' ∧ ¬ ['-', ' '] <+: s

theorem indentOf_append (indent : Nat) (s : List Char) :
    indentOf (indentation indent ++ s) = indent + indentOf s := by
  have hall : ∀ c ∈ indentation indent, (c == ' ') = true := fun c hc => by
    rw [List.eq_of_mem_replicate hc]
    rfl
  rw [indentOf, List.takeWhile_append_of_pos hall, List.length_append, indentation,
    List.length_replicate, indentOf]

theorem IsHead.indentOf_eq (h : IsHead s) (indent : Nat) :
    indentOf (indentation indent ++ s) = indent := by
  obtain ⟨c, rest, rfl, hc, -⟩ := h
  rw [indentOf_append, indentOf, List.takeWhile_cons_of_neg (by simpa using hc)]
  rfl

theorem isBelow_of_isIndented (h : IsIndented (indent + 1) line) : isBelow indent line = true := by
  rcases h with rfl | ⟨back, rfl⟩
  · rfl
  · rw [isBelow, indentOf_append]
    simp only [Bool.or_eq_true, decide_eq_true_eq]
    exact .inr (by omega)

theorem isItem_append (indent : Nat) (s : List Char) :
    isItem indent (indentation indent ++ s) = ['-', ' '].isPrefixOf s := by
  rw [Bool.eq_iff_iff, isItem, List.isPrefixOf_iff_prefix, List.isPrefixOf_iff_prefix,
    List.prefix_append_right_inj]

theorem indentOf_of_isItem (h : isItem indent line = true) : indentOf line = indent := by
  obtain ⟨back, rfl⟩ := List.isPrefixOf_iff_prefix.mp h
  rw [List.append_assoc, indentOf_append]
  rfl

theorem items_flatten {groups : List (List (List Char))}
    (h : ∀ lines ∈ groups, IsGroup (isItem indent) lines) (hne : groups ≠ []) :
    items groups.flatten = some (groups.map (unmark indent)) := by
  have hindent : indentOf (groups.flatten.headD []) = indent := by
    obtain ⟨lines, rest, rfl⟩ := List.exists_cons_of_ne_nil hne
    obtain ⟨line, more, rfl, hline, -⟩ := h lines List.mem_cons_self
    exact indentOf_of_isItem hline
  rw [items, hindent, group_flatten h]

theorem IsHead.opens (h : IsHead s) (indent : Nat) :
    Outline.opens indent (indentation indent ++ s) = true := by
  obtain ⟨c, rest, hs, hc, hitem⟩ := id h
  have hbelow : isBelow indent (indentation indent ++ s) = false := by
    rw [isBelow, h.indentOf_eq, hs]
    simp [hc]
  rw [Outline.opens, hbelow, isItem_append,
    Bool.eq_false_iff.mpr (mt List.isPrefixOf_iff_prefix.mp hitem)]
  rfl

theorem IsHead.outdent (h : IsHead s) (indent : Nat) (more : List (List Char)) :
    Outline.outdent indent ((indentation indent ++ s) :: more) = some (s, more) := by
  rw [Outline.outdent, if_pos (h.indentOf_eq indent), List.drop_left' (by simp [indentation])]

end Lines

/-- Groups of lines spell members. The lines behind the first of a group are deeper, or items of a
list. -/
inductive Spells (indent : Nat) :
    List (List (List Char)) → List (List Char × List (List Char)) → Prop
  | nil : Spells indent [] []
  | member {line key text : List Char} {more : List (List Char)} {groups : List (List (List Char))}
      {ms : List (List Char × List (List Char))} (head : IsHead line)
      (unmarked : ¬ ['?', ' '] <+: line) (key_eq : key? line = some (key, text))
      (deeper : ∀ other ∈ more, IsIndented (indent + 1) other ∨ isItem indent other = true)
      (later : Spells indent groups ms) :
      Spells indent (((indentation indent ++ line) :: more) :: groups) ((key, text :: more) :: ms)
  | marked {line key text : List Char} {more below : List (List Char)}
      {groups : List (List (List Char))} {ms : List (List Char × List (List Char))}
      (key_eq : readText (unlines (line :: more)) = some key)
      (deeper : ∀ other ∈ more ++ below, IsIndented (indent + 1) other)
      (later : Spells indent groups ms) :
      Spells indent (((indentation indent ++ '?' :: ' ' :: line) :: more) ::
        ((indentation indent ++ ':' :: ' ' :: text) :: below) :: groups)
        ((key, text :: below) :: ms)

namespace Spells

variable {indent : Nat} {groups groups' : List (List (List Char))}
  {ms ms' : List (List Char × List (List Char))}

theorem append (h : Spells indent groups ms) (h' : Spells indent groups' ms') :
    Spells indent (groups ++ groups') (ms ++ ms') := by
  induction h with
  | nil => exact h'
  | member head unmarked key_eq deeper later ih => exact .member head unmarked key_eq deeper ih
  | marked key_eq deeper later ih => exact .marked key_eq deeper ih

theorem isHead_mark {mark : Char} (hmark : mark = '?' ∨ mark = ':') (s : List Char) :
    IsHead (mark :: ' ' :: s) := by
  refine ⟨mark, ' ' :: s, rfl, ?_, fun h => ?_⟩
  · rcases hmark with rfl | rfl <;> decide
  · have hmark' := (List.cons_prefix_cons.mp h).1
    rcases hmark with rfl | rfl <;> exact absurd hmark' (by decide)

theorem isGroup (h : Spells indent groups ms) : ∀ lines ∈ groups, IsGroup (opens indent) lines := by
  have hbelow : ∀ {other}, IsIndented (indent + 1) other → opens indent other = false :=
    fun hother => by rw [opens, isBelow_of_isIndented hother]; rfl
  induction h with
  | nil => exact nofun
  | member head unmarked key_eq deeper later ih =>
    refine List.forall_mem_cons.mpr ⟨⟨_, _, rfl, head.opens indent, fun other hother => ?_⟩, ih⟩
    rcases deeper other hother with hindented | hitem
    · exact hbelow hindented
    · rw [opens, hitem]
      exact Bool.and_false _
  | marked key_eq deeper later ih =>
    obtain ⟨hkey, hvalue⟩ := List.forall_mem_append.mp deeper
    exact List.forall_mem_cons.mpr ⟨⟨_, _, rfl, (isHead_mark (.inl rfl) _).opens indent,
      fun other hother => hbelow (hkey other hother)⟩, List.forall_mem_cons.mpr ⟨⟨_, _, rfl,
        (isHead_mark (.inr rfl) _).opens indent,
        fun other hother => hbelow (hvalue other hother)⟩, ih⟩⟩

theorem members_eq (h : Spells indent groups ms) : members indent groups = some ms := by
  induction h with
  | nil => rfl
  | member head unmarked key_eq deeper later ih =>
    rw [members.eq_def]
    dsimp only
    rw [head.outdent]
    split
    · rename_i heq
      cases heq
    · rename_i heq
      obtain ⟨rfl, -⟩ := Prod.mk.inj (Option.some.inj heq)
      exact absurd ⟨_, rfl⟩ unmarked
    · rename_i heq
      obtain ⟨rfl, rfl⟩ := Prod.mk.inj (Option.some.inj heq)
      rw [key_eq, ih]
      rfl
  | @marked line key text more below groups ms key_eq deeper later ih =>
    rw [members, (isHead_mark (.inl rfl) _).outdent]
    dsimp only
    rw [(isHead_mark (.inr rfl) _).outdent]
    show (readText (unlines (line :: more))).bind
      (fun key => (members indent groups).map ((key, text :: below) :: ·)) = _
    rw [key_eq, ih]
    rfl

theorem mapping_eq (h : Spells indent groups ms) (hne : groups ≠ []) :
    mapping groups.flatten = some ms := by
  have hindent : indentOf (groups.flatten.headD []) = indent := by
    cases h with
    | nil => exact absurd rfl hne
    | member head unmarked key_eq deeper later => exact head.indentOf_eq indent
    | marked key_eq deeper later => exact (isHead_mark (.inl rfl) _).indentOf_eq indent
  rw [mapping, hindent, group_flatten h.isGroup]
  exact h.members_eq

theorem exists_first (h : Spells indent groups ms) (hne : ms ≠ []) :
    ∃ line more, groups.flatten = (indentation indent ++ line) :: more := by
  cases h with
  | nil => exact absurd rfl hne
  | member head unmarked key_eq deeper later => exact ⟨_, _, rfl⟩
  | marked key_eq deeper later => exact ⟨_, _, rfl⟩

theorem isIndented (h : Spells indent groups ms) :
    ∀ line ∈ groups.flatten, IsIndented indent line := by
  have hitem : ∀ {other}, isItem indent other = true → IsIndented indent other := fun hitem =>
    .inr ((List.prefix_append _ _).trans (List.isPrefixOf_iff_prefix.mp hitem))
  induction h with
  | nil => exact nofun
  | member head unmarked key_eq deeper later ih =>
    refine List.forall_mem_append.mpr ⟨List.forall_mem_cons.mpr
      ⟨.inr (List.prefix_append _ _), fun other hother => ?_⟩, ih⟩
    exact (deeper other hother).elim (fun h => h.mono (Nat.le_succ indent)) hitem
  | marked key_eq deeper later ih =>
    obtain ⟨hkey, hvalue⟩ := List.forall_mem_append.mp deeper
    refine List.forall_mem_append.mpr ⟨List.forall_mem_cons.mpr ⟨.inr (List.prefix_append _ _),
      fun other hother => (hkey other hother).mono (Nat.le_succ indent)⟩, ?_⟩
    exact List.forall_mem_append.mpr ⟨List.forall_mem_cons.mpr ⟨.inr (List.prefix_append _ _),
      fun other hother => (hvalue other hother).mono (Nat.le_succ indent)⟩, ih⟩

end Spells

end Cosim.Proofs.Report.Outline
