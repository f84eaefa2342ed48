import Cosim.Proofs.Json.Numbers
import Cosim.Proofs.Json.Strings
import Mathlib.Data.Bool.AllAny

namespace Cosim.Proofs.Json.Documents

open Cosim.Json Cosim.Json.Reader Cosim.Numeral Cosim.Text
open Cosim.Proofs.Json.Grammar Cosim.Proofs.Json.Numbers Cosim.Proofs.Json.Strings

section Space

variable {a rest : List Char}

/-- What may follow a value: nothing, white space, or a character that goes on with the text. -/
def IsStop (rest : List Char) : Prop :=
  ∀ c ∈ rest.head?, c ∈ [' ', '\t', '\n', '\r'] ∨ c ∈ [',', ']', '\x7d']

theorem IsStop.isEnd (h : IsStop rest) : IsEnd rest := by
  have hnone : ∀ c ∈ [' ', '\t', '\n', '\r'] ++ [',', ']', '\x7d'],
      isDecimalDigit c = false ∧ c ≠ '.' ∧ c ≠ 'e' ∧ c ≠ 'E' :=
    List.all_iff_forall_prop.mp (by decide)
  exact fun c hc => hnone c (List.mem_append.mpr (h c hc))

theorem isStop_space (ha : IsSpace a) (h : IsStop rest) : IsStop (a ++ rest) := by
  cases a with
  | nil => exact h
  | cons c a =>
    rintro d ⟨⟩
    exact .inl (ha c List.mem_cons_self)

theorem isStop_cons {c : Char} (h : c ∈ [',', ']', '\x7d']) (rest : List Char) :
    IsStop (c :: rest) := by
  rintro d ⟨⟩
  exact .inr h

theorem isSpace_iff {c : Char} : c ∈ [' ', '\t', '\n', '\r'] ↔ isSpace c = true := by
  simp [isSpace, or_assoc]

theorem skip_space (ha : IsSpace a) (h : ∀ c ∈ rest.head?, isSpace c = false) :
    skip (a ++ rest) = rest := by
  rw [skip, List.dropWhile_append_of_pos fun c hc => isSpace_iff.mp (ha c hc)]
  cases rest with
  | nil => rfl
  | cons c rest => rw [List.dropWhile_cons_of_neg (by simp [h c rfl])]

theorem skip_all (ha : IsSpace a) : skip a = [] := by
  have h : skip (a ++ []) = [] := skip_space ha (by simp)
  rwa [List.append_nil] at h

end Space

section Steps

variable {fuel : Nat} {s r rest : List Char} {v : Value}

theorem value_string (rest : List Char) :
    value (fuel + 1) ('"' :: rest) = (Reader.string rest).map fun (t, rest) => (.text t, rest) := by
  rw [value]

theorem value_scalar (h : ∀ c ∈ s.head?, c ≠ '"' ∧ c ≠ '\x7b' ∧ c ≠ '[') :
    value (fuel + 1) s = scalar s := by
  cases s with
  | nil => rw [value] <;> simp
  | cons c s =>
    obtain ⟨h1, h2, h3⟩ := h c rfl
    rw [value]
    · exact fun r he => h1 (List.cons.inj he).1
    · exact fun r he => h2 (List.cons.inj he).1
    · exact fun r he => h3 (List.cons.inj he).1

theorem value_emptyList (h : skip s = ']' :: rest) :
    value (fuel + 1) ('[' :: s) = .ok (.list [], rest) := by
  rw [value]
  simp only [h]

theorem value_list (hs : (skip s).head? ≠ some ']') {vs : List Value}
    (h : items fuel (skip s) = .ok (vs, rest)) :
    value (fuel + 1) ('[' :: s) = .ok (.list vs, rest) := by
  rw [value]
  split
  · rename_i he
    exact absurd (by rw [he]; rfl) hs
  · rw [h]
    rfl

theorem value_emptyRecord (h : skip s = '\x7d' :: rest) :
    value (fuel + 1) ('\x7b' :: s) = .ok (.record [], rest) := by
  rw [value]
  simp only [h]

theorem value_record (hs : (skip s).head? ≠ some '\x7d') {ms : List (Wide × Value)}
    (h : members fuel (skip s) = .ok (ms, rest)) :
    value (fuel + 1) ('\x7b' :: s) = .ok (.record (collect ms), rest) := by
  rw [value]
  split
  · rename_i he
    exact absurd (by rw [he]; rfl) hs
  · rw [h]
    rfl

theorem items_last (h : value fuel s = .ok (v, r)) (hr : skip r = ']' :: rest) :
    items (fuel + 1) s = .ok ([v], rest) := by
  rw [items, h]
  simp only [bind, Except.bind, hr]

theorem items_more (h : value fuel s = .ok (v, r)) (hr : skip r = ',' :: rest) {vs : List Value}
    {more : List Char} (hm : items fuel (skip rest) = .ok (vs, more)) :
    items (fuel + 1) s = .ok (v :: vs, more) := by
  rw [items, h]
  simp only [bind, Except.bind, hr, hm]
  rfl

theorem members_last {k a : List Char} {key : Wide} (hk : Reader.string k = .ok (key, a))
    {b : List Char} (ha : skip a = ':' :: b) (h : value fuel (skip b) = .ok (v, r))
    (hr : skip r = '\x7d' :: rest) : members (fuel + 1) ('"' :: k) = .ok ([(key, v)], rest) := by
  rw [members, hk]
  simp only [bind, Except.bind, ha, h, hr]

theorem members_more {k a : List Char} {key : Wide} (hk : Reader.string k = .ok (key, a))
    {b : List Char} (ha : skip a = ':' :: b) (h : value fuel (skip b) = .ok (v, r))
    (hr : skip r = ',' :: rest) {ms : List (Wide × Value)} {more : List Char}
    (hm : members fuel (skip rest) = .ok (ms, more)) :
    members (fuel + 1) ('"' :: k) = .ok ((key, v) :: ms, more) := by
  rw [members, hk]
  simp only [bind, Except.bind, ha, h, hr, hm]
  rfl

end Steps

section Starts

variable {s : List Char} {v : Value}

/-- A number starts with no character that means something else to the reader. -/
theorem exists_start_number {t : NumberText} (h : IsNumber s t) (rest : List Char) :
    ∃ c tail, s ++ rest = c :: tail ∧ isSpace c = false ∧
      ∀ d ∈ ['"', '\x7b', '[', ']', '\uFEFF'], c ≠ d := by
  have hspecial : ∀ d ∈ [' ', '\t', '\n', '\r'] ++ ['"', '\x7b', '[', ']', '\uFEFF'],
      isDecimalDigit d = false ∧ d ≠ '-' := List.all_iff_forall_prop.mp (by decide)
  obtain ⟨c, tail, hs, hc⟩ : ∃ c tail, s ++ rest = c :: tail ∧
      ∀ d ∈ [' ', '\t', '\n', '\r'] ++ ['"', '\x7b', '[', ']', '\uFEFF'], c ≠ d := by
    obtain ⟨d, tail, hd, he | he⟩ := exists_head h rest
    · exact ⟨d, tail, he, fun x hx => ne_of_isDecimalDigit hd (hspecial x hx).1⟩
    · exact ⟨'-', d :: tail, he, fun x hx => (hspecial x hx).2.symm⟩
  refine ⟨c, tail, hs, ?_, fun d hd => hc d (List.mem_append_right _ hd)⟩
  rw [← Bool.not_eq_true, ← isSpace_iff]
  exact fun hm => hc c (List.mem_append_left _ hm) rfl

theorem exists_start (h : Spells s v) (rest : List Char) :
    ∃ c tail, s ++ rest = c :: tail ∧ isSpace c = false ∧ c ≠ ']' ∧ c ≠ '\uFEFF' := by
  cases h with
  | integer hn _ _ _ | real hn _ =>
    obtain ⟨c, tail, hs, hc, hne⟩ := exists_start_number hn rest
    exact ⟨c, tail, hs, hc, hne _ (by simp), hne _ (by simp)⟩
  | null | true | false => exact ⟨_, _, rfl, by decide⟩
  | text _ | emptyList _ | list _ | emptyRecord _ | record _ => exact ⟨_, _, rfl, by decide⟩

theorem skip_spells (h : Spells s v) {a : List Char} (ha : IsSpace a) (rest : List Char) :
    skip (a ++ (s ++ rest)) = s ++ rest := by
  obtain ⟨c, tail, hs, hc, -⟩ := exists_start h rest
  refine skip_space ha ?_
  rw [hs]
  rintro d ⟨⟩
  exact hc

theorem skip_items {vs : List Value} (h : SpellsItems s vs) (rest : List Char) :
    (skip (s ++ rest)).head? ≠ some ']' := by
  cases h with
  | last ha hv _ | cons ha hv _ _ =>
    rw [List.append_assoc, List.append_assoc, skip_spells hv ha]
    obtain ⟨c, tail, hs, -, hb, -⟩ := exists_start hv _
    rw [hs]
    simpa using hb

theorem skip_members {ms : List (Wide × Value)} (h : SpellsMembers s ms) (rest : List Char) :
    (skip (s ++ rest)).head? ≠ some '\x7d' := by
  cases h with
  | last ha _ _ _ _ _ | cons ha _ _ _ _ _ _ =>
    rw [List.append_assoc, List.cons_append, skip_space ha (by simp [isSpace])]
    simp

theorem value_number {t : NumberText} (h : IsNumber s t) (fuel : Nat) (rest : List Char) :
    value (fuel + 1) (s ++ rest) = scalar (s ++ rest) := by
  obtain ⟨c, tail, hs, -, hc⟩ := exists_start_number h rest
  refine value_scalar ?_
  rw [hs]
  rintro d ⟨⟩
  exact ⟨hc _ (by simp), hc _ (by simp), hc _ (by simp)⟩

end Starts

/-- A text is never empty, so that it has fuel of its own. -/
theorem length_pos {s : List Char} {v : Value} (h : Spells s v) : 1 ≤ s.length := by
  obtain ⟨c, tail, hs, -⟩ := exists_start h []
  rw [List.append_nil] at hs
  simp [hs]

/-- A value between white space, with what goes on behind it. -/
theorem isStop_padded {b : List Char} (hb : IsSpace b) {c : Char} (hc : c ∈ [',', ']', '\x7d'])
    (rest : List Char) : IsStop (b ++ c :: rest) ∧ skip (b ++ c :: rest) = c :: rest := by
  have hspace : ∀ d ∈ [',', ']', '\x7d'], isSpace d = false :=
    List.all_iff_forall_prop.mp (by decide)
  refine ⟨isStop_space hb (isStop_cons hc rest), skip_space hb ?_⟩
  rintro d ⟨⟩
  exact hspace c hc

-- Each call of the reader takes one unit of fuel, and the text of a value has two for each of its
-- characters; the brackets of a list or a record pay for the reading of what is between them.
mutual

theorem value_spells {s rest : List Char} {v : Value} (h : Spells s v) {fuel : Nat}
    (hf : 2 * s.length ≤ fuel) (hr : IsStop rest) : value fuel (s ++ rest) = .ok (v, rest) := by
  have hpos := length_pos h
  obtain ⟨fuel, rfl⟩ : ∃ n, fuel = n + 1 := ⟨fuel - 1, by omega⟩
  cases h with
  | null | true | false =>
    refine value_scalar ?_
    rintro c ⟨⟩
    decide
  | integer hn hfrac he hl => rw [value_number hn, scalar_integer hn hfrac he hl hr.isEnd]
  | real hn hreal => rw [value_number hn, scalar_real hn hreal hr.isEnd]
  | text hc =>
    rw [List.cons_append, List.append_assoc, value_string, List.singleton_append,
      string_content hc]
    rfl
  | emptyList hs =>
    rw [List.cons_append, List.append_assoc]
    exact value_emptyList (isStop_padded hs (by simp) _).2
  | list hi =>
    rw [List.cons_append, List.append_assoc]
    simp only [List.length_cons, List.length_append, List.length_nil] at hf
    exact value_list (skip_items hi _) (items_spells hi (by omega))
  | emptyRecord hs =>
    rw [List.cons_append, List.append_assoc]
    exact value_emptyRecord (isStop_padded hs (by simp) _).2
  | record hm =>
    rw [List.cons_append, List.append_assoc]
    simp only [List.length_cons, List.length_append, List.length_nil] at hf
    exact value_record (skip_members hm _) (members_spells hm (by omega))
termination_by fuel

theorem items_spells {s rest : List Char} {vs : List Value} (h : SpellsItems s vs) {fuel : Nat}
    (hf : 2 * s.length + 1 ≤ fuel) : items fuel (skip (s ++ (']' :: rest))) = .ok (vs, rest) := by
  obtain ⟨fuel, rfl⟩ : ∃ n, fuel = n + 1 := ⟨fuel - 1, by omega⟩
  cases h with
  | last ha hv hb =>
    simp only [List.length_append] at hf
    rw [List.append_assoc, List.append_assoc, skip_spells hv ha]
    obtain ⟨hstop, hskip⟩ := isStop_padded hb (c := ']') (by simp) rest
    exact items_last (value_spells hv (by omega) hstop) hskip
  | cons ha hv hb ht =>
    simp only [List.length_append, List.length_cons] at hf
    rw [List.append_assoc, List.append_assoc, List.append_assoc, List.cons_append,
      skip_spells hv ha]
    obtain ⟨hstop, hskip⟩ := isStop_padded hb (c := ',') (by simp) _
    exact items_more (value_spells hv (by omega) hstop) hskip (items_spells ht (by omega))
termination_by fuel

theorem members_spells {s rest : List Char} {ms : List (Wide × Value)} (h : SpellsMembers s ms)
    {fuel : Nat} (hf : 2 * s.length + 1 ≤ fuel) :
    members fuel (skip (s ++ ('\x7d' :: rest))) = .ok (ms, rest) := by
  obtain ⟨fuel, rfl⟩ : ∃ n, fuel = n + 1 := ⟨fuel - 1, by omega⟩
  cases h with
  | last ha hk hb hd hv he =>
    simp only [List.length_append, List.length_cons] at hf
    simp only [List.append_assoc, List.cons_append]
    rw [skip_space ha (by simp [isSpace])]
    obtain ⟨hstop, hskip⟩ := isStop_padded he (c := '\x7d') (by simp) rest
    refine members_last (string_content hk _) (skip_space hb (by simp [isSpace])) ?_ hskip
    rw [skip_spells hv hd]
    exact value_spells hv (by omega) hstop
  | cons ha hk hb hd hv he ht =>
    simp only [List.length_append, List.length_cons] at hf
    simp only [List.append_assoc, List.cons_append]
    rw [skip_space ha (by simp [isSpace])]
    obtain ⟨hstop, hskip⟩ := isStop_padded he (c := ',') (by simp) _
    refine members_more (string_content hk _) (skip_space hb (by simp [isSpace])) ?_ hskip
      (members_spells ht (by omega))
    rw [skip_spells hv hd]
    exact value_spells hv (by omega) hstop
termination_by fuel

end

/-- A document is read as the value that it holds. -/
theorem read_document {s : List Char} {v : Value} (h : IsDocument s v) : Reader.read s = .ok v := by
  obtain ⟨a, t, b, rfl, ha, hb, hv⟩ := h
  have hstop : IsStop (b ++ []) := isStop_space hb (by simp [IsStop])
  rw [List.append_nil] at hstop
  have hvalue : value (2 * (a ++ (t ++ b)).length + 2) (skip (a ++ (t ++ b))) = .ok (v, b) := by
    rw [skip_spells hv ha]
    exact value_spells hv (by simp only [List.length_append]; omega) hstop
  have hdoc : document (a ++ (t ++ b)) = .ok v := by
    rw [document, hvalue]
    simp only [bind, Except.bind, skip_all hb]
  have hmark : ∀ rest, a ++ (t ++ b) ≠ '\uFEFF' :: rest := by
    intro rest he
    cases a with
    | nil =>
      obtain ⟨c, tail, hs, -, -, hc⟩ := exists_start hv b
      exact hc (List.cons.inj (hs.symm.trans he)).1
    | cons c a =>
      have hc := ha c List.mem_cons_self
      rw [(List.cons.inj he).1] at hc
      exact absurd hc (by decide)
  rw [Reader.read]
  · rw [hdoc]
    rfl
  · exact hmark

end Cosim.Proofs.Json.Documents
