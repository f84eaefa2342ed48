import Cosim.Proofs.Json.Abandoned.Texts

namespace Cosim.Proofs.Json.Abandoned

open Cosim.Json Cosim.Json.Relaxed Cosim.Numeral Cosim.Proofs.Json.Reading
  Cosim.Proofs.Json.Reading.Course Cosim.Proofs.Outcome Cosim.Text

section Literals

variable {text body front seen s : List Char} {t : NumberText} {v : Except Stop Value} {stop : Stop}

/-- Why a number is not converted. -/
inductive IsRefused (t : NumberText) : Abandon → Prop
  | integer (whole : t.isInteger = true) (long : Integer.digitLimit < t.whole.length) :
      IsRefused t (.tooLong t.whole.length)
  | real {negative : Bool} (broken : t.isInteger = false) (large : t.toReal = .infinite negative) :
      IsRefused t .infinite

theorem simplify_eq_error {x : Decimal.Binary64} (h : simplify x = .error stop) :
    (∃ negative, x = .infinite negative) ∧ stop = .abandon .infinite := by
  cases x with
  | nan => cases h
  | infinite negative => exact ⟨⟨negative, rfl⟩, (Except.error.inj h).symm⟩
  | finite =>
    simp only [simplify] at h
    split at h <;> cases h

theorem ofNumber_eq_error (h : ofNumber t = .error stop) :
    ∃ a, stop = .abandon a ∧ IsRefused t a := by
  rw [ofNumber] at h
  split_ifs at h with hwhole
  · rw [NumberText.toInt] at h
    split_ifs at h with hlong
    cases h
    exact ⟨_, rfl, .integer hwhole hlong⟩
  · obtain ⟨⟨negative, hlarge⟩, rfl⟩ := simplify_eq_error h
    exact ⟨_, rfl, .real (eq_false_of_ne_true hwhole) hlarge⟩

theorem literal?_eq_error (h : literal? body = some (.error stop)) :
    ∃ t a, stop = .abandon a ∧ IsAlone body t ∧ IsRefused t a := by
  unfold literal? at h
  extract_lets trimmed at h
  split_ifs at h
  · cases h
  · cases h
  · cases h
  · split at h
    next t blanks hscan =>
      split_ifs at h with hblanks
      obtain ⟨a, rfl, ha⟩ := ofNumber_eq_error (Option.some.inj h)
      refine ⟨t, a, rfl, ⟨blanks, hscan, ?_⟩, ha⟩
      simpa using hblanks
    next => cases h

theorem IsOpenText.concat {c : Char} (hopen : IsOpenText body (c :: s))
    (hc : endsLiteral (c :: s) = true → literal? body = none) :
    IsOpenText (body ++ [c]) s := by
  intro front back hsplit hback hends
  obtain ⟨back, d, rfl⟩ := (List.eq_nil_or_concat' back).resolve_left hback
  rw [← List.append_assoc] at hsplit
  obtain ⟨rfl, hd⟩ := List.append_inj' hsplit rfl
  obtain rfl : c = d := List.singleton_injective hd
  rw [List.append_assoc, List.singleton_append] at hends
  cases back with
  | nil =>
    rw [List.append_nil] at hc
    exact hc hends
  | cons b back => exact hopen front (b :: back) rfl (List.cons_ne_nil b back) hends

theorem keeps_literal (hopen : IsOpenText body s) (hs : endsLiteral s = true)
    (h : literal? body = some v) :
    Keeps text .value (body ++ s) .after Prod.snd (v.map fun v => (v, s)) := by
  cases v with
  | ok v => exact keeps_ok (.literal hopen hs (Option.isSome_of_mem h) (.here _ _))
  | error stop =>
    obtain ⟨t, a, rfl, halone, hrefused⟩ := literal?_eq_error h
    refine Breaks.keeps ?_
    cases hrefused with
    | integer hwhole hlong => exact .integer hs halone hwhole hlong
    | real hbroken hlarge => exact .real hs halone hbroken hlarge

theorem endsLine_cons {c : Char} : endsLine (c :: s) = false ↔ c ≠ '\n' ∧ c ≠ '\r' := by
  simp [endsLine]

theorem keeps_bareFrom (hopen : IsOpenText seen.reverse s) (hline : InLine seen.reverse) :
    Keeps text .value (seen.reverse ++ s) .after Prod.snd (bareFrom seen s) := by
  fun_induction bareFrom seen s with
  | case1 seen =>
    cases h : literal? seen.reverse with
    | none => exact keeps_ok (.line hopen hline rfl (.here _ _))
    | some v => exact keeps_literal hopen rfl h
  | case2 seen c rest v hfound =>
    split_ifs at hfound with hends
    exact keeps_literal hopen hends hfound
  | case3 seen c rest _ hends => exact keeps_ok (.line hopen hline hends (.here _ _))
  | case4 seen c rest hfound hends ih =>
    rw [List.reverse_cons, List.append_assoc, List.singleton_append] at ih
    refine ih (hopen.concat fun hs => ?_) (List.forall_mem_append.mpr ⟨hline, ?_⟩)
    · rwa [if_pos hs] at hfound
    · exact List.forall_mem_singleton.mpr (endsLine_cons.mp (eq_false_of_ne_true hends))

theorem keeps_bare (text s : List Char) : Keeps text .value s .after Prod.snd (bare s) := by
  unfold bare
  split
  · exact keeps_fail _ _
  next c rest =>
    split
    · exact keeps_fail _ _
    · have hopen : IsOpenText (List.reverse []) (c :: rest) := fun front back hsplit hback _ =>
        absurd (List.append_eq_nil_iff.mp hsplit.symm).2 hback
      exact keeps_bareFrom hopen (List.forall_mem_nil _)

end Literals

section Values

variable {text s : List Char} {fuel : Nat} {d : Due}

/-- What may be due at the start of a configuration. -/
def IsStart (d : Due) : Prop := d = .key ∨ d = .value

theorem keeps_skipComma (hd : IsStart d) (s : List Char) :
    Keeps text .after s d id (skipComma s) := by
  unfold skipComma
  split
  · exact .of_leads (.comma hd (.here d _)) (keeps_skip text d _)
  · exact keeps_ok (.next hd (.here d s))

theorem keeps_value
    (hm : ∀ braces s, Keeps text .key s .after Prod.snd (members text fuel braces s))
    (hi : ∀ s, Keeps text .value s .after Prod.snd (items text fuel s)) (s : List Char) :
    Keeps text .value s .after Prod.snd (value text (fuel + 1) s) := by
  unfold value
  split
  · exact keeps_fail _ _
  next rest => exact (keeps_string (.inr rfl) (.inl rfl) rest).map fun _ => rfl
  next rest =>
    split
    · exact (keeps_multiline text rest _).map fun _ => rfl
    next hnone =>
      exact (Breaks.apostrophes (.inl (not_newline_of_indentation? hnone))).keeps
  next rest _ => exact (keeps_string (.inr rfl) (.inr rfl) rest).map fun _ => rfl
  next rest =>
    exact .of_leads (.openBrace (.here _ _)) ((hm true rest).map fun _ => rfl)
  next rest =>
    refine .of_leads (.openBracket (.here _ _)) ((keeps_skip text .value rest).bind fun s => ?_)
    dsimp only [id]
    split
    · exact keeps_fail _ _
    · exact keeps_ok (.closeBracket (.here _ _))
    · exact (hi _).map fun _ => rfl
  · exact keeps_bare text _

theorem keeps_members
    (hv : ∀ s, Keeps text .value s .after Prod.snd (value text fuel s))
    (hm : ∀ braces s, Keeps text .key s .after Prod.snd (members text fuel braces s))
    (braces : Bool) (s : List Char) :
    Keeps text .key s .after Prod.snd (members text (fuel + 1) braces s) := by
  rw [members]
  refine (keeps_skip text .key s).bind fun s => ?_
  dsimp only [id]
  split
  · exact keeps_ok (.closeBrace (.here _ _))
  · exact keeps_ok (.ends (.here _ _))
  · refine (keeps_key text _).bind fun ⟨name, rest⟩ => ?_
    refine (keeps_skip text .colon rest).bind fun rest => ?_
    dsimp only [id]
    split
    next rest =>
      refine .of_leads (.colon (.here _ _)) ?_
      refine (keeps_skip text .value rest).bind fun s => ?_
      refine (hv s).bind fun ⟨v, rest⟩ => ?_
      refine (keeps_skip text .after rest).bind fun s => ?_
      refine (keeps_skipComma (.inl rfl) s).bind fun rest => ?_
      exact (hm _ rest).map fun _ => rfl
    · exact keeps_fail _ _

theorem keeps_items
    (hv : ∀ s, Keeps text .value s .after Prod.snd (value text fuel s))
    (hi : ∀ s, Keeps text .value s .after Prod.snd (items text fuel s)) (s : List Char) :
    Keeps text .value s .after Prod.snd (items text (fuel + 1) s) := by
  rw [items]
  refine (hv s).bind fun ⟨v, rest⟩ => ?_
  refine (keeps_skip text .after rest).bind fun s => ?_
  refine (keeps_skipComma (.inr rfl) s).bind fun rest => ?_
  refine (keeps_skip text .value rest).bind fun s => ?_
  dsimp only [id]
  split
  · exact keeps_ok (.closeBracket (.here _ _))
  · exact (hi _).map fun _ => rfl

theorem keeps_reading (text : List Char) (fuel : Nat) :
    (∀ s, Keeps text .value s .after Prod.snd (value text fuel s)) ∧
      (∀ braces s, Keeps text .key s .after Prod.snd (members text fuel braces s)) ∧
      ∀ s, Keeps text .value s .after Prod.snd (items text fuel s) := by
  induction fuel with
  | zero =>
    refine ⟨fun s => ?_, fun braces s => ?_, fun s => ?_⟩
    · rw [value]
      exact keeps_fail _ _
    · rw [members]
      exact keeps_fail _ _
    · rw [items]
      exact keeps_fail _ _
  | succ fuel ih =>
    obtain ⟨hv, hm, hi⟩ := ih
    exact ⟨keeps_value hm hi, keeps_members hv hm, keeps_items hv hi⟩

end Values

section Documents

variable {α : Type} {text s t : List Char} {left : α → List Char} {step : Except Stop α} {d : Due}

/-- A step of the reader from the start of a configuration, which is a key or a value. -/
structure Starts (text s : List Char) (left : α → List Char) (step : Except Stop α) : Prop where
  passes : ∀ x, step = .ok x → ∃ d, IsStart d ∧ Passes d s .after (left x)
  givesUp : ∀ a, step = .error (.abandon a) → ∃ d, IsStart d ∧ GivesUp text d s a

theorem starts_of_keeps (hd : IsStart d) (h : Keeps text d s .after left step) :
    Starts text s left step :=
  ⟨fun x hx => ⟨d, hd, h.leads x hx⟩, fun a ha => ⟨d, hd, h.stops _ ha a rfl⟩⟩

theorem starts_skip_bind (s : List Char) {k : List Char → Except Stop α}
    (hk : ∀ t, Starts text t left (k t)) : Starts text s left (skip s >>= k) where
  passes x hx := by
    obtain ⟨t, ht, hx⟩ := bind_eq_ok.mp hx
    obtain ⟨d, hd, hp⟩ := (hk t).passes x hx
    exact ⟨d, hd, ((keeps_skip text d s).leads t ht).trans hp⟩
  givesUp a ha := by
    rcases bind_eq_error.mp ha with ha | ⟨t, ht, ha⟩
    · exact ⟨.key, .inl rfl, (keeps_skip text .key s).stops _ ha a rfl⟩
    · obtain ⟨d, hd, hg⟩ := (hk t).givesUp a ha
      exact ⟨d, hd, hg.of_passes ((keeps_skip text d s).leads t ht)⟩

theorem starts_unbraced (text : List Char) (fuel : Nat) (s : List Char) :
    Starts text s Prod.snd (unbraced text fuel s) := by
  obtain ⟨hv, hm, -⟩ := keeps_reading text fuel
  have hopen : Keeps text .key s .after Prod.snd (openMembers text fuel s) := by
    unfold openMembers
    split
    · exact keeps_fail _ _
    · exact hm false s
  unfold unbraced
  split
  next ms rest h => exact starts_of_keeps (.inl rfl) (keeps_ok (hopen.leads _ h))
  next a h => exact starts_of_keeps (.inl rfl) (keeps_error (hopen.stops _ h))
  next p place h =>
    split
    next found hvalue => exact starts_of_keeps (.inr rfl) (keeps_ok ((hv s).leads found hvalue))
    · exact starts_of_keeps (.inl rfl) (keeps_fail p place)

theorem starts_root (text : List Char) : Starts text (splitMark text).2 Prod.snd (root text) := by
  unfold root
  generalize splitMark text = start
  obtain ⟨marked, body⟩ := start
  obtain ⟨hv, -, -⟩ := keeps_reading text (2 * text.length + 4)
  refine starts_skip_bind body fun s => ?_
  split
  · exact starts_of_keeps (.inl rfl) (keeps_ok (.ends (.here .after _)))
  · exact starts_of_keeps (.inr rfl) (hv _)
  · exact starts_of_keeps (.inr rfl) (hv _)
  · exact starts_unbraced text _ _

/-- Where a configuration is given up. -/
def IsGivenUp (text : List Char) (a : Abandon) : Prop :=
  ∃ d, IsStart d ∧ GivesUp text d (splitMark text).2 a

theorem isGivenUp_of_read {a : Abandon} (h : Relaxed.read text = .error (.abandoned a)) :
    IsGivenUp text a := by
  have hdocument : document text = .error (.abandon a) := by
    cases hd : document text with
    | ok v =>
      rw [Relaxed.read, hd] at h
      cases h
    | error stop =>
      rw [Relaxed.read, hd] at h
      cases stop <;> cases h
      rfl
  rcases bind_eq_error.mp hdocument with h | ⟨⟨v, rest⟩, hroot, h⟩
  · exact (starts_root text).givesUp a h
  · obtain ⟨d, hd, hp⟩ := (starts_root text).passes _ hroot
    have hskip : skip rest = .error (.abandon a) := by
      rcases bind_eq_error.mp h with h | ⟨t, -, h⟩
      · exact h
      · split at h <;> cases h
    exact ⟨d, hd, ((keeps_skip text .after rest).stops _ hskip a rfl).of_passes hp⟩

end Documents

end Cosim.Proofs.Json.Abandoned
