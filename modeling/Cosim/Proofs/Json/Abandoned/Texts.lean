import Cosim.Proofs.Json.Abandoned.Places
import Mathlib.Data.List.TakeWhile

namespace Cosim.Proofs.Json.Abandoned

open Cosim.Json Cosim.Json.Relaxed Cosim.Numeral Cosim.Proofs.Json.Reading
  Cosim.Proofs.Json.Reading.Course Cosim.Proofs.Outcome Cosim.Text

section Strings

variable {text s rest : List Char} {quote : Char} {d : Due}

/-- Between quotes of one kind stands an escape for a negative number. -/
def HasBadEscape (quote : Char) (s : List Char) : Prop :=
  ∃ body a b c d after n, IsQuoted quote IsFour body ∧
    s = body ++ '\\' :: 'u' :: a :: b :: c :: d :: after ∧
    Integer.readHex [a, b, c, d] = .ok n ∧ n < 0

theorem HasBadEscape.append {front : List Char} (hfront : IsQuoted quote IsFour front)
    (h : HasBadEscape quote s) : HasBadEscape quote (front ++ s) := by
  obtain ⟨body, a, b, c, d, after, n, hbody, rfl, hread, hn⟩ := h
  exact ⟨front ++ body, a, b, c, d, after, n, hfront.append hbody,
    (List.append_assoc front body _).symm, hread, hn⟩

/-- In a string the reader gives up over such an escape only. -/
def strings (quote : Char) : Course Side Stop where
  Leads := Within quote IsFour
  Stops d s stop := ∀ a, stop = .abandon a → a = .noCharacter ∧ d = .inside ∧ HasBadEscape quote s
  trans := Within.trans
  back h hs a ha := by
    obtain ⟨rfl, rfl, hbad⟩ := hs a ha
    cases h with
    | on hfront => exact ⟨rfl, rfl, hbad.append hfront⟩

theorem readHex_of_four? {a b c d : Char} {n : Int} (h : four? a b c d = some n) :
    Integer.readHex [a, b, c, d] = .ok n := by
  rw [four?] at h
  split_ifs at h
  cases hread : Integer.readHex [a, b, c, d] with
  | error f =>
    rw [hread] at h
    cases h
  | ok m =>
    rw [hread] at h
    exact congrArg Except.ok (Option.some.inj h)

theorem keeps_units (start s : List Char) (quote : Char) :
    (strings quote).Keeps .inside s .outside Prod.snd (units start quote s) := by
  fun_induction units start quote s with
  | case3 a b c d rest n hfour hn =>
    refine keeps_error ?_
    rintro _ ⟨⟩
    exact ⟨rfl, rfl, [], a, b, c, d, rest, n, .nil, rfl, readHex_of_four? hfour, hn⟩
  | case4 a b c d rest n hfour hn ih =>
    have hunit : IsFour [a, b, c, d] := rfl
    exact .of_leads (.on (.unit hunit .nil) rest) (ih.map fun _ => rfl)
  | case6 c rest _ hu x hx ih => exact .of_leads (.on (.escape hu .nil) rest) (ih.map fun _ => rfl)
  | case8 rest => exact keeps_ok (.closes .nil rest)
  | case11 c rest _ _ hq hb _ ih =>
    exact .of_leads (.on (.plain hq hb .nil) rest) (ih.map fun _ => rfl)
  | _ => exact keeps_error nofun

theorem keeps_string (hd : d = .key ∨ d = .value) (hquote : IsQuote quote) (rest : List Char) :
    Keeps text d (quote :: rest) d.behind Prod.snd (Relaxed.string quote rest) := by
  have h : Keeps text d (quote :: rest) d.behind Prod.snd (units (quote :: rest) quote rest) := by
    obtain ⟨hleads, hstops⟩ := keeps_units (quote :: rest) rest quote
    refine ⟨?_, fun stop hstop a ha => ?_⟩
    · rintro ⟨us, after⟩ hus
      obtain ⟨body, hbody, rfl⟩ := (hleads _ hus).exists_body
      exact .string hd hquote hbody (.here _ _)
    · obtain ⟨rfl, -, body, x, y, z, w, after, n, hbody, rfl, hread, hn⟩ := hstops stop hstop a ha
      exact (Breaks.escape hd hquote hbody hread hn).givesUp
  exact h.map fun _ => rfl

end Strings

section Apostrophes

variable {s body front : List Char} {indent quotes left : Nat}

theorem IsUpTo.append (h : IsUpTo apostrophes body) (hfront : '\'' ∉ front) :
    IsUpTo apostrophes (front ++ body) := by
  induction front with
  | nil => exact h
  | cons c front ih =>
    obtain ⟨hc, hrest⟩ := List.ne_and_not_mem_of_not_mem_cons hfront
    intro hinfix
    rcases List.infix_cons_iff.mp hinfix with hstart | hlater
    · exact hc (List.cons_prefix_cons.mp hstart).1
    · exact ih hrest hlater

/-- Less than three apostrophes close nothing if something else follows. -/
theorem IsUpTo.behind {c : Char} (h : IsUpTo apostrophes body) (hc : c ≠ '\'')
    (hquotes : quotes ≤ 2) : IsUpTo apostrophes (List.replicate quotes '\'' ++ c :: body) := by
  have hsingle : '\'' ∉ [c] := by simpa using hc.symm
  have hother : IsUpTo apostrophes (c :: body) := h.append hsingle
  have hone : IsUpTo apostrophes ('\'' :: c :: body) := by
    intro hinfix
    rcases List.infix_cons_iff.mp hinfix with hstart | hlater
    · exact hc (List.cons_prefix_cons.mp (List.cons_prefix_cons.mp hstart).2).1.symm
    · exact hother hlater
  have htwo : IsUpTo apostrophes ('\'' :: '\'' :: c :: body) := by
    intro hinfix
    rcases List.infix_cons_iff.mp hinfix with hstart | hlater
    · have hthird := (List.cons_prefix_cons.mp (List.cons_prefix_cons.mp hstart).2).2
      exact hc (List.cons_prefix_cons.mp hthird).1.symm
    · exact hone hlater
  match quotes, hquotes with
  | 0, _ => exact hother
  | 1, _ => exact hone
  | 2, _ => exact htwo

/-- A text between triple apostrophes ends at the first three that follow its opening ones. -/
def Ends (quotes : Nat) (s : List Char) (step : Step (List Char)) : Prop :=
  ∀ t rest, step = .ok (t, rest) →
    ∃ body, List.replicate quotes '\'' ++ s = body ++ (apostrophes ++ rest) ∧
      IsUpTo apostrophes body

theorem Ends.behind {c : Char} {step : Step (List Char)} (h : Ends 0 s step) (hc : c ≠ '\'')
    (hquotes : quotes ≤ 2) (front : List Char) : Ends quotes (c :: s) (step.map (push front)) := by
  intro t rest hstep
  obtain ⟨⟨t', mid⟩, hs, he⟩ := map_eq_ok.mp hstep
  obtain rfl : mid = rest := congrArg Prod.snd he
  obtain ⟨body, hbody, hup⟩ := h t' mid hs
  refine ⟨List.replicate quotes '\'' ++ c :: body, ?_, hup.behind hc hquotes⟩
  rw [List.append_assoc, List.cons_append, ← hbody]
  rfl

theorem ends_multilineFrom (hquotes : quotes ≤ 2) (hleft : quotes = 0 ∨ left = 0) :
    Ends quotes s (multilineFrom indent quotes left s) := by
  fun_induction multilineFrom indent quotes left s with
  | case1 => exact nofun
  | case2 quotes left c rest hc ih =>
    obtain rfl : quotes = 0 := hleft.resolve_right hc.1
    have hne : c ≠ '\'' := by
      rintro rfl
      exact absurd hc.2 (by decide)
    intro t tail hstep
    obtain ⟨body, rfl, hup⟩ := ih (by omega) (.inl rfl) t tail hstep
    have hsingle : '\'' ∉ [c] := by simpa using hne.symm
    exact ⟨c :: body, rfl, hup.append hsingle⟩
  | case3 left rest =>
    rintro _ _ ⟨⟩
    exact ⟨[], rfl, isUpTo_nil (by simp [apostrophes])⟩
  | case4 quotes left rest hne _ ih =>
    intro t tail hstep
    obtain ⟨body, hbody, hup⟩ := ih (by omega) (.inr rfl) t tail hstep
    refine ⟨body, ?_, hup⟩
    rw [← hbody, List.replicate_succ', List.append_assoc, List.singleton_append]
  | case5 quotes left rest before _ hc ih =>
    exact (ih (by omega) (.inl rfl)).behind hc hquotes _
  | case6 quotes left rest before _ hc _ ih =>
    exact (ih (by omega) (.inl rfl)).behind hc hquotes _
  | case7 quotes left c rest _ hc before _ _ ih =>
    exact (ih (by omega) (.inl rfl)).behind hc hquotes _

theorem multilineFrom_ne_abandon (indent quotes left : Nat) (s : List Char) (a : Abandon) :
    multilineFrom indent quotes left s ≠ .error (.abandon a) := by
  fun_induction multilineFrom indent quotes left s with
  | case1 => exact nofun
  | case2 _ _ _ _ _ ih => exact ih
  | case3 => exact nofun
  | case4 _ _ _ _ _ ih => exact ih
  | case5 _ _ _ _ _ _ ih => exact fun h => ih (map_eq_error.mp h)
  | case6 _ _ _ _ _ _ _ ih => exact fun h => ih (map_eq_error.mp h)
  | case7 _ _ _ _ _ _ _ _ _ ih => exact fun h => ih (map_eq_error.mp h)

theorem Ends.append {step : Step (List Char)} (h : Ends 0 s step) (hfront : '\'' ∉ front) :
    Ends 0 (front ++ s) step := by
  intro t rest hstep
  obtain ⟨body, hbody, hup⟩ := h t rest hstep
  refine ⟨front ++ body, ?_, hup.append hfront⟩
  rw [List.append_assoc, ← hbody]
  rfl

theorem apostrophe_not_mem_takeWhile (s : List Char) : '\'' ∉ s.takeWhile isIndent := by
  intro hmem
  exact absurd (List.mem_takeWhile_imp hmem) (by decide)

theorem ends_dropWhile {step : Step (List Char)} (h : Ends 0 (s.dropWhile isIndent) step) :
    Ends 0 s step := by
  have happend := h.append (apostrophe_not_mem_takeWhile s)
  rwa [List.takeWhile_append_dropWhile] at happend

theorem not_newline_of_indentation? {text rest : List Char} (h : indentation? text rest = none) :
    '\n' ∉ text := by
  rw [indentation?] at h
  split_ifs at h with _ htext
  simpa using htext

theorem keeps_of_ends {text : List Char} {step : Step (List Char)} (h : Ends 0 s step)
    (hne : ∀ a, step ≠ .error (.abandon a)) :
    Keeps text .value (apostrophes ++ s) .after Prod.snd step where
  leads := by
    rintro ⟨t, rest⟩ hstep
    obtain ⟨body, hbody, hup⟩ := h t rest hstep
    obtain rfl : s = body ++ (apostrophes ++ rest) := hbody
    exact .apostrophes hup (.here _ _)
  stops stop hstop a ha := absurd (hstop.trans (congrArg Except.error ha)) (hne a)

theorem keeps_multiline (text s : List Char) (indent : Nat) :
    Keeps text .value (apostrophes ++ s) .after Prod.snd (multiline indent s) := by
  unfold multiline
  extract_lets body
  have hbody : Keeps text .value (apostrophes ++ s) .after Prod.snd body := by
    unfold body
    split
    next hgap =>
      have hblank : ∀ c ∈ s, isIndent c = true := List.dropWhile_eq_nil_iff.mp hgap
      exact (Breaks.apostrophes (.inr hblank)).keeps
    next rest hgap =>
      have hends : Ends 0 rest (multilineFrom indent 0 indent rest) :=
        ends_multilineFrom (by omega) (.inl rfl)
      have hnewline : '\'' ∉ ['\n'] := by decide
      refine keeps_of_ends (ends_dropWhile ?_) (multilineFrom_ne_abandon indent 0 indent rest)
      rw [hgap]
      exact hends.append hnewline
    next =>
      have hends :
          Ends 0 (s.dropWhile isIndent) (multilineFrom indent 0 0 (s.dropWhile isIndent)) :=
        ends_multilineFrom (by omega) (.inl rfl)
      exact keeps_of_ends (ends_dropWhile hends) (multilineFrom_ne_abandon indent 0 0 _)
  exact hbody.map fun _ => rfl

end Apostrophes

section Keys

variable {start seen s rest : List Char} {noted : Option (List Char)} {adjacent : Bool}

def InKey (c : Char) : Prop := c ≠ ':' ∧ isBracket c = false

/-- A key without quotes ends in front of its colon, or something is wrong with it. -/
structure Names (s : List Char) (step : Step Wide) : Prop where
  upToColon : ∀ name rest, step = .ok (name, rest) →
    ∃ body tail, s = body ++ ':' :: tail ∧ rest = ':' :: tail ∧ ∀ c ∈ body, InKey c
  ne_abandon : ∀ a, step ≠ .error (.abandon a)

theorem Names.cons {c : Char} {step : Step Wide} (h : Names s step) (hc : InKey c) :
    Names (c :: s) step where
  upToColon name rest hstep := by
    obtain ⟨body, tail, rfl, hrest, hbody⟩ := h.upToColon name rest hstep
    exact ⟨c :: body, tail, rfl, hrest, List.forall_mem_cons.mpr ⟨hc, hbody⟩⟩
  ne_abandon := h.ne_abandon

theorem names_ok (name : Wide) (s : List Char) : Names (':' :: s) (.ok (name, ':' :: s)) where
  upToColon := by
    rintro _ _ ⟨⟩
    exact ⟨[], s, rfl, rfl, nofun⟩
  ne_abandon := nofun

theorem isBracket_of_isSpace {c : Char} (h : Reader.isSpace c = true) : isBracket c = false := by
  simp only [Reader.isSpace, Bool.or_eq_true, beq_iff_eq] at h
  rcases h with ((rfl | rfl) | rfl) | rfl <;> rfl

theorem names_bareKey (start seen : List Char) (noted : Option (List Char)) (adjacent : Bool)
    (s : List Char) : Names s (bareKey start seen noted adjacent s) := by
  fun_induction bareKey start seen noted adjacent s with
  | case4 => exact names_ok _ _
  | case5 => exact names_ok _ _
  | case6 _ _ _ _ _ hc hspace _ ih => exact ih.cons ⟨hc, isBracket_of_isSpace hspace⟩
  | case7 _ _ _ _ _ hc hspace _ ih => exact ih.cons ⟨hc, isBracket_of_isSpace hspace⟩
  | case9 _ _ _ _ _ hc _ hbracket ih => exact ih.cons ⟨hc, eq_false_of_ne_true hbracket⟩
  | _ => exact ⟨nofun, nofun⟩

theorem keeps_key (text s : List Char) : Keeps text .key s .colon Prod.snd (key s) := by
  unfold key
  split
  next rest => exact keeps_string (.inl rfl) (.inl rfl) rest
  next rest => exact keeps_string (.inl rfl) (.inr rfl) rest
  next hdouble hsingle =>
    obtain ⟨hup, hne⟩ := names_bareKey s [] none false s
    refine ⟨?_, fun stop hstop a ha => absurd (hstop.trans (congrArg Except.error ha)) (hne a)⟩
    rintro ⟨name, rest⟩ hstep
    obtain ⟨body, tail, rfl, rfl, hbody⟩ := hup name rest hstep
    refine .key hbody ?_ (.here _ _)
    rintro c hc (rfl | rfl)
    all_goals obtain ⟨back, rfl⟩ := List.head?_eq_some_iff.mp hc
    · exact hdouble _ rfl
    · exact hsingle _ rfl

end Keys

end Cosim.Proofs.Json.Abandoned
