import Cosim.Proofs.Outcome

namespace Cosim.Proofs.Json.Reading

open Cosim.Proofs.Outcome

/-- How a reader gets on in a text. From a place where one thing is due it comes to a later place,
or it stops, and what is said of the later place can be said of the earlier one. -/
structure Course (Due Why : Type) where
  Leads : Due → List Char → Due → List Char → Prop
  Stops : Due → List Char → Why → Prop
  trans : ∀ {d e f s t rest}, Leads d s e t → Leads e t f rest → Leads d s f rest
  back : ∀ {d e s t w}, Leads d s e t → Stops e t w → Stops d s w

variable {Due Why α β : Type}

structure Course.Keeps (course : Course Due Why) (d : Due) (s : List Char) (e : Due)
    (left : α → List Char) (step : Except Why α) : Prop where
  leads : ∀ x, step = .ok x → course.Leads d s e (left x)
  stops : ∀ w, step = .error w → course.Stops d s w

namespace Course

variable {course : Course Due Why} {d e f : Due} {s t : List Char} {left : α → List Char}
  {left' : β → List Char} {step : Except Why α} {w : Why}

theorem keeps_ok {x : α} (h : course.Leads d s e (left x)) : course.Keeps d s e left (.ok x) := by
  refine ⟨?_, nofun⟩
  rintro _ ⟨⟩
  exact h

theorem keeps_error (h : course.Stops d s w) : course.Keeps d s e left (.error w) := by
  refine ⟨nofun, ?_⟩
  rintro _ ⟨⟩
  exact h

theorem Keeps.of_leads (h : course.Leads d s e t) (hk : course.Keeps e t f left step) :
    course.Keeps d s f left step :=
  ⟨fun x hx => course.trans h (hk.leads x hx), fun w hw => course.back h (hk.stops w hw)⟩

theorem Keeps.bind {k : α → Except Why β} (h : course.Keeps d s e left step)
    (hk : ∀ x, course.Keeps e (left x) f left' (k x)) :
    course.Keeps d s f left' (step >>= k) where
  leads y hy := by
    obtain ⟨x, hx, hy⟩ := bind_eq_ok.mp hy
    exact course.trans (h.leads x hx) ((hk x).leads y hy)
  stops w hw := by
    rcases bind_eq_error.mp hw with hw | ⟨x, hx, hw⟩
    · exact h.stops w hw
    · exact course.back (h.leads x hx) ((hk x).stops w hw)

theorem Keeps.map {k : α → β} (hk : ∀ x, left' (k x) = left x)
    (h : course.Keeps d s e left step) : course.Keeps d s e left' (step.map k) where
  leads y hy := by
    obtain ⟨x, hx, rfl⟩ := map_eq_ok.mp hy
    rw [hk]
    exact h.leads x hx
  stops w hw := h.stops w (map_eq_error.mp hw)

end Course

inductive IsQuoted (quote : Char) (IsUnit : List Char → Prop) : List Char → Prop
  | nil : IsQuoted quote IsUnit []
  | plain {c : Char} {s : List Char} (hq : c ≠ quote) (hb : c ≠ '\\')
      (h : IsQuoted quote IsUnit s) : IsQuoted quote IsUnit (c :: s)
  | escape {c : Char} {s : List Char} (hu : c ≠ 'u') (h : IsQuoted quote IsUnit s) :
      IsQuoted quote IsUnit ('\\' :: c :: s)
  | unit {ds s : List Char} (hd : IsUnit ds) (h : IsQuoted quote IsUnit s) :
      IsQuoted quote IsUnit ('\\' :: 'u' :: (ds ++ s))

inductive Side where
  | inside
  | outside

/-- From a place in a string to one further on in it, or to the one behind its closing quote. -/
inductive Within (quote : Char) (IsUnit : List Char → Prop) :
    Side → List Char → Side → List Char → Prop
  | on {front : List Char} (h : IsQuoted quote IsUnit front) (rest : List Char) :
      Within quote IsUnit .inside (front ++ rest) .inside rest
  | closes {body : List Char} (h : IsQuoted quote IsUnit body) (rest : List Char) :
      Within quote IsUnit .inside (body ++ quote :: rest) .outside rest
  | here (rest : List Char) : Within quote IsUnit .outside rest .outside rest

section Strings

variable {quote : Char} {IsUnit : List Char → Prop} {s t rest : List Char} {d e f : Side}

theorem IsQuoted.append (hs : IsQuoted quote IsUnit s) (ht : IsQuoted quote IsUnit t) :
    IsQuoted quote IsUnit (s ++ t) := by
  induction hs with
  | nil => exact ht
  | plain hq hb _ ih => exact .plain hq hb ih
  | escape hu _ ih => exact .escape hu ih
  | @unit ds s hd _ ih =>
    rw [List.cons_append, List.cons_append, List.append_assoc]
    exact .unit hd ih

theorem Within.trans (h : Within quote IsUnit d s e t) (ht : Within quote IsUnit e t f rest) :
    Within quote IsUnit d s f rest := by
  cases h with
  | here => exact ht
  | closes hbody =>
    cases ht
    exact .closes hbody _
  | on hfront =>
    cases ht with
    | on hmore =>
      rw [← List.append_assoc]
      exact .on (hfront.append hmore) _
    | closes hbody =>
      rw [← List.append_assoc]
      exact .closes (hfront.append hbody) _

theorem Within.exists_body (h : Within quote IsUnit .inside s .outside rest) :
    ∃ body, IsQuoted quote IsUnit body ∧ s = body ++ quote :: rest := by
  cases h with
  | closes hbody => exact ⟨_, hbody, rfl⟩

end Strings

end Cosim.Proofs.Json.Reading
