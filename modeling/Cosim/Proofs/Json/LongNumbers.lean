import Cosim.Json.Reader
import Cosim.Proofs.Json.Reading
import Mathlib.Data.List.TakeWhile

namespace Cosim.Proofs.Json.LongNumbers

open Cosim.Json Cosim.Json.NumberText Cosim.Json.Reader Cosim.Numeral Cosim.Proofs.Outcome
  Cosim.Proofs.Json.Reading Cosim.Proofs.Json.Reading.Course

/-- The four digits behind a `u`. -/
def IsFour (ds : List Char) : Prop := ds.length = 4 ∧ ds.all isHexDigit = true

abbrev IsText (s : List Char) : Prop := IsQuoted '"' IsFour s

/-- A text and what is left of it behind some of its strings and of the characters between them. -/
inductive Outside : List Char → List Char → Prop
  | here (s : List Char) : Outside s s
  | char {c : Char} {s rest : List Char} (hc : c ≠ '"') (h : Outside s rest) : Outside (c :: s) rest
  | string {q s rest : List Char} (hq : IsText q) (h : Outside s rest) :
      Outside ('"' :: (q ++ '"' :: s)) rest

/-- So many decimal digits stand in a row outside the strings of a text. -/
def HasDigits (n : Nat) (s : List Char) : Prop :=
  ∃ digits rest, isDecimal digits = true ∧ digits.length = n ∧ Outside s (digits ++ rest)

section Outside

variable {s t rest : List Char} {n : Nat}

theorem Outside.trans (h : Outside s t) (ht : Outside t rest) : Outside s rest := by
  induction h with
  | here s => exact ht
  | char hc _ ih => exact .char hc (ih ht)
  | string hq _ ih => exact .string hq (ih ht)

theorem Outside.length_le (h : Outside s rest) : rest.length ≤ s.length := by
  induction h with
  | here s => exact le_rfl
  | char hc _ ih => exact ih.trans (by simp)
  | string hq _ ih => exact ih.trans (by simp; omega)

theorem HasDigits.le_length (h : HasDigits n s) : n ≤ s.length := by
  obtain ⟨digits, rest, -, rfl, hrest⟩ := h
  exact le_trans (by simp) hrest.length_le

theorem HasDigits.of_outside (h : Outside s t) (hd : HasDigits n t) : HasDigits n s := by
  obtain ⟨digits, rest, hdigits, hn, hrest⟩ := hd
  exact ⟨digits, rest, hdigits, hn, h.trans hrest⟩

theorem outside_append {front : List Char} (h : '"' ∉ front) (rest : List Char) :
    Outside (front ++ rest) rest := by
  induction front with
  | nil => exact .here rest
  | cons c front ih =>
    have hc : c ≠ '"' := fun he => h (he ▸ List.mem_cons_self)
    exact .char hc (ih fun hm => h (List.mem_cons_of_mem c hm))

theorem outside_dropWhile {p : Char → Bool} (hp : p '"' = false) (s : List Char) :
    Outside s (s.dropWhile p) := by
  have hfront : '"' ∉ s.takeWhile p := by
    intro hm
    have h := List.mem_takeWhile_imp hm
    rw [hp] at h
    cases h
  have h := outside_append hfront (s.dropWhile p)
  rwa [List.takeWhile_append_dropWhile] at h

theorem outside_skip (s : List Char) : Outside s (skip s) := outside_dropWhile rfl s

end Outside

/-- The reader leaves off outside the strings of its text, and digits that are too many stand
there. -/
def course : Course Unit Stop where
  Leads _ s _ rest := Outside s rest
  Stops _ s stop := ∀ n, stop = .tooLong n → Integer.digitLimit < n ∧ HasDigits n s
  trans := Outside.trans
  back h hs n hn := ⟨(hs n hn).1, (hs n hn).2.of_outside h⟩

abbrev Keeps {α : Type} (s : List Char) (step : Step α) : Prop :=
  course.Keeps () s () Prod.snd step

/-- In a string nothing is too long. -/
def strings : Course Side Stop where
  Leads := Within '"' IsFour
  Stops _ _ stop := ∀ n, stop ≠ .tooLong n
  trans := Within.trans
  back _ hs := hs

section Strings

theorem keeps_units (start s : List Char) :
    strings.Keeps .inside s .outside Prod.snd (units start s) := by
  fun_induction units start s with
  | case2 rest => exact keeps_ok (.closes .nil rest)
  | case3 a b c d rest hread ih =>
    have hfour : IsFour [a, b, c, d] := ⟨rfl, (Bool.and_eq_true_iff.mp hread).1⟩
    exact .of_leads (.on (.unit hfour .nil) rest) (ih.map fun _ => rfl)
  | case6 c rest _ hu e _ ih => exact .of_leads (.on (.escape hu .nil) rest) (ih.map fun _ => rfl)
  | case10 c rest hq _ _ hb _ ih =>
    exact .of_leads (.on (.plain hq hb .nil) rest) (ih.map fun _ => rfl)
  | _ => exact keeps_error nofun

theorem keeps_string (rest : List Char) : Keeps ('"' :: rest) (Reader.string rest) := by
  obtain ⟨hleads, hstops⟩ := keeps_units ('"' :: rest) rest
  have h : Keeps ('"' :: rest) (units ('"' :: rest) rest) := by
    refine ⟨?_, fun stop hstop n hn => absurd hn (hstops stop hstop n)⟩
    rintro ⟨us, after⟩ hus
    obtain ⟨q, hq, rfl⟩ := (hleads _ hus).exists_body
    exact .string hq (.here after)
  exact h.map fun _ => rfl

end Strings

section Scalars

theorem outside_splitMinus (s : List Char) : Outside s (splitMinus s).2 := by
  unfold splitMinus
  split
  · exact .char (by decide) (.here _)
  · exact .here s

theorem outside_splitSign (s : List Char) : Outside s (Integer.splitSign s).2 := by
  unfold Integer.splitSign
  split
  · exact .char (by decide) (.here _)
  · exact .char (by decide) (.here _)
  · exact .here s

theorem outside_digits (s : List Char) : Outside s (s.dropWhile isDecimalDigit) :=
  outside_dropWhile (by decide) s

theorem outside_splitFraction (s : List Char) : Outside s (splitFraction isDecimalDigit s).2 := by
  unfold splitFraction
  split
  · dsimp only
    split
    · exact .here _
    · exact .char (by decide) (outside_digits _)
  · exact .here s

theorem outside_splitExponent (s : List Char) : Outside s (splitExponent isDecimalDigit s).2 := by
  unfold splitExponent
  split
  · split
    · rename_i e rest he
      have hquote : e ≠ '"' := by rcases he with rfl | rfl <;> decide
      dsimp only
      split
      · exact .here _
      · exact .char hquote ((outside_splitSign rest).trans (outside_digits _))
    · exact .here _
  · exact .here _

theorem whole_append {d : Char} (hd : isDecimalDigit d = true) (rest : List Char) :
    isDecimal (if d = '0' then [d] else d :: rest.takeWhile isDecimalDigit) = true ∧
      (if d = '0' then [d] else d :: rest.takeWhile isDecimalDigit) ++
        (if d = '0' then rest else rest.dropWhile isDecimalDigit) = d :: rest := by
  split
  · exact ⟨by simp [isDecimal, hd], rfl⟩
  · refine ⟨?_, congrArg (d :: ·) List.takeWhile_append_dropWhile⟩
    simp only [isDecimal, List.isEmpty_cons, Bool.not_false, Bool.true_and, List.all_cons, hd,
      List.all_eq_true]
    exact fun c hc => List.mem_takeWhile_imp hc

theorem outside_run {ds : List Char} (hd : isDecimal ds = true) (rest : List Char) :
    Outside (ds ++ rest) rest := by
  simp only [isDecimal, Bool.and_eq_true, List.all_eq_true] at hd
  exact outside_append (fun hm => absurd (hd.2 '"' hm) (by decide)) rest

theorem outside_scan {s rest : List Char} {t : NumberText}
    (h : scan? isDecimalDigit s = some (t, rest)) :
    Outside s rest ∧ isDecimal t.whole = true ∧ ∃ tail, Outside s (t.whole ++ tail) := by
  unfold scan? at h
  have hminus := outside_splitMinus s
  dsimp only at h
  split at h
  · cases h
  rename_i d more hbody
  split at h
  · rename_i hd
    obtain ⟨hwhole, happend⟩ := whole_append hd more
    rw [hbody, ← happend] at hminus
    obtain ⟨rfl, rfl⟩ := Prod.mk.inj (Option.some.inj h)
    have hrest := hminus.trans (outside_run hwhole _)
    have hafter := (hrest.trans (outside_splitFraction _)).trans (outside_splitExponent _)
    exact ⟨hafter, hwhole, _, hminus⟩
  · cases h

theorem keeps_number (s : List Char) : Keeps s (number s) := by
  unfold number
  split
  · exact keeps_error nofun
  · rename_i t rest hscan
    obtain ⟨houtside, hdigits, tail, hwhole⟩ := outside_scan hscan
    split
    · unfold toInt
      split
      · exact keeps_ok houtside
      · rename_i hlong
        refine keeps_error ?_
        rintro n ⟨⟩
        refine ⟨?_, t.whole, tail, hdigits, rfl, hwhole⟩
        by_contra hshort
        rw [if_neg hshort] at hlong
        cases hlong
    · exact keeps_ok houtside

theorem outside_named {s rest : List Char} {v : Value} (h : named? s = some (v, rest)) :
    Outside s rest := by
  obtain ⟨⟨name, w⟩, hmem, hfound⟩ := List.exists_of_findSome?_eq_some h
  obtain ⟨after, hafter, he⟩ := Option.map_eq_some_iff.mp hfound
  obtain ⟨rfl, rfl⟩ := Prod.mk.inj he
  have hquote : ∀ n ∈ names, '"' ∉ n.1 := by decide
  unfold after? at hafter
  split at hafter
  · rename_i hfront
    obtain ⟨tail, rfl⟩ := List.isPrefixOf_iff_prefix.mp hfront
    obtain rfl := Option.some.inj hafter
    rw [List.drop_left]
    exact outside_append (hquote (name, w) hmem) tail
  · cases hafter

theorem keeps_scalar (s : List Char) : Keeps s (scalar s) := by
  unfold scalar
  split
  · rename_i found hnamed
    exact keeps_ok (outside_named hnamed)
  · exact keeps_number s

end Scalars

section Documents

variable {fuel : Nat} {s : List Char}

theorem outside_of_skip {c : Char} {rest : List Char} (h : skip s = c :: rest) (hc : c ≠ '"') :
    Outside s rest := by
  have hskip := outside_skip s
  rw [h] at hskip
  exact hskip.trans (.char hc (.here rest))

theorem keeps_value (hm : ∀ s, Keeps s (members fuel s)) (hi : ∀ s, Keeps s (items fuel s))
    (s : List Char) : Keeps s (value (fuel + 1) s) := by
  unfold value
  split
  · exact (keeps_string _).map fun _ => rfl
  · split
    · rename_i hclose
      exact keeps_ok (.char (by decide) (outside_of_skip hclose (by decide)))
    · exact .of_leads (.char (by decide) (outside_skip _)) ((hm _).map fun _ => rfl)
  · split
    · rename_i hclose
      exact keeps_ok (.char (by decide) (outside_of_skip hclose (by decide)))
    · exact .of_leads (.char (by decide) (outside_skip _)) ((hi _).map fun _ => rfl)
  · exact keeps_scalar s

theorem keeps_items (hv : ∀ s, Keeps s (value fuel s)) (hi : ∀ s, Keeps s (items fuel s))
    (s : List Char) : Keeps s (items (fuel + 1) s) := by
  rw [items]
  refine (hv s).bind fun ⟨v, rest⟩ => ?_
  dsimp only
  split
  · rename_i hclose
    exact keeps_ok (outside_of_skip hclose (by decide))
  · rename_i hcomma
    exact .of_leads ((outside_of_skip hcomma (by decide)).trans (outside_skip _))
      ((hi _).map fun _ => rfl)
  · exact keeps_error nofun

theorem keeps_members (hv : ∀ s, Keeps s (value fuel s)) (hm : ∀ s, Keeps s (members fuel s))
    (s : List Char) : Keeps s (members (fuel + 1) s) := by
  unfold members
  split
  · rename_i rest
    refine (keeps_string rest).bind fun ⟨key, rest⟩ => ?_
    dsimp only
    split
    · rename_i hcolon
      refine .of_leads ((outside_of_skip hcolon (by decide)).trans (outside_skip _))
        ((hv _).bind fun ⟨v, rest⟩ => ?_)
      dsimp only
      split
      · rename_i hclose
        exact keeps_ok (outside_of_skip hclose (by decide))
      · rename_i hcomma
        exact .of_leads ((outside_of_skip hcomma (by decide)).trans (outside_skip _))
          ((hm _).map fun _ => rfl)
      · exact keeps_error nofun
    · exact keeps_error nofun
  · exact keeps_error nofun

theorem keeps_reading (fuel : Nat) : (∀ s, Keeps s (value fuel s)) ∧
    (∀ s, Keeps s (members fuel s)) ∧ ∀ s, Keeps s (items fuel s) := by
  induction fuel with
  | zero =>
    refine ⟨fun s => ?_, fun s => ?_, fun s => ?_⟩
    · rw [value]
      exact keeps_error nofun
    · rw [members]
      exact keeps_error nofun
    · rw [items]
      exact keeps_error nofun
  | succ fuel ih =>
    obtain ⟨hv, hm, hi⟩ := ih
    exact ⟨keeps_value hm hi, keeps_members hv hm, keeps_items hv hi⟩

theorem document_tooLong {n : Nat} (h : document s = .error (.tooLong n)) :
    Integer.digitLimit < n ∧ HasDigits n s := by
  rcases bind_eq_error.mp h with h | ⟨⟨v, rest⟩, -, h⟩
  · obtain ⟨hlong, hdigits⟩ := ((keeps_reading _).1 (skip s)).stops _ h n rfl
    exact ⟨hlong, hdigits.of_outside (outside_skip s)⟩
  · dsimp only at h
    split at h <;> cases h

/-- Reading stops for the length of a number only where one stands outside the strings. -/
theorem read_tooLong {n : Nat} (h : Reader.read s = .error (.tooLong n)) :
    Integer.digitLimit < n ∧ HasDigits n s := by
  unfold Reader.read at h
  split at h
  · cases h
  · cases hd : document s with
    | ok v =>
      rw [hd] at h
      cases h
    | error stop =>
      rw [hd] at h
      cases stop with
      | problem p rest => cases h
      | tooLong m =>
        obtain rfl : m = n := by
          injection h with h
          injection h
        exact document_tooLong hd

end Documents

end Cosim.Proofs.Json.LongNumbers
