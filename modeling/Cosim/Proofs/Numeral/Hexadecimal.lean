import Cosim.Numeral.Integer
import Cosim.Proofs.Numeral.Digits
import Mathlib.Data.List.DropRight
import Mathlib.Data.List.Forall2
import Mathlib.Data.Nat.Digits.Defs

namespace Cosim.Proofs.Numeral.Hexadecimal

open Cosim.Numeral Cosim.Numeral.Integer Cosim.Text
open Cosim.Proofs.Numeral.Digits

/-- `c` is the hexadecimal digit of value `d`, in either case. -/
def IsDigit (c : Char) (d : Nat) : Prop :=
  d < 16 ∧ (c = d.digitChar ∨ c = d.digitChar.toUpper)

instance (c : Char) (d : Nat) : Decidable (IsDigit c d) := inferInstanceAs (Decidable (_ ∧ _))

theorem toNat_lt_of_isHexDigit {c : Char} (h : isHexDigit c = true) : c.toNat < 128 := by
  by_contra hc
  have h9 : ¬ c ≤ '9' := fun h9 => hc (Nat.lt_of_le_of_lt (toNat_le.mp h9) (by decide))
  have hf : ¬ c ≤ 'f' := fun hf => hc (Nat.lt_of_le_of_lt (toNat_le.mp hf) (by decide))
  have hF : ¬ c ≤ 'F' := fun hF => hc (Nat.lt_of_le_of_lt (toNat_le.mp hF) (by decide))
  simp [isHexDigit, hexDigit?, h9, hf, hF] at h

theorem isDigit_ascii : ∀ n < 128, ∀ d ∈ hexDigit? (Char.ofNat n), IsDigit (Char.ofNat n) d := by
  decide +kernel

theorem hexDigit?_digitChar : ∀ d < 16,
    hexDigit? d.digitChar = some d ∧ hexDigit? d.digitChar.toUpper = some d := by
  decide

theorem hexDigit?_eq_some {c : Char} {d : Nat} : hexDigit? c = some d ↔ IsDigit c d := by
  constructor
  · intro h
    have hc : c.toNat < 128 := toNat_lt_of_isHexDigit (by simp [isHexDigit, h])
    have hd := isDigit_ascii c.toNat hc d
    rw [Char.ofNat_toNat] at hd
    exact hd h
  · rintro ⟨hd, rfl | rfl⟩
    · exact (hexDigit?_digitChar d hd).1
    · exact (hexDigit?_digitChar d hd).2

/-- The text is hexadecimal digits and nothing else, at least one of them, and `n` is the number
that they denote in base 16. -/
def Denotes (s : List Char) (n : Nat) : Prop :=
  s ≠ [] ∧ ∃ ds, List.Forall₂ IsDigit s.reverse ds ∧ n = Nat.ofDigits 16 ds

theorem ofDigits_eq (ds : List Nat) : ofDigits 16 ds = Nat.ofDigits 16 ds.reverse := by
  induction ds with
  | nil => rfl
  | cons d ds ih =>
    rw [List.reverse_cons, Nat.ofDigits_append, Nat.ofDigits_singleton, List.length_reverse, ← ih,
      ← List.singleton_append, ofDigits_append]
    simp [ofDigits, Nat.add_comm, Nat.mul_comm]

theorem forall₂_isDigit_iff {s : List Char} {ds : List Nat} :
    List.Forall₂ IsDigit s ds ↔
      (∀ c ∈ s, isHexDigit c = true) ∧ ds = s.map fun c => (hexDigit? c).getD 0 := by
  induction s generalizing ds with
  | nil => simp
  | cons c s ih =>
    rw [List.forall₂_cons_left_iff]
    constructor
    · rintro ⟨d, ds, hd, hs, rfl⟩
      have hc := hexDigit?_eq_some.mpr hd
      obtain ⟨hall, rfl⟩ := ih.mp hs
      exact ⟨List.forall_mem_cons.mpr ⟨by simp [isHexDigit, hc], hall⟩, by simp [hc]⟩
    · rintro ⟨hall, rfl⟩
      obtain ⟨hc, hall⟩ := List.forall_mem_cons.mp hall
      obtain ⟨d, hd⟩ := Option.isSome_iff_exists.mp hc
      exact ⟨d, _, hexDigit?_eq_some.mp hd, ih.mpr ⟨hall, rfl⟩, by simp [hd]⟩

theorem denotes_iff {s : List Char} {n : Nat} :
    Denotes s n ↔ isHex s = true ∧ hexValue s = n := by
  have hvalue : hexValue s =
      Nat.ofDigits 16 (s.reverse.map fun c => (hexDigit? c).getD 0) := by
    rw [hexValue, valueBy, ofDigits_eq, List.map_reverse]
  simp only [Denotes, forall₂_isDigit_iff, isHex, Bool.and_eq_true, List.all_eq_true, hvalue,
    List.mem_reverse]
  constructor
  · rintro ⟨hne, ds, ⟨hall, rfl⟩, rfl⟩
    exact ⟨⟨by simpa using hne, hall⟩, rfl⟩
  · rintro ⟨⟨hne, hall⟩, rfl⟩
    exact ⟨by simpa using hne, _, ⟨hall, rfl⟩, rfl⟩

section Digits

variable {c : Char} {d : Nat}

/-- A hexadecimal digit, or a decimal digit of another script. -/
def IsScriptDigit (c : Char) (d : Nat) : Prop :=
  IsDigit c d ∨ 128 ≤ c.toNat ∧ DecimalDigit.value? c = some d

theorem hexDigit?_ofNat : ∀ d < 10, hexDigit? (Char.ofNat (48 + d)) = some d := by
  decide

theorem hexDigit?_plain : hexDigit? (plain c) = some d ↔ IsScriptDigit c d := by
  by_cases hc : c.toNat < 128
  · simp [plain, IsScriptDigit, hc, hexDigit?_eq_some]
  · have hnone : hexDigit? c = none := by
      rw [← Option.not_isSome_iff_eq_none]
      exact fun h => hc (toNat_lt_of_isHexDigit h)
    have hdigit : ¬ IsDigit c d := by simp [← hexDigit?_eq_some, hnone]
    cases hv : DecimalDigit.value? c with
    | none => simp [plain, IsScriptDigit, hc, hv, hnone, hdigit]
    | some e =>
      have he := hexDigit?_ofNat e (DecimalDigit.value?_lt hv)
      simp [plain, IsScriptDigit, hc, hv, he, hdigit, Nat.not_lt.mp hc]

theorem plain_eq_iff {x : Char} (hx : x.toNat < 128) (hd : isDecimalDigit x = false) :
    plain c = x ↔ c = x := by
  by_cases hc : c.toNat < 128
  · simp [plain, hc]
  · have hne : c ≠ x := fun h => hc (h ▸ hx)
    cases hv : DecimalDigit.value? c with
    | none => simp [plain, hc, hv]
    | some e =>
      have he : ∀ e < 10, isDecimalDigit (Char.ofNat (48 + e)) = true := by decide
      simp only [plain, hc, hv, hne, iff_false, ↓reduceIte]
      rintro rfl
      simp [he e (DecimalDigit.value?_lt hv)] at hd

theorem not_isScriptDigit_of_plain {x : Char} (hx : plain x = x) (hd : hexDigit? x = none) :
    ¬ IsScriptDigit x d := by
  rw [← hexDigit?_plain, hx, hd]
  simp

theorem not_isMargin_of_isScriptDigit (h : IsScriptDigit c d) : isMargin c = false := by
  have hblank : Blank.isBlank c = false := by
    obtain ⟨hd, hc⟩ | ⟨-, hv⟩ := h
    · have hascii : ∀ d < 16, Blank.isBlank d.digitChar = false ∧
          Blank.isBlank d.digitChar.toUpper = false := by
        decide
      obtain rfl | rfl := hc
      · exact (hascii d hd).1
      · exact (hascii d hd).2
    · have hzeros : ∀ z ∈ DecimalDigit.zeros, ∀ k < 10,
          Blank.isBlank (Char.ofNat (z + k)) = false := by
        decide +kernel
      obtain ⟨z, hz, -⟩ := Option.map_eq_some_iff.mp hv
      have hrange := List.find?_some hz
      simp only [Bool.and_eq_true, decide_eq_true_eq] at hrange
      have hblank := hzeros z (List.mem_of_find?_eq_some hz) (c.toNat - z) (by omega)
      rwa [Nat.add_sub_cancel' hrange.1, Char.ofNat_toNat] at hblank
  simp [isMargin, hblank]

end Digits

section Runs

/-- Digits with single underscores between them, and the values of the digits. -/
inductive IsRun : List Char → List Nat → Prop
  | last {c : Char} {d : Nat} (h : IsScriptDigit c d) : IsRun [c] [d]
  | next {c : Char} {d : Nat} {s : List Char} {ds : List Nat} (h : IsScriptDigit c d)
      (hs : IsRun s ds) : IsRun (c :: s) (d :: ds)
  | underscore {c : Char} {d : Nat} {s : List Char} {ds : List Nat} (h : IsScriptDigit c d)
      (hs : IsRun s ds) : IsRun (c :: '_' :: s) (d :: ds)

/-- What may follow a digit of a run. -/
def IsTail (s : List Char) (ds : List Nat) : Prop :=
  s = [] ∧ ds = [] ∨ IsRun s ds ∨ ∃ rest, s = '_' :: rest ∧ IsRun rest ds

theorem isRun_cons {c : Char} {s : List Char} {ds : List Nat} :
    IsRun (c :: s) ds ↔ ∃ d rest, ds = d :: rest ∧ IsScriptDigit c d ∧ IsTail s rest := by
  constructor
  · intro h
    cases h with
    | last h => exact ⟨_, _, rfl, h, .inl ⟨rfl, rfl⟩⟩
    | next h hs => exact ⟨_, _, rfl, h, .inr (.inl hs)⟩
    | underscore h hs => exact ⟨_, _, rfl, h, .inr (.inr ⟨_, rfl, hs⟩)⟩
  · rintro ⟨d, rest, rfl, h, ⟨rfl, rfl⟩ | hs | ⟨s, rfl, hs⟩⟩
    · exact .last h
    · exact .next h hs
    · exact .underscore h hs

def values (t : List Char) : List Nat := t.map fun c => (hexDigit? c).getD 0

theorem joined_plain (s : List Char) (ds : List Nat) :
    ((joined isHexDigit true (s.map plain)).map values = some ds ↔ IsRun s ds) ∧
      ((joined isHexDigit false (s.map plain)).map values = some ds ↔ IsTail s ds) := by
  -- both readers at once: behind a digit an underscore may stand, and behind that only a digit
  induction s generalizing ds with
  | nil =>
    have hnil : ¬ IsRun [] ds := nofun
    simp [joined, IsTail, hnil, values, eq_comm]
  | cons c s ih =>
    by_cases hc : c = '_'
    · subst hc
      have hplain : plain '_' = '_' := by decide
      have hrun : ¬ IsRun ('_' :: s) ds := by
        rw [isRun_cons]
        rintro ⟨d, rest, -, h, -⟩
        exact not_isScriptDigit_of_plain hplain (by decide) h
      simp [joined, hplain, hrun, IsTail, ih]
    · have hne : plain c ≠ '_' := by rwa [ne_eq, plain_eq_iff (by decide) (by decide)]
      have htail : IsTail (c :: s) ds ↔ IsRun (c :: s) ds := by simp [IsTail, hc]
      rw [htail, isRun_cons]
      cases hd : hexDigit? (plain c) with
      | none =>
        have hdigit : isHexDigit (plain c) = false := by simp [isHexDigit, hd]
        simp [joined, hne, hdigit, ← hexDigit?_plain, hd]
      | some d =>
        have hdigit : isHexDigit (plain c) = true := by simp [isHexDigit, hd]
        have hcons : (((joined isHexDigit false (s.map plain)).map (plain c :: ·)).map values =
            some ds) ↔ ∃ rest, ds = d :: rest ∧ IsTail s rest := by
          simp only [← ih, Option.map_eq_some_iff]
          simp [values, hd, eq_comm, and_comm]
        simp only [List.map_cons, joined, hne, hdigit, ↓reduceIte, hcons, ← hexDigit?_plain, hd]
        simp

end Runs

section Numerals

/-- A sign, and the factor that it stands for. -/
inductive IsSign : List Char → Int → Prop
  | none : IsSign [] 1
  | plus : IsSign ['+'] 1
  | minus : IsSign ['-'] (-1)

/-- The mark of base 16, with one underscore behind it or none. The zero may be of any script. -/
inductive IsMark : List Char → Prop
  | none : IsMark []
  | mark {z x : Char} (hz : IsScriptDigit z 0) (hx : x = 'x' ∨ x = 'X') : IsMark [z, x]
  | underscore {z x : Char} (hz : IsScriptDigit z 0) (hx : x = 'x' ∨ x = 'X') : IsMark [z, x, '_']

/-- A number in the liberal notation to base 16: blanks around it, a sign, a second mark, and
digits of any script with single underscores between them. -/
def IsNumeral (s : List Char) (v : Int) : Prop :=
  ∃ left sign factor mark body ds right,
    s = left ++ (sign ++ (mark ++ body) ++ right) ∧ (∀ c ∈ left ++ right, isMargin c = true) ∧
    IsSign sign factor ∧ IsMark mark ∧ IsRun body ds ∧
      v = factor * (Nat.ofDigits 16 ds.reverse : Nat)

theorem isScriptDigit_zero {c : Char} : IsScriptDigit c 0 ↔ plain c = '0' := by
  rw [← hexDigit?_plain]
  exact ⟨hexDigit?_eq_zero, fun h => h ▸ by decide⟩

theorem splitSign_of_ne {c : Char} (hm : c ≠ '-') (hp : c ≠ '+') (s : List Char) :
    splitSign (plain c :: s) = (false, plain c :: s) := by
  have hm' : plain c ≠ '-' := by rwa [ne_eq, plain_eq_iff (by decide) (by decide)]
  have hp' : plain c ≠ '+' := by rwa [ne_eq, plain_eq_iff (by decide) (by decide)]
  rw [splitSign]
  · exact fun rest h => hm' (List.cons.inj h).1
  · exact fun rest h => hp' (List.cons.inj h).1

theorem exists_sign (s : List Char) :
    ∃ sign factor rest, s = sign ++ rest ∧ IsSign sign factor ∧
      splitSign (s.map plain) = (decide (factor = -1), rest.map plain) := by
  cases s with
  | nil => exact ⟨[], 1, [], rfl, .none, rfl⟩
  | cons c s =>
    by_cases hm : c = '-'
    · exact ⟨['-'], -1, s, by rw [hm]; rfl, .minus, by rw [hm]; rfl⟩
    by_cases hp : c = '+'
    · exact ⟨['+'], 1, s, by rw [hp]; rfl, .plus, by rw [hp]; rfl⟩
    exact ⟨[], 1, c :: s, rfl, .none, splitSign_of_ne hm hp _⟩

theorem splitSign_sign {sign rest : List Char} {factor : Int} (h : IsSign sign factor)
    (hrest : ∀ c ∈ rest.head?, c ≠ '-' ∧ c ≠ '+') :
    splitSign ((sign ++ rest).map plain) = (decide (factor = -1), rest.map plain) := by
  cases h with
  | plus => rfl
  | minus => rfl
  | none =>
    cases rest with
    | nil => rfl
    | cons c rest => exact splitSign_of_ne (hrest c rfl).1 (hrest c rfl).2 _

theorem plain_eq_mark {x : Char} : plain x = 'x' ∨ plain x = 'X' ↔ x = 'x' ∨ x = 'X' := by
  rw [plain_eq_iff (by decide) (by decide), plain_eq_iff (by decide) (by decide)]

theorem dropMark_of_not {s : List Char}
    (h : ∀ z x rest, s = z :: x :: rest → IsScriptDigit z 0 → ¬ (x = 'x' ∨ x = 'X')) :
    dropMark (s.map plain) = s.map plain := by
  match s with
  | [] => rfl
  | [z] =>
    rw [List.map_cons, List.map_nil, dropMark]
    exact fun x rest he => List.cons_ne_nil x rest (List.cons.inj he).2.symm
  | z :: x :: rest =>
    by_cases hz : IsScriptDigit z 0
    · have hx := mt plain_eq_mark.mp (h z x rest rfl hz)
      rw [List.map_cons, List.map_cons, isScriptDigit_zero.mp hz, dropMark.eq_def]
      exact if_neg hx
    · rw [List.map_cons, dropMark]
      exact fun x rest he => hz (isScriptDigit_zero.mpr (List.cons.inj he).1)

theorem dropMark_cons {z x : Char} (hz : IsScriptDigit z 0) (hx : x = 'x' ∨ x = 'X')
    (rest : List Char) : dropMark ((z :: x :: rest).map plain) =
      (if rest.head? = some '_' then rest.tail else rest).map plain := by
  rw [List.map_cons, List.map_cons, isScriptDigit_zero.mp hz, dropMark.eq_def]
  refine (if_pos (plain_eq_mark.mpr hx)).trans ?_
  cases rest with
  | nil => rfl
  | cons c rest =>
    by_cases hc : c = '_'
    · subst hc
      rfl
    · have hplain : plain c ≠ '_' := by rwa [ne_eq, plain_eq_iff (by decide) (by decide)]
      rw [if_neg (by simpa using hc)]
      split
      · rename_i he
        exact absurd (List.cons.inj he).1 hplain
      · rfl

theorem exists_mark (s : List Char) :
    ∃ mark rest, s = mark ++ rest ∧ IsMark mark ∧ dropMark (s.map plain) = rest.map plain := by
  by_cases h : ∃ z x rest, s = z :: x :: rest ∧ IsScriptDigit z 0 ∧ (x = 'x' ∨ x = 'X')
  · obtain ⟨z, x, rest, rfl, hz, hx⟩ := h
    have hdrop := dropMark_cons hz hx rest
    by_cases hrest : rest.head? = some '_'
    · obtain ⟨rest, rfl⟩ := List.head?_eq_some_iff.mp hrest
      exact ⟨[z, x, '_'], rest, rfl, .underscore hz hx, hdrop⟩
    · rw [if_neg hrest] at hdrop
      exact ⟨[z, x], rest, rfl, .mark hz hx, hdrop⟩
  · refine ⟨[], s, rfl, .none, dropMark_of_not ?_⟩
    rintro z x rest rfl hz hx
    exact h ⟨z, x, rest, rfl, hz, hx⟩

theorem not_underscore {c : Char} {d : Nat} (h : IsScriptDigit c d) : c ≠ '_' := by
  rintro rfl
  exact not_isScriptDigit_of_plain (by decide) (by decide) h

theorem dropMark_mark {mark body : List Char} {ds : List Nat} (hm : IsMark mark)
    (hb : IsRun body ds) : dropMark ((mark ++ body).map plain) = body.map plain := by
  cases hm with
  | underscore hz hx => exact dropMark_cons hz hx ('_' :: body)
  | mark hz hx =>
    refine (dropMark_cons hz hx body).trans ?_
    cases body with
    | nil => cases hb
    | cons c body =>
      obtain ⟨d, rest, -, hd, -⟩ := isRun_cons.mp hb
      rw [if_neg (by simpa using not_underscore hd)]
  | none =>
    apply dropMark_of_not
    rintro z x rest rfl - hx
    -- Behind a digit stands a digit or an underscore, and the letter of a mark is neither.
    obtain ⟨d, ds, rfl, -, htail⟩ := isRun_cons.mp hb
    obtain ⟨h, -⟩ | h | ⟨r, h, -⟩ := htail
    · cases h
    · obtain ⟨e, es, -, he, -⟩ := isRun_cons.mp h
      obtain rfl | rfl := hx
      · exact not_isScriptDigit_of_plain (by decide) (by decide) he
      · exact not_isScriptDigit_of_plain (by decide) (by decide) he
    · obtain ⟨rfl, -⟩ := List.cons.inj h
      obtain h | h := hx <;> cases h

end Numerals

section Margins

variable {left mid right : List Char}

theorem exists_core (s : List Char) : ∃ left mid right, s = left ++ (mid ++ right) ∧
    (∀ c ∈ left ++ right, isMargin c = true) ∧ core s = mid.map plain := by
  refine ⟨s.takeWhile isMargin, (s.dropWhile isMargin).rdropWhile isMargin,
    (s.dropWhile isMargin).rtakeWhile isMargin, ?_, ?_, rfl⟩
  · rw [List.rdropWhile_append_rtakeWhile, List.takeWhile_append_dropWhile]
  · intro c hc
    obtain hc | hc := List.mem_append.mp hc
    · exact List.mem_takeWhile_imp hc
    · exact List.mem_rtakeWhile_imp hc

theorem core_append (h : ∀ c ∈ left ++ right, isMargin c = true)
    (hm : ∀ c ∈ mid, isMargin c = false) : core (left ++ (mid ++ right)) = mid.map plain := by
  obtain ⟨hleft, hright⟩ := List.forall_mem_append.mp h
  have hfront : (left ++ (mid ++ right)).dropWhile isMargin = mid ++ right ∨
      mid = [] ∧ (left ++ (mid ++ right)).dropWhile isMargin = [] := by
    rw [List.dropWhile_append_of_pos hleft]
    cases mid with
    | nil => exact .inr ⟨rfl, List.dropWhile_eq_nil_iff.mpr hright⟩
    | cons c mid => exact .inl (List.dropWhile_cons_of_neg (by simp [hm c List.mem_cons_self]))
  have hback : (mid ++ right).rdropWhile isMargin = mid := by
    rw [List.rdropWhile, List.reverse_append,
      List.dropWhile_append_of_pos fun c hc => hright c (List.mem_reverse.mp hc)]
    refine List.rdropWhile_eq_self_iff.mpr fun hne hlast => ?_
    rw [hm _ (List.getLast_mem hne)] at hlast
    cases hlast
  obtain hfront | ⟨rfl, hfront⟩ := hfront
  · rw [core, hfront]
    exact congrArg (List.map plain) hback
  · rw [core, hfront]
    rfl

end Margins

section Reading

theorem not_isMargin_of_isRun {s : List Char} {ds : List Nat} (h : IsRun s ds) :
    ∀ c ∈ s, isMargin c = false := by
  induction h with
  | last h => simpa using not_isMargin_of_isScriptDigit h
  | next h _ ih => exact List.forall_mem_cons.mpr ⟨not_isMargin_of_isScriptDigit h, ih⟩
  | underscore h _ ih =>
    exact List.forall_mem_cons.mpr ⟨not_isMargin_of_isScriptDigit h,
      List.forall_mem_cons.mpr ⟨by decide, ih⟩⟩

theorem not_isMargin_of_isSign {sign : List Char} {factor : Int} (h : IsSign sign factor) :
    ∀ c ∈ sign, isMargin c = false := by
  have hplus : isMargin '+' = false := by decide
  have hminus : isMargin '-' = false := by decide
  cases h with
  | none => exact nofun
  | plus => exact List.forall_mem_singleton.mpr hplus
  | minus => exact List.forall_mem_singleton.mpr hminus

theorem not_isMargin_of_isMark {mark : List Char} (h : IsMark mark) :
    ∀ c ∈ mark, isMargin c = false := by
  have hletter : ∀ x, x = 'x' ∨ x = 'X' → isMargin x = false := by
    rintro x (rfl | rfl) <;> decide
  cases h with
  | none => exact nofun
  | mark hz hx => simp [not_isMargin_of_isScriptDigit hz, hletter _ hx]
  | underscore hz hx =>
    have hunder : isMargin '_' = false := by decide
    simp [not_isMargin_of_isScriptDigit hz, hletter _ hx, hunder]

theorem head?_of_isRun {mark body : List Char} {ds : List Nat} (hm : IsMark mark)
    (hb : IsRun body ds) : ∀ c ∈ (mark ++ body).head?, ∃ d, IsScriptDigit c d := by
  cases hm with
  | mark hz hx =>
    rintro c ⟨⟩
    exact ⟨0, hz⟩
  | underscore hz hx =>
    rintro c ⟨⟩
    exact ⟨0, hz⟩
  | none =>
    cases body with
    | nil => cases hb
    | cons c body =>
      obtain ⟨d, rest, -, hd, -⟩ := isRun_cons.mp hb
      rintro c ⟨⟩
      exact ⟨d, hd⟩

theorem signed_factor {sign : List Char} {factor : Int} (h : IsSign sign factor) (n : Nat) :
    signed (decide (factor = -1)) n = factor * n := by
  cases h <;> simp [signed]

theorem hexValue_eq (t : List Char) : hexValue t = Nat.ofDigits 16 (values t).reverse :=
  ofDigits_eq (values t)

theorem readHex_eq_ok {s : List Char} {v : Int} : readHex s = .ok v ↔ IsNumeral s v := by
  constructor
  · intro h
    obtain ⟨left, mid, right, rfl, hmargin, hcore⟩ := exists_core s
    obtain ⟨sign, factor, rest, rfl, hsign, hsplit⟩ := exists_sign mid
    obtain ⟨mark, body, rfl, hmark, hdrop⟩ := exists_mark rest
    rw [readHex, hcore, hsplit] at h
    dsimp only at h
    rw [hdrop] at h
    split at h
    · rename_i t ht
      have hrun := (joined_plain body (values t)).1.mp (by rw [ht]; rfl)
      refine ⟨left, sign, factor, mark, body, values t, right, rfl, hmargin, hsign, hmark, hrun, ?_⟩
      rw [← hexValue_eq, ← signed_factor hsign]
      exact (Except.ok.inj h).symm
    · cases h
  · rintro ⟨left, sign, factor, mark, body, ds, right, rfl, hmargin, hsign, hmark, hrun, rfl⟩
    have hmid : ∀ c ∈ sign ++ (mark ++ body), isMargin c = false := by
      simp only [List.forall_mem_append]
      exact ⟨not_isMargin_of_isSign hsign, not_isMargin_of_isMark hmark, not_isMargin_of_isRun hrun⟩
    have hhead : ∀ c ∈ (mark ++ body).head?, c ≠ '-' ∧ c ≠ '+' := by
      intro c hc
      obtain ⟨d, hd⟩ := head?_of_isRun hmark hrun c hc
      constructor <;> rintro rfl <;>
        exact not_isScriptDigit_of_plain (by decide) (by decide) hd
    obtain ⟨t, ht, rfl⟩ := Option.map_eq_some_iff.mp ((joined_plain body ds).1.mpr hrun)
    rw [readHex, core_append hmargin hmid, splitSign_sign hsign hhead]
    dsimp only
    rw [dropMark_mark hmark hrun, ht]
    dsimp only
    rw [signed_factor hsign, hexValue_eq]

theorem isRun_of_forall₂ {s : List Char} {ds : List Nat} (h : List.Forall₂ IsDigit s ds)
    (hne : s ≠ []) : IsRun s ds := by
  induction h with
  | nil => exact absurd rfl hne
  | @cons c d s ds hd hs ih =>
    by_cases hnil : s = []
    · subst hnil
      cases hs
      exact .last (.inl hd)
    · exact .next (.inl hd) (ih hnil)

theorem isNumeral_of_isRun {s : List Char} {ds : List Nat} (h : IsRun s ds) :
    IsNumeral s (Nat.ofDigits 16 ds.reverse : Nat) :=
  ⟨[], [], 1, [], s, ds, [], by simp, by simp, .none, .none, h, by simp⟩

theorem isNumeral_of_denotes {s : List Char} {n : Nat} (h : Denotes s n) : IsNumeral s n := by
  obtain ⟨hne, ds, hds, rfl⟩ := h
  have hrun : IsRun s ds.reverse :=
    isRun_of_forall₂ (by simpa using List.rel_reverse hds) hne
  simpa using isNumeral_of_isRun hrun

/-- Where hexadecimal digits are all there is, the notation leaves nothing to choose. -/
theorem denotes_of_isNumeral {s : List Char} {v : Int} (h : IsNumeral s v)
    (hall : ∀ c ∈ s, isHexDigit c = true) : ∃ n : Nat, v = n ∧ Denotes s n := by
  have hread := readHex_eq_ok.mpr h
  have hne : s ≠ [] := by
    rintro rfl
    cases hread
  have hdenotes : Denotes s (hexValue s) :=
    denotes_iff.mpr ⟨by simpa [isHex, hne] using hall, rfl⟩
  have hvalue := readHex_eq_ok.mpr (isNumeral_of_denotes hdenotes)
  exact ⟨hexValue s, Except.ok.inj (hread.symm.trans hvalue), hdenotes⟩

end Reading

end Cosim.Proofs.Numeral.Hexadecimal
