import Cosim.Numeral.Digits

namespace Cosim.Text

/-- A character, or half of a pair: `half n` is the surrogate U+D800 + `n`. -/
inductive CodePoint where
  | char (c : Char)
  | half (n : Fin 0x800)
deriving DecidableEq, Repr

/-- A text that may hold halves of pairs, as a string of structured data may name them one by one.
-/
abbrev Wide := List CodePoint

/-- The first stretch of halves in a text: where it starts, its first half, and how many follow. -/
structure Unencodable where
  offset : Nat
  first : Fin 0x800
  further : Nat
deriving DecidableEq, Repr

def surrogateDigits (n : Fin 0x800) : List Char :=
  '\\' :: 'u' :: Numeral.hexFilled 4 (0xD800 + n.val : Nat)

def Unencodable.message (e : Unencodable) : String :=
  let place := if e.further = 0 then
      " '" ++ String.ofList (surrogateDigits e.first) ++ "' in position " ++ toString e.offset
    else "s in position " ++ toString e.offset ++ "-" ++ toString (e.offset + e.further)
  "'utf-8' codec can't encode character" ++ place ++ ": surrogates not allowed"

namespace CodePoint

def isHalf : CodePoint → Bool
  | .char _ => false
  | .half _ => true

/-- How the error stream shows a code point. -/
def shown : CodePoint → List Char
  | .char c => [c]
  | .half n => surrogateDigits n

end CodePoint

namespace Wide

@[coe] def ofChars (s : List Char) : Wide := s.map .char

@[coe] def ofString (s : String) : Wide := ofChars s.toList

instance : Coe (List Char) Wide := ⟨ofChars⟩

instance : Coe String Wide := ⟨ofString⟩

def charsFrom (offset : Nat) : Wide → Except Unencodable (List Char)
  | [] => .ok []
  | .char c :: rest => (charsFrom (offset + 1) rest).map (c :: ·)
  | .half n :: rest => .error ⟨offset, n, (rest.takeWhile CodePoint.isHalf).length⟩

/-- The text in characters; only these have a UTF-8 form. -/
def spelled (s : Wide) : Except Unencodable String := (charsFrom 0 s).map String.ofList

def shown (s : Wide) : String := String.ofList (s.flatMap CodePoint.shown)

def unlines (lines : List Wide) : Wide := List.intercalate "\n" lines

@[simp] theorem ofChars_inj {s t : List Char} : ofChars s = ofChars t ↔ s = t :=
  List.map_inj_right fun _ _ => CodePoint.char.inj

@[simp] theorem ofString_inj {s t : String} : ofString s = ofString t ↔ s = t :=
  ofChars_inj.trans String.toList_inj

@[simp] theorem beq_ofString (s t : String) : (ofString s == ofString t) = (s == t) := by
  rw [Bool.eq_iff_iff, beq_iff_eq, beq_iff_eq, ofString_inj]

theorem ofString_append (s t : String) : ofString (s ++ t) = ofString s ++ ofString t := by
  rw [ofString, String.toList_append]
  exact List.map_append

theorem head?_ofString (s : String) : (ofString s).head? = s.toList.head?.map .char :=
  List.head?_map

theorem charsFrom_ofChars (offset : Nat) (s : List Char) : charsFrom offset s = .ok s := by
  induction s generalizing offset with
  | nil => rfl
  | cons c s ih =>
    have hrest : charsFrom (offset + 1) (s.map .char) = .ok s := ih (offset + 1)
    rw [ofChars, List.map_cons, charsFrom, hrest]
    rfl

@[simp] theorem spelled_ofChars (s : List Char) : spelled s = .ok (String.ofList s) := by
  rw [spelled, charsFrom_ofChars]
  rfl

theorem eq_of_charsFrom_eq_ok {offset : Nat} {s : Wide} {t : List Char}
    (h : charsFrom offset s = .ok t) : s = t := by
  induction s generalizing offset t with
  | nil =>
    cases h
    rfl
  | cons c s ih =>
    cases c with
    | half n => cases h
    | char c =>
      rw [charsFrom] at h
      cases hrest : charsFrom (offset + 1) s with
      | error e =>
        rw [hrest] at h
        cases h
      | ok rest =>
        rw [hrest] at h
        cases h
        exact congrArg (.char c :: ·) (ih hrest)

theorem spelled_eq_ok {s : Wide} {t : String} : spelled s = .ok t ↔ s = t := by
  constructor
  · intro h
    rw [spelled] at h
    cases hs : charsFrom 0 s with
    | error e =>
      rw [hs] at h
      cases h
    | ok cs =>
      rw [hs] at h
      cases h
      rw [ofString, String.toList_ofList]
      exact eq_of_charsFrom_eq_ok hs
  · rintro rfl
    rw [ofString, spelled_ofChars, String.ofList_toList]

@[simp] theorem spelled_ofString (s : String) : spelled s = .ok s := spelled_eq_ok.mpr rfl

end Wide

end Cosim.Text
