import Cosim.Json.Reader

namespace Cosim.Proofs.Json.Grammar

open Cosim.Json Cosim.Numeral Cosim.Text

def IsSpace (s : List Char) : Prop := ∀ c ∈ s, c ∈ [' ', '\t', '\n', '\r']

section Strings

structure IsQuad (n : Nat) (ds : List Char) : Prop where
  length : ds.length = 4
  digits : ds.all isHexDigit = true
  value : hexValue ds = n

def letters : List (Char × Char) := [
  ('"', '"'), ('\\', '\\'), ('/', '/'), ('b', '\x08'), ('f', '\x0c'), ('n', '\n'), ('r', '\r'),
  ('t', '\t')]

/-- The ways to write a character of a string. Beyond U+FFFF a character takes the numbers of two
halves. -/
inductive IsSpelling : List Char → Char → Prop
  | plain {c : Char} (hs : 0x20 ≤ c.toNat) (hq : c ≠ '"') (hb : c ≠ '\\') : IsSpelling [c] c
  | letter {l c : Char} (h : (l, c) ∈ letters) : IsSpelling ['\\', l] c
  | number {ds : List Char} {c : Char} (h : IsQuad c.toNat ds) : IsSpelling ('\\' :: 'u' :: ds) c
  | pair {high low : List Char} {c : Char} (hc : 0x10000 ≤ c.toNat)
      (hh : IsQuad (0xD800 + (c.toNat - 0x10000) / 0x400) high)
      (hl : IsQuad (0xDC00 + (c.toNat - 0x10000) % 0x400) low) :
      IsSpelling ('\\' :: 'u' :: (high ++ '\\' :: 'u' :: low)) c

def StartsLow (s : List Char) : Prop :=
  ∃ n ds rest, s = '\\' :: 'u' :: (ds ++ rest) ∧ IsQuad n ds ∧ 0xDC00 ≤ n ∧ n < 0xE000

/-- What stands between the quotes of a string. A half stands for itself where it is no part of a
pair. -/
inductive IsContent : List Char → Wide → Prop
  | nil : IsContent [] []
  | cons {s t : List Char} {c : Char} {cs : Wide} (hs : IsSpelling s c) (ht : IsContent t cs) :
      IsContent (s ++ t) (.char c :: cs)
  | half {n : Fin 0x800} {ds t : List Char} {cs : Wide} (hd : IsQuad (0xD800 + n.val) ds)
      (hl : n.val < 0x400 → ¬ StartsLow t) (ht : IsContent t cs) :
      IsContent ('\\' :: 'u' :: (ds ++ t)) (.half n :: cs)

end Strings

section Numbers

def IsWhole (ds : List Char) : Prop :=
  isDecimal ds = true ∧ (ds.head? = some '0' → ds = ['0'])

def minusText (negative : Bool) : List Char := if negative then ['-'] else []

def fractionText (ds : List Char) : List Char := if ds = [] then [] else '.' :: ds

inductive IsExponent : List Char → Option (Bool × List Char) → Prop
  | none : IsExponent [] none
  | plain {e : Char} {ds : List Char} (he : e = 'e' ∨ e = 'E') (hd : isDecimal ds = true) :
      IsExponent (e :: ds) (some (false, ds))
  | plus {e : Char} {ds : List Char} (he : e = 'e' ∨ e = 'E') (hd : isDecimal ds = true) :
      IsExponent (e :: '+' :: ds) (some (false, ds))
  | minus {e : Char} {ds : List Char} (he : e = 'e' ∨ e = 'E') (hd : isDecimal ds = true) :
      IsExponent (e :: '-' :: ds) (some (true, ds))

structure IsNumber (s : List Char) (t : NumberText) : Prop where
  whole : IsWhole t.whole
  fraction : t.fraction.all isDecimalDigit = true
  text : ∃ exponent, IsExponent exponent t.exponent ∧
    s = minusText t.negative ++ (t.whole ++ (fractionText t.fraction ++ exponent))

end Numbers

mutual

/-- A text of a value, without white space around it. -/
inductive Spells : List Char → Value → Prop
  | null : Spells "null".toList .null
  | true : Spells "true".toList (.bool true)
  | false : Spells "false".toList (.bool false)
  | integer {s : List Char} {t : NumberText} (h : IsNumber s t) (hf : t.fraction = [])
      (he : t.exponent = none) (hl : t.whole.length ≤ Integer.digitLimit) :
      Spells s (.int (Integer.signed t.negative (decimalValue t.whole)))
  | real {s : List Char} {t : NumberText} (h : IsNumber s t)
      (hr : t.fraction ≠ [] ∨ t.exponent ≠ none) : Spells s (.real t.toReal)
  | text {s : List Char} {cs : Wide} (h : IsContent s cs) :
      Spells ('"' :: (s ++ ['"'])) (.text cs)
  | emptyList {s : List Char} (h : IsSpace s) : Spells ('[' :: (s ++ [']'])) (.list [])
  | list {s : List Char} {vs : List Value} (h : SpellsItems s vs) :
      Spells ('[' :: (s ++ [']'])) (.list vs)
  | emptyRecord {s : List Char} (h : IsSpace s) :
      Spells ('\x7b' :: (s ++ ['\x7d'])) (.record [])
  | record {s : List Char} {ms : List (Wide × Value)} (h : SpellsMembers s ms) :
      Spells ('\x7b' :: (s ++ ['\x7d'])) (.record (collect ms))

inductive SpellsItems : List Char → List Value → Prop
  | last {a s b : List Char} {v : Value} (ha : IsSpace a) (h : Spells s v) (hb : IsSpace b) :
      SpellsItems (a ++ (s ++ b)) [v]
  | cons {a s b t : List Char} {v : Value} {vs : List Value} (ha : IsSpace a) (h : Spells s v)
      (hb : IsSpace b) (ht : SpellsItems t vs) : SpellsItems (a ++ (s ++ (b ++ ',' :: t))) (v :: vs)

/-- The members of a record as they are written, with commas between them. -/
inductive SpellsMembers : List Char → List (Wide × Value) → Prop
  | last {a k b d s e : List Char} {key : Wide} {v : Value} (ha : IsSpace a) (hk : IsContent k key)
      (hb : IsSpace b) (hd : IsSpace d) (h : Spells s v) (he : IsSpace e) :
      SpellsMembers (a ++ '"' :: (k ++ '"' :: (b ++ ':' :: (d ++ (s ++ e))))) [(key, v)]
  | cons {a k b d s e t : List Char} {key : Wide} {v : Value} {ms : List (Wide × Value)}
      (ha : IsSpace a) (hk : IsContent k key) (hb : IsSpace b) (hd : IsSpace d) (h : Spells s v)
      (he : IsSpace e) (ht : SpellsMembers t ms) :
      SpellsMembers (a ++ '"' :: (k ++ '"' :: (b ++ ':' :: (d ++ (s ++ (e ++ ',' :: t))))))
        ((key, v) :: ms)

end

def IsDocument (s : List Char) (v : Value) : Prop :=
  ∃ a t b, s = a ++ (t ++ b) ∧ IsSpace a ∧ IsSpace b ∧ Spells t v

section Plain

theorem isSpace_nil : IsSpace [] := nofun

def isPlain (cs : List Char) : Bool := cs.all fun c => 0x20 ≤ c.toNat ∧ c ≠ '"' ∧ c ≠ '\\'

theorem isContent_plain {cs : List Char} (h : isPlain cs = true) : IsContent cs ↑cs := by
  induction cs with
  | nil => exact .nil
  | cons c cs ih =>
    rw [isPlain, List.all_cons, Bool.and_eq_true, decide_eq_true_eq] at h
    obtain ⟨⟨hs, hq, hb⟩, hrest⟩ := h
    exact .cons (.plain hs hq hb) (ih hrest)

theorem spells_whole {ds : List Char} {n : Int} (h : IsWhole ds)
    (hl : ds.length ≤ Integer.digitLimit) (hn : decimalValue ds = n) : Spells ds (.int n) := by
  have ht : IsNumber ds ⟨false, ds, [], none⟩ :=
    ⟨h, rfl, [], .none, by simp [minusText, fractionText]⟩
  exact hn ▸ .integer ht rfl rfl hl

variable {k s t : List Char} {key : Wide} {v : Value} {ms : List (Wide × Value)}

theorem spellsMembers_last (hk : IsContent k key) (h : Spells s v) :
    SpellsMembers ('"' :: (k ++ '"' :: ':' :: (s ++ []))) [(key, v)] :=
  .last isSpace_nil hk isSpace_nil isSpace_nil h isSpace_nil

theorem spellsMembers_cons (hk : IsContent k key) (h : Spells s v) (ht : SpellsMembers t ms) :
    SpellsMembers ('"' :: (k ++ '"' :: ':' :: (s ++ ',' :: t))) ((key, v) :: ms) :=
  .cons isSpace_nil hk isSpace_nil isSpace_nil h isSpace_nil ht

end Plain

end Cosim.Proofs.Json.Grammar
