import Cosim.Proofs.Text.Utf8
import Mathlib.Data.List.Infix
import Mathlib.Tactic.SplitIfs

namespace Cosim.Proofs.Text.Damage

open Cosim.Text.Utf8 Cosim.Proofs.Text.Utf8

def IsStart (octets : List UInt8) : Prop := ∃ c, octets <+: String.utf8EncodeChar c

/-- Octets in front of `rest` where no form stands: the longest start of a form, or a single octet
with which no form begins. -/
structure IsDamage (bad rest : List UInt8) : Prop where
  not_form : ∀ c, ¬ String.utf8EncodeChar c <+: bad ++ rest
  ne_nil : bad ≠ []
  isStart_or_single : IsStart bad ∨ bad.length = 1
  longest : ∀ longer, longer <+: bad ++ rest → IsStart longer → longer.length ≤ bad.length

/-- The text that octets are read as: a character for each form, U+FFFD for each damaged stretch. -/
inductive IsDecoding : List UInt8 → List Char → Prop
  | nil : IsDecoding [] []
  | form (c : Char) {rest : List UInt8} {s : List Char} (h : IsDecoding rest s) :
      IsDecoding (String.utf8EncodeChar c ++ rest) (c :: s)
  | damage {bad rest : List UInt8} {s : List Char} (hd : IsDamage bad rest)
      (h : IsDecoding rest s) : IsDecoding (bad ++ rest) ('\uFFFD' :: s)

/-- The octets that go on with a form keep to its bounds, which are narrower for the first one. -/
def Follows (low high : Nat) : List UInt8 → Prop
  | [] => True
  | b :: rest => (low ≤ b.toNat ∧ b.toNat ≤ high) ∧ Follows 0x80 0xBF rest

/-- The number that a form spells when it goes on with these octets. -/
def spelled (value : Nat) (octets : List UInt8) : Nat :=
  octets.foldl (fun v b => v * 64 + (b.toNat - 0x80)) value

/-- The three kinds of octets that others have to follow, and the bounds of the first of these. -/
def IsLead (b : UInt8) (f : Partial) : Prop :=
  f.seen = [b] ∧ 0x80 ≤ f.low ∧ f.low ≤ f.high ∧ f.high ≤ 0xBF ∧
  (f.missing = 1 ∧ 0xC2 ≤ b.toNat ∧ b.toNat < 0xE0 ∧ f.value = b.toNat - 0xC0 ∨
    f.missing = 2 ∧ 0xE0 ≤ b.toNat ∧ b.toNat < 0xF0 ∧ f.value = b.toNat - 0xE0 ∧
      (b.toNat = 0xE0 → 0xA0 ≤ f.low) ∧ (b.toNat = 0xED → f.high ≤ 0x9F) ∨
    f.missing = 3 ∧ 0xF0 ≤ b.toNat ∧ b.toNat < 0xF5 ∧ f.value = b.toNat - 0xF0 ∧
      (b.toNat = 0xF0 → 0x90 ≤ f.low) ∧ (b.toNat = 0xF4 → f.high ≤ 0x8F))

section Forms

variable {low high : Nat} {a t : List UInt8} {b : UInt8} {f : Partial}

theorem Follows.of_isPrefix (hp : a <+: t) (h : Follows low high t) : Follows low high a := by
  induction a generalizing low high t with
  | nil => trivial
  | cons x a ih =>
    obtain ⟨rest, rfl⟩ := hp
    exact ⟨h.1, ih (List.prefix_append a rest) h.2⟩

theorem start_cases (b : UInt8) :
    (b.toNat < 0x80 ∧ start b = ([.char (Char.ofNat b.toNat)], none)) ∨
      (0x80 ≤ b.toNat ∧ start b = ([.damaged [b] .badStart], none)) ∨
      ∃ f, start b = ([], some f) ∧ IsLead b f := by
  generalize hs : start b = s
  rw [start] at hs
  dsimp only at hs
  split_ifs at hs with h
  all_goals subst hs
  · exact .inl ⟨h, rfl⟩
  all_goals
    first
    | exact .inr (.inl ⟨by omega, rfl⟩)
    | refine .inr (.inr ⟨_, rfl, rfl, ?_⟩)
      dsimp only
      omega

theorem start_lead (h : start b = ([], some f)) : IsLead b f := by
  rcases start_cases b with ⟨-, hs⟩ | ⟨-, hs⟩ | ⟨f', hs, hlead⟩
  · exact absurd (congrArg Prod.fst (h.symm.trans hs)) (List.cons_ne_nil _ _).symm
  · exact absurd (congrArg Prod.fst (h.symm.trans hs)) (List.cons_ne_nil _ _).symm
  · obtain rfl : f = f' := Option.some.inj (congrArg Prod.snd (h.symm.trans hs))
    exact hlead

theorem octet_eq {n : Nat} (h : n = b.toNat) : UInt8.ofNat n = b := h ▸ UInt8.ofNat_toNat

theorem val_ofNat {n : Nat} (h : n.isValidChar) : (Char.ofNat n).val.toNat = n := by
  rw [Char.ofNat, dif_pos h]
  rfl

/-- An octet that is not alone, and enough octets that follow it, are the form of a character. -/
theorem encode_spelled (h : start b = ([], some f)) (hl : t.length = f.missing)
    (ht : Follows f.low f.high t) :
    String.utf8EncodeChar (Char.ofNat (spelled f.value t)) = b :: t := by
  obtain ⟨-, hlow, -, hhigh, ⟨hm, hb⟩ | ⟨hm, hb⟩ | ⟨hm, hb⟩⟩ := start_lead h
  · obtain ⟨x, rfl⟩ := List.length_eq_one_iff.mp (hl.trans hm)
    obtain ⟨hx, -⟩ := ht
    have hv : spelled f.value [x] = f.value * 64 + (x.toNat - 0x80) := rfl
    generalize spelled f.value [x] = v at hv
    rw [String.utf8EncodeChar, val_ofNat (.inl (by omega) : v.isValidChar)]
    rw [if_neg (by omega), if_pos (by omega), octet_eq (b := b) (by omega),
      octet_eq (b := x) (by omega)]
  · obtain ⟨x, y, rfl⟩ := List.length_eq_two.mp (hl.trans hm)
    obtain ⟨hx, hy, -⟩ := ht
    have hv : spelled f.value [x, y] =
        (f.value * 64 + (x.toNat - 0x80)) * 64 + (y.toNat - 0x80) := rfl
    generalize spelled f.value [x, y] = v at hv
    have hvalid : v < 0xD800 ∨ 0xDFFF < v ∧ v < 0x110000 := by omega
    rw [String.utf8EncodeChar, val_ofNat hvalid]
    rw [if_neg (by omega), if_neg (by omega), if_pos (by omega), octet_eq (b := b) (by omega),
      octet_eq (b := x) (by omega), octet_eq (b := y) (by omega)]
  · obtain ⟨x, y, z, rfl⟩ := List.length_eq_three.mp (hl.trans hm)
    obtain ⟨hx, hy, hz, -⟩ := ht
    have hv : spelled f.value [x, y, z] = ((f.value * 64 + (x.toNat - 0x80)) * 64 +
        (y.toNat - 0x80)) * 64 + (z.toNat - 0x80) := rfl
    generalize spelled f.value [x, y, z] = v at hv
    have hvalid : v < 0xD800 ∨ 0xDFFF < v ∧ v < 0x110000 := by omega
    rw [String.utf8EncodeChar, val_ofNat hvalid]
    rw [if_neg (by omega), if_neg (by omega), if_neg (by omega), octet_eq (b := b) (by omega),
      octet_eq (b := x) (by omega), octet_eq (b := y) (by omega), octet_eq (b := z) (by omega)]

theorem follows_octets (vs : List Nat) (h : ∀ v ∈ vs, v < 64) :
    Follows 0x80 0xBF (vs.map fun v => UInt8.ofNat (v + 128)) := by
  induction vs with
  | nil => trivial
  | cons v vs ih =>
    have hv : v < 64 := h v List.mem_cons_self
    refine ⟨?_, ih fun w hw => h w (List.mem_cons_of_mem v hw)⟩
    rw [toNat_octet (by omega)]
    omega

theorem encode_cases (c : Char) :
    (c.toNat < 0x80 ∧ String.utf8EncodeChar c = [UInt8.ofNat c.toNat]) ∨
      0x80 ≤ c.toNat ∧ ∃ b t f, String.utf8EncodeChar c = b :: t ∧ start b = ([], some f) ∧
        t.length = f.missing ∧ Follows f.low f.high t := by
  have hvalid : c.toNat < 0xD800 ∨ 0xDFFF < c.toNat ∧ c.toNat < 0x110000 := c.valid
  have hval : c.val.toNat = c.toNat := rfl
  rw [String.utf8EncodeChar, hval]
  generalize c.toNat = v at hvalid
  split_ifs with h1 h2 h3
  · exact .inl ⟨by omega, rfl⟩
  · refine .inr ⟨by omega, _, _, _, rfl, start_two (by omega) h2, rfl, ?_⟩
    exact follows_octets [v % 64] (by simp; omega)
  · obtain ⟨low, high, hstart, hl, hh⟩ := start_three (v := v) (by omega) h3 (by omega)
    refine .inr ⟨by omega, _, _, _, rfl, hstart, rfl, ?_, ?_⟩
    · rw [toNat_octet (by omega)]
      exact ⟨hl, hh⟩
    · exact follows_octets [v % 64] (by simp; omega)
  · obtain ⟨low, high, hstart, hl, hh⟩ := start_four (v := v) (by omega) (by omega)
    refine .inr ⟨by omega, _, _, _, rfl, hstart, rfl, ?_, ?_⟩
    · rw [toNat_octet (by omega)]
      exact ⟨hl, hh⟩
    · exact follows_octets [v / 64 % 64, v % 64] (by simp; omega)

theorem exists_completion (n : Nat) (hl : 0x80 ≤ low) (hlh : low ≤ high) (hh : high ≤ 0xBF)
    (ht : Follows low high t) : ∃ more, more.length = n ∧ Follows low high (t ++ more) := by
  induction t generalizing low high with
  | nil =>
    induction n generalizing low high with
    | zero => exact ⟨[], rfl, trivial⟩
    | succ n ih =>
      obtain ⟨more, hn, hm⟩ := ih (le_refl 0x80) (by omega) (le_refl 0xBF) trivial
      refine ⟨UInt8.ofNat low :: more, by rw [List.length_cons, hn], ?_, hm⟩
      rw [toNat_octet (by omega)]
      exact ⟨le_refl low, hlh⟩
  | cons x t ih =>
    obtain ⟨more, hn, hm⟩ := ih (le_refl 0x80) (by omega) (le_refl 0xBF) ht.2
    exact ⟨more, hn, ht.1, hm⟩

theorem isStart_cons_iff (h : start b = ([], some f)) :
    IsStart (b :: t) ↔ t.length ≤ f.missing ∧ Follows f.low f.high t := by
  obtain ⟨-, hlow, hlh, hhigh, hkind⟩ := start_lead h
  constructor
  · rintro ⟨c, hc⟩
    rcases encode_cases c with ⟨hs, he⟩ | ⟨-, b', t', f', he, hstart, hlen, hfollows⟩
    · -- the octet would be a character by itself
      rw [he, List.cons_prefix_cons] at hc
      rw [hc.1, toNat_octet (by omega)] at hkind
      omega
    · rw [he, List.cons_prefix_cons] at hc
      obtain ⟨rfl, hp⟩ := hc
      obtain rfl : f = f' := Option.some.inj (congrArg Prod.snd (h.symm.trans hstart))
      exact ⟨hlen ▸ hp.length_le, hfollows.of_isPrefix hp⟩
  · rintro ⟨hlen, hfollows⟩
    obtain ⟨more, hn, hmore⟩ :=
      exists_completion (f.missing - t.length) hlow hlh hhigh hfollows
    have hfull : (t ++ more).length = f.missing := by
      rw [List.length_append, hn]
      omega
    refine ⟨Char.ofNat (spelled f.value (t ++ more)), ?_⟩
    rw [encode_spelled h hfull hmore, List.cons_prefix_cons]
    exact ⟨rfl, List.prefix_append t more⟩

theorem not_isStart (h : start b = ([.damaged [b] .badStart], none)) (hb : 0x80 ≤ b.toNat) :
    ¬ IsStart (b :: t) := by
  rintro ⟨c, hc⟩
  rcases encode_cases c with ⟨hs, he⟩ | ⟨-, b', t', f', he, hstart, -, -⟩
  · rw [he, List.cons_prefix_cons] at hc
    rw [hc.1, toNat_octet (by omega)] at hb
    omega
  · rw [he, List.cons_prefix_cons] at hc
    rw [← hc.1, h] at hstart
    cases hstart

theorem scan_form (hm : 0 < f.missing) (octets : List UInt8) :
    ∃ t rest, octets = t ++ rest ∧ Follows f.low f.high t ∧
      (t.length = f.missing ∧ (scanFrom (some f) octets).map Piece.replaced =
          Char.ofNat (spelled f.value t) :: decodeLossy rest ∨
        t.length < f.missing ∧ (∀ x ∈ rest.head?, ¬ Follows f.low f.high (t ++ [x])) ∧
          (scanFrom (some f) octets).map Piece.replaced = '\uFFFD' :: decodeLossy rest) := by
  -- over the octets, for whatever is still missing of the form
  induction octets generalizing f with
  | nil =>
    refine ⟨[], [], rfl, trivial, .inr ⟨hm, nofun, ?_⟩⟩
    rw [scanFrom]
    rfl
  | cons b octets ih =>
    by_cases hb : f.low ≤ b.toNat ∧ b.toNat ≤ f.high
    · have hin : (decide (f.low ≤ b.toNat) && decide (b.toNat ≤ f.high)) = true := by
        rw [decide_eq_true hb.1, decide_eq_true hb.2, Bool.and_self]
      by_cases hone : f.missing = 1
      · refine ⟨[b], octets, rfl, ⟨hb, trivial⟩, .inl ⟨hone.symm, ?_⟩⟩
        rw [scanFrom, step]
        simp only [hin, hone, ↓reduceIte]
        rfl
      · have hscan : scanFrom (some f) (b :: octets) = scanFrom (some ⟨b :: f.seen,
            f.value * 64 + (b.toNat - 0x80), f.missing - 1, 0x80, 0xBF⟩) octets := by
          rw [scanFrom, step]
          simp only [hin, hone, ↓reduceIte, List.nil_append]
        obtain ⟨t, rest, hoctets, ht, hcase⟩ :=
          ih (f := ⟨b :: f.seen, f.value * 64 + (b.toNat - 0x80), f.missing - 1, 0x80, 0xBF⟩)
            (show 0 < f.missing - 1 by omega)
        refine ⟨b :: t, rest, congrArg (b :: ·) hoctets, ⟨hb, ht⟩, ?_⟩
        rw [hscan, spelled, List.foldl_cons, List.length_cons]
        rcases hcase with ⟨hlen, hchar⟩ | ⟨hlen, hstop, hdamage⟩
        · have hlen' : t.length = f.missing - 1 := hlen
          exact .inl ⟨by omega, hchar⟩
        · have hlen' : t.length < f.missing - 1 := hlen
          exact .inr ⟨by omega, fun x hx hfollows => hstop x hx hfollows.2, hdamage⟩
    · refine ⟨[], b :: octets, rfl, trivial, .inr ⟨hm, ?_, ?_⟩⟩
      · rintro x ⟨⟩ hfollows
        exact hb hfollows.1
      · rw [scanFrom, step, if_neg (by simpa using hb)]
        rfl

theorem exists_form (c : Char) : ∃ o t, String.utf8EncodeChar c = o :: t := by
  rcases encode_cases c with ⟨-, he⟩ | ⟨-, o, t, -, he, -⟩
  · exact ⟨_, [], he⟩
  · exact ⟨o, t, he⟩

theorem isDamage_single (hs : start b = ([.damaged [b] .badStart], none)) (hb : 0x80 ≤ b.toNat)
    (rest : List UInt8) : IsDamage [b] rest where
  not_form := by
    intro c hc
    obtain ⟨o, t, he⟩ := exists_form c
    rw [he, List.singleton_append, List.cons_prefix_cons] at hc
    obtain ⟨rfl, -⟩ := hc
    exact not_isStart (t := t) hs hb ⟨c, he ▸ List.prefix_rfl⟩
  ne_nil := List.cons_ne_nil b []
  isStart_or_single := .inr rfl
  longest := by
    rintro (- | ⟨x, longer⟩) hp hlonger
    · exact Nat.zero_le _
    obtain ⟨rfl, -⟩ := List.cons_prefix_cons.mp hp
    exact absurd hlonger (not_isStart hs hb)

theorem isDamage_start {rest : List UInt8} (hs : start b = ([], some f))
    (ht : Follows f.low f.high t) (hlen : t.length < f.missing)
    (hstop : ∀ x ∈ rest.head?, ¬ Follows f.low f.high (t ++ [x])) : IsDamage (b :: t) rest := by
  -- every longer start of a form would go on with the octet behind
  have hlongest : ∀ longer, longer <+: b :: t ++ rest → IsStart longer →
      longer.length ≤ (b :: t).length := by
    intro longer hp hlonger
    by_contra hlt
    obtain ⟨- | ⟨x, more⟩, rfl⟩ : b :: t <+: longer :=
      List.prefix_of_prefix_length_le (List.prefix_append (b :: t) rest) hp (by omega)
    · simp at hlt
    obtain ⟨more', rfl⟩ := (List.prefix_append_right_inj (b :: t)).mp hp
    have hfollows := ((isStart_cons_iff hs).mp hlonger).2
    exact hstop x rfl (hfollows.of_isPrefix ((List.prefix_append_right_inj t).mpr ⟨more, rfl⟩))
  refine ⟨?_, List.cons_ne_nil b t, .inl ((isStart_cons_iff hs).mpr ⟨hlen.le, ht⟩), hlongest⟩
  intro c hc
  have hle := hlongest _ hc ⟨c, List.prefix_rfl⟩
  rcases encode_cases c with ⟨hsmall, he⟩ | ⟨-, o, t', f', he, hstart, hfull, -⟩
  · obtain ⟨-, -, -, -, hkind⟩ := start_lead hs
    rw [he, List.cons_append, List.cons_prefix_cons] at hc
    rw [← hc.1, toNat_octet (by omega)] at hkind
    omega
  · rw [he, List.cons_append, List.cons_prefix_cons] at hc
    rw [hc.1, hs] at hstart
    obtain rfl : f = f' := Option.some.inj (congrArg Prod.snd hstart)
    rw [he] at hle
    simp only [List.length_cons] at hle
    omega

theorem decodeLossy_cons {pieces : List Piece} {form : Option Partial}
    (hs : start b = (pieces, form)) (octets : List UInt8) : decodeLossy (b :: octets) =
      pieces.map Piece.replaced ++ (scanFrom form octets).map Piece.replaced := by
  rw [decodeLossy, scan, scanFrom, step, hs, List.map_append]

end Forms

theorem isDecoding_decodeLossy (octets : List UInt8) : IsDecoding octets (decodeLossy octets) := by
  induction hn : octets.length using Nat.strong_induction_on generalizing octets with
  | _ n ih =>
  cases octets with
  | nil => exact .nil
  | cons b octets =>
    have hrest : ∀ {t rest : List UInt8}, octets = t ++ rest →
        IsDecoding rest (decodeLossy rest) := by
      rintro t rest rfl
      refine ih _ ?_ rest rfl
      rw [← hn, List.length_cons, List.length_append]
      omega
    -- by its first octet: a character, damage by itself, or a form that ends or breaks off
    rcases start_cases b with ⟨hb, hs⟩ | ⟨hb, hs⟩ | ⟨f, hs, hlead⟩
    · have he : String.utf8EncodeChar (Char.ofNat b.toNat) = [b] := by
        have hv : b.toNat.isValidChar := .inl (by omega)
        rw [String.utf8EncodeChar, val_ofNat hv, if_pos (by omega), UInt8.ofNat_toNat]
      have h := IsDecoding.form (Char.ofNat b.toNat) (hrest (t := []) rfl)
      rw [he] at h
      rw [decodeLossy_cons hs]
      exact h
    · rw [decodeLossy_cons hs]
      exact .damage (isDamage_single hs hb octets) (hrest (t := []) rfl)
    · obtain ⟨-, -, -, -, hkind⟩ := hlead
      obtain ⟨t, rest, rfl, ht, ⟨hlen, hchar⟩ | ⟨hlen, hstop, hdamage⟩⟩ :=
        scan_form (f := f) (by omega) octets
      · have h := IsDecoding.form (Char.ofNat (spelled f.value t)) (hrest rfl)
        rw [encode_spelled hs hlen ht] at h
        rw [decodeLossy_cons hs, hchar]
        exact h
      · rw [decodeLossy_cons hs, hdamage]
        exact .damage (isDamage_start hs ht hlen hstop) (hrest rfl)

section Plain

variable {b : UInt8} {form : Option Partial}

def IsOpen (form : Option Partial) : Prop := ∀ f ∈ form, 0x80 ≤ f.low

theorem isOpen_start (b : UInt8) : IsOpen (start b).2 := by
  rcases start_cases b with ⟨-, hs⟩ | ⟨-, hs⟩ | ⟨f, hs, hlead⟩
  · rw [hs]
    rintro f ⟨⟩
  · rw [hs]
    rintro f ⟨⟩
  · rw [hs]
    rintro f ⟨⟩
    exact hlead.2.1

theorem isOpen_step (b : UInt8) : IsOpen (step form b).2 := by
  cases form with
  | none => exact isOpen_start b
  | some f =>
    rw [step]
    split
    · dsimp only
      split
      · rintro f ⟨⟩
      · rintro f ⟨⟩
        exact le_refl 0x80
    · exact isOpen_start b

theorem start_plain (hb : b.toNat < 0x80) :
    start b = ([.char (Char.ofNat b.toNat)], none) := by
  rcases start_cases b with ⟨-, hs⟩ | ⟨hl, -⟩ | ⟨f, -, hlead⟩
  · exact hs
  · omega
  · obtain ⟨-, -, -, -, hkind⟩ := hlead
    omega

theorem scanFrom_cons (form : Option Partial) (b : UInt8) (rest : List UInt8) :
    scanFrom form (b :: rest) = (step form b).1 ++ scanFrom (step form b).2 rest := rfl

theorem scanFrom_plain (hf : IsOpen form) (hb : b.toNat < 0x80) (rest : List UInt8) :
    (scanFrom form (b :: rest)).map Piece.replaced =
      (scanFrom form []).map Piece.replaced ++ Char.ofNat b.toNat :: decodeLossy rest := by
  cases form with
  | none =>
    rw [scanFrom_cons, step, start_plain hb]
    rfl
  | some f =>
    have hlow : 0x80 ≤ f.low := hf f rfl
    rw [scanFrom_cons, step, if_neg (by simp; omega), start_plain hb]
    rfl

theorem scanFrom_append_plain (hf : IsOpen form) (hb : b.toNat < 0x80) (a rest : List UInt8) :
    (scanFrom form (a ++ b :: rest)).map Piece.replaced =
      (scanFrom form a).map Piece.replaced ++ Char.ofNat b.toNat :: decodeLossy rest := by
  induction a generalizing form with
  | nil => exact scanFrom_plain hf hb rest
  | cons x a ih =>
    rw [List.cons_append, scanFrom_cons, scanFrom_cons, List.map_append, List.map_append,
      ih (isOpen_step x), List.append_assoc]

theorem decodeLossy_append_plain (hb : b.toNat < 0x80) (a rest : List UInt8) :
    decodeLossy (a ++ b :: rest) = decodeLossy a ++ Char.ofNat b.toNat :: decodeLossy rest :=
  scanFrom_append_plain (by simp [IsOpen]) hb a rest

theorem IsDecoding.mem_plain {octets : List UInt8} {s : List Char} (h : IsDecoding octets s)
    {c : Char} (hc : c.toNat < 0x80) (hm : c ∈ s) : UInt8.ofNat c.toNat ∈ octets := by
  induction h with
  | nil => exact absurd hm List.not_mem_nil
  | form d _ ih =>
    rcases List.mem_cons.mp hm with rfl | hm
    · rcases encode_cases c with ⟨-, he⟩ | ⟨hl, -⟩
      · exact List.mem_append_left _ (he ▸ List.mem_singleton_self _)
      · omega
    · exact List.mem_append_right _ (ih hm)
  | damage _ _ ih =>
    rcases List.mem_cons.mp hm with rfl | hm
    · exact absurd hc (by decide)
    · exact List.mem_append_right _ (ih hm)

end Plain

end Cosim.Proofs.Text.Damage
