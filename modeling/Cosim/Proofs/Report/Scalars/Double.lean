import Cosim.Proofs.Report.Scalars.Stretches

namespace Cosim.Proofs.Report.Scalars

open Cosim.Numeral Cosim.Report.Scalar Cosim.Proofs.Numeral.Digits Cosim.Proofs.Numeral.Hexadecimal

section Double

variable {layout : Layout} {g : Gap} {s part x rest pending : List Char} {c : Char} {first : Bool}
  {column : Nat} {m : Mode}

/-- A text that does not count blanks in front of it: it is at its end, or an escape comes next. -/
def StopsGap (x : List Char) : Prop := ∃ s, x = '"' :: s ∨ x = '\\' :: s

theorem map_emit_nil (r : Option (List Char × List Char)) : r.map (emit []) = r := by
  cases r <;> rfl

theorem double_blanks (hx : StopsGap x) (s : List Char) :
    double (.text (.blanks s)) x = (double (.text fresh) x).map (emit s) := by
  obtain ⟨x, rfl | rfl⟩ := hx
  · simp [double, fresh, Gap.text, emit]
  · simp only [double, Char.reduceEq, if_false, if_true, fresh, Gap.text, map_emit_nil]

theorem double_lines (hx : StopsGap x) :
    double (.text (.lines [] 0)) x = double (.text fresh) x := by
  obtain ⟨x, rfl | rfl⟩ := hx <;> rfl

theorem double_cons (hc : needsEscape c = false) (g : Gap) (s : List Char) :
    double (.text g) (c :: s) = if c = ' ' then double (.text (g.add ' ')) s
      else (double (.text fresh) s).map (emit (g.text ++ [c])) := by
  have hgap : isGapChar c = (c == ' ') := by
    have htab : c ≠ '\t' := by
      rintro rfl
      cases hc
    have hbreak : c ≠ '\n' := by
      rintro rfl
      cases hc
    rw [isGapChar, isGap, beq_false_of_ne htab, beq_false_of_ne hbreak, Bool.or_false,
      Bool.or_false]
  have hquote : c ≠ '"' ∧ c ≠ '\\' := by
    constructor <;> rintro rfl <;> cases hc
  rw [double, if_neg hquote.1, if_neg hquote.2, hgap]
  by_cases hspace : c = ' '
  · simp [hspace]
  · simp [hspace]

theorem double_raw (hpart : ∀ c ∈ part, needsEscape c = false) (hx : StopsGap x) (s : List Char) :
    double (.text (.blanks s)) (part ++ x) = (double (.text fresh) x).map (emit (s ++ part)) := by
  induction part generalizing s with
  | nil => rw [List.nil_append, List.append_nil, double_blanks hx]
  | cons c part ih =>
    obtain ⟨hc, hrest⟩ := List.forall_mem_cons.mp hpart
    rw [List.cons_append, double_cons hc]
    split_ifs with hspace
    · rw [Gap.add, if_neg (by decide), ih hrest, hspace, List.append_assoc, List.singleton_append]
    · rw [fresh, ih hrest, Option.map_map, emit_emit]
      simp [Gap.text, fresh]

def afterFold (space : Bool) : Mode := if space then .escape else .text (.lines [] 0)

theorem double_foldedLine (space : Bool) (x : List Char) :
    double (.text fresh) (foldedLine layout space ++ x) = double (afterFold space) x := by
  have hindent : ∀ n x, double (.text (.lines [] 0)) (indentation n ++ x) =
      double (.text (.lines [] 0)) x := by
    intro n x
    induction n with
    | zero => rfl
    | succ n ih =>
      rw [← ih]
      rfl
  have hstart : double (.text fresh) (foldedLine layout space ++ x) =
      double (.text (.lines [] 0)) (indentation layout.indent ++
        ((if space then ['\\'] else []) ++ x)) := by
    rw [← List.append_assoc]
    exact map_emit_nil _
  rw [hstart, hindent]
  cases space with
  | false => rfl
  | true => exact map_emit_nil _

theorem double_digits (hpart : ∀ c ∈ part, isHexDigit c = true) (hne : part ≠ [])
    (seen x : List Char) : double (.digits part.length seen) (part ++ x) =
      if (hexValue (seen ++ part)).isValidChar then
        (double (.text fresh) x).map (emit [Char.ofNat (hexValue (seen ++ part))])
      else none := by
  induction part generalizing seen with
  | nil => exact absurd rfl hne
  | cons c part ih =>
    obtain ⟨hc, hrest⟩ := List.forall_mem_cons.mp hpart
    rw [List.cons_append, double, if_neg (by simp [hc])]
    cases part with
    | nil => rfl
    | cons d part =>
      rw [if_pos (by simp), List.length_cons, Nat.add_sub_cancel,
        ih hrest (List.cons_ne_nil d part),
        List.append_assoc, List.singleton_append]

theorem upperHex_spec {width n : Nat} (hwidth : 1 ≤ width) (hn : n < 16 ^ width) :
    (upperHex width n).length = width ∧ (∀ c ∈ upperHex width n, isHexDigit c = true) ∧
      hexValue (upperHex width n) = n := by
  have hdigits := zeroFill_digits (by decide : 1 < 16) hwidth hn
  have hupper : ∀ i, hexDigit? (n / 16 ^ i % 16).digitChar.toUpper =
      hexDigit? (n / 16 ^ i % 16).digitChar := by
    intro i
    obtain ⟨hlow, hup⟩ := hexDigit?_digitChar (n / 16 ^ i % 16) (Nat.mod_lt _ (by decide))
    rw [hlow, hup]
  have hvalue : hexValue (upperHex width n) = hexValue (zeroFill width (digits 16 n)) := by
    rw [upperHex, hexValue, hexValue, valueBy, valueBy, hdigits, List.map_map, List.map_map,
      List.map_map]
    congr 1
    refine List.map_congr_left fun i _ => ?_
    rw [Function.comp_apply, Function.comp_apply, Function.comp_apply, hupper]
  refine ⟨?_, ?_, hvalue.trans (hexValue_zeroFill width n)⟩
  · rw [upperHex, hdigits]
    simp
  · intro c hc
    rw [upperHex, hdigits, List.map_map] at hc
    obtain ⟨i, -, rfl⟩ := List.mem_map.mp hc
    rw [Function.comp_apply, isHexDigit, hupper,
      (hexDigit?_digitChar _ (Nat.mod_lt _ (by decide))).1]
    rfl

theorem double_hex {mark : Char} {width : Nat} (h : (mark, width) ∈ digitCounts)
    (hc : c.toNat < 16 ^ width) (x : List Char) :
    double (.text fresh) ('\\' :: mark :: upperHex width c.toNat ++ x) =
      (double (.text fresh) x).map (emit [c]) := by
  have hcounts : ∀ e ∈ digitCounts, e.1 ≠ '\n' ∧ meanings.lookup e.1 = none ∧
      digitCounts.lookup e.1 = some e.2 ∧ 1 ≤ e.2 := by
    decide
  obtain ⟨hbreak, hnone, hcount, hpos⟩ := hcounts _ h
  dsimp only at hbreak hnone hcount hpos
  obtain ⟨hlength, hhex, hvalue⟩ := upperHex_spec hpos hc
  have hne : upperHex width c.toNat ≠ [] := List.ne_nil_of_length_pos (by omega)
  have hread := double_digits hhex hne [] x
  have hvalid : c.toNat.isValidChar := c.valid
  rw [hlength, List.nil_append, hvalue, if_pos hvalid, Char.ofNat_toNat] at hread
  rw [List.cons_append, List.cons_append, double, if_neg (by decide), if_pos rfl, double,
    if_neg hbreak, hnone, hcount]
  dsimp only
  rw [hread]
  exact map_emit_nil _

theorem double_escape (c : Char) (x : List Char) :
    double (.text fresh) (escape c ++ x) = (double (.text fresh) x).map (emit [c]) := by
  rw [escape]
  cases hletter : letterEscapes.lookup c with
  | some letter =>
    have hletters : ∀ e ∈ letterEscapes, e.2 ≠ '\n' ∧ meanings.lookup e.2 = some e.1 := by
      decide
    obtain ⟨front, back, hentries, -⟩ := List.lookup_eq_some_iff.mp hletter
    obtain ⟨hbreak, hmeaning⟩ := hletters (c, letter) (by simp [hentries])
    dsimp only at hbreak hmeaning ⊢
    rw [List.cons_append, List.cons_append, double, if_neg (by decide), if_pos rfl, double,
      if_neg hbreak, hmeaning]
    exact map_emit_nil _
  | none =>
    have hlt : c.toNat < 16 ^ 8 := by
      have hvalid : c.toNat < 0x110000 := by
        rcases c.valid with hlow | ⟨-, hhigh⟩
        · exact hlow.trans (by decide)
        · exact hhigh
      exact hvalid.trans (by decide)
    dsimp only
    split_ifs with hbyte hword
    · exact double_hex (by decide) hbyte x
    · exact double_hex (by decide) hword x
    · exact double_hex (by decide) hlt x

/-- What may come where a text is read on: anything behind a character, no space behind a fold, and
a space behind a fold that ends with a backslash. -/
def Takes : Mode → List Char → Prop
  | .text (.blanks s), _ => s = []
  | .text (.lines start n), text => start = [] ∧ n = 0 ∧ text.head? ≠ some ' '
  | .escape, text => text.head? = some ' '
  | .digits .., _ => False

/-- Characters that need no escape are read as they were wherever they may come. -/
theorem double_of_takes (hpart : ∀ c ∈ part, needsEscape c = false) (hm : Takes m part)
    (hx : StopsGap x) : double m (part ++ x) = (double (.text fresh) x).map (emit part) := by
  match m, hm with
  | .text (.blanks s), hm =>
    obtain rfl : s = [] := hm
    exact double_raw hpart hx []
  | .text (.lines start n), hm =>
    obtain ⟨rfl, rfl, hspace⟩ := hm
    cases part with
    | nil => rw [List.nil_append, double_lines hx, map_emit_nil]
    | cons c part =>
      obtain ⟨hc, hrest⟩ := List.forall_mem_cons.mp hpart
      have hspace : c ≠ ' ' := fun h => hspace (h ▸ rfl)
      rw [List.cons_append, double_cons hc, if_neg hspace, fresh, double_raw hrest hx,
        Option.map_map, emit_emit]
      rfl
  | .escape, hm =>
    obtain ⟨part, rfl⟩ := List.head?_eq_some_iff.mp hm
    have hrest : ∀ c ∈ part, needsEscape c = false := fun c hc =>
      hpart c (List.mem_cons_of_mem ' ' hc)
    have hread : double .escape (' ' :: (part ++ x)) =
        (double (.text fresh) (part ++ x)).map (emit [' ']) := rfl
    rw [List.cons_append, hread, fresh, double_raw hrest hx, Option.map_map, emit_emit]
    rfl

theorem stopsGap_escape (c : Char) (x : List Char) : StopsGap (escape c ++ x) := by
  rw [escape]
  split
  · exact ⟨_, .inr rfl⟩
  · split_ifs <;> exact ⟨_, .inr rfl⟩

theorem stopsGap_foldedLine (space : Bool) (x : List Char) :
    StopsGap (foldedLine layout space ++ x) :=
  ⟨_, .inr rfl⟩

theorem Takes.of_append {rest : List Char} (hm : Takes m (part ++ rest))
    (hescape : m = .escape → part ≠ []) : Takes m part := by
  match m, hm with
  | .text (.blanks s), hm => exact hm
  | .text (.lines start n), hm =>
    obtain ⟨rfl, rfl, hspace⟩ := hm
    refine ⟨rfl, rfl, fun hpart => hspace ?_⟩
    obtain ⟨part, rfl⟩ := List.head?_eq_some_iff.mp hpart
    rfl
  | .escape, hm =>
    obtain ⟨c, part, rfl⟩ := List.exists_cons_of_ne_nil (hescape rfl)
    exact hm

/-- A space needs no escape, so an escape does not come first behind a backslash at a line end. -/
theorem Takes.of_needsEscape (hm : Takes m (part ++ c :: s)) (hneeds : needsEscape c = true) :
    Takes m part :=
  hm.of_append fun hmode hnil => by
    subst hmode hnil
    obtain rfl : c = ' ' := Option.some.inj hm
    cases hneeds

theorem takes_afterFold (s : List Char) : Takes (afterFold (s.head? == some ' ')) s := by
  cases hspace : s.head? == some ' ' with
  | true => exact beq_iff_eq.mp hspace
  | false => exact ⟨rfl, rfl, fun h => by simp [h] at hspace⟩

theorem double_doubleFrom (hwidth : layout.indent + 1 ≤ lineWidth)
    (hpending : ∀ c ∈ pending, needsEscape c = false) (hm : Takes m (pending.reverse ++ s))
    (hroom : m = .escape → pending = [] → column ≤ lineWidth) (rest : List Char) :
    double m (doubleFrom layout first column pending s ++ '"' :: rest) =
      some (pending.reverse ++ s, rest) := by
  have hpending' : ∀ {pending : List Char}, (∀ c ∈ pending, needsEscape c = false) →
      ∀ c ∈ pending.reverse, needsEscape c = false := fun h c hc => h c (List.mem_reverse.mp hc)
  have hcolumn : ∀ space, columnAfterFold layout space ≤ lineWidth := by
    intro space
    rw [columnAfterFold]
    split_ifs <;> omega
  have hnone : ∀ c ∈ ([] : List Char), needsEscape c = false :=
    fun _ hc => absurd hc List.not_mem_nil
  induction s generalizing first column pending m with
  | nil =>
    rw [List.append_nil] at hm
    rw [doubleFrom, double_of_takes (hpending' hpending) hm ⟨rest, .inl rfl⟩]
    rfl
  | cons c s ih =>
    rw [doubleFrom]
    dsimp only
    split_ifs with hneeds hlong hfold
    · -- an escape, and the line ends behind it
      have hpart := hm.of_needsEscape hneeds
      simp only [List.append_assoc]
      rw [double_of_takes (hpending' hpending) hpart (stopsGap_escape c _), double_escape,
        double_foldedLine, ih hnone (takes_afterFold s) (fun _ _ => hcolumn _)]
      simp [emit]
    · have hpart := hm.of_needsEscape hneeds
      simp only [List.append_assoc]
      rw [double_of_takes (hpending' hpending) hpart (stopsGap_escape c _), double_escape,
        ih hnone (m := .text fresh) rfl fun h => Mode.noConfusion h]
      simp [emit]
    · -- the line ends in front of the character, which has room on it if it is the first
      have hpart : Takes m pending.reverse := hm.of_append fun hmode hnil => by
        have hnil : pending = [] := List.reverse_eq_nil_iff.mp hnil
        have hlong := hfold.2.2
        have hroom := hroom hmode hnil
        rw [hnil, List.length_nil] at hlong
        omega
      have hone : ∀ d ∈ [c], needsEscape d = false := by simpa using hneeds
      have htakes : Takes (afterFold (c == ' ')) ([c].reverse ++ s) := takes_afterFold (c :: s)
      simp only [List.append_assoc]
      rw [double_of_takes (hpending' hpending) hpart (stopsGap_foldedLine _ _),
        double_foldedLine, ih hone htakes fun _ h => absurd h (List.cons_ne_nil c [])]
      simp [emit]
    · have hmore : ∀ d ∈ c :: pending, needsEscape d = false :=
        List.forall_mem_cons.mpr ⟨by simpa using hneeds, hpending⟩
      have htakes : Takes m ((c :: pending).reverse ++ s) := by simpa using hm
      rw [ih hmore htakes fun _ h => absurd h (List.cons_ne_nil c pending)]
      simp

end Double

end Cosim.Proofs.Report.Scalars
