import Cosim.Proofs.Numeral.Digits
import Cosim.Proofs.Outcome
import Cosim.Trace.CommitLine
import Mathlib.Data.List.Infix

namespace Cosim.Proofs.CommitLine.Window

open Cosim.Numeral Cosim.Trace Cosim.Trace.CommitLine
open Cosim.Proofs.Numeral.Digits Cosim.Proofs.Outcome

/-- A mark and hexadecimal digits of a value below `2 ^ 64`. -/
def isWord (t : Token) : Bool :=
  isMarked t && isHex (t.drop 2) && decide (hexValue (t.drop 2) < 2 ^ 64)

def wordValue (t : Token) : Int := hexValue (t.drop 2)

def isName (t : Token) : Bool := t != mem && !isMarked t

/-- The write that a name and the token behind it report. -/
def writeAt : List Token → Option RegisterWrite
  | n :: v :: _ => if isName n then some ⟨String.ofList n, wordValue v⟩ else none
  | _ => none

def dataAt : List Token → Option Int
  | d :: _ => if isWord d then some (wordValue d) else none
  | [] => none

/-- The access that `mem` and the two tokens behind it report. -/
def accessAt : List Token → Option MemoryAccess
  | t :: a :: rest => if t = mem ∧ isWord a then some ⟨wordValue a, dataAt rest⟩ else none
  | _ => none

/-- The window stands at every token in turn. -/
def registerWrites (tail : List Token) : List RegisterWrite := tail.tails.filterMap writeAt

def memoryAccesses (tail : List Token) : List MemoryAccess := tail.tails.filterMap accessAt

def shown (tail : List Token) : Effects := ⟨registerWrites tail, memoryAccesses tail⟩

def NamesHaveValues (tail : List Token) : Prop :=
  ∀ i n, tail[i]? = some n → isName n = true → ∃ v, tail[i + 1]? = some v ∧ isWord v = true

theorem isOperand_eq_isWord (t : Token) : isOperand t = isWord t := by
  unfold isOperand isWord
  cases hh : isHex (t.drop 2) with
  | false => simp
  | true =>
    have hall : (t.drop 2).all isHexDigit = true := by
      simp only [isHex, Bool.and_eq_true] at hh
      exact hh.2
    have hiff := hexValue_lt_iff hall 16
    have hpow : (16 : Nat) ^ 16 = 2 ^ 64 := by decide
    rw [hpow] at hiff
    rw [decide_eq_decide.mpr hiff]

theorem isMarked_of_isWord {t : Token} (h : isWord t = true) : isMarked t = true := by
  simp only [isWord, Bool.and_eq_true] at h
  exact h.1.1

theorem isName_of_isMarked {t : Token} (h : isMarked t = true) : isName t = false := by
  simp [isName, h]

theorem ne_mem_of_isMarked {t : Token} (h : isMarked t = true) : t ≠ mem := by
  rintro rfl
  cases h

theorem isName_iff {t : Token} : isName t = true ↔ t ≠ mem ∧ isMarked t = false := by
  simp [isName]

/-- A number that is no decimal is read from any digits that denote a value of its width. -/
theorem number_eq_ok {field : Field} (hf : field.isDecimal = false) {token digits : Token}
    {v : Int} : number field token digits = .ok v ↔
      isHex digits = true ∧ hexValue digits < 2 ^ field.bits ∧ v = hexValue digits := by
  unfold number
  rw [if_neg (by simp [hf])]
  cases hh : isHex digits with
  | false => simp [fail]
  | true =>
    by_cases hv : hexValue digits < 2 ^ field.bits
    · rw [if_neg (by simp), if_neg (Nat.not_le.mpr hv)]
      simp [hv, eq_comm]
    · rw [if_neg (by simp), if_pos (Nat.not_lt.mp hv)]
      simp [hv, fail]

theorem number_ne_tooLong {field : Field} (hf : field.isDecimal = false) (token digits : Token)
    (n : Nat) : number field token digits ≠ .error (.tooLong n) := by
  simp only [number, hf, Bool.false_eq_true, ↓reduceIte]
  split
  · simp [fail]
  split <;> simp [fail]

theorem registerValue_eq_ok {register t : Token} {v : Int} :
    registerValue register t = .ok v ↔ isWord t = true ∧ v = wordValue t := by
  unfold registerValue
  split
  · rename_i hm
    rw [number_eq_ok rfl]
    simp [isWord, wordValue, hm, Field.bits, and_assoc]
  · rename_i hm
    simp [isWord, hm, fail]

theorem registerValue_ne_tooLong (register t : Token) (n : Nat) :
    registerValue register t ≠ .error (.tooLong n) := by
  unfold registerValue
  split
  · exact number_ne_tooLong rfl _ _ n
  · simp [fail]

theorem namesHaveValues_nil : NamesHaveValues [] := by
  intro i n hi
  simp at hi

theorem namesHaveValues_cons (t : Token) (rest : List Token) :
    NamesHaveValues (t :: rest) ↔
      (isName t = true → ∃ v, rest.head? = some v ∧ isWord v = true) ∧ NamesHaveValues rest := by
  constructor
  · intro h
    refine ⟨fun hn => ?_, fun i n hi hn => h (i + 1) n hi hn⟩
    simpa [List.head?_eq_getElem?] using h 0 t rfl hn
  · rintro ⟨ht, hr⟩ i n hi hn
    cases i with
    | zero =>
      obtain rfl : t = n := by simpa using hi
      simpa [List.head?_eq_getElem?] using ht hn
    | succ i => exact hr i n hi hn

theorem NamesHaveValues.of_suffix {tail suffix : List Token} (h : NamesHaveValues tail)
    (hs : suffix <:+ tail) : NamesHaveValues suffix := by
  obtain ⟨front, rfl⟩ := hs
  induction front with
  | nil => exact h
  | cons t front ih => exact ih ((namesHaveValues_cons t (front ++ suffix)).mp h).2

theorem shown_cons (t : Token) (rest : List Token) :
    shown (t :: rest) =
      ⟨(writeAt (t :: rest)).toList ++ (shown rest).registerWrites,
        (accessAt (t :: rest)).toList ++ (shown rest).memoryAccesses⟩ := by
  simp only [shown, registerWrites, memoryAccesses, List.tails, List.filterMap_cons]
  cases writeAt (t :: rest) <;> cases accessAt (t :: rest) <;> rfl

theorem writeAt_of_not_isName {t : Token} (h : isName t = false) (rest : List Token) :
    writeAt (t :: rest) = none := by
  cases rest <;> simp [writeAt, h]

theorem accessAt_of_ne_mem {t : Token} (h : t ≠ mem) (rest : List Token) :
    accessAt (t :: rest) = none := by
  cases rest <;> simp [accessAt, h]

/-- A marked token that no name and no `mem` claims is passed over. -/
theorem shown_of_isMarked {t : Token} (h : isMarked t = true) (rest : List Token) :
    shown (t :: rest) = shown rest ∧ (NamesHaveValues (t :: rest) ↔ NamesHaveValues rest) := by
  refine ⟨?_, by simp [namesHaveValues_cons, isName_of_isMarked h]⟩
  rw [shown_cons, writeAt_of_not_isName (isName_of_isMarked h),
    accessAt_of_ne_mem (ne_mem_of_isMarked h)]
  rfl

theorem namesHaveValues_mem (rest : List Token) :
    NamesHaveValues (mem :: rest) ↔ NamesHaveValues rest := by
  have hn : isName mem = false := rfl
  simp [namesHaveValues_cons, hn]

theorem shown_of_address {a : Token} (h : isWord a = true) (rest : List Token) :
    shown (mem :: a :: rest) = (shown rest).withAccess (wordValue a) (dataAt rest) ∧
      (NamesHaveValues (mem :: a :: rest) ↔ NamesHaveValues rest) := by
  obtain ⟨hs, hn⟩ := shown_of_isMarked (isMarked_of_isWord h) rest
  have hw : writeAt (mem :: a :: rest) = none := rfl
  have ha : accessAt (mem :: a :: rest) = some ⟨wordValue a, dataAt rest⟩ := by simp [accessAt, h]
  refine ⟨?_, by rw [namesHaveValues_mem, hn]⟩
  rw [shown_cons, hw, ha, hs]
  rfl

/-- Behind `mem` any other token stands as if `mem` were not there. -/
theorem shown_of_not_address {a : Token} (h : isWord a = false) (rest : List Token) :
    shown (mem :: a :: rest) = shown (a :: rest) := by
  have hw : writeAt (mem :: a :: rest) = none := rfl
  have ha : accessAt (mem :: a :: rest) = none := by simp [accessAt, h]
  rw [shown_cons, hw, ha]
  rfl

theorem shown_of_name {n v : Token} (hn : isName n = true) (hv : isWord v = true)
    (rest : List Token) :
    shown (n :: v :: rest) = (shown rest).withWrite n (wordValue v) ∧
      (NamesHaveValues (n :: v :: rest) ↔ NamesHaveValues rest) := by
  obtain ⟨hs, hr⟩ := shown_of_isMarked (isMarked_of_isWord hv) rest
  have hw : writeAt (n :: v :: rest) = some ⟨String.ofList n, wordValue v⟩ := by simp [writeAt, hn]
  refine ⟨?_, by simp [namesHaveValues_cons n, hv, hr]⟩
  rw [shown_cons, hw, accessAt_of_ne_mem (isName_iff.mp hn).1, hs]
  rfl

theorem effects_eq_ok (tail : List Token) (e : Effects) :
    effects tail = .ok e ↔ NamesHaveValues tail ∧ shown tail = e := by
  fun_induction effects tail generalizing e with
  | case1 =>
    have hs : shown [] = Effects.none := rfl
    simp [namesHaveValues_nil, hs]
  | case2 =>
    have hs : shown [mem] = Effects.none := rfl
    simp [namesHaveValues_mem, namesHaveValues_nil, hs]
  | case3 a ha =>
    rw [isOperand_eq_isWord] at ha
    obtain ⟨hs, hn⟩ := shown_of_address ha []
    rw [hs, hn]
    simp only [namesHaveValues_nil, true_and, Except.ok.injEq]
    exact Iff.rfl
  -- an address and a second word: a store
  | case4 a ha d rest hd ih =>
    rw [isOperand_eq_isWord] at ha hd
    obtain ⟨hs, hn⟩ := shown_of_address ha (d :: rest)
    obtain ⟨hs', hn'⟩ := shown_of_isMarked (isMarked_of_isWord hd) rest
    have hdata : dataAt (d :: rest) = some (wordValue d) := if_pos hd
    rw [map_eq_ok, hs, hn, hs', hn', hdata]
    simp only [ih, and_assoc, exists_and_left, exists_eq_left']
    exact Iff.rfl
  -- an address, and what follows stands for itself: a load
  | case5 a ha d rest hd ih =>
    rw [isOperand_eq_isWord] at ha hd
    obtain ⟨hs, hn⟩ := shown_of_address ha (d :: rest)
    have hdata : dataAt (d :: rest) = none := if_neg hd
    rw [map_eq_ok, hs, hn, hdata]
    simp only [ih, and_assoc, exists_and_left, exists_eq_left']
    exact Iff.rfl
  | case6 a rest ha ih =>
    rw [isOperand_eq_isWord, Bool.not_eq_true] at ha
    rw [namesHaveValues_mem, shown_of_not_address ha]
    exact ih e
  | case7 t rest ht hm ih =>
    obtain ⟨hs, hn⟩ := shown_of_isMarked hm rest
    rw [hs, hn]
    exact ih e
  -- a name at the end has no value, and the window asks for one
  | case8 t ht hm =>
    have hname : isName t = true := isName_iff.mpr ⟨ht, by simpa using hm⟩
    simp [fail, namesHaveValues_cons, hname]
  | case9 t ht hm v rest ih =>
    have hname : isName t = true := isName_iff.mpr ⟨ht, by simpa using hm⟩
    simp only [bind_eq_ok, registerValue_eq_ok, map_eq_ok, ih]
    cases hv : isWord v with
    | false => simp [namesHaveValues_cons t, hname, hv]
    | true =>
      obtain ⟨hs, hn⟩ := shown_of_name hname hv rest
      simp [hs, hn]

theorem effects_ne_tooLong (tail : List Token) (n : Nat) :
    effects tail ≠ .error (.tooLong n) := by
  fun_induction effects tail with
  | case1 | case2 | case3 => simp
  | case4 a ha d rest hd ih | case5 a ha d rest hd ih => rwa [ne_eq, map_eq_error]
  | case6 a rest ha ih | case7 t rest ht hm ih => exact ih
  | case8 t ht hm => simp [fail]
  | case9 t ht hm v rest ih =>
    rw [ne_eq, bind_eq_error, not_or]
    refine ⟨registerValue_ne_tooLong t v n, ?_⟩
    rintro ⟨value, -, he⟩
    exact ih (map_eq_error.mp he)

/-- No token waits for one behind the list: the last one is no name, no `mem` and no address. -/
def IsIdle (tokens : List Token) : Prop :=
  ∀ init t, tokens = init ++ [t] →
    isName t = false ∧ t ≠ mem ∧ ¬ (isWord t = true ∧ init.getLast? = some mem)

theorem IsIdle.of_append {tokens : List Token} (front : List Token)
    (h : IsIdle (front ++ tokens)) : IsIdle tokens := by
  rintro init t rfl
  obtain ⟨hn, hm, hw⟩ := h (front ++ init) t (List.append_assoc _ _ _).symm
  refine ⟨hn, hm, ?_⟩
  rintro ⟨ht, hi⟩
  exact hw ⟨ht, by rw [List.getLast?_append, hi]; rfl⟩

theorem effects_stray {t : Token} (h : isMarked t = true) (rest : List Token) :
    effects (t :: rest) = effects rest := by
  rw [effects.eq_def]
  simp only [ne_mem_of_isMarked h, h, ↓reduceIte]

theorem effects_store {a d : Token} (ha : isOperand a = true) (hd : isOperand d = true)
    (rest : List Token) :
    effects (mem :: a :: d :: rest) =
      (effects rest).map (Effects.withAccess (operand a) (some (operand d))) := by
  rw [effects.eq_def]
  simp only [ha, hd, ↓reduceIte]

theorem effects_load {a d : Token} (ha : isOperand a = true) (hd : ¬ isOperand d = true)
    (rest : List Token) :
    effects (mem :: a :: d :: rest) =
      (effects (d :: rest)).map (Effects.withAccess (operand a) none) := by
  rw [effects.eq_def]
  simp only [ha, hd, ↓reduceIte]
  rfl

theorem effects_mem {a : Token} (ha : ¬ isOperand a = true) (rest : List Token) :
    effects (mem :: a :: rest) = effects (a :: rest) := by
  rw [effects.eq_def]
  simp only [ha, ↓reduceIte]
  rfl

theorem effects_name {t : Token} (ht : t ≠ mem) (hm : ¬ isMarked t = true) (v : Token)
    (rest : List Token) :
    effects (t :: v :: rest) = (do
      let value ← registerValue t v
      (effects rest).map (Effects.withWrite t value)) := by
  rw [effects.eq_def]
  simp only [ht, hm, ↓reduceIte]
  rfl

theorem effects_insert {x : Token} (hx : isMarked x = true) {before : List Token}
    (h : IsIdle before) (after : List Token) :
    effects (before ++ x :: after) = effects (before ++ after) := by
  -- no case leaves the reader waiting where the token stands, as the list in front is idle
  fun_induction effects before with
  | case1 => exact effects_stray hx after
  | case2 => exact absurd rfl (h [] mem rfl).2.1
  | case3 a ha =>
    rw [isOperand_eq_isWord] at ha
    exact absurd ⟨ha, rfl⟩ (h [mem] a rfl).2.2
  | case4 a ha d rest hd ih =>
    have hi := ih (h.of_append [mem, a, d])
    simp only [List.cons_append, effects_store ha hd, hi]
  | case5 a ha d rest hd ih =>
    have hi := ih (h.of_append [mem, a])
    rw [List.cons_append] at hi
    simp only [List.cons_append, effects_load ha hd, hi]
  | case6 a rest ha ih =>
    have hi := ih (h.of_append [mem])
    rw [List.cons_append] at hi
    simp only [List.cons_append, effects_mem ha, hi]
  | case7 t rest ht hm ih =>
    have hi := ih (h.of_append [t])
    rw [List.cons_append, List.cons_append, effects_stray hm, effects_stray hm, hi]
  | case8 t ht hm =>
    have hname : isName t = true := isName_iff.mpr ⟨ht, by simpa using hm⟩
    simp [(h [] t rfl).1] at hname
  | case9 t ht hm v rest ih =>
    have hi := ih (h.of_append [t, v])
    simp only [List.cons_append, effects_name ht hm, hi]

end Cosim.Proofs.CommitLine.Window
