namespace Cosim.Files.Wildcard

/-- What a set in brackets lists. -/
inductive Member where
  | single (c : Char)
  | range (low high : Char)
deriving DecidableEq, Repr

def Member.has (c : Char) : Member → Bool
  | .single d => c == d
  | .range low high => low ≤ c && c ≤ high

def Member.isEmpty : Member → Bool
  | .single _ => false
  | .range low high => high < low

inductive Item where
  | star
  | any
  | letter (c : Char)
  | oneOf (complement : Bool) (members : List Member)
deriving DecidableEq, Repr

def Item.has (c : Char) : Item → Bool
  | .star => false
  | .any => true
  | .letter d => c == d
  | .oneOf complement members => members.any (Member.has c) != complement

def membersOf : List Char → List Member
  | low :: '-' :: high :: rest => .range low high :: membersOf rest
  | c :: rest => .single c :: membersOf rest
  | [] => []

/-- The members of a set that does not begin with an exclamation mark, or with it alone. -/
def listed : List Char → List Member
  | '!' :: rest => .single '!' :: membersOf rest
  | body => membersOf body

/-- The set that a text in brackets stands for. Empty ranges are gone before the first character is
looked at. -/
def oneOf (body : List Char) : Item :=
  match (listed body).filter fun m => !m.isEmpty with
  | .single '!' :: rest => .oneOf true rest
  | .range '!' high :: rest => .oneOf true (.single '-' :: .single high :: rest)
  | members => .oneOf false members

/-- Pass over a character if it comes first. -/
def pass (c : Char) : List Char → List Char
  | [] => []
  | d :: rest => if d = c then rest else d :: rest

theorem length_pass_le (c : Char) (s : List Char) : (pass c s).length ≤ s.length := by
  cases s with
  | nil => exact Nat.le_refl 0
  | cons d rest =>
    rw [pass]
    split
    · exact Nat.le_succ _
    · exact Nat.le_refl _

def close? (s : List Char) : Option (List Char × List Char) :=
  match (pass ']' (pass '!' s)).dropWhile (· != ']') with
  | [] => none
  | _ :: rest => some (s.take (s.length - rest.length - 1), rest)

theorem length_of_close? {s body rest : List Char} (h : close? s = some (body, rest)) :
    rest.length < s.length := by
  unfold close? at h
  split at h
  · exact absurd h (by simp)
  · rename_i _ after he
    obtain ⟨-, rfl⟩ := Prod.mk.inj (Option.some.inj h)
    have hl : (pass ']' (pass '!' s)).length ≤ s.length :=
      Nat.le_trans (length_pass_le _ _) (length_pass_le _ _)
    have hd := (List.dropWhile_sublist (l := pass ']' (pass '!' s)) (· != ']')).length_le
    rw [he, List.length_cons] at hd
    omega

def read : List Char → List Item
  | [] => []
  | '*' :: rest => .star :: read rest
  | '?' :: rest => .any :: read rest
  | '[' :: rest =>
    match h : close? rest with
    | some (body, after) =>
      have := length_of_close? h
      oneOf body :: read after
    | none => .letter '[' :: read rest
  | c :: rest => .letter c :: read rest
termination_by s => s.length

def ends : List Char → List (List Char)
  | [] => [[]]
  | c :: rest => (c :: rest) :: ends rest

def isMatch : List Item → List Char → Bool
  | [], s => s.isEmpty
  | .star :: items, s => (ends s).any (isMatch items)
  | _ :: _, [] => false
  | item :: items, c :: s => item.has c && isMatch items s

def fromEach : List Bool → List Bool
  | [] => []
  | b :: later =>
    match fromEach later with
    | [] => [b]
    | c :: rest => (b || c) :: c :: rest

/-- For each end of a text, whether an item stands for its first character and `later` holds of the
next end. -/
def withItem (item : Item) : List Char → List Bool → List Bool
  | c :: s, _ :: later => (item.has c && later.headD false) :: withItem item s later
  | _, _ => [false]

def onEnds (s : List Char) : List Item → List Bool
  | [] => (ends s).map List.isEmpty
  | .star :: items => fromEach (onEnds s items)
  | item :: items => withItem item s (onEnds s items)

def test (items : List Item) (s : List Char) : Bool := (onEnds s items).headD false

theorem fromEach_map (f : List Char → Bool) (s : List Char) :
    fromEach ((ends s).map f) = (ends s).map fun t => (ends t).any f := by
  induction s with
  | nil => simp [ends, fromEach]
  | cons c rest ih =>
    have he : ∃ t ts, ends rest = t :: ts ∧ t = rest := by
      cases rest with
      | nil => exact ⟨[], [], rfl, rfl⟩
      | cons d r => exact ⟨d :: r, ends r, rfl, rfl⟩
    obtain ⟨t, ts, hts, rfl⟩ := he
    rw [ends, List.map_cons, fromEach, ih, hts]
    simp [ends, hts]

theorem withItem_map (item : Item) (f : List Char → Bool) (s : List Char) :
    withItem item s ((ends s).map f) =
      (ends s).map fun
        | [] => false
        | c :: t => item.has c && f t := by
  induction s with
  | nil => rfl
  | cons c rest ih =>
    rw [ends, List.map_cons, withItem, ih, List.map_cons]
    cases rest <;> rfl

theorem onEnds_eq_map (s : List Char) (items : List Item) :
    onEnds s items = (ends s).map (isMatch items) := by
  induction items with
  | nil =>
    refine List.map_congr_left fun t _ => ?_
    cases t <;> rfl
  | cons item items ih =>
    cases item with
    | star =>
      rw [onEnds, ih, fromEach_map]
      refine List.map_congr_left fun t _ => ?_
      cases t <;> rfl
    | _ =>
      rw [onEnds, ih, withItem_map]
      · refine List.map_congr_left fun t _ => ?_
        cases t <;> rfl
      · exact fun h => Item.noConfusion h

theorem test_eq_isMatch (items : List Item) (s : List Char) : test items s = isMatch items s := by
  rw [test, onEnds_eq_map]
  cases s <;> rfl

def isMagic (c : Char) : Bool := c == '*' || c == '?' || c == '['

def isPattern (name : String) : Bool := name.toList.any isMagic

end Cosim.Files.Wildcard
