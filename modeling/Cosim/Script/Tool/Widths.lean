import Cosim.Script.Tool.Amount
import Cosim.Script.Tool.Basic
import Cosim.Script.Tool.Columns

namespace Cosim.Script.Tool

open Cosim.Numeral Cosim.Text Step

def columnBehind (isCounted : Bool) (column : Nat) (c : Char) : Nat :=
  if isCounted then column + 1
  else match c with
    | '\t' => column + (8 - column % 8)
    | '\x08' => column - 1
    | '\x0d' => 0
    | _ => column + 1

def widthOf (isCounted : Bool) (s : List Char) : Nat := s.foldl (columnBehind isCounted) 0

/-- Break a line where it grows too wide, on request behind a blank if there is one. What has been
read of it is held last character first. A character is looked at again once there is less before
it. -/
def foldedFrom (width : Nat) (isCounted atBlanks : Bool) (before : List Char) (column : Nat) :
    List Char → List (List Char)
  | [] => [before.reverse]
  | c :: rest =>
    let next := columnBehind isCounted column c
    if next ≤ width then foldedFrom width isCounted atBlanks (c :: before) next rest
    else
      let tail := before.takeWhile fun c => !(c = ' ' || c = '\t')
      if atBlanks && tail.length < before.length then
        (before.drop tail.length).reverse ::
          foldedFrom width isCounted atBlanks tail (widthOf isCounted tail.reverse) (c :: rest)
      else if before.isEmpty then foldedFrom width isCounted atBlanks [c] next rest
      else before.reverse :: foldedFrom width isCounted atBlanks [] 0 (c :: rest)
termination_by s => (s.length, before.length)
decreasing_by
  · exact Prod.Lex.left _ _ (by simp)
  · exact Prod.Lex.right _ (by simp_all [tail])
  · exact Prod.Lex.left _ _ (by simp)
  · exact Prod.Lex.right _ (by cases before <;> simp_all)

def eachLine (content : ByteArray) (f : String → String) : ByteArray :=
  joinContents ((wholeLines content).map fun line =>
    let text := lineText line
    Octets.read (f text ++ if line.size = text.length then "" else "\n"))

def fold (name : String) (args : List String) : Step Nat := do
  let digits := (List.range 10).map fun (n : Nat) => (⟨toString n, "", .attached⟩ : Switch)
  let g := Given.read
    (digits ++ [flag "b" "bytes", flag "s" "spaces", setting "w" "width"]) args
  let width (key value : String) : Except String Int :=
    Amount.whole false 1 (2 ^ 64 - 10) (if key = "w" then value else key ++ value)
  let check (key value : String) : Option String :=
    if key = "b" || key = "s" then none
    else match width key value with
      | .ok _ => none
      | .error text => some ("invalid number of columns: " ++ text)
  obey name g check do
    let given := (g.found.filter fun e => e.1 != "b" && e.1 != "s").getLast?
    let limit := ((given.bind fun (key, value) => (width key value).toOption).getD 80).toNat
    filter name g.operands fun found => joinContents (found.map fun content =>
      eachLine content fun text =>
        "\n".intercalate ((foldedFrom limit (g.has "b") (g.has "s") [] 0 text.toList).map
          String.ofList))

/-- Where tabs lead to: places in their order, and how it goes on behind the last one, by places
that a step divides or that are steps away from the last one. -/
structure TabStops where
  places : List Nat
  multiples : Option Nat
  steps : Option Nat

namespace TabStops

def empty : TabStops := ⟨[], none, none⟩

/-- A number of a list and the sign before it. -/
inductive Item where
  | place (n : Nat)
  | multiple (n : Nat)
  | step (n : Nat)

def add (t : TabStops) : Item → Except String TabStops
  | .place n => .ok { t with places := t.places ++ [n] }
  | .multiple n =>
    if t.multiples.any (0 < ·) then .error "'/' specifier only allowed with the last value"
    else .ok { t with multiples := some n }
  | .step n =>
    if t.steps.any (0 < ·) then .error "'+' specifier only allowed with the last value"
    else .ok { t with steps := some n }

def readFrom : Nat → (Nat → Item) → TabStops → List Char → Except String TabStops
  | 0, _, t, _ | _, _, t, [] => .ok t
  | fuel + 1, sort, t, c :: rest =>
    if c = ',' || c = ' ' || c = '\t' then readFrom fuel sort t rest
    else if c = '/' then readFrom fuel .multiple t rest
    else if c = '+' then readFrom fuel .step t rest
    else
      let ds := (c :: rest).takeWhile isDecimalDigit
      let after := (c :: rest).drop ds.length
      if ds.isEmpty then
        .error ("tab size contains invalid character(s): " ++ quoted (String.ofList after))
      else if 2 ^ 64 ≤ decimalValue ds then
        .error ("tab stop is too large " ++ quoted (String.ofList ds))
      else match after with
        | '/' :: _ | '+' :: _ =>
          .error (quoted (String.ofList (after.take 1)) ++ " specifier not at start of number: " ++
            quoted (String.ofList after))
        | _ => match t.add (sort (decimalValue ds)) with
          | .error text => .error text
          | .ok t => readFrom fuel sort t after

def read (t : TabStops) (text : String) : Except String TabStops :=
  readFrom text.length .place t text.toList

def fault? (t : TabStops) : Option String :=
  let faults := (t.places.zip (0 :: t.places)).filterMap fun (place, before) =>
    if place = 0 then some "tab size cannot be 0"
    else if place ≤ before then some "tab sizes must be ascending"
    else none
  if let some text := faults.head? then some text
  else if t.multiples.any (0 < ·) && t.steps.any (0 < ·) then
    some "'/' specifier is mutually exclusive with '+'"
  else none

def next? (t : TabStops) (column : Nat) : Option Nat :=
  let multiple (n : Nat) : Nat := column + (n - column % n)
  let multiples := t.multiples.filter (0 < ·)
  let steps := t.steps.filter (0 < ·)
  match t.places, multiples, steps with
  | [], some n, _ | [], none, some n => some (multiple n)
  | [], none, none => some (multiple 8)
  | [n], none, none => some (multiple n)
  | places, multiples, steps =>
    match places.find? (column < ·), multiples, steps with
    | some place, _, _ => some place
    | none, some n, _ => some (multiple n)
    | none, none, some n => some (column + (n - (column - places.getLast?.getD 0) % n))
    | none, none, none => none

def ofLists (lists : List String) : Except String TabStops := do
  let t ← lists.foldlM read empty
  match t.fault? with
  | some text => .error text
  | none => .ok t

end TabStops

def expanded (t : TabStops) (onlyLeading : Bool) (line : List Char) : List Char :=
  (line.foldl (fun (text, column, isLeading) c =>
    if !isLeading then (c :: text, column, false)
    else
      let isLeading := !onlyLeading || c = ' ' || c = '\t'
      if c = '\t' then
        let next := (t.next? column).getD (column + 1)
        (List.replicate (next - column) ' ' ++ text, next, isLeading)
      else (c :: text, if c = '\x08' then column - 1 else column + 1, isLeading))
    (([] : List Char), 0, true)).1.reverse

def expand (name : String) (args : List String) : Step Nat := do
  let digits := (List.range 10).map fun (n : Nat) => (⟨toString n, "", .attached⟩ : Switch)
  let g := Given.read (digits ++ [flag "i" "initial", setting "t" "tabs"]) args
  let lists := g.found.filterMap fun (key, value) =>
    if key = "i" then none else some (if key = "t" then value else key ++ value)
  let check (key value : String) : Option String :=
    if key = "i" then none
    else match TabStops.empty.read (if key = "t" then value else key ++ value) with
      | .ok _ => none
      | .error text => some text
  obey name g check do
    match TabStops.ofLists lists with
    | .error text => complain name text
    | .ok t =>
      filter name g.operands fun found =>
        eachLine (joinContents found) fun text =>
          String.ofList (expanded t (g.has "i") text.toList)

/-- A line under way whose blanks may become tabs: what has been written last character first, the
column, the blanks that are pending last one first, whether the first of them stood alone before a
tab stop, whether the last character was a blank, and whether blanks are still looked at. -/
structure Narrowing where
  text : List Char
  column : Nat
  pending : List Char
  isLone : Bool
  isBehindBlank : Bool
  isActive : Bool

namespace Narrowing

def headTab (blanks : List Char) : List Char :=
  if blanks.isEmpty then [] else blanks.dropLast ++ ['\t']

def release (n : Narrowing) : Narrowing :=
  let blanks := if 1 < n.pending.length && n.isLone then headTab n.pending else n.pending
  if n.pending.isEmpty then n
  else { n with text := blanks ++ n.text, pending := [], isLone := false }

def write (n : Narrowing) (isWhole : Bool) (c : Char) (isBlank : Bool) : Narrowing :=
  let n := n.release
  { n with
    text := c :: n.text
    isBehindBlank := isBlank
    isActive := n.isActive && (isWhole || isBlank) }

def discard (n : Narrowing) (blanks : List Char) : Narrowing :=
  { n with pending := if n.isLone then blanks.reverse.take 1 else [] }

def next (t : TabStops) (isWhole : Bool) (n : Narrowing) (c : Char) : Narrowing :=
  if !n.isActive then { n with text := c :: n.text }
  else if c = ' ' || c = '\t' then
    match t.next? n.column with
    | none =>
      let m := n.write isWhole c true
      { m with isActive := false }
    | some place =>
      if c = '\t' then
        ({ n with column := place }.discard (headTab n.pending)).write isWhole c true
      else
        let column := n.column + 1
        if n.isBehindBlank && column = place then
          let blanks := if n.pending.isEmpty then ['\t'] else headTab n.pending
          ({ n with column := column }.discard blanks).write isWhole '\t' true
        else
          { n with
            column := column
            isLone := n.isLone || column = place
            pending := c :: n.pending
            isBehindBlank := true }
  else if c = '\x08' then { n with column := n.column - 1 }.write isWhole c false
  else { n with column := n.column + 1 }.write isWhole c false

end Narrowing

def narrowed (t : TabStops) (isWhole : Bool) (line : List Char) : List Char :=
  (line.foldl (Narrowing.next t isWhole) ⟨[], 0, [], false, true, true⟩).release.text.reverse

def unexpand (name : String) (args : List String) : Step Nat := do
  let signs := (",0123456789".toList.map String.singleton)
  let g := Given.read
    (signs.map (flag ·) ++ [flag "a" "all", flag "first-only" "first-only",
      setting "t" "tabs"]) args
  let plain := String.join ((g.found.map Prod.fst).filter signs.contains)
  let lists := g.found.filterMap (fun (key, value) => if key = "t" then some value else none) ++
    [plain]
  let check (key value : String) : Option String :=
    if key != "t" then none
    else match TabStops.empty.read value with
      | .ok _ => none
      | .error text => some text
  obey name g check do
    match TabStops.ofLists lists with
    | .error text => complain name text
    | .ok t =>
      let isWhole := (g.has "a" || g.has "t") && !g.has "first-only"
      filter name g.operands fun found =>
        eachLine (joinContents found) fun text =>
          String.ofList (narrowed t isWhole text.toList)

end Cosim.Script.Tool
