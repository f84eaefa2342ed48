import Cosim.Script.Tool.Amount
import Cosim.Script.Tool.Reading

namespace Cosim.Script.Tool

open Cosim.Files Cosim.Numeral Cosim.Text Step

/-- What comparing two ordered files comes upon: a line that only the first, only the second or both
have, or that a file is out of order. -/
inductive Meeting where
  | line (holder : Nat) (text : String)
  | disorder (file : Nat)

/-- A file on its way: the lines to come, those that have been passed, last one first, and whether
it is known to be out of order. -/
structure Strand where
  ahead : List String
  behind : List String
  isFaulty : Bool

namespace Strand

def step (checks : Bool) (s : Strand) : Strand × Bool :=
  let behind := s.ahead.take 1 ++ s.behind
  let pair := match s.ahead.tail, behind with
    | next :: _, last :: _ => some (last, next)
    | [], last :: before :: _ => some (before, last)
    | _, _ => none
  let isFound := checks && !s.isFaulty && pair.any fun (x, y) => y < x
  (⟨s.ahead.tail, behind, s.isFaulty || isFound⟩, isFound)

end Strand

def meetingsFrom (checksAlways checksNever : Bool) :
    Nat → Bool → Strand → Strand → List Meeting
  | 0, _, _, _ => []
  | fuel + 1, hasOwn, a, b =>
    let order := match a.ahead, b.ahead with
      | [], [] => none
      | [], y :: _ => some (Ordering.gt, y)
      | x :: _, [] => some (.lt, x)
      | x :: _, y :: _ => some (compare x y, if x ≤ y then x else y)
    match order with
    | none => []
    | some (order, text) =>
      let hasOwn := hasOwn || order != .eq
      let checks := !checksNever && (checksAlways || hasOwn)
      let (a, x) := if order != .gt then a.step checks else (a, false)
      let (b, y) := if order != .lt then b.step checks else (b, false)
      let holder := match order with
        | .lt => 1
        | .gt => 2
        | .eq => 3
      .line holder text :: (if x then [.disorder 1] else []) ++ (if y then [.disorder 2] else []) ++
        meetingsFrom checksAlways checksNever fuel hasOwn a b

def comm (name : String) (args : List String) : Step Nat := do
  let g := Given.read
    [flag "1", flag "2", flag "3", flag "check-order" "check-order",
      flag "nocheck-order" "nocheck-order", setting "output-delimiter" "output-delimiter",
      flag "total" "total", flag "z" "zero-terminated"] args
  let dividers := g.found.filterMap fun (key, value) =>
    if key = "output-delimiter" then some value else none
  let check (key value : String) : Option String :=
    if key = "output-delimiter" && dividers.head? != some value then
      some "multiple output delimiters specified"
    else none
  obey name g check do
    match g.operands with
    | [] => usage name "missing operand"
    | [one] => usage name ("missing operand after " ++ quoted one)
    | _ :: _ :: extra :: _ => usage name ("extra operand " ++ quoted extra)
    | [first, second] =>
      match ← contents first, ← contents second with
      | .error r, _ => complain name (shown first ++ ": " ++ r.reason)
      | _, .error r => complain name (shown second ++ ": " ++ r.reason)
      | .ok a, .ok b =>
        let (a, b) := (recordTexts g.mark a, recordTexts g.mark b)
        let divider := match dividers.head? with
          | none => "\t"
          | some "" => "\x00"
          | some divider => divider
        let stop := if g.has "z" then "\x00" else "\n"
        let lead (k : Nat) : String :=
          String.join (([1, 2].filter fun j => j < k && !g.has (toString j)).map fun _ => divider)
        let order := g.last? ["check-order", "nocheck-order"]
        let isStrict := order == some "check-order"
        let notes := meetingsFrom isStrict (order == some "nocheck-order") (a.length + b.length)
          false ⟨a, [], false⟩ ⟨b, [], false⟩
        let isDisorder (m : Meeting) : Bool := m matches .disorder _
        let notes := if isStrict then
            notes.takeWhile (!isDisorder ·) ++ (notes.find? isDisorder).toList
          else notes
        let account ← notes.foldlM (fun (account : Account) note => match note with
          | .line k text =>
            pure (if g.has (toString k) then account else account.say (lead k ++ text ++ stop))
          | .disorder file =>
            account.complain name ("file " ++ toString file ++ " is not in sorted order"))
          Account.empty
        if isStrict && account.status ≠ 0 then return 1
        let count (k : Nat) : String := toString (notes.countP fun note => match note with
          | .line j _ => j == k
          | .disorder _ => false)
        let account := if g.has "total" then
            account.say (divider.intercalate [count 1, count 2, count 3, "total"] ++ stop)
          else account
        discard account.settle
        if account.status ≠ 0 then complain name "input is not in sorted order" else return 0

def extent? (text : String) : Option Nat :=
  if text.toList.any fun c => c = 'b' || c = 'm' then none else (Amount.read text).toOption

def omissions (text : String) : Except String (Nat × Nat) :=
  let fault (text : String) : Except String (Nat × Nat) :=
    .error ("invalid --ignore-initial value " ++ quoted text)
  let first := String.ofList (text.toList.takeWhile (· != ':'))
  match extent? first with
  | none => fault text
  | some n =>
    if first.length = text.length then .ok (n, n)
    else
      let second := (text.drop (first.length + 1)).toString
      match extent? second with
      | none => fault second
      | some k => .ok (n, k)

structure Comparison where
  names : String × String
  contents : ByteArray × ByteArray

namespace Comparison

def places (c : Comparison) : List Nat :=
  let (a, b) := c.contents
  (List.range (min a.size b.size)).filter fun i => a[i]? != b[i]?

def lineOf (c : Comparison) (i : Nat) : Nat :=
  (c.contents.1.extract 0 i).foldl (fun n b => if b = 10 then n + 1 else n) 1

def ending (c : Comparison) (hasLines : Bool) : String :=
  let (a, b) := c.contents
  let (short, size) := if a.size < b.size then (c.names.1, a.size) else (c.names.2, b.size)
  if size = 0 then "EOF on " ++ short ++ " which is empty"
  else
    let line := if a[size - 1]? = some 10 then ", line " ++ toString (c.lineOf (size - 1))
      else ", in line " ++ toString (c.lineOf size)
    "EOF on " ++ short ++ " after byte " ++ toString size ++ if hasLines then line else ""

def shownOctet (hasSign isLast : Bool) (b : UInt8) : String :=
  let ds := digits 8 b.toNat
  let sign := visible (Char.ofNat b.toNat)
  let padding := if isLast then [] else List.replicate (4 - sign.length) ' '
  String.ofList (List.replicate (3 - ds.length) ' ' ++ ds ++
    if hasSign then ' ' :: sign ++ padding else [])

def shownPair (c : Comparison) (hasSigns isAligned : Bool) (i : Nat) : String :=
  shownOctet hasSigns (!isAligned) ((c.contents.1[i]?).getD 0) ++ " " ++
    shownOctet hasSigns true ((c.contents.2[i]?).getD 0)

end Comparison

def cmp (name : String) (args : List String) : Step Nat := do
  let g := Given.read
    [flag "b" "print-bytes", setting "i" "ignore-initial", flag "l" "verbose", setting "n" "bytes",
      flag "s" "quiet", flag "s" "silent"] args
  let refuse (text : String) : Step Nat := do
    discard (complain name text)
    discard (complain name ("Try '" ++ name ++ " --help' for more information."))
    return 2
  let kinds := (g.found.map Prod.fst).filter fun key => key = "l" || key = "s"
  let fault? (key value : String) : Option String :=
    match key with
    | "i" => match omissions value with
      | .error text => some text
      | .ok _ => none
    | "n" =>
      if (extent? value).isNone then some ("invalid --bytes value " ++ quoted value) else none
    | "l" | "s" =>
      if kinds.head? != some key then some "options -l and -s are incompatible" else none
    | _ => none
  match (g.found.findSome? fun (key, value) => fault? key value).orElse fun _ => g.fault with
  | some text => return ← refuse text
  | none => pure ()
  match g.operands with
  | [] => refuse ("missing operand after " ++ quoted (args.getLast?.getD name))
  | first :: rest =>
    let second := rest.headD "-"
    let operandSkips := rest.tail.take 2
    match operandSkips.find? fun text => (extent? text).isNone, rest.drop 3 with
    | some text, _ => return ← refuse ("invalid --ignore-initial value " ++ quoted text)
    | none, extra :: _ => return ← refuse ("extra operand " ++ quoted extra)
    | none, [] => pure ()
    let given := g.found.filterMap fun (key, value) =>
      if key = "i" then (omissions value).toOption else none
    let skips := operandSkips.map fun text => (extent? text).getD 0
    let skip (f : Nat × Nat → Nat) (k : Nat) : Nat :=
      (given.map f).foldl max ((skips[k]?).getD 0)
    let limits := g.found.filterMap fun (key, value) => if key = "n" then extent? value else none
    let part (content : ByteArray) (skip : Nat) : ByteArray :=
      let content := content.extract skip content.size
      match limits.min? with
      | some n => content.extract 0 n
      | none => content
    let t ← tree
    let isSame := first = second ||
      match t.locate (Octets.toText first), t.locate (Octets.toText second) with
      | .ok a, .ok b => a == b && t.has (Octets.toText first)
      | _, _ => false
    let (one, two) ← if second = "-" then do
        let two ← contents second
        pure (← if isSame then pure two else contents first, two)
      else do
        let one ← contents first
        pure (one, ← if isSame then pure one else contents second)
    let refusals := [(first, one), (second, two)].filterMap fun (path, r) => match r with
      | .error r => some (path, r)
      | .ok _ => none
    match (refusals.find? fun e => e.2 matches .unopened _), refusals with
    | some (path, r), _ =>
      if !g.has "s" then discard (complain name (path ++ ": " ++ r.reason))
      return 2
    | none, (path, r) :: _ =>
      if isSame then return 0
      discard (complain name (path ++ ": " ++ r.reason))
      return 2
    | none, [] => pure ()
    let content (r : Except Refusal ByteArray) : ByteArray := r.toOption.getD .empty
    let c : Comparison :=
      ⟨(first, second), part (content one) (skip Prod.fst 0), part (content two) (skip Prod.snd 1)⟩
    let sizes := [c.contents.1.size, c.contents.2.size]
    let isEven := sizes[0]? == sizes[1]?
    match c.places with
    | [] =>
      if isEven then return 0
      if !g.has "s" then discard (complain name (c.ending (!g.has "l")))
      return 1
    | i :: _ =>
      if g.has "s" then return 1
      if g.has "l" then
        let files ← [first, second].mapM sizeOf?
        let known := (files.zip sizes).filterMap fun (file, size) => match file with
          | .ok (some _) => some size
          | _ => none
        let width := (toString ((known.min?).getD (2 ^ 63 - 1))).length
        if !isEven then discard (complain name (c.ending false))
        discard (say 1 (String.join (c.places.map fun i =>
          String.ofList (decimalRight width (i + 1 : Nat)) ++ " " ++
            c.shownPair (g.has "b") true i ++
            "\n")))
      else
        let pair := if g.has "b" then " is " ++ c.shownPair true false i else ""
        discard (sayLine 1 (first ++ " " ++ second ++ " differ: " ++
          (if g.has "b" then "byte " else "char ") ++ toString (i + 1) ++ ", line " ++
          toString (c.lineOf i) ++ pair))
      return 1

end Cosim.Script.Tool
