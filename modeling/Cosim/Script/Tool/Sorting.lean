import Cosim.Numeral.Digits
import Cosim.Script.Floating
import Cosim.Script.Tool.Amount
import Cosim.Script.Tool.Columns

namespace Cosim.Script.Tool

open Cosim.Files Cosim.Numeral Cosim.Text Step

def isBlankSign (c : Char) : Bool := c = ' ' || c = '\t'

def plainNumber (s : List Char) : Int × List Char :=
  let body := s.dropWhile isBlankSign
  let (negative, body) := match body with
    | '-' :: rest => (true, rest)
    | rest => (false, rest)
  let whole := body.takeWhile isDecimalDigit
  let part := match body.drop whole.length with
    | '.' :: rest => rest.takeWhile isDecimalDigit
    | _ => []
  (if negative then -(decimalValue whole : Int) else decimalValue whole,
    if negative then '-' :: part else part)

def compareNumbers (a b : List Char) : Ordering :=
  let scaledBy (n : Nat) (x : Int × List Char) : Int :=
    let (negative, part) := match x.2 with
      | '-' :: part => (true, part)
      | part => (false, part)
    let units : Int := x.1.natAbs * 10 ^ n + decimalValue part * 10 ^ (n - part.length)
    if negative then -units else units
  let (x, y) := (plainNumber a, plainNumber b)
  let n := max x.2.length y.2.length
  compare (scaledBy n x) (scaledBy n y)

def unitOf (s : List Char) : Int :=
  let body := s.dropWhile isBlankSign
  let (negative, body) := match body with
    | '-' :: rest => (true, rest)
    | rest => (false, rest)
  let rest := body.dropWhile fun c => isDecimalDigit c || c = '.'
  let order : Int := match rest.head? with
    | some 'k' => 1
    | some c => ((Amount.letters.findIdx? (· == c)).map fun n => (n : Int) + 1).getD 0
    | none => 0
  let isZero := (body.takeWhile fun c => isDecimalDigit c || c = '.').all fun c =>
    c = '0' || c = '.'
  if isZero then 0 else if negative then -order else order

def monthOf (s : List Char) : Nat :=
  let name := String.ofList (((s.dropWhile isBlankSign).take 3).map Char.toUpper)
  ((["JAN", "FEB", "MAR", "APR", "MAY", "JUN", "JUL", "AUG", "SEP", "OCT", "NOV",
    "DEC"].findIdx? (· == name)).map (· + 1)).getD 0

/-- Compare floating point numbers; what is none comes first, then what is not a number. -/
def compareFloating (a b : List Char) : Ordering :=
  let rank (s : List Char) : Nat × Floating :=
    let (x, rest, _) := Floating.read .extended s
    if rest.length = s.length then (0, x)
    else match x with
      | .nan _ => (1, x)
      | .infinite true => (2, x)
      | .finite .. => (3, x)
      | .infinite false => (4, x)
  let (m, x) := rank a
  let (n, y) := rank b
  match compare m n, x, y with
  | .eq, .finite s p e, .finite t q f =>
    let least := min e f
    let value (negative : Bool) (n : Nat) (e : Int) : Int :=
      let units : Int := n * 2 ^ (e - least).toNat
      if negative then -units else units
    compare (value s p e) (value t q f)
  | order, _, _ => order

def versionRank : Option Char → Int
  | none => 0
  | some c =>
    if isDecimalDigit c then 0 else if c = '~' then -1 else if c.isAlpha then c.toNat
    else c.toNat + 256

def compareVersionsFrom : Nat → List Char → List Char → Ordering
  | 0, _, _ => .eq
  | fuel + 1, a, b =>
    if a.isEmpty && b.isEmpty then .eq
    else
      let isSign (s : List Char) : Bool := s.head?.any (!isDecimalDigit ·)
      if isSign a || isSign b then
        match compare (versionRank a.head?) (versionRank b.head?) with
        | .eq => compareVersionsFrom fuel a.tail b.tail
        | order => order
      else
        let m := a.takeWhile isDecimalDigit
        let n := b.takeWhile isDecimalDigit
        match compare (decimalValue m) (decimalValue n) with
        | .eq => compareVersionsFrom fuel (a.drop m.length) (b.drop n.length)
        | order => order

def compareVersions (a b : List Char) : Ordering :=
  compareVersionsFrom (a.length + b.length + 1) a b

def compareSigns (a b : List Char) : Ordering :=
  compare (String.ofList a) (String.ofList b)

/-- A key of lines: where it begins and ends, and the letters that say how it is compared. A start
that is not given is that of the line. -/
structure SortKey where
  field : Nat
  sign : Nat
  stop : Option (Nat × Nat)
  skipsAtStart : Bool
  skipsAtStop : Bool
  letters : List Char

def behindFields (mark : Option Char) : Nat → List Char → List Char
  | 0, s => s
  | n + 1, s =>
    match mark with
    | some c =>
      match s.dropWhile (· != c) with
      | _ :: rest => behindFields mark n rest
      | [] => []
    | none => behindFields mark n ((s.dropWhile isBlankSign).dropWhile (!isBlankSign ·))

def behindLastField (mark : Option Char) (n : Nat) (s : List Char) : List Char :=
  match mark, n with
  | some c, n + 1 => (behindFields mark n s).dropWhile (· != c)
  | _, n => behindFields mark n s

namespace SortKey

def part (k : SortKey) (mark : Option Char) (line : List Char) : List Char :=
  let start := behindFields mark k.field line
  let start := if k.skipsAtStart then start.dropWhile isBlankSign else start
  let start := start.drop k.sign
  match k.stop with
  | none => start
  | some (field, sign) =>
    let rest :=
      if sign = 0 then behindLastField mark (field + 1) line
      else
        let rest := behindFields mark field line
        (if k.skipsAtStop then rest.dropWhile isBlankSign else rest).drop sign
    start.take (start.length - rest.length)

def compare (k : SortKey) (mark : Option Char) (a b : List Char) : Ordering :=
  let has (c : Char) : Bool := k.letters.contains c
  let (x, y) := (k.part mark a, k.part mark b)
  let plain (s : List Char) : List Char :=
    let s := if has 'd' then s.filter fun c => c.isAlphanum || isBlankSign c
      else if has 'i' then s.filter isPrintable else s
    if has 'f' then s.map Char.toUpper else s
  let order :=
    if has 'n' then compareNumbers x y
    else if has 'h' then match Ord.compare (unitOf x) (unitOf y) with
      | .eq => compareNumbers x y
      | order => order
    else if has 'g' then compareFloating x y
    else if has 'M' then Ord.compare (monthOf x) (monthOf y)
    else if has 'V' then compareVersions (plain x) (plain y)
    else compareSigns (plain x) (plain y)
  if has 'r' then order.swap else order

def count? (s : List Char) : Option (Nat × List Char) :=
  let ds := s.takeWhile isDecimalDigit
  if ds.isEmpty then none else some (decimalValue ds, s.drop ds.length)

def read (text : String) : Except String SortKey := do
  let refuse {α : Type} (what : String) : Except String α :=
    .error (what ++ ": invalid field specification " ++ quoted text)
  let number (what : String) (s : List Char) : Except String (Nat × List Char) :=
    match count? s with
    | some found => .ok found
    | none => .error (what ++ ": invalid count at start of " ++ quoted (String.ofList s))
  let letters (s : List Char) : List Char × List Char :=
    let found := s.takeWhile "bdfghiMnRrV".toList.contains
    (found, s.drop found.length)
  let (field, rest) ← number "invalid number at field start" text.toList
  if field = 0 then refuse "field number is zero"
  let (sign, rest) ← match rest with
    | '.' :: rest =>
      let (n, rest) ← number "invalid number after '.'" rest
      if n = 0 then refuse "character offset is zero" else pure (n, rest)
    | rest => pure (1, rest)
  let (first, rest) := letters rest
  match rest with
  | [] => return ⟨field - 1, sign - 1, none, first.contains 'b', false, first⟩
  | ',' :: rest =>
    let (last, rest) ← number "invalid number after ','" rest
    if last = 0 then refuse "field number is zero"
    let (stop, rest) ← match rest with
      | '.' :: rest => number "invalid number after '.'" rest
      | rest => pure (0, rest)
    let (second, rest) := letters rest
    if !rest.isEmpty then refuse "stray character in field spec"
    return ⟨field - 1, sign - 1, some (last - 1, stop), first.contains 'b', second.contains 'b',
      first ++ second⟩
  | _ => refuse "stray character in field spec"

end SortKey

def clash? (letters : List Char) : Option String :=
  let has (c : Char) : Bool := letters.contains c
  let kinds := [has 'n', has 'g', has 'h', has 'M', has 'V' || has 'd' || has 'i', has 'R']
  if 1 < (kinds.filter id).length then
    some ("options '-" ++ String.ofList ("dfghiMnRV".toList.filter has) ++ "' are incompatible")
  else none

def sortSwitches : List Switch :=
  [flag "b" "ignore-leading-blanks", flag "c", ⟨"check", "check", .attached⟩, flag "C",
    flag "d" "dictionary-order", flag "f" "ignore-case", flag "g" "general-numeric-sort",
    flag "h" "human-numeric-sort", flag "i" "ignore-nonprinting", setting "k" "key",
    flag "m" "merge", flag "M" "month-sort", flag "n" "numeric-sort", setting "o" "output",
    flag "r" "reverse", flag "R" "random-sort", flag "s" "stable", setting "S" "buffer-size",
    setting "t" "field-separator", setting "T" "temporary-directory", flag "u" "unique",
    flag "V" "version-sort", flag "z" "zero-terminated", setting "parallel" "parallel",
    setting "batch-size" "batch-size"]

/-- Put the lines of lists together, where the least of their first lines always comes next, and of
those that are alike the one of the earlier list. Every step uses up a line. -/
def mergedBy (order : String → String → Ordering) : Nat → List (List String) → List String
  | 0, _ => []
  | fuel + 1, lists =>
    let heads := lists.zipIdx.filterMap fun (list, i) => list.head?.map fun line => (line, i)
    match heads with
    | [] => []
    | first :: rest =>
      let (line, i) := rest.foldl (fun best next =>
        if order next.1 best.1 == .lt then next else best) first
      line :: mergedBy order fuel (lists.modify i List.tail)

def sort (name : String) (args : List String) : Step Nat := do
  let g := Given.read sortSwitches args
  let check (key value : String) : Option String :=
    match key with
    | "k" => match SortKey.read value with
      | .ok _ => none
      | .error text => some text
    | "check" =>
      if value.isEmpty then none
      else complaintOf (chosen name "--check" [["quiet", "silent"], ["diagnose-first"]] value)
    | "t" =>
      if value.isEmpty then some "empty tab"
      else if 1 < value.length && value != "\\0" then
        some ("multi-character tab " ++ quoted value)
      else if g.found.lookup "t" != some value then some "incompatible tabs"
      else none
    | _ => none
  let isWord := (g.found.find? fun (key, value) => (check key value).isSome).any (·.1 == "check")
  obeyOr (if isWord then 1 else 2) name g check do
    let letters := (g.found.filterMap fun (key, _) =>
      if key.length = 1 && "bdfghiMnRrV".contains key then key.toList.head? else none)
    if let some text := clash? letters then
      discard (complain name text)
      return 2
    let isReversed := letters.contains 'r'
    let keys := (g.found.filterMap fun (key, value) =>
      if key = "k" then (SortKey.read value).toOption else none).map fun k =>
        if k.letters.isEmpty then
          let skips := letters.contains 'b'
          { k with letters := letters, skipsAtStart := skips, skipsAtStop := skips }
        else k
    if let some text := keys.findSome? fun k => clash? k.letters then
      discard (complain name text)
      return 2
    let keys := if keys.isEmpty && letters.any (· != 'r') then
        [⟨0, 0, none, letters.contains 'b', false, letters⟩]
      else keys
    let mark := (g.value? "t").bind fun s => if s = "\\0" then some '\x00' else s.toList.head?
    let isChecking := g.has "c" || g.has "C" || g.has "check"
    let operands := orIncoming g.operands
    if isChecking && 1 < operands.length then
      discard (complain name ("extra operand " ++ quoted ((operands[1]?).getD "") ++
        " not allowed with -" ++ (if g.has "C" then "C" else "c")))
      return 2
    let t ← tree
    match operands.filter fun path => path != "-" && !t.has (Octets.toText path) with
    | path :: _ =>
      let reason := match t.find (Octets.toText path) with
        | .error e => e.text
        | .ok _ => ""
      discard (complain name ("cannot read: " ++ shown path ++ ": " ++ reason))
      return 2
    | [] => pure ()
    let found ← operands.mapM contents
    match (operands.zip found).filterMap fun (path, r) => match r with
        | .error r => some (path, r)
        | .ok _ => none with
    | (path, r) :: _ =>
      discard (complain name ("read failed: " ++ shown path ++ ": " ++ r.reason))
      return 2
    | [] => pure ()
    let lists := (found.filterMap Except.toOption).map (recordTexts g.mark)
    let lines := lists.flatten
    let byKeys (a b : String) : Ordering :=
      if keys.isEmpty then
        if isReversed then compare b a else compare a b
      else keys.foldl (fun order k => match order with
        | .eq => k.compare mark a.toList b.toList
        | order => order) .eq
    let isUnique := g.has "u"
    let compareLines (a b : String) : Ordering :=
      match byKeys a b with
      | .eq =>
        if isUnique || g.has "s" then .eq
        else if isReversed then compare b a else compare a b
      | order => order
    if isChecking then
      let pairs := (lines.zip lines.tail).zipIdx
      match pairs.find? fun ((a, b), _) =>
          compareLines a b == .gt || (isUnique && compareLines a b == .eq) with
      | none => return 0
      | some ((_, b), i) =>
        let isQuiet := g.has "C" || (g.value? "check").any fun value =>
          !value.isEmpty && ("quiet".startsWith value || "silent".startsWith value)
        if !isQuiet then
          discard (complain name ((operands.headD "") ++ ":" ++ toString (i + 2) ++
            ": disorder: " ++ b))
        return 1
    let sorted :=
      if g.has "m" then mergedBy compareLines lines.length lists
      else lines.mergeSort fun a b => compareLines a b != .gt
    let sorted := if isUnique then
        (sorted.foldl (fun kept line => match kept with
          | last :: _ => if byKeys last line == .eq then kept else line :: kept
          | [] => [line]) []).reverse
      else sorted
    let content := joinRecords g.mark sorted
    match g.value? "o" with
    | none =>
      discard (sayOctets 1 content)
      return 0
    | some path =>
      match t.target (Octets.toText path) with
      | .error e =>
        discard (complain name ("open failed: " ++ shown path ++ ": " ++ e.text))
        return 2
      | .ok place =>
        fill place content
        return 0

def alike (isAlike : String → String → Bool) (lines : List String) : List (List String) :=
  ((lines.foldl (fun (groups : List (List String)) line =>
    match groups with
    | (first :: more) :: rest =>
      if isAlike first line then (first :: line :: more) :: rest else [line] :: groups
    | groups => [line] :: groups) []).map fun group => match group with
      | first :: more => first :: more.reverse
      | [] => []).reverse

def spacedGroups (method : String) (groups : List (List String)) : List String :=
  if groups.isEmpty then []
  else
    (if ["prepend", "both"].contains method then [""] else []) ++
      (if method = "none" then [] else [""]).intercalate groups ++
      (if ["append", "both"].contains method then [""] else [])

/-- Drop lines that repeat the one before them, or show only those. -/
def uniq (name : String) (args : List String) : Step Nat := do
  let args := args.map fun arg =>
    if arg.startsWith "-" && isDecimal (arg.toList.drop 1) then "-f" ++ (arg.drop 1).toString
      else arg
  let g := Given.read
    [flag "c" "count", flag "d" "repeated", flag "D", ⟨"all-repeated", "all-repeated", .attached⟩,
      setting "f" "skip-fields", ⟨"group", "group", .attached⟩, flag "i" "ignore-case",
      setting "s" "skip-chars", flag "u" "unique", setting "w" "check-chars",
      flag "z" "zero-terminated"] args
  let method (key : String) (words : List String) (value : String) : Except String String :=
    chosen name ("--" ++ key) (words.map fun word => [word]) value
  let grouping (value : String) : Except String String :=
    if value.isEmpty then .ok "separate"
    else method "group" ["prepend", "append", "separate", "both"] value
  let repeating (value : String) : Except String String :=
    if value.isEmpty then .ok "none"
    else method "all-repeated" ["none", "prepend", "separate"] value
  let check (key value : String) : Option String :=
    if key = "group" then complaintOf (grouping value)
    else if key = "all-repeated" then complaintOf (repeating value)
    else if isDecimal value.toList then none
    else match key with
      | "f" => some (value ++ ": invalid number of fields to skip")
      | "s" => some (value ++ ": invalid number of bytes to skip")
      | "w" => some (value ++ ": invalid number of bytes to compare")
      | _ => none
  obey name g check do
    match g.operands with
    | _ :: _ :: extra :: _ => return ← usage name ("extra operand " ++ quoted extra)
    | _ => pure ()
    let showsAll := g.has "D" || g.has "all-repeated"
    if g.has "group" && (showsAll || g.has "c" || g.has "d" || g.has "u") then
      return ← usage name "--group is mutually exclusive with -c/-d/-D/-u"
    if showsAll && g.has "c" then
      return ← usage name
        "printing all duplicated lines and repeat counts is meaningless"
    let number (key : String) : Nat := decimalValue ((g.value? key).getD "0").toList
    let keyOf (line : String) : List Char :=
      let rest := behindFields none (number "f") line.toList
      let rest := rest.drop (number "s")
      let rest := match g.value? "w" with
        | some n => rest.take (decimalValue n.toList)
        | none => rest
      if g.has "i" then rest.map Char.toLower else rest
    let path := (orIncoming g.operands).headD "-"
    match ← contents path with
    | .error (.unopened reason) => complain name (shown path ++ ": " ++ reason)
    | .error (.unread reason) => complain name ("error reading " ++ quoted path ++ ": " ++ reason)
    | .ok content =>
      let groups := alike (fun a b => keyOf a == keyOf b) (recordTexts g.mark content)
      let kept := groups.filter fun group =>
        (!(g.has "d" || showsAll) || 1 < group.length) && (!g.has "u" || group.length = 1)
      let methodOf (r : Except String String) : String := (r.toOption).getD "none"
      let texts :=
        if let some value := g.value? "group" then spacedGroups (methodOf (grouping value)) groups
        else if showsAll then
          spacedGroups (methodOf (repeating ((g.value? "all-repeated").getD ""))) kept
        else kept.map fun group =>
          (if g.has "c" then String.ofList (decimalRight 7 group.length) ++ " " else "") ++
            group.headD ""
      match g.operands[1]? with
      | none | some "-" =>
        discard (sayOctets 1 (joinRecords g.mark texts))
        return 0
      | some path =>
        match (← tree).target (Octets.toText path) with
        | .error e => complain name (shown path ++ ": " ++ e.text)
        | .ok place =>
          fill place (joinRecords g.mark texts)
          return 0

end Cosim.Script.Tool
