import Cosim.Script.Pattern
import Cosim.Script.Regex.Reader
import Cosim.Script.Tool.Reading
import Cosim.Script.Tool.Saying

namespace Cosim.Script.Tool

open Cosim.Files Cosim.Numeral Cosim.Text Step

/-- How lines are searched for: by expressions, where a match must stand, and whether the lines
without one are meant. -/
structure Query where
  regex : Option Regex
  isWord : Bool
  isLine : Bool
  isNegated : Bool

namespace Query

def isFree (t : Array Char) (start stop : Nat) : Bool :=
  !((0 < start && (t[start - 1]?).any isWordSign) || (t[stop]?).any isWordSign)

def matchAt (q : Query) (r : Regex) (t : Array Char) (start : Nat) : Option (Nat × Nat) :=
  let stops := (r.reach r.looksBack t start []).map Prod.fst
  (stops.find? fun stop =>
    (!q.isLine || (start = 0 && stop = t.size)) && (!q.isWord || isFree t start stop)).map
    fun stop => (start, stop)

def search (q : Query) (r : Regex) (t : Array Char) : Nat → Nat → Option (Nat × Nat)
  | 0, _ => none
  | limit + 1, start =>
    match q.matchAt r t start with
    | some found => some found
    | none => search q r t limit (start + 1)

def find? (q : Query) (t : Array Char) (start : Nat) : Option (Nat × Nat) :=
  q.regex.bind fun r => q.search r t (t.size + 1 - start) start

def selects (q : Query) (t : Array Char) : Bool := (q.find? t 0).isSome != q.isNegated

def stretches (q : Query) (t : Array Char) : Nat → Nat → List (Nat × Nat)
  | 0, _ => []
  | fuel + 1, start =>
    match q.find? t start with
    | none => []
    | some (i, j) =>
      if i = j then stretches q t fuel (i + 1) else (i, j) :: stretches q t fuel j

end Query

def grepSwitches : List Switch :=
  [flag "E" "extended-regexp", flag "F" "fixed-strings", flag "F" "fixed-regexp",
    flag "G" "basic-regexp", flag "P" "perl-regexp", setting "e" "regexp", setting "f" "file",
    flag "i" "ignore-case", flag "y", flag "no-ignore-case" "no-ignore-case",
    flag "v" "invert-match", flag "w" "word-regexp", flag "x" "line-regexp", flag "c" "count",
    flag "l" "files-with-matches", flag "L" "files-without-match", flag "o" "only-matching",
    flag "q" "quiet", flag "q" "silent", flag "s" "no-messages", flag "n" "line-number",
    flag "H" "with-filename", flag "h" "no-filename", flag "b" "byte-offset",
    setting "A" "after-context", setting "B" "before-context", setting "C" "context",
    setting "m" "max-count", flag "r" "recursive", flag "R" "dereference-recursive",
    setting "include" "include", setting "exclude" "exclude", setting "exclude-dir" "exclude-dir",
    setting "label" "label", ⟨"color", "color", .attached⟩, ⟨"color", "colour", .attached⟩,
    setting "group-separator" "group-separator",
    flag "no-group-separator" "no-group-separator", flag "a" "text", flag "I",
    setting "binary-files" "binary-files", setting "d" "directories", setting "D" "devices",
    flag "z" "null-data", flag "Z" "null", flag "T" "initial-tab",
    flag "line-buffered" "line-buffered", flag "U" "binary", flag "u" "unix-byte-offsets"] ++
  (List.range 10).map fun n => flag (toString n)

/-- How what has been found is shown. -/
structure Display where
  counts : Bool
  lists : Option Bool
  parts : Bool
  isQuiet : Bool
  numbers : Bool
  names : Bool
  offsets : Bool
  before : Nat
  after : Nat
  most : Option Nat
  divider : Option String
  isText : Bool
  zeroNames : Bool
  zeroLines : Bool
  inColumn : Bool

def Display.mark (d : Display) : UInt8 := if d.zeroLines then 0 else 10

def Display.labelled (d : Display) (name : String) (size number offset : Nat)
    (mark text : String) : String :=
  let column (n : Nat) : String :=
    if d.inColumn then String.ofList (decimalRight (digits 10 size).length n) else toString n
  let label := (if d.names then name ++ (if d.zeroNames then "\x00" else mark) else "") ++
    (if d.numbers then column number ++ mark else "") ++
    (if d.offsets then column offset ++ mark else "")
  label ++ (if d.inColumn && !label.isEmpty && !text.isEmpty then "\t" else "") ++ text

/-- A line of a file: its number, its place, its text, and whether it is meant. -/
structure Candidate where
  number : Nat
  offset : Nat
  text : String
  isMeant : Bool

def candidates (q : Query) (mark : UInt8) (content : ByteArray) : List Candidate :=
  ((recordsOf mark content).foldl (fun (found, number, offset) line =>
    let text := recordText mark line
    (⟨number, offset, text, q.selects text.toList.toArray⟩ :: found, number + 1,
      offset + line.size))
    (([] : List Candidate), 1, 0)).1.reverse

def marked (reach : Nat) (lines : List Candidate) : List Bool :=
  (lines.foldl (fun (marks, left) c =>
    let left := if c.isMeant then reach + 1 else left
    (decide (0 < left) :: marks, left - 1)) (([] : List Bool), 0)).1.reverse

def Display.lines (d : Display) (q : Query) (name : String) (size : Nat) (all : List Candidate)
    (hasBefore : Bool) : String :=
  let stop := if d.zeroLines then "\x00" else "\n"
  let behind := marked d.after all
  let ahead := (marked d.before all.reverse).reverse
  let shown := (all.zip (behind.zip ahead)).filter fun (c, x, y) => c.isMeant || x || y
  let hasGroups := (d.before ≠ 0 || d.after ≠ 0) && d.divider.isSome
  let (texts, _) := shown.foldl (fun (texts, last) (c, _) =>
    let isApart := match last with
      | some n => c.number ≠ n + 1
      | none => hasBefore
    let divider := if hasGroups && isApart then d.divider.getD "" ++ "\n" else ""
    let mark := if c.isMeant then ":" else "-"
    let text :=
      if d.parts then
        if c.isMeant && !q.isNegated then
          let t := c.text.toList.toArray
          String.join ((q.stretches t (t.size + 1) 0).map fun (i, j) =>
            d.labelled name size c.number (c.offset + i) mark
              (String.ofList (t.extract i j).toList) ++ stop)
        else ""
      else d.labelled name size c.number c.offset mark c.text ++ stop
    ((divider ++ text) :: texts, some c.number)) (([] : List String), none)
  String.join texts.reverse

def Display.stop? (d : Display) (q : Query) (content : ByteArray) : Option Nat :=
  let most := if d.isQuiet || d.lists.isSome then some (min 1 (d.most.getD 1)) else d.most
  match most with
  | none => none
  | some 0 => some 0
  | some n =>
    let meant := (candidates q d.mark content).filter Candidate.isMeant
    (meant[n - 1]?).map fun c => behindNext d.mark content (content.size - c.offset) c.offset

def filesBelow (t : Tree) (skips : String → Bool) (path : String) : List String :=
  match t.locate (Octets.toText path) with
  | .ok place =>
    if t.node? place = some .directory then
      let below := t.entries.filter fun e =>
        place.isPrefixOf e.1 && place.length < e.1.length && e.2 matches .file .. &&
          !((e.1.drop place.length).dropLast.any fun name => skips (Octets.ofText name))
      (below.map fun e => joinText path (Path.joined ((e.1.drop place.length).map Octets.ofText)))
        |>.mergeSort fun a b => decide (a ≤ b)
    else [path]
  | .error _ => [path]

/-- Whether options leave a file out by its name: the last pattern that it matches decides, and
without one it is left out if only files with some names are wanted. -/
def leavesOut (g : Given) (path : String) : Bool :=
  let patterns := g.found.filter fun (key, _) => key = "include" || key = "exclude"
  let isMatch (pattern : String) : Bool :=
    let signs := Pattern.ofText pattern.toList
    Pattern.isMatch signs (lastName path "") || Pattern.isMatch signs path
  match patterns.reverse.find? fun (_, pattern) => isMatch pattern with
  | some (key, _) => key == "exclude"
  | none => (patterns.head?.map Prod.fst) == some "include"

def idleRepeats : Nat → Bool → List Char → List String
  | 0, _, _ | _, _, [] => []
  | fuel + 1, isStart, c :: rest =>
    let warn (sign : String) (rest : List Char) : List String :=
      if isStart then (sign ++ " at start of expression") :: idleRepeats fuel true rest
      else idleRepeats fuel false rest
    match c with
    | '\\' =>
      match rest with
      | d :: rest => idleRepeats fuel (isStart && "<>bB'\x60".toList.contains d) rest
      | [] => []
    | '*' | '+' | '?' => warn (String.singleton c) rest
    | '^' | '$' => idleRepeats fuel isStart rest
    | '|' | '(' | '\n' => idleRepeats fuel true rest
    | '[' =>
      let body := rest.drop (if rest.head? = some '^' then 2 else 1)
      idleRepeats fuel false ((body.dropWhile (· != ']')).drop 1)
    | '{' =>
      let inner := rest.takeWhile fun d => isDecimalDigit d || d = ','
      let isInterval := (rest.drop inner.length).head? = some '}' && inner.count ',' ≤ 1 &&
        !inner.isEmpty
      if isInterval then
        if isStart then
          "\x7b...\x7d at start of expression" ::
            idleRepeats fuel false (rest.drop (inner.length + 1))
        else idleRepeats fuel false (rest.drop (inner.length + 1))
      else idleRepeats fuel false rest
    | _ => idleRepeats fuel false rest

def patternLines (text : String) : List String :=
  (Blank.cut (· == '\n') text.toList).map String.ofList

def directoryManners : List String := ["read", "recurse", "skip"]

def usageLine (name : String) : String :=
  "Usage: " ++ name ++ " [OPTION]... PATTERNS [FILE]..."

def grepFault (kind : Option String) : List (String × String) → Option String
  | [] => none
  | (key, value) :: rest =>
    if ["E", "F", "G", "P"].contains key then
      if kind.any (· != key) then some "conflicting matchers specified"
      else grepFault (some key) rest
    else if ["A", "B", "C"].contains key && !isDecimal value.toList then
      some (value ++ ": invalid context length argument")
    else if key = "m" && !isDecimal value.toList then some "invalid max count"
    else if key = "d" && !directoryManners.contains value then
      some ("invalid argument " ++ quoted value ++ " for '--directories'\nValid arguments are:\n" ++
        String.join (directoryManners.map fun m => "  - '" ++ m ++ "'\n") ++ usageLine "grep" ++
        "\nTry 'grep --help' for more information.")
    else if key = "D" && !(["read", "skip"].contains value) then some "unknown devices method"
    else if key = "binary-files" && !(["binary", "text", "without-match"].contains value) then
      some "unknown binary-files type"
    else grepFault kind rest

def grepFrom (kind : Option Char) (name : String) (args : List String) : Step Nat := do
  let g := Given.read grepSwitches args
  let hint : Step Nat := do
    discard (sayLine 2 (usageLine name))
    pointToHelp name 2
  match grepFault (kind.map String.singleton) g.found with
  | some text =>
    discard (complain name text)
    return 2
  | none => pure ()
  if let some text := g.fault then
    discard (complain name text)
    return ← hint
  let hasPatterns := g.has "e" || g.has "f"
  let (texts, operands) ←
    if hasPatterns then pure (← g.found.filterMapM fun (key, value) => do
      if key = "e" then return some (patternLines value)
      if key = "f" then
        match ← contents value with
        | .ok content => return some (linesOf content)
        | .error r =>
          discard (complain name (shown value ++ ": " ++ r.reason))
          return none
      return none, g.operands)
    else match g.operands with
      | [] => return ← hint
      | pattern :: rest => pure ([patternLines pattern], rest)
  if g.has "f" && texts.length < (g.found.filter fun e => e.1 = "e" || e.1 = "f").length then
    return 2
  let kind := match kind, g.last? ["E", "F", "G", "P"] with
    | some c, none => c
    | none, none => 'G'
    | _, some key => (key.toList.headD 'G')
  let ignoresCase := g.has "i" || g.has "y"
  let m : Regex.Manner :=
    { isExtended := kind = 'E' || kind = 'P'
      escapesInBrackets := kind = 'P'
      isLenient := true
      ignoresCase := ignoresCase }
  let read (text : String) : Except Regex.Fault Regex :=
    if kind = 'F' then .ok (Regex.ofText ignoresCase text.toList)
    else (Regex.read m text.toList).map Prod.fst
  match texts.flatten.mapM read with
  | .error fault =>
    discard (complain name fault.message)
    return 2
  | .ok regexes =>
    let q : Query := ⟨regexes.tail.foldl (fun r s => r.map fun r => Regex.choice r s) regexes.head?,
      g.has "w" && !g.has "x", g.has "x", g.has "v"⟩
    if kind = 'E' then
      (texts.flatten.flatMap fun text => idleRepeats text.length true text.toList).forM fun text =>
        discard (complain name ("warning: " ++ text))
    if g.has "u" then
      discard (complain name "warning: --unix-byte-offsets (-u) is obsolete")
    let manner := match g.last? ["r", "R", "d"] with
      | some "d" => (g.value? "d").getD "read"
      | some _ => "recurse"
      | none => "read"
    let binary := match g.last? ["a", "I", "binary-files"] with
      | some "a" => "text"
      | some "I" => "without-match"
      | some _ => (g.value? "binary-files").getD ""
      | none => "binary"
    let t ← tree
    let skips (name : String) : Bool :=
      (g.found.filter (·.1 == "exclude-dir")).any fun (_, pattern) =>
        Pattern.isMatch (Pattern.ofText (Blank.dropEndWhile (· == '/') pattern.toList)) name
    let isDeep := manner = "recurse"
    let hasNames := 1 < operands.length || (isDeep &&
      (operands.isEmpty || operands.any fun path => t.isDirectory (Octets.toText path)))
    let operands := if !isDeep then orIncoming operands
      else if operands.isEmpty then
        (filesBelow t skips ".").map fun path => (path.drop 2).toString
      else operands.flatMap (filesBelow t skips)
    let operands := operands.filter fun path => path = "-" || !leavesOut g path
    let number (key : String) : Option Nat := (g.value? key).map fun n => decimalValue n.toList
    let digits := (g.found.map Prod.fst).filter fun key => isDecimal key.toList
    let around := match number "C" with
      | some n => some n
      | none => if digits.isEmpty then none else some (decimalValue (String.join digits).toList)
    let d : Display :=
      { counts := g.has "c"
        lists := (g.last? ["l", "L"]).map (· == "l")
        parts := g.has "o"
        isQuiet := g.has "q"
        numbers := g.has "n"
        names := match g.last? ["H", "h"] with
          | some key => key == "H"
          | none => hasNames
        offsets := g.has "b"
        before := ((number "B").orElse fun _ => around).getD 0
        after := ((number "A").orElse fun _ => around).getD 0
        most := number "m"
        divider := if g.has "no-group-separator" then none
          else some ((g.value? "group-separator").getD "--")
        isText := binary = "text"
        zeroNames := g.has "Z"
        zeroLines := g.has "z"
        inColumn := g.has "T" }
    let (a, found) ← operands.foldlM (fun ((a : Account), found) path => do
      if d.isQuiet && found then return (a, found)
      let refuse (text : String) : Step Account := do
        let a ← if g.has "s" then pure a else a.complain name text
        return { a with status := 2 }
      let shownName := if path = "-" then (g.value? "label").getD "(standard input)" else path
      if path != "-" && !d.isQuiet && d.lists.isNone && (← isOutput path) then
        return (← refuse (path ++ ": input file is also the output"), found)
      let (content, a) ← match ←
          contentsBy (readNeeded ⟨65536, !d.isQuiet⟩ (d.stop? q)) path with
        | .error (.unopened reason) => return (← refuse (path ++ ": " ++ reason), found)
        | .error (.unread reason) =>
          if manner = "skip" then return (a, found)
          pure (.empty, ← refuse (path ++ ": " ++ reason))
        | .ok content => pure (content, a)
      let isBinary := !d.isText && !d.zeroLines && content.data.contains 0
      let content := if isBinary && binary = "without-match" then .empty else content
      let all := candidates q d.mark content
      let meant := all.filter Candidate.isMeant
      let all := match d.most with
        | none => all
        | some n =>
          let kept := meant.take n
          let limit := match kept.getLast? with
            | some c => if kept.length = n then c.number + d.after else all.length
            | none => if n = 0 then 0 else all.length
          (all.filter fun c => c.number ≤ limit).map fun c =>
            { c with isMeant := c.isMeant && kept.any (·.number == c.number) }
      let meant := all.filter Candidate.isMeant
      let isFound := !meant.isEmpty
      let start := if d.names then shownName ++ (if d.zeroNames then "\x00" else ":") else ""
      let a ←
        if d.isQuiet then pure a
        else match d.lists with
          | some isWith =>
            let stop := if d.zeroNames then "\x00" else "\n"
            pure (a.say (if isFound == isWith then shownName ++ stop else ""))
          | none =>
            if d.counts then pure (a.say (start ++ toString meant.length ++ "\n"))
            else if isBinary then
              if isFound then
                let b ← a.complain name (shownName ++ ": binary file matches")
                pure { b with status := a.status }
              else pure a
            else pure (a.say (d.lines q shownName content.size all a.isBegun))
      return (a, found || isFound)) (Account.empty, false)
    let status := (← a.settle).status
    if d.isQuiet && found then return 0
    return if status ≠ 0 then status else if found then 0 else 1

def grep (name : String) (args : List String) : Step Nat := grepFrom none name args

end Cosim.Script.Tool
