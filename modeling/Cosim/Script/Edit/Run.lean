import Cosim.Numeral.Digits
import Cosim.Script.Edit.Basic

namespace Cosim.Script.Edit

open Cosim.Numeral

/-- A line of the input, whether it has an end, the file that it is from, and whether it is the last
one and the first one of its count. -/
structure Source where
  text : List Char
  isWhole : Bool
  file : String
  isLast : Bool
  isFirst : Bool

/-- Where something is written: on the output, in the file that is edited, or in another one. -/
inductive Goal where
  | output
  | edited (file : String)
  | file (path : String)
deriving DecidableEq

def Goal.settled : Goal → Goal
  | .file "/dev/stdout" => .output
  | goal => goal

/-- What is written behind a line at the end of its round. -/
inductive Later where
  | text (text : String)
  | file (path : String)
  | line (path : String)

structure State where
  line : List Char
  isWhole : Bool
  held : List Char
  number : Nat
  file : String
  isLast : Bool
  input : List Source
  later : List Later
  isReplaced : Bool
  active : Array (Option Nat)
  regex : Option Regex
  written : List (Goal × List String)
  unended : List Goal
  files : List (String × List String)

/-- How a script is carried out: without showing each line, in the files themselves, and how wide
lines are shown. -/
structure Manner where
  isQuiet : Bool
  inPlace : Bool
  width : Nat

/-- How a step ends: the next command comes, another one, or the round is over, with or without its
line being shown; a round may begin anew without a new line, and a script may end. -/
inductive Turn where
  | onward
  | jump (place : Nat)
  | finish (shows : Bool)
  | again
  | stop (status : Nat) (shows : Bool)
  | fault (text : String)

namespace State

def write (s : State) (goal : Goal) (text : String) (isWhole : Bool) : State :=
  let lead := if s.unended.contains goal then ["\n"] else []
  let pieces := (s.written.lookup goal.settled).getD []
  let others := s.unended.filter (· ≠ goal)
  { s with
    written := (goal.settled, text :: lead ++ pieces) ::
      s.written.filter (·.1 ≠ goal.settled)
    unended := if isWhole then others else goal :: others }

def output (s : State) (m : Manner) : Goal := if m.inPlace then .edited s.file else .output

def showLine (s : State) (goal : Goal) (line : List Char) : State :=
  s.write goal (String.ofList line ++ if s.isWhole then "\n" else "") s.isWhole

def flush (s : State) (m : Manner) : State :=
  let flushed := s.later.reverse.foldl (fun s later =>
    match later with
    | .text text => s.write (s.output m) text true
    | .file path =>
      match s.files.lookup path with
      | some lines =>
        s.write (s.output m) (String.join lines) true
      | none => s
    | .line path =>
      match s.files.lookup path with
      | some (line :: rest) =>
        let isWhole := line.endsWith "\n"
        let files := (path, rest) :: s.files.filter (·.1 != path)
        { s.write (s.output m) (if isWhole then line else line ++ "\n") true with files := files }
      | _ => s) s
  { flushed with later := [] }

def advance (s : State) : Option State :=
  match s.input with
  | [] => none
  | next :: rest => some { s with
      line := next.text
      isWhole := next.isWhole
      number := if next.isFirst then 1 else s.number + 1
      file := next.file
      isLast := next.isLast
      input := rest
      isReplaced := false }

def meant (s : State) (r : Option Regex) : Option Regex := r.orElse fun _ => s.regex

def matching (s : State) (r : Option Regex) : Option (Bool × State) :=
  (s.meant r).map fun r => (r.isMatch s.line.toArray, { s with regex := some r })

def noRegex : String := "no previous regular expression"

def isAt (s : State) (a : Address) : Except String (Bool × State) :=
  match a with
  | .line n => .ok (s.number == n, s)
  | .last => .ok (s.isLast, s)
  | .step first gap =>
    .ok (if gap = 0 then s.number == first
      else first ≤ s.number && (s.number - first) % gap == 0, s)
  | .matching r =>
    match s.matching r with
    | some found => .ok found
    | none => .error noRegex

def isMeant (s : State) (place : Nat) (sc : Scope) : Except String (Bool × State) := do
  let (found, s) ← match sc.first, sc.stop with
    | none, _ => pure (true, s)
    | some a, none => s.isAt a
    | some a, some stop =>
      let setActive (s : State) (n : Option Nat) : State :=
        { s with active := s.active.set! place n }
      match s.active.getD place none with
      | some limit =>
        match stop with
        | .last => pure (true, if s.isLast then setActive s none else s)
        | .matching r =>
          match s.matching r with
          | none => throw noRegex
          | some (isEnd, s) => pure (true, if isEnd then setActive s none else s)
        | .line _ | .further _ | .multiple _ =>
          pure (s.number ≤ limit, if limit ≤ s.number then setActive s none else s)
      | none =>
        let (isBegin, s) ← s.isAt a
        if !isBegin then pure (false, s)
        else
          let limit := match stop with
            | .line n => n
            | .further n => s.number + n
            | .multiple n => if n = 0 then s.number else (s.number + n - 1) / n * n
            | .last | .matching _ => 0
          match stop with
          | .last => pure (true, if s.isLast then s else setActive s (some 0))
          | .matching _ => pure (true, setActive s (some 0))
          | _ => pure (true, if s.number < limit then setActive s (some limit) else s)
  return (found != sc.isNegated, s)

end State

def cased (s : List Char) (mode once : Casing) : List Char × Casing :=
  let all := match mode with
    | .upper => s.map Char.toUpper
    | .lower => s.map Char.toLower
    | _ => s
  match once, all with
  | .nextUpper, c :: rest => (c.toUpper :: rest, .plain)
  | .nextLower, c :: rest => (c.toLower :: rest, .plain)
  | once, all => (all, once)

def replacement (t : Array Char) (m : Regex.Match) (pieces : List Piece) : List Char :=
  let (text, _, _) := pieces.foldl (fun (text, mode, once) piece =>
    let add (s : List Char) : List Char × Casing × Casing :=
      let (s, once) := cased s mode once
      (s.reverse ++ text, mode, once)
    match piece with
    | .text s => add s
    | .group n =>
      match m.group? n with
      | some (start, stop) => add (t.extract start stop).toList
      | none => (text, mode, once)
    | .casing .nextUpper => (text, mode, .nextUpper)
    | .casing .nextLower => (text, mode, .nextLower)
    | .casing c => (text, c, .plain)) (([] : List Char), Casing.plain, Casing.plain)
  text.reverse

def replaceFrom (r : Regex) (sub : Substitution) (t : Array Char) :
    Nat → Nat → Nat → Option Nat → List Char → Bool → List Char × Bool
  | 0, start, _, _, before, isDone => (before.reverse ++ (t.extract start t.size).toList, isDone)
  | fuel + 1, start, count, last, before, isDone =>
    let rest (start : Nat) (before : List Char) (isDone : Bool) : List Char × Bool :=
      (before.reverse ++ (t.extract start t.size).toList, isDone)
    if t.size < start then rest start before isDone
    else match r.find? t start with
      | none => rest start before isDone
      | some m =>
        let before := (t.extract start m.start).toList.reverse ++ before
        let own := (t.extract m.start (m.start + 1)).toList
        if m.start = m.stop && last = some m.start then
          replaceFrom r sub t fuel (m.start + 1) count last (own ++ before) isDone
        else
          let count := count + 1
          let isMeant := sub.number ≤ count
          let text := if isMeant then replacement t m sub.replacement
            else (t.extract m.start m.stop).toList
          let before := text.reverse ++ before
          let isDone := isDone || isMeant
          if isMeant && !sub.isGlobal then rest m.stop before isDone
          else if m.start = m.stop then
            replaceFrom r sub t fuel (m.start + 1) count (some m.stop) (own ++ before) isDone
          else replaceFrom r sub t fuel m.stop count (some m.stop) before isDone

def firstLine (s : List Char) : List Char := s.takeWhile (· != '\n')

def signText (c : Char) : List Char :=
  match c with
  | '\\' => ['\\', '\\']
  | '\x07' => ['\\', 'a']
  | '\x08' => ['\\', 'b']
  | '\x0c' => ['\\', 'f']
  | '\n' => ['\\', 'n']
  | '\x0d' => ['\\', 'r']
  | '\t' => ['\\', 't']
  | '\x0b' => ['\\', 'v']
  | c =>
    if ' ' ≤ c && c ≤ '~' then [c] else '\\' :: zeroFill 3 (digits 8 c.toNat)

def signs (width : Nat) (s : List Char) : List Char :=
  let (shown, _) := s.foldl (fun (shown, column) c =>
    let text := signText c
    if 1 < width && width - 1 < column + text.length then
      (text.reverse ++ '\n' :: '\\' :: shown, text.length)
    else (text.reverse ++ shown, column + text.length)) (([] : List Char), 0)
  shown.reverse ++ ['$', '\n']

def step (m : Manner) (labels : List (String × Nat)) (size place : Nat) (sc : Scope) (s : State) :
    Action → State × Turn
  | .block _ | .close => (s, .onward)
  | .showNumber => (s.write (s.output m) (toString s.number ++ "\n") true, .onward)
  | .append text => ({ s with later := .text text :: s.later }, .onward)
  | .insert text => (s.write (s.output m) text true, .onward)
  | .change text =>
    let isOver := sc.stop.isNone || sc.isNegated || (s.active.getD place none).isNone
    (if isOver then s.write (s.output m) text true else s, .finish false)
  | .branch label => (s, .jump (if label.isEmpty then size else (labels.lookup label).getD size))
  | .branchIf isReplaced label =>
    if s.isReplaced == isReplaced then
      ({ s with isReplaced := false },
        .jump (if label.isEmpty then size else (labels.lookup label).getD size))
    else ({ s with isReplaced := false }, .onward)
  | .delete => (s, .finish false)
  | .deleteFirst =>
    if s.line.contains '\n' then
      ({ s with line := s.line.drop ((firstLine s.line).length + 1) }, .again)
    else (s, .finish false)
  | .showName => (s.write (s.output m) (s.file ++ "\n") true, .onward)
  | .take => ({ s with line := s.held }, .onward)
  | .takeMore => ({ s with line := s.line ++ '\n' :: s.held }, .onward)
  | .hold => ({ s with held := s.line }, .onward)
  | .holdMore => ({ s with held := s.held ++ '\n' :: s.line }, .onward)
  | .exchange => ({ s with line := s.held, held := s.line }, .onward)
  | .showSigns width =>
    (s.write (s.output m) (String.ofList (signs (width.getD m.width) s.line)) true, .onward)
  | .next =>
    if s.input.isEmpty then (s, .stop 0 true)
    else
      let s := if m.isQuiet then s else s.showLine (s.output m) s.line
      match (s.flush m).advance with
      | some s => (s, .onward)
      | none => (s, .stop 0 false)
  | .nextMore =>
    if s.input.isEmpty then (s, .stop 0 true)
    else
      let line := s.line
      match (s.flush m).advance with
      | some s => ({ s with line := line ++ '\n' :: s.line }, .onward)
      | none => (s, .stop 0 false)
  | .show => (s.showLine (s.output m) s.line, .onward)
  | .showFirst =>
    (s.write (s.output m) (String.ofList (firstLine s.line) ++ "\n") true, .onward)
  | .quit status => (s, .stop status true)
  | .quitSilently status => ({ s with later := [] }, .stop status false)
  | .readFile path => ({ s with later := .file path :: s.later }, .onward)
  | .readLine path => ({ s with later := .line path :: s.later }, .onward)
  | .writeFile path => (s.showLine (.file path) s.line, .onward)
  | .writeFirst path =>
    (s.write (.file path) (String.ofList (firstLine s.line) ++ "\n") true, .onward)
  | .substitute sub =>
    match s.meant sub.regex with
    | none => (s, .fault State.noRegex)
    | some r =>
      let t := s.line.toArray
      let (line, isDone) := replaceFrom r sub t (t.size + 2) 0 0 none [] false
      let s := { s with regex := some r }
      if !isDone then (s, .onward)
      else
        let s := { s with line := line, isReplaced := true }
        let s := if sub.shows then s.showLine (s.output m) s.line else s
        (match sub.file with
          | some path => s.showLine (.file path) s.line
          | none => s, .onward)
  | .translate pairs =>
    ({ s with line := s.line.map fun c => (pairs.lookup c).getD c }, .onward)
  | .clear => ({ s with line := [] }, .onward)

def throughFrom (m : Manner) (sc : Edits) : Nat → Nat → State → State × Turn
  | 0, _, s => (s, .stop 1 false)
  | fuel + 1, place, s =>
    match sc.commands[place]? with
    | none => (s, .finish true)
    | some c =>
      match s.isMeant place c.scope with
      | .error text => (s, .fault text)
      | .ok (false, s) =>
        match c.action with
        | .block behind => throughFrom m sc fuel behind s
        | _ => throughFrom m sc fuel (place + 1) s
      | .ok (true, s) =>
        match step m sc.labels sc.commands.size place c.scope s c.action with
        | (s, .onward) => throughFrom m sc fuel (place + 1) s
        | (s, .jump place) => throughFrom m sc fuel place s
        | (s, turn) => (s, turn)

def fuel : Nat := 10000000

def endRound (m : Manner) (shows : Bool) (s : State) : State :=
  let s := if shows && !m.isQuiet then s.showLine (s.output m) s.line else s
  s.flush m

def roundsFrom (m : Manner) (sc : Edits) : Nat → Bool → State → State × Except String Nat
  | 0, _, s => (s, .ok 1)
  | n + 1, keepsLine, s =>
    let next := if keepsLine then some s else s.advance
    match next with
    | none => (s, .ok 0)
    | some s =>
      match throughFrom m sc fuel 0 s with
      | (s, .finish shows) => roundsFrom m sc n false (endRound m shows s)
      | (s, .again) => roundsFrom m sc n true (endRound m false s)
      | (s, .stop status shows) => (endRound m shows s, .ok status)
      | (s, .fault text) => (s, .error text)
      | (s, .onward) | (s, .jump _) => roundsFrom m sc n false s

def startsActive (c : Command) : Option Nat :=
  match c.scope.first with
  | some (.line 0) => some 0
  | _ => none

def run (m : Manner) (sc : Edits) (input : List Source) (files : List (String × List String)) :
    State × Except String Nat :=
  roundsFrom m sc fuel false
    { line := [], isWhole := true, held := [], number := 0, file := "-", isLast := false,
      input := input, later := [], isReplaced := false,
      active := sc.commands.map startsActive, regex := none, written := [], unended := [],
      files := files }

def Edits.sources (sc : Edits) : List String :=
  sc.commands.toList.filterMap fun c => match c.action with
    | .readFile path | .readLine path => some path
    | _ => none

end Cosim.Script.Edit
