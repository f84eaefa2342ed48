import Cosim.Script.Tool.Calling

namespace Cosim.Script.Tool

open Cosim.Numeral Step

structure Item where
  text : String
  isLast : Bool

/-- How far an input of words has been read: the items before, last one first, the word under way
with its last character first, and the character before. -/
structure Gathering where
  items : List Item
  word : Option (List Char)
  before : Char

namespace Gathering

def push (g : Gathering) (c : Char) : Gathering :=
  { g with word := some (c :: g.word.getD []), before := c }

def close (g : Gathering) (isLast : Bool) : Gathering :=
  match g.word with
  | none => g
  | some cs => { g with items := ⟨String.ofList cs.reverse, isLast⟩ :: g.items, word := none }

def endLine (g : Gathering) : Gathering :=
  match g.items with
  | item :: rest => { g with items := { item with isLast := true } :: rest }
  | [] => g

def from? (byLines : Bool) : Nat → Option Char → Gathering → List Char →
    Gathering × Option Char
  | 0, quote, g, _ | _, quote, g, [] => (if quote.isSome then g else g.close true, quote)
  | fuel + 1, quote, g, c :: rest =>
    let next := from? byLines fuel
    match quote, c with
    | some q, c =>
      if c = q then next none { g with word := some (g.word.getD []), before := c } rest
      else if c = '\n' then (g, quote)
      else next quote (g.push c) rest
    | none, '\'' | none, '"' =>
      next (some c) { g with word := some (g.word.getD []), before := c } rest
    | none, '\\' =>
      match rest with
      | d :: rest => next none (g.push d) rest
      | [] => (g.close true, none)
    | none, '\n' =>
      let isBlank := g.before = ' ' || g.before = '\t'
      let g := g.close (byLines || !isBlank)
      let g := if isBlank then g else g.endLine
      next none { g with before := '\n' } rest
    | none, c =>
      let isBlank := c = ' ' || c = '\t'
      let isSpace := isBlank || ('\x0b' ≤ c && c ≤ '\x0d')
      if g.word.isNone && isSpace then next none { g with before := c } rest
      else if isBlank && !byLines then next none { g.close false with before := c } rest
      else next none (g.push c) rest

def read (byLines : Bool) (text : List Char) : Gathering × Option Char :=
  from? byLines (text.length + 1) none ⟨[], none, '\n'⟩ text

end Gathering

def itemsBetween (divider : Char) (text : List Char) : List Item :=
  let pieces := Text.Blank.cut (· == divider) text
  let pieces := if pieces.getLast? = some [] then pieces.dropLast else pieces
  pieces.map fun piece => ⟨String.ofList piece, true⟩

/-- How items are dealt out: how many items or lines a call takes at most, or the text in the words
of the call that an item is put in for. -/
structure Dealing where
  items : Option Nat
  lines : Option Nat
  pattern : Option String

def callSize : Nat := 131072

def Dealing.deal (d : Dealing) (own : Nat) : List Item → List String → Nat → Nat →
    List (List String)
  | [], call, _, _ => if call.isEmpty then [] else [call.reverse]
  | item :: rest, call, size, lines =>
    let cost := item.text.length + 1
    let reached := lines + if item.isLast then 1 else 0
    if !call.isEmpty && callSize < own + size + cost then
      call.reverse :: d.deal own rest [item.text] cost (if item.isLast then 1 else 0)
    else if d.items = some (call.length + 1) || d.lines.any (· ≤ reached) then
      (item.text :: call).reverse :: d.deal own rest [] 0 0
    else d.deal own rest (item.text :: call) (size + cost) reached

def Dealing.calls (d : Dealing) (skipsNone : Bool) (words : List String) (items : List Item) :
    List (List String) :=
  match d.pattern with
  | some pattern => items.map fun item => words.map fun w => w.replace pattern item.text
  | none =>
    if items.isEmpty && !skipsNone then [words]
    else (d.deal (sumOf (words.map fun w => w.length + 1)) items [] 0 0).map (words ++ ·)

def divider? (text : String) : Option Char :=
  match text.toList with
  | [c] => some c
  | ['\\', c] => if isDecimalDigit c then some (Char.ofNat (c.toNat - 48)) else Format.letter? c
  | '\\' :: 'x' :: ds => if isHex ds then some (Char.ofNat (hexValue ds % 256)) else none
  | '\\' :: ds =>
    if ds.all fun c => (Format.octalDigit? c).isSome then
      some (Char.ofNat (ds.foldl (fun n c => 8 * n + (c.toNat - 48)) 0 % 256))
    else none
  | _ => none

def xargsSwitches : List Switch :=
  [flag "0" "null", setting "a" "arg-file", setting "d" "delimiter", setting "E",
    ⟨"e", "eof", .attached⟩, setting "I", ⟨"i", "replace", .attached⟩, setting "L",
    ⟨"l", "max-lines", .attached⟩, setting "n" "max-args", flag "o" "open-tty",
    setting "P" "max-procs", flag "p" "interactive",
    setting "process-slot-var" "process-slot-var", flag "r" "no-run-if-empty",
    setting "s" "max-chars", flag "show-limits" "show-limits", flag "t" "verbose",
    flag "x" "exit"]

/-- What `xargs` is asked for: calls to make one after the other, whether each of them is said
first, and the status if all of them succeed. -/
structure Batch where
  calls : List (List String)
  isLoud : Bool
  status : Nat

def Batch.read (name : String) (args : List String) : Step (Except Nat Batch) := do
  let g := Given.readLeading xargsSwitches args
  let refuse (text : String) : Step (Except Nat Batch) := return .error (← complain name text)
  match g.found.findSome? fun (key, value) =>
      if ["n", "L", "s", "P"].contains key then
        if !isDecimal value.toList then
          some ("invalid number \"" ++ value ++ "\" for -" ++ key ++ " option")
        else if key != "P" && decimalValue value.toList = 0 then
          some ("value 0 for -" ++ key ++ " option should be >= 1")
        else none
      else none with
  | some text => return .error (← usage name text)
  | none => pure ()
  if let some text := g.fault then return .error (← usage name text)
  let divider ← match g.last? ["0", "d"], (g.value? "d").map divider? with
    | some "0", _ => pure (some '\x00')
    | some _, some none =>
      return ← refuse ("Invalid input delimiter specification " ++ (g.value? "d").getD "" ++
        ": the delimiter must be either a single character or an escape sequence starting with \\.")
    | some _, some d => pure d
    | _, _ => pure none
  let pattern := match g.last? ["I", "i"] with
    | some "I" => g.value? "I"
    | some _ => some (match g.value? "i" with
      | none | some "" => "\x7b\x7d"
      | some pattern => pattern)
    | none => none
  let number (key : String) : Option Nat := (g.value? key).map fun n => decimalValue n.toList
  let lines := match g.last? ["L", "l"] with
    | some "L" => number "L"
    | some _ => some ((number "l").filter (0 < ·) |>.getD 1)
    | none => none
  let d : Dealing := match pattern, g.last? ["n", "L", "l"] with
    | some pattern, _ => ⟨none, none, some pattern⟩
    | none, some "n" => ⟨number "n", none, none⟩
    | none, _ => ⟨none, lines, none⟩
  let content ← match g.value? "a" with
    | none => incoming 0
    | some path => match ← contents path with
      | .ok content => pure content
      | .error r =>
        return ← refuse ("Cannot open input file " ++ quoted path ++ ": " ++ r.reason)
  let text := (Octets.write content).toList
  let words := if g.operands.isEmpty then ["echo"] else g.operands
  match divider with
  | some c => return .ok ⟨d.calls (g.has "r") words (itemsBetween c text), g.has "t", 0⟩
  | none =>
    let (gathered, quote) := Gathering.read pattern.isSome text
    let items := gathered.items.reverse
    let items := match g.last? ["E", "e"] with
      | some key =>
        let stop := (g.value? key).getD ""
        if stop.isEmpty then items else items.takeWhile (·.text != stop)
      | none => items
    match quote with
    | none => return .ok ⟨d.calls (g.has "r") words items, g.has "t", 0⟩
    | some q =>
      let status ← complain name ("unmatched " ++ (if q = '"' then "double" else "single") ++
        " quote; by default quotes are special to xargs unless you use the -0 option")
      return .ok ⟨d.calls true words items, g.has "t", status⟩

def makeCalls (call : Caller) (name : String) (environment : List (String × String))
    (isLoud : Bool) : List (List String) → Nat → Step Nat
  | [], status => return status
  | words :: rest, status => do
    let word := words.headD ""
    if isLoud then discard (sayLine 2 (" ".intercalate (words.map shown)))
    match ← call environment words with
    | .status 0 => makeCalls call name environment isLoud rest status
    | .status 255 =>
      discard (complain name (word ++ ": exited with status 255; aborting"))
      return 124
    | .status _ => makeCalls call name environment isLoud rest 123
    | .signal signal =>
      discard (complain name (word ++ ": terminated by signal " ++ toString signal))
      return 125
    | .refused status reason =>
      discard (complain name (word ++ ": " ++ reason))
      return status

def xargs (call : Caller) (name : String) (environment : List (String × String))
    (args : List String) : Step Nat := do
  match ← Batch.read name args with
  | .error status => return status
  | .ok b =>
    lead 0 (some (← addOpening ⟨.nowhere, 0, false, none⟩))
    makeCalls call name environment b.isLoud b.calls b.status

end Cosim.Script.Tool
