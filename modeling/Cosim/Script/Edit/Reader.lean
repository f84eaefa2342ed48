import Cosim.Numeral.Digits
import Cosim.Script.Edit.Basic
import Cosim.Script.Regex.Reader

namespace Cosim.Script.Edit

open Cosim.Numeral

/-- What is wrong with a script, and how many of its characters had been read. -/
structure Fault where
  place : Option Nat
  text : String

/-- Where reading is: what is left of the text, its length, the commands so far, last one first, the
places of the blocks that are open, the labels, and the files to write to, last one first. -/
structure Reading where
  rest : List Char
  size : Nat
  commands : List Command
  opened : List Nat
  labels : List (String × Nat)
  goals : List String
  isExtended : Bool

abbrev Read (α : Type) := ExceptT Fault (StateM Reading) α

namespace Reader

def peek : Read (List Char) := return (← get).rest

def drop (n : Nat) : Read Unit := modify fun s => { s with rest := s.rest.drop n }

def refuse {α : Type} (text : String) : Read α := do
  let s ← get
  throw ⟨some (s.size - s.rest.length), text⟩

/-- Refuse the script because of the next character. -/
def refuseNext {α : Type} (text : String) : Read α := do
  drop 1
  refuse text

def isSpace (c : Char) : Bool := c = ' ' || ('\t' ≤ c && c ≤ '\x0d')

def isBlank (c : Char) : Bool := isSpace c && c ≠ '\n'

def skipBlanks : Read Unit := modify fun s => { s with rest := s.rest.dropWhile isBlank }

def takeWhile (p : Char → Bool) : Read (List Char) := do
  let found := (← peek).takeWhile p
  drop found.length
  return found

def number : Read Nat := return decimalValue (← takeWhile isDecimalDigit)

def startsWithDigit : Read Bool := return (← peek).head?.any isDecimalDigit

def sign? (c : Char) : Option Char :=
  match c with
  | 'a' => some '\x07'
  | 'f' => some '\x0c'
  | 'n' => some '\n'
  | 'r' => some '\x0d'
  | 't' => some '\t'
  | 'v' => some '\x0b'
  | _ => none

def numbered? (s : List Char) : Option (Char × List Char) :=
  let cut (digit? : Char → Option Nat) (base most : Nat) (s : List Char) :
      Option (Char × List Char) :=
    let ds := (s.take most).takeWhile fun c => (digit? c).isSome
    if ds.isEmpty then none
    else some (Char.ofNat (valueBy digit? base ds % 256), s.drop ds.length)
  match s with
  | 'd' :: rest => cut decimalDigit? 10 3 rest
  | 'o' :: rest => cut (fun c => if '0' ≤ c && c ≤ '7' then decimalDigit? c else none) 8 3 rest
  | 'x' :: rest => cut hexDigit? 16 2 rest
  | 'c' :: c :: rest => some (Char.ofNat ((c.toUpper.toNat + 64) % 128), rest)
  | _ => none

/-- Cut an expression or a text at a mark that stands by itself. In brackets of an expression marks
have no meaning. Every step uses up a character. -/
def upTo (mark : Char) (isRegex : Bool) : Nat → Nat → List Char → List Char →
    Option (List Char × List Char)
  | 0, _, _, _ | _, _, _, [] => none
  | fuel + 1, inBrackets, before, c :: rest =>
    let step (inBrackets : Nat) : Option (List Char × List Char) :=
      upTo mark isRegex fuel inBrackets (c :: before) rest
    match inBrackets with
    | 0 =>
      if c = mark then some (before.reverse, rest)
      else if c = '\\' then
        match rest with
        | [] => none
        | d :: rest =>
          if d = mark then upTo mark isRegex fuel 0 (d :: before) rest
          else if d = '\n' && isRegex then none
          else upTo mark isRegex fuel 0 (d :: '\\' :: before) rest
      else if c = '\n' && isRegex then none
      else if c = '[' && isRegex then
        match rest with
        | '^' :: ']' :: more => upTo mark isRegex fuel 1 (']' :: '^' :: '[' :: before) more
        | ']' :: more => upTo mark isRegex fuel 1 (']' :: '[' :: before) more
        | _ => step 1
      else step 0
    | 1 =>
      if c = ']' then step 0
      else match c, rest with
        | '[', d :: more =>
          if ":.=".toList.contains d then
            match classEnd d fuel (d :: '[' :: before) more with
            | some (before, rest) => upTo mark isRegex fuel 1 before rest
            | none => none
          else step 1
        | _, _ => step 1
    | _ => none
where
  /-- Go to the end of a class, equivalence or collation within brackets. -/
  classEnd (d : Char) : Nat → List Char → List Char → Option (List Char × List Char)
    | 0, _, _ | _, _, [] => none
    | fuel + 1, before, c :: rest =>
      match rest with
      | ']' :: more =>
        if c = d then some (']' :: c :: before, more) else classEnd d fuel (c :: before) rest
      | _ => classEnd d fuel (c :: before) rest

/-- Write the characters that escapes of an expression stand for. Such a character keeps no meaning
of its own. Every step uses up a character. -/
def plainRegex : Nat → List Char → List Char
  | 0, _ | _, [] => []
  | fuel + 1, '\\' :: rest =>
    match numbered? rest, rest with
    | some (c, after), _ =>
      (if "*.[]^$\\+?()\x7b\x7d|/".toList.contains c then ['\\', c] else [c]) ++
        plainRegex fuel after
    | none, c :: more =>
      match sign? c with
      | some sign => sign :: plainRegex fuel more
      | none => '\\' :: c :: plainRegex fuel more
    | none, [] => ['\\']
  | fuel + 1, c :: rest => c :: plainRegex fuel rest

def regex (text : List Char) (ignoresCase hasLines : Bool) : Read (Option Regex × Nat) := do
  if text.isEmpty then return (none, 9)
  let m : Regex.Manner :=
    { isExtended := (← get).isExtended, ignoresCase := ignoresCase, hasLines := hasLines }
  match Regex.read m (plainRegex text.length text) with
  | .ok (r, groups) => return (some r, groups)
  | .error fault => refuse fault.message

def addressRegex (mark : Char) : Read (Option Regex) := do
  let rest ← peek
  match upTo mark true (rest.length + 1) 0 [] rest with
  | none =>
    drop rest.length
    refuse "unterminated address regex"
  | some (text, after) =>
    modify fun s => { s with rest := after }
    let letters ← takeWhile "IM".toList.contains
    return (← regex text (letters.contains 'I') (letters.contains 'M')).1

/-- The address that comes next, if there is one. -/
def address? : Read (Option Address) := do
  match ← peek with
  | '/' :: _ =>
    drop 1
    return some (.matching (← addressRegex '/'))
  | '\\' :: mark :: _ =>
    drop 2
    return some (.matching (← addressRegex mark))
  | '$' :: _ =>
    drop 1
    return some .last
  | _ =>
    if !(← startsWithDigit) then return none
    let n ← number
    skipBlanks
    match ← peek with
    | '~' :: _ =>
      drop 1
      skipBlanks
      return some (.step n (← number))
    | _ => return some (.line n)

def stop : Read Stop := do
  skipBlanks
  match ← peek with
  | '+' :: _ =>
    drop 1
    return .further (← number)
  | '~' :: _ =>
    drop 1
    return .multiple (← number)
  | _ =>
    match ← address? with
    | some (.line n) => return .line n
    | some (.step n _) => return .line n
    | some .last => return .last
    | some (.matching r) => return .matching r
    | none =>
      if !(← peek).isEmpty then drop 1
      refuse "unexpected \x60,'"

def scope : Read Scope := do
  let first ← address?
  skipBlanks
  let stop ← match first, ← peek with
    | some _, ',' :: _ =>
      drop 1
      some <$> stop
    | _, _ => pure none
  skipBlanks
  let isNegated := (← peek).head? = some '!'
  if isNegated then
    drop 1
    skipBlanks
    if (← peek).head? = some '!' then refuseNext "multiple \x60!'s"
  match first, stop with
  | some (.line 0), some (.matching _) => pure ()
  | some (.line 0), _ =>
    if !(← peek).isEmpty then drop 1
    refuse "invalid usage of line address 0"
  | _, _ => pure ()
  return ⟨first, stop, isNegated⟩

def commandEnd : Read Unit := do
  skipBlanks
  match ← peek with
  | [] | '}' :: _ | '#' :: _ => return
  | c :: _ =>
    if c = ';' || c = '\n' then drop 1 else refuseNext "extra characters after command"

def fileName : Read String := do
  skipBlanks
  let name ← takeWhile (· != '\n')
  drop 1
  if name.isEmpty then
    refuse "missing filename in r/R/w/W commands"
  return String.ofList name

def goal : Read String := do
  let name ← fileName
  modify fun s => { s with goals := name :: s.goals }
  return name

def labelName : Read String := do
  skipBlanks
  return String.ofList (← takeWhile fun c => !isSpace c && c ≠ ';' && c ≠ '}')

def textFrom : Nat → List Char → List Char × List Char
  | 0, _ | _, [] => ([], [])
  | _ + 1, '\n' :: rest => ([], rest)
  | fuel + 1, '\\' :: rest =>
    match numbered? rest, rest with
    | some (c, after), _ =>
      let (text, rest) := textFrom fuel after
      (c :: text, rest)
    | none, c :: more =>
      let (text, rest) := textFrom fuel more
      ((if c = 'n' then 'n' else (sign? c).getD c) :: text, rest)
    | none, [] => ([], [])
  | fuel + 1, c :: rest =>
    let (text, rest) := textFrom fuel rest
    (c :: text, rest)

def text : Read String := do
  skipBlanks
  let (lead, rest) ← match ← peek with
    | [] => refuse "expected \\ after \x60a', \x60c' or \x60i'"
    | '\\' :: '\n' :: rest => pure ([], rest)
    | '\\' :: c :: rest => if isBlank c || c = '\\' then pure ([], c :: rest) else pure ([c], rest)
    | ['\\'] =>
      drop 1
      return ""
    | rest => pure ([], rest)
  let (text, rest) := textFrom rest.length rest
  modify fun s => { s with rest := rest }
  return String.ofList (lead ++ text) ++ "\n"

def pieces : Nat → List Char → List Char → List Piece
  | 0, text, _ | _, text, [] => flush text
  | fuel + 1, text, '&' :: rest => flush text ++ .group 0 :: pieces fuel [] rest
  | fuel + 1, text, '\\' :: rest =>
    match numbered? rest, rest with
    | some (c, after), _ => pieces fuel (c :: text) after
    | none, c :: more =>
      let casing? : Option Casing := match c with
        | 'U' => some .upper
        | 'L' => some .lower
        | 'u' => some .nextUpper
        | 'l' => some .nextLower
        | 'E' => some .plain
        | _ => none
      match casing? with
      | some casing => flush text ++ .casing casing :: pieces fuel [] more
      | none =>
        if isDecimalDigit c then flush text ++ .group (decimalValue [c]) :: pieces fuel [] more
        else pieces fuel ((sign? c).getD c :: text) more
    | none, [] => flush ('\\' :: text)
  | fuel + 1, text, c :: rest => pieces fuel (c :: text) rest
where
  flush (text : List Char) : List Piece := if text.isEmpty then [] else [.text text.reverse]

/-- The flags of a substitution. -/
structure Flags where
  isGlobal : Bool
  shows : Bool
  number : Option Nat
  ignoresCase : Bool
  hasLines : Bool
  file : Option String

def flags : Nat → Flags → Read Flags
  | 0, f => return f
  | fuel + 1, f => do
    match ← peek with
    | [] | '}' :: _ | '#' :: _ => return f
    | c :: _ =>
      if isDecimalDigit c then
        let n ← number
        if f.number.isSome then refuse "multiple number options to \x60s' command"
        if n = 0 then refuse "number option to \x60s' command may not be zero"
        flags fuel { f with number := some n }
      else
        drop 1
        match c with
        | ';' | '\n' => return f
        | 'g' =>
          if f.isGlobal then refuse "multiple \x60g' options to \x60s' command"
          flags fuel { f with isGlobal := true }
        | 'p' =>
          if f.shows then refuse "multiple \x60p' options to \x60s' command"
          flags fuel { f with shows := true }
        | 'i' | 'I' => flags fuel { f with ignoresCase := true }
        | 'm' | 'M' => flags fuel { f with hasLines := true }
        | 'w' => return { f with file := some (← goal) }
        | c =>
          if isBlank c || c = '\x0d' then flags fuel f
          else refuse "unknown option to \x60s'"

def substitution : Read Substitution := do
  let unended {α : Type} : Read α := do
    modify fun s => { s with rest := [] }
    refuse "unterminated \x60s' command"
  match ← peek with
  | [] => unended
  | mark :: rest =>
    match upTo mark true (rest.length + 1) 0 [] rest with
    | none => unended
    | some (pattern, rest) =>
      match upTo mark false (rest.length + 1) 0 [] rest with
      | none => unended
      | some (replacement, rest) =>
        modify fun s => { s with rest := rest }
        let f ← flags (rest.length + 1) ⟨false, false, none, false, false, none⟩
        let (r, groups) ← regex pattern f.ignoresCase f.hasLines
        let pieces := pieces replacement.length [] replacement
        match pieces.findSome? fun piece => match piece with
          | .group n => if groups < n then some n else none
          | _ => none with
        | some n => refuse ("invalid reference \\" ++ toString n ++ " on \x60s' command's RHS")
        | none =>
          return ⟨r, pieces, f.number.getD 1, f.isGlobal, f.shows, f.file⟩

def translated : Nat → List Char → List Char
  | 0, _ | _, [] => []
  | fuel + 1, '\\' :: rest =>
    match numbered? rest, rest with
    | some (c, after), _ => c :: translated fuel after
    | none, '\\' :: more => '\\' :: translated fuel more
    | none, c :: more =>
      match sign? c with
      | some sign => sign :: translated fuel more
      | none => '\\' :: c :: translated fuel more
    | none, [] => ['\\']
  | fuel + 1, c :: rest => c :: translated fuel rest

def translation : Read (List (Char × Char)) := do
  let unended {α : Type} : Read α := do
    modify fun s => { s with rest := [] }
    refuse "unterminated \x60y' command"
  match ← peek with
  | [] => unended
  | mark :: rest =>
    match upTo mark false (rest.length + 1) 0 [] rest with
    | none => unended
    | some (source, rest) =>
      match upTo mark false (rest.length + 1) 0 [] rest with
      | none => unended
      | some (target, rest) =>
        modify fun s => { s with rest := rest }
        let (source, target) := (translated source.length source, translated target.length target)
        if source.length ≠ target.length then
          refuse "strings for \x60y' command are different lengths"
        return source.zip target

def operand : Read (Option Nat) := do
  skipBlanks
  let n ← if ← startsWithDigit then some <$> number else pure none
  commandEnd
  return n

def add (scope : Scope) (action : Action) : Read Unit :=
  modify fun s => { s with commands := ⟨scope, action⟩ :: s.commands }

def command (sc : Scope) (c : Char) : Read Unit := do
  let plain (action : Action) : Read Unit := do
    commandEnd
    add sc action
  let single (action : Action) : Read Unit := do
    if sc.stop.isSome then refuse "command only uses one address"
    add sc action
  match c with
  | '{' =>
    modify fun s => { s with opened := s.commands.length :: s.opened }
    add sc (.block 0)
  | '}' =>
    match (← get).opened with
    | [] => refuse "unexpected \x60\x7d'"
    | place :: opened =>
      if sc.first.isSome then refuse "\x7d doesn't want any addresses"
      commandEnd
      add sc .close
      modify fun s =>
        let n := s.commands.length
        { s with
          opened := opened
          commands := s.commands.zipIdx.map fun (command, i) =>
            if i + place + 1 = n then { command with action := .block n } else command }
  | ':' =>
    if sc.first.isSome then refuse ": doesn't want any addresses"
    let name ← labelName
    if name.isEmpty then refuse "\":\" lacks a label"
    commandEnd
    modify fun s => { s with labels := (name, s.commands.length) :: s.labels }
  | '=' => plain .showNumber
  | 'a' => add sc (.append (← text))
  | 'i' => add sc (.insert (← text))
  | 'c' => add sc (.change (← text))
  | 'b' | 't' | 'T' =>
    let name ← labelName
    commandEnd
    add sc (if c = 'b' then .branch name else .branchIf (c = 't') name)
  | 'd' => plain .delete
  | 'D' => plain .deleteFirst
  | 'F' => plain .showName
  | 'g' => plain .take
  | 'G' => plain .takeMore
  | 'h' => plain .hold
  | 'H' => plain .holdMore
  | 'x' => plain .exchange
  | 'l' => add sc (.showSigns (← operand))
  | 'n' => plain .next
  | 'N' => plain .nextMore
  | 'p' => plain .show
  | 'P' => plain .showFirst
  | 'q' =>
    if sc.stop.isSome then refuse "command only uses one address"
    single (.quit ((← operand).getD 0))
  | 'Q' =>
    if sc.stop.isSome then refuse "command only uses one address"
    single (.quitSilently ((← operand).getD 0))
  | 'r' => add sc (.readFile (← fileName))
  | 'R' => add sc (.readLine (← fileName))
  | 'w' => add sc (.writeFile (← goal))
  | 'W' => add sc (.writeFirst (← goal))
  | 's' => add sc (.substitute (← substitution))
  | 'v' =>
    discard (takeWhile (· != '\n'))
    drop 1
  | 'y' =>
    let pairs ← translation
    plain (.translate pairs)
  | 'z' => plain .clear
  | c => refuse ("unknown command: \x60" ++ String.singleton c ++ "'")

def commands : Nat → Read Unit
  | 0 => return
  | fuel + 1 => do
    modify fun s => { s with rest := s.rest.dropWhile fun c => isSpace c || c = ';' }
    match ← peek with
    | [] => return
    | '#' :: _ =>
      discard (takeWhile (· != '\n'))
      commands fuel
    | _ =>
      let sc ← scope
      skipBlanks
      match ← peek with
      | [] => refuse "missing command"
      | '#' :: _ =>
        if sc.first.isSome then refuseNext "comments don't accept any addresses"
        commands fuel
      | c :: _ =>
        drop 1
        command sc c
        commands fuel

end Reader

def Action.target? : Action → Option String
  | .branch name | .branchIf _ name => if name.isEmpty then none else some name
  | _ => none

def Edits.read (isExtended : Bool) (text : String) : Except Fault Edits × List String :=
  let start : Reading := ⟨text.toList, text.length, [], [], [], [], isExtended⟩
  let (found, s) := (Reader.commands (text.length + 1)).run start
  let script : Except Fault Edits := do
    found
    if !s.opened.isEmpty then throw ⟨some 0, "unmatched \x60\x7b'"⟩
    let commands := s.commands.reverse
    match commands.findSome? fun c =>
        c.action.target?.filter fun l => (s.labels.lookup l).isNone with
    | some label => throw ⟨none, "can't find label for jump to \x60" ++ label ++ "'"⟩
    | none => return ⟨commands.toArray, s.labels⟩
  (script, s.goals.reverse.eraseDups)

end Cosim.Script.Edit
