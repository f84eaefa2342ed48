import Cosim.Script.Token
import Cosim.Text.Blank

namespace Cosim.Script

open Cosim.Text

/-- The names that no function may have, since they are the shell's own. -/
def specialNames : List String :=
  [".", ":", "break", "continue", "eval", "exec", "exit", "export", "readonly", "return", "set",
    "shift", "times", "trap", "unset"]

namespace Word

def push (quoted : Bool) (s : String) : Word → Word
  | .text q t :: rest =>
    if q = quoted then .text q (t ++ s) :: rest else .text quoted s :: .text q t :: rest
  | parts => .text quoted s :: parts

/-- Put what stands between quotes to the end of a word. The list of all arguments is nothing at
all if there are none, and anything else is a word even if it is empty. -/
def pushQuoted (parts inner : Word) : Word :=
  match inner with
  | [.parameter true "@" .value] => inner ++ parts
  | _ => inner.reverse ++ parts.push true ""

end Word

/-- What a part of a word stands in, and so what ends it. -/
inductive Region where
  | bare
  | quotes
  | document
  | braces (quoted : Bool)
  | sum (depth : Nat)
deriving DecidableEq, Repr

namespace Region

def isQuoted : Region → Bool
  | .bare => false
  | .braces quoted => quoted
  | _ => true

def endsWord (c : Char) : Bool := "\n\t ;&|()<>".toList.contains c

def isEscapable (r : Region) (c : Char) : Bool :=
  match c with
  | '\\' | '$' => true
  | '"' => r != .document
  | '}' => r == .braces true
  | c => c == '\x60'

end Region

def isSpecialParameter (c : Char) : Bool := "@*#?$!-".toList.contains c

/-- The line of a document in front of its end, without tabs before it if it is indented. -/
def documentLine (indented : Bool) (input : List Char) : List Char × List Char :=
  let input := if indented then input.dropWhile (· == '\t') else input
  (input.takeWhile (· != '\n'), input.dropWhile (· != '\n'))

def hidesEnd (line : List Char) : Bool := (line.reverse.takeWhile (· == '\\')).length % 2 == 1

def documentBody (p : Pending) : Nat → Bool → List Char → List Char × List Char
  | 0, _, input => ([], input)
  | _, _, [] => ([], [])
  | fuel + 1, isHidden, input =>
    let (line, after) := documentLine (p.indented && !isHidden) input
    if !isHidden && line == p.delimiter.toList then ([], after.drop 1)
    else match after with
      | [] => (line, [])
      | _ :: after =>
        let (body, rest) := documentBody p fuel (!p.isPlain && hidesEnd line) after
        (line ++ '\n' :: body, rest)

/-- The text between reversed quotes, in which a backslash takes the meaning from some signs, and
what follows the closing one. -/
def reversedBody (quoted : Bool) : List Char → Option (List Char × List Char)
  | [] => none
  | '\x60' :: rest => some ([], rest)
  | '\\' :: '\n' :: rest => reversedBody quoted rest
  | '\\' :: c :: rest =>
    let taken := if c == '\\' || c == '\x60' || c == '$' || (quoted && c == '"') then [c]
      else ['\\', c]
    (reversedBody quoted rest).map fun (body, after) => (taken ++ body, after)
  | c :: rest => (reversedBody quoted rest).map fun (body, after) => (c :: body, after)

namespace Reader

def within {α : Type} (input : List Char) (line : Nat) (read : Reader α) : Reader α := do
  let outer ← get
  set { Source.start input line outer.count with
    documents := outer.documents, aliases := outer.aliases }
  let a ← read
  modify fun inner => { outer with documents := inner.documents, count := inner.count }
  return a

def singleQuoted : Reader String := do
  let s ← get
  let body := s.input.takeWhile (· != '\'')
  let line := s.line + body.count '\n'
  match s.input.drop body.length with
  | [] =>
    set { s with input := [], line := line }
    fault "Unterminated quoted string"
  | _ :: rest =>
    set { s with input := rest, line := line }
    return String.ofList body

def parameterName (inBraces : Bool) : Reader String := do
  match ← peekJoined with
  | some c =>
    if isNameStart c then takeWhile isNameChar
    else if c.isDigit && inBraces then takeWhile Char.isDigit
    else
      skip
      return String.singleton c
  | none => return ""

def announce (delimiter : Word) (indented : Bool) : Reader Nat := do
  let s ← get
  let p : Pending := ⟨s.count, delimiter.raw, delimiter.plain?.isNone, indented⟩
  set { s with count := s.count + 1, pending := s.pending ++ [p] }
  return s.count

def passAliases : Reader Bool := do
  if (← get).underway.isEmpty then return false
  skipIdle
  let left := (← get).input.length
  let ended := (← get).underway.filter fun a => left ≤ a.rest
  modify fun s => { s with underway := s.underway.filter fun a => a.rest ≤ left }
  return ended.any (·.endsBlank)

/-- Put the text of an alias in the place of its name, unless it is being read already. -/
def openAlias (t : Token) : Reader Bool := do
  let s ← get
  match t with
  | .word w =>
    match w.plain? with
    | none => return false
    | some name =>
      match s.aliases.lookup name with
      | none => return false
      | some text =>
        let left := s.input.length
        if s.underway.any fun a => a.name == name && a.rest ≤ left then return false
        let isBlank := text.endsWith " " || text.endsWith "\t"
        set { s with
          input := text.toList ++ s.input, underway := ⟨name, left, isBlank⟩ :: s.underway }
        return true
  | _ => return false

def fallback? : Char → Option Fallback
  | '-' => some .use
  | '=' => some .assign
  | '?' => some .complain
  | '+' => some .replace
  | _ => none

mutual

def parts (fuel : Nat) (r : Region) (acc : Word) : Reader Word := do
  match fuel with
  | 0 => fault "Unterminated quoted string"
  | fuel + 1 =>
    let c? ← peekJoined
    match c?, r with
    | none, .bare | none, .document => return acc.reverse
    | none, .quotes => fault "Unterminated quoted string"
    | none, .braces _ => fault "Missing '\x7d'"
    | none, .sum _ => fault "Missing '))'"
    | some c, _ =>
      if r = .bare && Region.endsWord c then return acc.reverse
      if r = .braces false && c = '\n' then fault "Missing '\x7d'"
      skip
      match c, r with
      | '$', _ =>
        match ← dollar fuel r with
        | some p => parts fuel r (p :: acc)
        | none => parts fuel r (acc.push r.isQuoted "$")
      | '\x60', _ =>
        let p ← reversed fuel r.isQuoted
        parts fuel r (p :: acc)
      | '\\', _ =>
        match ← next with
        | none => parts fuel r (acc.push true "\\")
        | some d =>
          let text := if !r.isQuoted || r.isEscapable d then [d] else ['\\', d]
          parts fuel r (acc.push true (String.ofList text))
      | '"', .quotes => return acc.reverse
      | '"', .bare | '"', .braces _ =>
        let inner ← parts fuel .quotes []
        parts fuel r (acc.pushQuoted inner)
      | '\'', .bare | '\'', .braces false =>
        let text ← singleQuoted
        parts fuel r (acc.push true text)
      | '}', .braces _ => return acc.reverse
      | '(', .sum depth => parts fuel (.sum (depth + 1)) (acc.push true "(")
      | ')', .sum (depth + 1) => parts fuel (.sum depth) (acc.push true ")")
      | ')', .sum 0 =>
        if ← accept ')' then return acc.reverse
        parts fuel r (acc.push true ")")
      | c, _ => parts fuel r (acc.push r.isQuoted (String.singleton c))

/-- Read what a dollar sign begins, if it begins anything. -/
def dollar (fuel : Nat) (r : Region) : Reader (Option Part) := do
  match fuel with
  | 0 => fault "Unterminated quoted string"
  | fuel + 1 =>
    match ← peekJoined with
    | some '(' =>
      skip
      if ← accept '(' then
        return some (.sum r.isQuoted (← parts fuel (.sum 0) []))
      let outer := (← get).pending
      modify fun s => { s with pending := [] }
      let body ← commands fuel false true .nothing
      if !(← token fuel false false).isSign ")" then unexpected (some (.sign ")"))
      modify fun s => { s with pending := outer }
      return some (.output r.isQuoted body)
    | some '{' =>
      skip
      return some (← braces fuel r)
    | some c =>
      if isNameChar c || isSpecialParameter c then
        return some (.parameter r.isQuoted (← parameterName false) .value)
      return none
    | none => return none

def braces (fuel : Nat) (r : Region) : Reader Part := do
  match fuel with
  | 0 => fault "Missing '\x7d'"
  | fuel + 1 =>
    let malformed : Reader Part := do
      discard (parts fuel (.braces r.isQuoted) [])
      return .parameter r.isQuoted "" .malformed
    match ← peekJoined with
    | some '#' =>
      skip
      match ← peekJoined with
      | some '}' =>
        skip
        return .parameter r.isQuoted "#" .value
      | some c =>
        if isNameChar c then
          let name ← parameterName true
          if ← accept '}' then return .parameter r.isQuoted name .length
          malformed
        else if isSpecialParameter c then
          let rest := (← get).input.drop 1
          if rest.head? == some '}' then
            skip
            skip
            return .parameter r.isQuoted (String.singleton c) .length
          use fuel r "#"
        else use fuel r "#"
      | none => use fuel r "#"
    | some c =>
      if isNameChar c || isSpecialParameter c then
        let name ← parameterName true
        use fuel r name
      else malformed
    | none => malformed

def use (fuel : Nat) (r : Region) (name : String) : Reader Part := do
  match fuel with
  | 0 => fault "Missing '\x7d'"
  | fuel + 1 =>
    if ← accept '}' then return .parameter r.isQuoted name .value
    let orEmpty ← accept ':'
    match ← peekJoined with
    | none => fault "Missing '\x7d'"
    | some c =>
      match fallback? c with
      | some kind =>
        skip
        let word ← parts fuel (.braces r.isQuoted) []
        return .parameter r.isQuoted name (.fallback orEmpty kind word)
      | none =>
        if orEmpty && c = '}' then
          skip
          return .parameter r.isQuoted name .value
        else if !orEmpty && (c = '#' || c = '%') then
          skip
          let longest ← accept c
          let pattern ← parts fuel (.braces false) []
          return .parameter r.isQuoted name (.trim (c = '%') longest pattern)
        else
          skip
          discard (parts fuel (.braces r.isQuoted) [])
          return .parameter r.isQuoted name .malformed

def reversed (fuel : Nat) (quoted : Bool) : Reader Part := do
  match fuel with
  | 0 => fault "EOF in backquote substitution"
  | fuel + 1 =>
    let s ← get
    match reversedBody quoted s.input with
    | none =>
      set { s with input := [], line := s.line + s.input.count '\n' }
      fault "EOF in backquote substitution"
    | some (body, rest) =>
      let taken := s.input.take (s.input.length - rest.length)
      set { s with input := rest, line := s.line + taken.count '\n' }
      within body 1 do
        let command ← commands fuel false true .nothing
        match ← token fuel false false with
        | .endOfText => return .output quoted command
        | _ => unexpected none

def documents (fuel : Nat) : Reader Unit := do
  match fuel with
  | 0 => return
  | fuel + 1 =>
    let s ← get
    match s.pending with
    | [] => return
    | p :: pending =>
      let (body, rest) := documentBody p (s.input.length + 1) false s.input
      let taken := s.input.take (s.input.length - rest.length)
      set { s with input := rest, line := s.line + taken.count '\n', pending := pending }
      let word ← if p.isPlain then pure [Part.text true (String.ofList body)]
        else within body s.line (parts fuel .document [])
      modify fun s => { s with documents := (p.number, word) :: s.documents }
      documents fuel

def token (fuel : Nat) (overLines keywords : Bool) : Reader Token := do
  match fuel with
  | 0 => fault "Unterminated quoted string"
  | fuel + 1 => tokenWith fuel overLines keywords keywords

def tokenWith (fuel : Nat) (overLines keywords aliases : Bool) : Reader Token := do
  match fuel with
  | 0 => fault "Unterminated quoted string"
  | fuel + 1 =>
    let isBack := (← get).isBack
    let aliases ← if isBack then pure aliases else
      let isAfterBlank ← passAliases
      pure (aliases || isAfterBlank)
    let t ← if isBack then pure (← get).last else rawToken fuel
    modify fun s => { s with isBack := false }
    match t, overLines with
    | .newline, true =>
      documents fuel
      tokenWith fuel overLines keywords aliases
    | t, _ =>
      let t := if keywords then t.asKeyword else t
      let isOpened ← if aliases then openAlias t else pure false
      if isOpened then
        tokenWith fuel overLines keywords aliases
      else
        modify fun s => { s with last := t }
        return t

def rawToken (fuel : Nat) : Reader Token := do
  match fuel with
  | 0 => fault "Unterminated quoted string"
  | fuel + 1 =>
    skipIdle
    match ← peek with
    | none => return .endOfText
    | some '\n' =>
      skip
      return .newline
    | some c =>
      if c = '&' || c = '|' || c = ';' then
        skip
        let doubled ← accept c
        return .sign (String.ofList (if doubled then [c, c] else [c]))
      else if c = '(' || c = ')' then
        skip
        return .sign (String.singleton c)
      else
        let w ← parts fuel .bare []
        match ← peek with
        | some c =>
          if c = '<' || c = '>' then
            match w with
            | [] => arrow (if c = '<' then 0 else 1)
            | [.text false s] =>
              match s.toList with
              | [d] => if d.isDigit then arrow (d.toNat - 48) else return .word w
              | _ => return .word w
            | w => return .word w
          else return .word w
        | none => return .word w
where
  /-- Read an arrow for a channel. -/
  arrow (channel : Nat) : Reader Token := do
    if (← next) == some '>' then
      if ← accept '>' then return .arrow channel (.file .append)
      if ← accept '|' then return .arrow channel (.file .overwrite)
      if ← accept '&' then return .arrow channel .duplicate
      return .arrow channel (.file .output)
    else
      if ← accept '<' then return .arrow channel (.document (← accept '-'))
      if ← accept '&' then return .arrow channel .duplicate
      if ← accept '>' then return .arrow channel (.file .both)
      return .arrow channel (.file .input)

def redirection (fuel channel : Nat) (leads : Arrow) : Reader Redirection := do
  match fuel with
  | 0 => fault "Unterminated quoted string"
  | fuel + 1 =>
    match ← token fuel false false with
    | .word w =>
      match leads with
      | .file opened => return .file channel opened w
      | .duplicate => return .duplicate channel w
      | .document indented => return .document channel (← announce w indented)
    | _ => unexpected none

def redirections (fuel : Nat) : Reader (List Redirection) := do
  match fuel with
  | 0 => return []
  | fuel + 1 =>
    match ← token fuel false true with
    | .arrow channel leads =>
      let first ← redirection fuel channel leads
      return first :: (← redirections fuel)
    | _ =>
      back
      return []

def commands (fuel : Nat) (oneLine mayEnd : Bool) (before : Command) : Reader Command := do
  match fuel with
  | 0 => fault "Unterminated quoted string"
  | fuel + 1 =>
    match ← token fuel (!oneLine) true with
    | .newline =>
      documents fuel
      return before
    | .endOfText =>
      documents fuel
      back
      return before
    | t =>
      back
      if mayEnd && !oneLine && t.endsList then return before
      let line := (← get).line
      let command ← conditional fuel
      let t ← token fuel false false
      let command := if t.isSign "&" then .background line command else command
      let row := match before with
        | .nothing => command
        | _ => .sequence before command
      match t with
      | .newline | .endOfText =>
        back
        commands fuel oneLine true row
      | t =>
        if t.isSign "&" || t.isSign ";" then commands fuel oneLine true row
        else if oneLine then unexpected none
        else
          back
          return row

/-- Read commands of which each runs if the one before it succeeds, or fails. -/
def conditional (fuel : Nat) : Reader Command := do
  match fuel with
  | 0 => fault "Unterminated quoted string"
  | fuel + 1 =>
    let first ← pipeline fuel false
    conditionalRest fuel first

def conditionalRest (fuel : Nat) (first : Command) : Reader Command := do
  match fuel with
  | 0 => return first
  | fuel + 1 =>
    match ← token fuel false false with
    | .sign "&&" =>
      let second ← pipeline fuel true
      conditionalRest fuel (.both first second)
    | .sign "||" =>
      let second ← pipeline fuel true
      conditionalRest fuel (.either first second)
    | _ =>
      back
      return first

def pipeline (fuel : Nat) (overLines : Bool) : Reader Command := do
  match fuel with
  | 0 => fault "Unterminated quoted string"
  | fuel + 1 =>
    if (← token fuel overLines true).isKeyword "!" then
      discard (token fuel false true)
      back
      return .negation (← stages fuel)
    back
    stages fuel

def stages (fuel : Nat) : Reader Command := do
  match fuel with
  | 0 => fault "Unterminated quoted string"
  | fuel + 1 =>
    let first ← command fuel
    match ← stagesRest fuel with
    | [] => return first
    | rest => return .pipe (first :: rest)

def stagesRest (fuel : Nat) : Reader (List Command) := do
  match fuel with
  | 0 => return []
  | fuel + 1 =>
    if (← token fuel false false).isSign "|" then
      discard (token fuel true true)
      back
      let stage ← command fuel
      return stage :: (← stagesRest fuel)
    back
    return []

def close (fuel : Nat) (wanted : Token) : Reader Unit := do
  match fuel with
  | 0 => return
  | fuel + 1 =>
    let t ← token fuel false true
    if t.describe != wanted.describe then unexpected (some wanted)

def command (fuel : Nat) : Reader Command := do
  match fuel with
  | 0 => fault "Unterminated quoted string"
  | fuel + 1 =>
    let t ← token fuel false false
    let line := (← get).line
    match t with
    | .word _ | .arrow .. =>
      back
      call fuel line [] [] []
    | .sign "(" =>
      let body ← commands fuel false false .nothing
      close fuel (.sign ")")
      return .apart line body (← redirections fuel)
    | .keyword name =>
      let body ← compound fuel line name
      match ← redirections fuel with
      | [] => return body
      | rs => return .redirected line body rs
    | _ => unexpected none

def compound (fuel line : Nat) (name : String) : Reader Command := do
  match fuel with
  | 0 => fault "Unterminated quoted string"
  | fuel + 1 =>
    match name with
    | "\x7b" =>
      let body ← commands fuel false false .nothing
      close fuel (.keyword "\x7d")
      return body
    | "if" => choice fuel
    | "while" | "until" =>
      let condition ← commands fuel false false .nothing
      close fuel (.keyword "do")
      let body ← commands fuel false false .nothing
      close fuel (.keyword "done")
      return .loop (name == "until") condition body
    | "for" =>
      match ← token fuel false false with
      | .word w =>
        match w.plain? with
        | some variableName =>
          if isName variableName then each fuel line variableName
          else fault "Bad for loop variable"
        | none => fault "Bad for loop variable"
      | _ => fault "Bad for loop variable"
    | "case" =>
      match ← token fuel false false with
      | .word w =>
        if !(← token fuel true true).isKeyword "in" then unexpected (some (.keyword "in"))
        return .select line w (← arms fuel)
      | _ => unexpected (some (.word []))
    | _ => unexpected none

def choice (fuel : Nat) : Reader Command := do
  match fuel with
  | 0 => fault "Unterminated quoted string"
  | fuel + 1 =>
    let condition ← commands fuel false false .nothing
    close fuel (.keyword "then")
    let yes ← commands fuel false false .nothing
    match ← token fuel false true with
    | .keyword "elif" => return .choice condition yes (← choice fuel)
    | .keyword "else" =>
      let no ← commands fuel false false .nothing
      close fuel (.keyword "fi")
      return .choice condition yes no
    | .keyword "fi" => return .choice condition yes .nothing
    | _ => unexpected (some (.keyword "fi"))

def each (fuel line : Nat) (name : String) : Reader Command := do
  match fuel with
  | 0 => fault "Unterminated quoted string"
  | fuel + 1 =>
    let values ← if (← token fuel true true).isKeyword "in" then words fuel
      else
        if !(← get).last.isSign ";" then back
        pure [[.parameter true "@" .value]]
    if !(← token fuel true true).isKeyword "do" then unexpected (some (.keyword "do"))
    let body ← commands fuel false false .nothing
    close fuel (.keyword "done")
    return .each line name values body

def words (fuel : Nat) : Reader (List Word) := do
  match fuel with
  | 0 => return []
  | fuel + 1 =>
    match ← token fuel false false with
    | .word w => return w :: (← words fuel)
    | .newline => return []
    | t => if t.isSign ";" then return [] else unexpected none

def arms (fuel : Nat) : Reader (List (List Word × Command)) := do
  match fuel with
  | 0 => fault "Unterminated quoted string"
  | fuel + 1 =>
    let t ← tokenWith fuel true true false
    if t.isKeyword "esac" then return []
    let patterns ← patternsFrom fuel
      (← if t.isSign "(" then token fuel false false else pure t)
    let body ← commands fuel false true .nothing
    let t ← tokenWith fuel true true false
    if t.isKeyword "esac" then return [(patterns, body)]
    if !t.isSign ";;" then unexpected (some (.sign ";;"))
    return (patterns, body) :: (← arms fuel)

def patternsFrom (fuel : Nat) (first : Token) : Reader (List Word) := do
  match fuel with
  | 0 => fault "Unterminated quoted string"
  | fuel + 1 =>
    let pattern := match first with
      | .word w => w
      | .keyword name => [.text false name]
      | _ => []
    let t ← token fuel false false
    if t.isSign "|" then
      let t ← token fuel false false
      return pattern :: (← patternsFrom fuel t)
    if !t.isSign ")" then unexpected (some (.sign ")"))
    return [pattern]

def call (fuel line : Nat) (settings : List (String × Word)) (words : List Word)
    (redirected : List Redirection) : Reader Command := do
  match fuel with
  | 0 => fault "Unterminated quoted string"
  | fuel + 1 =>
    let t ← tokenWith fuel false false words.isEmpty
    match t with
    | .word w =>
      match w.setting?, words with
      | some setting, [] => call fuel line (setting :: settings) words redirected
      | _, _ => call fuel line settings (w :: words) redirected
    | .arrow channel leads =>
      let r ← redirection fuel channel leads
      call fuel line settings words (r :: redirected)
    | t =>
      match t.isSign "(", settings, words, redirected with
      | true, [], [w], [] =>
        if !(← token fuel false false).isSign ")" then unexpected (some (.sign ")"))
        match w.plain? with
        | some name =>
          if isName name && !specialNames.contains name then
            discard (token fuel true true)
            back
            return .define name (← command fuel)
          fault "Bad function name"
        | none => fault "Bad function name"
      | _, _, _, _ =>
        back
        return .call line settings.reverse words.reverse redirected.reverse

end

def fuelFor (input : List Char) : Nat := 16 * input.length + 64

def line : Reader (Command × Bool) := do
  modify fun s => { s with isBack := false }
  let command ← commands (fuelFor (← get).input) true false .nothing
  return (command, (← get).last matches .endOfText)

end Reader

end Cosim.Script
