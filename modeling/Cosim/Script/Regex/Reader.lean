import Cosim.Script.Regex

namespace Cosim.Script.Regex

/-- How expressions are written: whether operators stand without backslashes, whether brackets know
escapes, whether what has nothing to repeat or to close is let pass, whether ranges may be empty,
whether letters of both cases are the same, and whether anchors look at the lines within a text. -/
structure Manner where
  isExtended : Bool
  escapesInBrackets : Bool := false
  isLenient : Bool := false
  hasEmptyRanges : Bool := false
  ignoresCase : Bool := false
  hasLines : Bool := false

/-- What is wrong with an expression. -/
inductive Fault where
  | badBackslash
  | badReference
  | badBracket
  | badClass
  | badCollation
  | badClassPlace
  | badParenthesis
  | extraParenthesis
  | badBrace
  | badInterval
  | badRange
  | badRepeat
  | tooBig
  | invalid
deriving DecidableEq

def Fault.message : Fault → String
  | .badBackslash => "Trailing backslash"
  | .badReference => "Invalid back reference"
  | .badBracket => "Unmatched [, [^, [:, [., or [="
  | .badClass => "Invalid character class name"
  | .badCollation => "Invalid collation character"
  | .badClassPlace => "character class syntax is [[:space:]], not [:space:]"
  | .badParenthesis => "Unmatched ( or \\("
  | .extraParenthesis => "Unmatched ) or \\)"
  | .badBrace => "Unmatched \\\x7b"
  | .badInterval => "Invalid content of \\\x7b\\\x7d"
  | .badRange => "Invalid range end"
  | .badRepeat => "Invalid preceding regular expression"
  | .tooBig => "Regular expression too big"
  | .invalid => "Invalid regular expression"

def class? (name : String) : Option (Char → Bool) :=
  let isGraphic (c : Char) : Bool := '!' ≤ c && c ≤ '~'
  match name with
  | "alpha" => some Char.isAlpha
  | "digit" => some Char.isDigit
  | "alnum" => some Char.isAlphanum
  | "upper" => some Char.isUpper
  | "lower" => some Char.isLower
  | "space" => some fun c => c = ' ' || ('\t' ≤ c && c ≤ '\x0d')
  | "blank" => some fun c => c = ' ' || c = '\t'
  | "punct" => some fun c => isGraphic c && !c.isAlphanum
  | "print" => some fun c => isGraphic c || c = ' '
  | "graph" => some isGraphic
  | "cntrl" => some fun c => c.toNat < 32 || c.toNat = 127
  | "xdigit" => some fun c =>
      c.isDigit || ('a' ≤ c && c ≤ 'f') || ('A' ≤ c && c ≤ 'F')
  | _ => none

/-- The tokens of expressions. An escape stands for a set of characters, named by its letter. -/
inductive Token where
  | finish
  | sign (c : Char)
  | any
  | escape (c : Char)
  | anchor (a : Anchor)
  | again (n : Nat)
  | bracket
  | opening
  | closing
  | star
  | plus
  | question
  | openBrace
  | closeBrace
  | choice
  | backslash
deriving DecidableEq

/-- Where reading is: the token at hand, the text behind it, how many groups have begun, and which
have ended. -/
structure Reading where
  token : Token
  rest : List Char
  count : Nat
  closed : List Nat

abbrev Read (α : Type) := StateT Reading (Except Fault) α

def operator? (m : Manner) (behindBackslash : Bool) (c : Char) : Option Token :=
  let isMeant := m.isExtended != behindBackslash
  match c, isMeant with
  | '(', true => some .opening
  | ')', true => some .closing
  | '{', true => some .openBrace
  | '}', true => some .closeBrace
  | '|', true => some .choice
  | '+', true => some .plus
  | '?', true => some .question
  | _, _ => none

def escaped (m : Manner) (c : Char) : Token :=
  match c with
  | '<' => .anchor .wordStart
  | '>' => .anchor .wordStop
  | 'b' => .anchor .wordEdge
  | 'B' => .anchor .noWordEdge
  | '\x60' => .anchor .start
  | '\'' => .anchor .stop
  | c =>
    if '1' ≤ c && c ≤ '9' then .again (c.toNat - 48)
    else if "wWsS".toList.contains c then .escape c
    else (operator? m true c).getD (.sign c)

def isStop (m : Manner) (rest : List Char) : Bool :=
  m.isExtended || rest.isEmpty || "\\)".toList.isPrefixOf rest || "\\|".toList.isPrefixOf rest

def tokenOf (m : Manner) (isFront : Bool) : List Char → Token × List Char
  | [] => (.finish, [])
  | ['\\'] => (.backslash, [])
  | '\\' :: c :: rest => (escaped m c, rest)
  | c :: rest =>
    (match c with
      | '*' => .star
      | '[' => .bracket
      | '.' => .any
      | '^' =>
        if m.isExtended || isFront then .anchor (if m.hasLines then .lineStart else .start)
        else .sign c
      | '$' =>
        if isStop m rest then .anchor (if m.hasLines then .lineStop else .stop) else .sign c
      | c => (operator? m false c).getD (.sign c), rest)

def fetch (m : Manner) (isFront : Bool) : Read Unit := modify fun s =>
  let (token, rest) := tokenOf m isFront s.rest
  { s with token := token, rest := rest }

def token : Read Token := return (← get).token

def Token.literal : Token → Char
  | star => '*'
  | plus => '+'
  | question => '?'
  | openBrace => '{'
  | closeBrace => '}'
  | closing => ')'
  | sign c => c
  | _ => '\x00'

def signs (m : Manner) (p : Char → Bool) : Regex :=
  .sign (if m.ignoresCase then fun c => p c.toUpper else p)

def cased (m : Manner) (c : Char) : Char := if m.ignoresCase then c.toUpper else c

def literal (m : Manner) (c : Char) : Regex := signs m (· == cased m c)

def escapeSet (c : Char) : Char → Bool :=
  let isSpace (c : Char) : Bool := c = ' ' || ('\t' ≤ c && c ≤ '\x0d')
  match c with
  | 'w' => isWordSign
  | 'W' => fun c => !isWordSign c
  | 's' => isSpace
  | _ => fun c => !isSpace c

/-- The tokens within brackets. What opens a name is known by the sign that closes it again. -/
inductive BracketToken where
  | finish
  | closing
  | hyphen
  | opening (mark : Char)
  | sign (c : Char)
deriving DecidableEq

def bracketToken (m : Manner) : List Char → BracketToken × List Char
  | [] => (.finish, [])
  | '[' :: c :: rest =>
    if ".:=".toList.contains c then (.opening c, rest) else (.sign '[', c :: rest)
  | ']' :: rest => (.closing, rest)
  | '-' :: '-' :: '-' :: rest => (.sign '-', rest)
  | '-' :: rest => (.hyphen, rest)
  | '\\' :: c :: rest =>
    if !m.escapesInBrackets then (.sign '\\', c :: rest)
    else (.sign (match c with
      | 'n' => '\n'
      | 't' => '\t'
      | 'r' => '\x0d'
      | 'f' => '\x0c'
      | 'v' => '\x0b'
      | 'a' => '\x07'
      | 'b' => '\x08'
      | c => c), rest)
  | c :: rest => (.sign c, rest)

/-- What stands between brackets: a character, which may be written as a name, or a class. -/
inductive Element where
  | sign (c : Char)
  | same (c : Char)
  | named (p : Char → Bool)

def nameLimit : Nat := 31

def bracketName (mark : Char) : Nat → List Char → List Char → Except Fault (String × List Char)
  | 0, _, _ | _, _, [] => .error .badBracket
  | fuel + 1, name, c :: rest =>
    match rest with
    | [] => .error .badBracket
    | d :: after =>
      if c = mark && d = ']' then .ok (String.ofList name.reverse, after)
      else bracketName mark fuel (c :: name) rest

def element (m : Manner) (acceptsHyphen : Bool) (t : BracketToken) (rest : List Char) :
    Except Fault (Element × List Char) := do
  match t with
  | .finish => throw .badBracket
  | .closing => return (.sign ']', rest)
  | .sign c => return (.sign (cased m c), rest)
  | .hyphen =>
    if !acceptsHyphen && (bracketToken m rest).1 ≠ .closing then throw .badRange
    return (.sign '-', rest)
  | .opening mark =>
    let (name, rest) ← bracketName mark (nameLimit + 1) [] rest
    match mark, name.toList with
    | ':', _ =>
      let name := if m.ignoresCase && (name = "upper" || name = "lower") then "alpha" else name
      match class? name with
      | some p => return (.named p, rest)
      | none => throw .badClass
    | '=', [c] => return (.same (cased m c), rest)
    | '.', [c] => return (.sign (cased m c), rest)
    | _, _ => throw .badCollation

def elements (m : Manner) : Nat → Bool → (Char → Bool) → List Char →
    Except Fault ((Char → Bool) × List Char)
  | 0, _, _, _ => .error .badBracket
  | fuel + 1, isFirst, p, text => do
    let (t, rest) := bracketToken m text
    if t = .closing && !isFirst then return (p, rest)
    if t = .finish then throw .badBracket
    let (a, rest) ← element m isFirst t rest
    let (next, behind) := bracketToken m rest
    match a, next, (bracketToken m behind).1 with
    | .named q, _, _ => elements m fuel false (fun c => p c || q c) rest
    | .same d, _, _ => elements m fuel false (fun c => p c || c == d) rest
    | .sign _, .finish, _ | .sign _, .hyphen, .finish => throw .badBracket
    | .sign d, .hyphen, .closing =>
      let (_, after) := bracketToken m behind
      return (fun c => p c || c == d || c == '-', after)
    | .sign low, .hyphen, t =>
      let (b, after) ← element m true t (bracketToken m behind).2
      match b with
      | .sign high =>
        if high < low && !m.hasEmptyRanges then throw .badRange
        elements m fuel false (fun c => p c || (low ≤ c && c ≤ high)) after
      | _ => throw .badRange
    | .sign d, _, _ => elements m fuel false (fun c => p c || c == d) rest

def brackets (m : Manner) : Read Regex := do
  let s ← get
  let (isNegated, text) := match s.rest with
    | '^' :: text => (true, text)
    | text => (false, text)
  if text.isEmpty then throw .invalid
  let (p, rest) ← elements m (text.length + 1) true (fun _ => false) text
  if m.isLenient && !m.hasEmptyRanges then
    let inner := text.takeWhile (· != ']')
    if 1 < inner.length && inner.head? = some ':' && inner.getLast? = some ':' then
      throw .badClassPlace
  set { s with rest := rest }
  return signs m (if isNegated then fun c => !p c else p)

def repeatLimit : Nat := 32767

/-- Read a number of repeats up to a comma or the closing brace: no digits are no number, and
anything else makes it invalid. -/
def bound (m : Manner) : Nat → Option (Option Nat) → Read (Option (Option Nat))
  | 0, _ => return none
  | fuel + 1, n => do
    fetch m false
    match ← token with
    | .finish => return none
    | .closeBrace | .sign ',' => return n
    | .sign c =>
      bound m fuel (match n with
        | some n =>
          if c.isDigit then some (some (min (repeatLimit + 1) (n.getD 0 * 10 + (c.toNat - 48))))
          else none
        | none => none)
    | _ => bound m fuel none

def bounds (m : Manner) : Read (Option (Nat × Option Nat)) := do
  let before ← get
  let fuel := before.rest.length + 1
  let low ← bound m fuel (some none)
  let low ← match low, ← token with
    | some none, .sign ',' => pure (some 0)
    | some none, _ => throw .badInterval
    | some (some n), _ => pure (some n)
    | none, _ => pure none
  let high ← match low, ← token with
    | none, _ => pure none
    | some n, .closeBrace => pure (some (some n))
    | some _, .sign ',' => bound m fuel (some none)
    | some _, _ => pure none
  match low, high with
  | some low, some high =>
    if (← token) ≠ .closeBrace || high.any (· < low) then throw .badInterval
    if repeatLimit < high.getD low then throw .tooBig
    return some (low, high)
  | _, _ =>
    if m.isExtended && m.isLenient then
      set { before with token := .sign '{' }
      return none
    if (← token) = .finish then throw .badBrace
    throw .badInterval

def repeated (m : Manner) : Nat → Regex → Read Regex
  | 0, a => return a
  | fuel + 1, a => do
    let found ← match ← token with
      | .star => pure (some (0, none))
      | .plus => pure (some (1, none))
      | .question => pure (some (0, some 1))
      | .openBrace => bounds m
      | _ => pure none
    match found with
    | none => return a
    | some (least, most) =>
      fetch m false
      let next ← token
      if !m.isExtended && !m.isLenient && (next = .star || next = .openBrace) then
        throw .badRepeat
      repeated m fuel (if most = some 0 then .nothing else .times a least most)

mutual

def alternatives (m : Manner) (fuel depth : Nat) : Read Regex := do
  match fuel with
  | 0 => throw .invalid
  | fuel + 1 =>
    let known := (← get).closed
    further m fuel depth known (← row m fuel depth)

def further (m : Manner) (fuel depth : Nat) (known : List Nat) (a : Regex) : Read Regex := do
  match fuel with
  | 0 => throw .invalid
  | fuel + 1 =>
    if (← token) ≠ .choice then return a
    fetch m true
    if ← isOver depth then further m fuel depth known (.choice a .nothing)
    else
      let closed := (← get).closed
      modify fun s => { s with closed := known }
      let b ← row m fuel depth
      modify fun s => { s with closed := s.closed ++ closed }
      further m fuel depth known (.choice a b)

def row (m : Manner) (fuel depth : Nat) : Read Regex := do
  match fuel with
  | 0 => throw .invalid
  | fuel + 1 => rowFrom m fuel depth (← part m fuel depth)

def rowFrom (m : Manner) (fuel depth : Nat) (before : Regex) : Read Regex := do
  match fuel with
  | 0 => throw .invalid
  | fuel + 1 =>
    if ← isOver depth then return before
    rowFrom m fuel depth (.sequence before (← part m fuel depth))

def part (m : Manner) (fuel depth : Nat) : Read Regex := do
  match fuel with
  | 0 => throw .invalid
  | fuel + 1 =>
    let t ← token
    let one (a : Regex) : Read Regex := do
      fetch m false
      repeated m ((← get).rest.length + 1) a
    match t with
    | .choice | .finish => return .nothing
    | .backslash => throw .badBackslash
    | .sign c => one (literal m c)
    | .any => one (.sign fun _ => true)
    | .escape c => one (.sign (escapeSet c))
    | .bracket => one (← brackets m)
    | .again n =>
      if !(← get).closed.contains n then throw .badReference
      one (.again n)
    | .anchor a =>
      fetch m true
      return .anchor a
    | .opening =>
      let n := (← get).count + 1
      modify fun s => { s with count := n }
      fetch m true
      let a ← if (← token) = .closing then pure .nothing
        else alternatives m fuel (depth + 1)
      if (← token) ≠ .closing then throw .badParenthesis
      modify fun s => { s with closed := n :: s.closed }
      one (.group n a)
    | .star | .plus | .question | .openBrace =>
      if !m.isLenient && (m.isExtended || t = .openBrace) then throw .badRepeat
      if m.isExtended then
        fetch m false
        part m fuel depth
      else one (literal m t.literal)
    | .closing =>
      if m.isExtended && m.isLenient then one (literal m ')') else throw .extraParenthesis
    | .closeBrace => one (literal m '}')

def isOver (depth : Nat) : Read Bool := do
  let t ← token
  return t = .choice || t = .finish || (t = .closing && 0 < depth)

end

def read (m : Manner) (text : List Char) : Except Fault (Regex × Nat) := do
  let start : Read Regex := do
    fetch m true
    alternatives m (6 * text.length + 12) 0
  let (a, s) ← start.run ⟨.finish, text, 0, []⟩
  return (a, s.count)

def Manner.easy : Manner := { isExtended := false, isLenient := true, hasEmptyRanges := true }

end Cosim.Script.Regex
