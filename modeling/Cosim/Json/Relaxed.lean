import Cosim.Json.Reader

namespace Cosim.Json.Relaxed

open Cosim.Numeral Cosim.Text

/-- What is wrong at a place. -/
inductive Problem where
  | noValue
  | noColon
  | extraData
  | unterminated
  | controlCharacter
  | badEscape
  | badNumberedEscape
  | openList
  | noKey
  | emptyKey
  | blankInKey
  | punctuatorInKey (c : Char)
  | punctuator
  | openMultiline
deriving DecidableEq, Repr

/-- What makes the reader give up without naming a place. -/
inductive Abandon where
  | endOfText
  | tooLong (digits : Nat)
  | infinite
  | noCharacter
deriving DecidableEq, Repr

inductive Stop where
  | problem (p : Problem) (rest : List Char)
  | abandon (a : Abandon)
deriving DecidableEq, Repr

/-- A problem with its place, what stands there, and the place of the end of the text. -/
structure Malformed where
  problem : Problem
  place : Place
  found : List Char
  last : Place
deriving DecidableEq, Repr

inductive Fault where
  | malformed (m : Malformed)
  | abandoned (a : Abandon)
deriving DecidableEq, Repr

def Problem.message (found : List Char) : Problem → String
  | .noValue => "Expecting value"
  | .noColon => "Expecting ':' delimiter"
  | .extraData => "Extra data"
  | .unterminated => "Unterminated string starting at"
  | .controlCharacter => "Invalid control character " ++ Quoted.quote found ++ " at"
  | .badEscape => "Invalid \\X escape sequence " ++ Quoted.quote found
  | .badNumberedEscape => "Invalid \\uXXXX escape sequence"
  | .openList => "End of input while parsing an array (did you forget a closing ']'?)"
  | .noKey => "Bad key name (eof)"
  | .emptyKey => "Found ':' but no key name (for an empty key name use quotes)"
  | .blankInKey => "Found whitespace in your key name (use quotes to include)"
  | .punctuatorInKey c =>
    "Found '" ++ String.singleton c ++ "' where a key name was expected (check your syntax or " ++
      "use quotes if the key name includes \x7b\x7d[],: or whitespace)"
  | .punctuator =>
    "Found a punctuator character when expecting a quoteless string (check your syntax)"
  | .openMultiline => "Bad multiline string"

def Malformed.message (m : Malformed) : String :=
  let start := m.problem.message m.found ++ ": " ++ m.place.lineColumn
  if m.problem = .extraData then
    start ++ " - " ++ m.last.lineColumn ++ " (char " ++ toString m.place.offset ++ " - " ++
      toString m.last.offset ++ ")"
  else start ++ " (char " ++ toString m.place.offset ++ ")"

def Abandon.message : Abandon → String
  | .endOfText => "string index out of range"
  | .tooLong n => (Integer.Fault.tooLong n).message
  | .infinite => "cannot convert float infinity to integer"
  | .noCharacter => "chr() arg not in range(0x110000)"

def Stop.locate (text : List Char) : Stop → Fault
  | .problem p rest => .malformed ⟨p, .ofRest text rest, rest.take 1, .after text text.length⟩
  | .abandon a => .abandoned a

abbrev Step (α : Type) := Except Stop (α × List Char)

def fail {α : Type} (p : Problem) (rest : List Char) : Except Stop α := .error (.problem p rest)

inductive Between where
  | values
  | lineComment
  | blockComment
deriving DecidableEq, Repr

def skipFrom : Between → List Char → Except Stop (List Char)
  | .blockComment, [] => .error (.abandon .endOfText)
  | .blockComment, '*' :: '/' :: rest => skipFrom .values rest
  | .blockComment, _ :: rest => skipFrom .blockComment rest
  | _, [] => .ok []
  | .lineComment, c :: rest =>
    if c = '\n' ∨ c = '\r' then skipFrom .values rest else skipFrom .lineComment rest
  | .values, '/' :: '/' :: rest => skipFrom .lineComment rest
  | .values, '/' :: '*' :: rest => skipFrom .blockComment rest
  | .values, c :: rest =>
    if Reader.isSpace c then skipFrom .values rest
    else if c = '#' then skipFrom .lineComment rest
    else .ok (c :: rest)

def skip (s : List Char) : Except Stop (List Char) := skipFrom .values s

def unescape? (c : Char) : Option Char :=
  if c = '\'' then some c else Reader.unescape? c

/-- Four characters as a number to base 16. The second may not be a mark. -/
def four? (a b c d : Char) : Option Int :=
  if b = 'x' ∨ b = 'X' then none
  else match Integer.readHex [a, b, c, d] with
    | .ok n => some n
    | .error _ => none

def units (start : List Char) (quote : Char) : List Char → Step (List Nat)
  | [] => fail .unterminated start
  | '\\' :: 'u' :: a :: b :: c :: d :: rest =>
    match four? a b c d with
    | none => fail .badNumberedEscape ('\\' :: 'u' :: a :: b :: c :: d :: rest)
    | some n =>
      if n < 0 then .error (.abandon .noCharacter)
      else (units start quote rest).map (Reader.consUnit n.toNat)
  | '\\' :: c :: rest =>
    if c = 'u' then fail .badNumberedEscape ('\\' :: c :: rest)
    else match unescape? c with
      | some e => (units start quote rest).map (Reader.consUnit e.toNat)
      | none => fail .badEscape (c :: rest)
  | c :: rest =>
    if c = quote then .ok ([], rest)
    else if c = '\\' then fail .unterminated start
    else if c.toNat < 32 then fail .controlCharacter rest
    else (units start quote rest).map (Reader.consUnit c.toNat)

def string (quote : Char) (rest : List Char) : Step Wide :=
  (units (quote :: rest) quote rest).map fun (us, rest) => (Reader.joinHalves us, rest)

def isIndent (c : Char) : Bool := c == ' ' || c == '\t' || c == '\r'

def push (cs : List Char) : List Char × List Char → List Char × List Char
  | (text, rest) => (cs ++ text, rest)

def multilineFrom (indent : Nat) : Nat → Nat → List Char → Step (List Char)
  | _, _, [] => fail .openMultiline []
  | quotes, left, c :: rest =>
    if left ≠ 0 ∧ isIndent c then multilineFrom indent quotes (left - 1) rest
    else if c = '\'' then
      if quotes = 2 then .ok ([], rest) else multilineFrom indent (quotes + 1) 0 rest
    else
      let before := List.replicate quotes '\''
      if c = '\n' then (multilineFrom indent 0 indent rest).map (push (before ++ [c]))
      else if c = '\r' then (multilineFrom indent 0 0 rest).map (push before)
      else (multilineFrom indent 0 0 rest).map (push (before ++ [c]))

def dropLastNewline (s : List Char) : List Char :=
  if s.getLast? = some '\n' then s.dropLast else s

/-- The indentation of a text between triple apostrophes that starts where `rest` does: what stands
before it in its line. The first line goes on before its start with the last line of the text, so a
text without a newline has no indentation. -/
def indentation? (text rest : List Char) : Option Nat :=
  let before := text.take (text.length - rest.length)
  let column := (before.reverse.takeWhile (· != '\n')).length
  if before.contains '\n' then some column
  else if text.contains '\n' then some (column + (text.reverse.takeWhile (· != '\n')).length)
  else none

def multiline (indent : Nat) (s : List Char) : Step Wide :=
  let body : Step (List Char) := match s.dropWhile isIndent with
    | [] => .error (.abandon .endOfText)
    | '\n' :: rest => multilineFrom indent 0 indent rest
    | rest => multilineFrom indent 0 0 rest
  body.map fun (text, rest) => (Wide.ofChars (dropLastNewline text), rest)

def isBracket (c : Char) : Bool := c == '\x7b' || c == '\x7d' || c == '[' || c == ']' || c == ','

/-- Read a key without quotes up to its colon. `noted` is where its first blanks end, and
`adjacent` tells that nothing stands between these and what is still to come. A key that ends in
blanks loses white space of every kind there. -/
def bareKey (start : List Char) (seen : List Char) (noted : Option (List Char)) (adjacent : Bool) :
    List Char → Step Wide
  | [] => fail .noKey []
  | c :: rest =>
    if c = ':' then
      if seen.isEmpty then fail .emptyKey start
      else match noted, adjacent with
        | some blank, false => fail .blankInKey blank
        | some _, true => .ok (Wide.ofChars (seen.dropWhile Blank.isBlank).reverse, c :: rest)
        | none, _ => .ok (Wide.ofChars seen.reverse, c :: rest)
    else if Reader.isSpace c then
      if noted.isNone || adjacent then bareKey start (c :: seen) (some (c :: rest)) true rest
      else bareKey start (c :: seen) noted false rest
    else if isBracket c then fail (.punctuatorInKey c) start
    else bareKey start (c :: seen) noted false rest

def key (s : List Char) : Step Wide :=
  match s with
  | '"' :: rest => string '"' rest
  | '\'' :: rest => string '\'' rest
  | s => bareKey s [] none false s

def isAnyDigit (c : Char) : Bool := (DecimalDigit.value? c).isSome

def simplify (x : Decimal.Binary64) : Except Stop Value :=
  match x with
  | .infinite _ => .error (.abandon .infinite)
  | x => match x.toInt? with
    | some n => .ok (if n.natAbs < 10 ^ 10 then .int n else .real x)
    | none => .ok (.real x)

def ofNumber (t : NumberText) : Except Stop Value :=
  if t.isInteger then
    match t.toInt with
    | .ok n => .ok (.int n)
    | .error _ => .error (.abandon (.tooLong t.whole.length))
  else simplify t.toReal

/-- The value of a text without quotes that is a name or a number and nothing else. Blanks of any
kind may follow a name, but only spaces and tabulators a number. -/
def literal? (s : List Char) : Option (Except Stop Value) :=
  let trimmed := Blank.trimEnd s
  if trimmed = "null".toList then some (.ok .null)
  else if trimmed = "true".toList then some (.ok (.bool true))
  else if trimmed = "false".toList then some (.ok (.bool false))
  else match NumberText.scan? isAnyDigit s with
    | some (t, rest) =>
      if rest.all fun c => c == ' ' || c == '\t' then some (ofNumber t) else none
    | none => none

def endsLine : List Char → Bool
  | [] => true
  | c :: _ => c == '\n' || c == '\r'

def endsLiteral : List Char → Bool
  | [] => true
  | '/' :: c :: _ => c == '/' || c == '*'
  | c :: _ => c == '\n' || c == '\r' || c == ',' || c == '\x7d' || c == ']' || c == '#'

def bareText (seen : List Char) : Value := .text (Wide.ofChars (Blank.trim seen.reverse))

def bareFrom (seen : List Char) : List Char → Step Value
  | [] => ((literal? seen.reverse).getD (.ok (bareText seen))).map fun v => (v, [])
  | c :: rest =>
    match if endsLiteral (c :: rest) then literal? seen.reverse else none with
    | some v => v.map fun v => (v, c :: rest)
    | none =>
      if endsLine (c :: rest) then .ok (bareText seen, c :: rest) else bareFrom (c :: seen) rest

def bare (s : List Char) : Step Value :=
  match s with
  | [] => fail .noValue []
  | c :: rest =>
    if isBracket c || c == ':' then fail .punctuator (c :: rest) else bareFrom [] (c :: rest)

def skipComma (s : List Char) : Except Stop (List Char) :=
  match s with
  | ',' :: rest => skip rest
  | s => .ok s

mutual

def value (text : List Char) : Nat → List Char → Except Stop (Value × List Char)
  | 0, s => fail .noValue s
  | fuel + 1, s =>
    match s with
    | [] => fail .noValue []
    | '"' :: rest => (string '"' rest).map fun (t, rest) => (.text t, rest)
    | '\'' :: '\'' :: '\'' :: rest =>
      match indentation? text s with
      | some indent => (multiline indent rest).map fun (t, rest) => (.text t, rest)
      | none => .error (.abandon .endOfText)
    | '\'' :: rest => (string '\'' rest).map fun (t, rest) => (.text t, rest)
    | '\x7b' :: rest =>
      (members text fuel true rest).map fun (ms, rest) => (.record (collect ms), rest)
    | '[' :: rest => do
      match ← skip rest with
      | [] => fail .openList []
      | ']' :: rest => .ok (.list [], rest)
      | rest => (items text fuel rest).map fun (vs, rest) => (.list vs, rest)
    | s => bare s

/-- Read members up to the closing brace, or to the end of the text if there are no braces. -/
def members (text : List Char) :
    Nat → Bool → List Char → Except Stop (List (Wide × Value) × List Char)
  | 0, _, s => fail .noKey s
  | fuel + 1, braces, s => do
    let s ← skip s
    match s, braces with
    | '\x7d' :: rest, true => .ok ([], rest)
    | [], false => .ok ([], [])
    | s, braces => do
      let (name, rest) ← key s
      let rest ← skip rest
      match rest with
      | ':' :: rest => do
        let (v, rest) ← value text fuel (← skip rest)
        let rest ← skipComma (← skip rest)
        (members text fuel braces rest).map fun (ms, rest) => ((name, v) :: ms, rest)
      | rest => fail .noColon rest

def items (text : List Char) : Nat → List Char → Except Stop (List Value × List Char)
  | 0, s => fail .noValue s
  | fuel + 1, s => do
    let (v, rest) ← value text fuel s
    let rest ← skipComma (← skip rest)
    match ← skip rest with
    | ']' :: rest => .ok ([v], rest)
    | rest => (items text fuel rest).map fun (vs, rest) => (v :: vs, rest)

end

def splitMark : List Char → Bool × List Char
  | '\uFEFF' :: rest => (true, rest)
  | '\xEF' :: '\xBB' :: '\xBF' :: rest => (true, rest)
  | s => (false, s)

def openMembers (text : List Char) (fuel : Nat) (s : List Char) :
    Except Stop (List (Wide × Value) × List Char) :=
  if s.isEmpty then fail .noKey s else members text fuel false s

/-- Read members without braces, or if that fails a single value. -/
def unbraced (text : List Char) (fuel : Nat) (s : List Char) : Except Stop (Value × List Char) :=
  match openMembers text fuel s with
  | .ok (ms, rest) => .ok (.record (collect ms), rest)
  | .error (.abandon a) => .error (.abandon a)
  | .error (.problem p place) =>
    match value text fuel s with
    | .ok found => .ok found
    | .error _ => .error (.problem p place)

def root (text : List Char) : Except Stop (Value × List Char) := do
  let (marked, body) := splitMark text
  let fuel := 2 * text.length + 4
  match ← skip body, marked with
  | [], false => return (.record [], [])
  | '\x7b' :: rest, _ => value text fuel ('\x7b' :: rest)
  | '[' :: rest, _ => value text fuel ('[' :: rest)
  | s, _ => unbraced text fuel s

def document (text : List Char) : Except Stop Value := do
  let (v, rest) ← root text
  match ← skip rest with
  | [] => return v
  | rest => fail .extraData rest

def read (text : List Char) : Except Fault Value := (document text).mapError (Stop.locate text)

end Cosim.Json.Relaxed
