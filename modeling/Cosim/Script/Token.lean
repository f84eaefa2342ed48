import Cosim.Script.Syntax

namespace Cosim.Script

/-- Where an arrow leads a channel. -/
inductive Arrow where
  | file (opened : Opened)
  | duplicate
  | document (indented : Bool)
deriving DecidableEq, Repr

inductive Token where
  | endOfText
  | sign (text : String)
  | newline
  | keyword (name : String)
  | arrow (channel : Nat) (leads : Arrow)
  | word (w : Word)

namespace Token

def keywords : List String :=
  ["!", "case", "do", "done", "elif", "else", "esac", "fi", "for", "if", "in", "then", "until",
    "while", "\x7b", "\x7d"]

def describe : Token → String
  | .endOfText => "end of file"
  | .newline => "newline"
  | .sign text => "\"" ++ text ++ "\""
  | .keyword name => "\"" ++ name ++ "\""
  | .arrow .. => "redirection"
  | .word _ => "word"

def isSign (text : String) : Token → Bool
  | .sign s => s == text
  | _ => false

def isKeyword (name : String) : Token → Bool
  | .keyword k => k == name
  | _ => false

def endsList : Token → Bool
  | .endOfText => true
  | .sign text => text == ")" || text == ";;"
  | .keyword name => ["do", "done", "elif", "else", "esac", "fi", "then", "\x7d"].contains name
  | _ => false

def asKeyword : Token → Token
  | .word w =>
    match w.plain? with
    | some s => if keywords.contains s then .keyword s else .word w
    | none => .word w
  | t => t

end Token

/-- A document that begins at the next line. -/
structure Pending where
  number : Nat
  delimiter : String
  isPlain : Bool
  indented : Bool
deriving Repr

/-- An alias whose text is being read: how much text follows it, and whether it ends in a blank. -/
structure OpenAlias where
  name : String
  rest : Nat
  endsBlank : Bool
deriving Repr

/-- A script while it is read: the text to come and its line, the documents so far and those that
are to begin, the last token, which may have been put back, and the aliases and which of them are
being read. -/
structure Source where
  input : List Char
  line : Nat
  documents : List (Nat × Word)
  count : Nat
  pending : List Pending
  last : Token
  isBack : Bool
  aliases : List (String × String)
  underway : List OpenAlias

/-- A text that is no script, with the line where this shows. -/
structure SyntaxFault where
  line : Nat
  text : String
deriving DecidableEq, Repr

abbrev Reader := StateT Source (Except SyntaxFault)

namespace Source

def start (input : List Char) (line count : Nat) : Source :=
  ⟨input, line, [], count, [], .newline, false, [], []⟩

def joints : List Char → Nat × List Char
  | '\\' :: '\n' :: rest => let (n, after) := joints rest; (n + 1, after)
  | rest => (0, rest)

def idle (isComment : Bool) : List Char → Nat × List Char
  | '\\' :: '\n' :: rest =>
    if isComment then (0, '\n' :: rest) else let (n, after) := idle false rest; (n + 1, after)
  | c :: rest =>
    if isComment then if c = '\n' then (0, c :: rest) else idle true rest
    else if c = ' ' ∨ c = '\t' then idle false rest
    else if c = '#' then idle true rest
    else (0, c :: rest)
  | [] => (0, [])

end Source

namespace Reader

def fault {α : Type} (text : String) : Reader α := do throw ⟨(← get).line, text⟩

def peek : Reader (Option Char) := return (← get).input.head?

def next : Reader (Option Char) := do
  let s ← get
  match s.input with
  | [] => return none
  | c :: rest =>
    set { s with input := rest, line := if c = '\n' then s.line + 1 else s.line }
    return some c

def skip : Reader Unit := discard next

def join : Reader Unit := modify fun s =>
  let (n, rest) := Source.joints s.input
  { s with input := rest, line := s.line + n }

def peekJoined : Reader (Option Char) := do
  join
  peek

def skipIdle : Reader Unit := modify fun s =>
  let (n, rest) := Source.idle false s.input
  { s with input := rest, line := s.line + n }

def accept (c : Char) : Reader Bool := do
  if (← peekJoined) == some c then
    skip
    return true
  return false

def takeWhile (p : Char → Bool) : Reader String := do
  join
  let s ← get
  let taken := s.input.takeWhile p
  set { s with input := s.input.drop taken.length }
  return String.ofList taken

def back : Reader Unit := modify fun s => { s with isBack := true }

def unexpected {α : Type} (wanted : Option Token) : Reader α := do
  let seen := (← get).last.describe ++ " unexpected"
  fault (match wanted with
    | none => seen
    | some t => seen ++ " (expecting " ++ t.describe ++ ")")

end Reader

end Cosim.Script
