import Cosim.Text.WordCharacter

namespace Cosim.Text.Terminal

def escape : Char := '\x1b'

def inRange (low high : Nat) (c : Char) : Bool := low ≤ c.toNat && c.toNat ≤ high

/-- The rest after a control sequence, whose escape and bracket have been read: parameters,
intermediate characters and a final one. -/
def afterControl? (s : List Char) : Option (List Char) :=
  match (s.dropWhile (inRange 0x30 0x3f)).dropWhile (inRange 0x20 0x2f) with
  | c :: rest => if inRange 0x40 0x7e c then some rest else none
  | [] => none

/-- Where a list of parameters `key=value` of a link stands, between two of its characters. In
`a=bc=d` the second key is the end of `bc`. -/
inductive LinkParameters where
  | between
  | key
  | equals
  | shortValue
  | value
deriving DecidableEq, Repr

def LinkParameters.next? (p : LinkParameters) (c : Char) : Option LinkParameters :=
  if WordCharacter.isWordCharacter c then
    match p with
    | .between | .key => some .key
    | .equals => some .shortValue
    | .shortValue | .value => some .value
  else if c = '=' then
    match p with
    | .key | .value => some .equals
    | _ => none
  else if c = ':' then
    match p with
    | .shortValue | .value => some .between
    | _ => none
  else none

def afterParameters? (p : LinkParameters) : List Char → Option (List Char)
  | [] => none
  | c :: rest =>
    if c = ';' then
      match p with
      | .between | .shortValue | .value => some rest
      | _ => none
    else match p.next? c with
      | some p => afterParameters? p rest
      | none => none

def afterText? : List Char → List Char → Option (List Char)
  | [], s => some s
  | c :: cs, d :: rest => if c = d then afterText? cs rest else none
  | _ :: _, [] => none

/-- What stands before the next escape, unless it is nothing, and the rest from there. -/
def beforeEscape? (s : List Char) : Option (List Char × List Char) :=
  let found := s.takeWhile (· != escape)
  if found.isEmpty then none else some (found, s.dropWhile (· != escape))

def link? (s : List Char) : Option (List Char × List Char) := do
  let rest ← afterParameters? .between s
  let (_, rest) ← beforeEscape? rest
  let rest ← afterText? [escape, '\\'] rest
  let (shown, rest) ← beforeEscape? rest
  let rest ← afterText? [escape, ']', '8', ';', ';', escape, '\\'] rest
  return (shown, rest)

def sequence? : List Char → Option (List Char × List Char)
  | c :: '[' :: rest =>
    if c = escape then (afterControl? rest).map fun rest => ([], rest) else none
  | c :: ']' :: '8' :: ';' :: rest => if c = escape then link? rest else none
  | _ => none

def hasSequence : List Char → Bool
  | [] => false
  | c :: rest => (sequence? (c :: rest)).isSome || hasSequence rest

def shownAfter : Nat → List Char → List Char
  | _, [] => []
  | skip + 1, _ :: rest => shownAfter skip rest
  | 0, c :: rest =>
    match sequence? (c :: rest) with
    | some (seen, after) => seen ++ shownAfter (rest.length - after.length) rest
    | none => c :: shownAfter 0 rest

def shown (s : List Char) : List Char := shownAfter 0 s

end Cosim.Text.Terminal
