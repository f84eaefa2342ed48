import Cosim.Script.Format
import Cosim.Script.Regex.Reader
import Cosim.Script.Tool.Basic

namespace Cosim.Script.Tool

open Cosim.Numeral Step

/-- A part of a set: characters in their order, a class, or a character that stands as often as it
takes to reach the length of another set. -/
inductive SetPart where
  | signs (s : List Char)
  | named (name : String) (s : List Char)
  | filling (c : Char)

def allSigns : List Char := (List.range 256).map Char.ofNat

def signsBetween (low high : Char) : List Char :=
  (List.range (high.toNat + 1 - low.toNat)).map fun n => Char.ofNat (low.toNat + n)

/-- The character that a set begins with, whether it was written with a backslash, and what follows
it. -/
def setSign : List Char → Option (Char × Bool × List Char)
  | [] => none
  | ['\\'] => some ('\\', false, [])
  | '\\' :: c :: rest =>
    if (Format.octalDigit? c).isSome then
      let (c, after) := Format.octal 3 (c :: rest)
      some (c, true, after)
    else if c = 'e' then some ('e', true, rest)
    else some ((Format.letter? c).getD c, true, rest)
  | c :: rest => some (c, false, rest)

/-- How often a character is to stand, and what follows the bracket behind it. -/
def repetition? (s : List Char) : Option (Option Nat × List Char) :=
  let ds := s.takeWhile isDecimalDigit
  match s.drop ds.length with
  | ']' :: rest =>
    if ds.isEmpty then some (none, rest)
    else
      let n := if ds.head? = some '0' then valueBy Format.octalDigit? 8 ds else decimalValue ds
      some (if n = 0 then none else some n, rest)
  | _ => none

def shownSign (c : Char) : String :=
  if isPrintable c then String.singleton c
  else String.ofList ('\\' :: zeroFill 3 (digits 8 c.toNat))

def setParts : Nat → List Char → Except String (List SetPart)
  | 0, _ | _, [] => .ok []
  | fuel + 1, '[' :: ':' :: rest =>
    let name := String.ofList (rest.takeWhile Char.isAlpha)
    match rest.drop name.length with
    | ':' :: ']' :: after =>
      match Regex.class? name with
      | none => .error ("invalid character class " ++ slashed name)
      | some p => (setParts fuel after).map (.named name (allSigns.filter p) :: ·)
    | _ => (setParts fuel (':' :: rest)).map (.signs ['['] :: ·)
  | fuel + 1, '[' :: '=' :: c :: '=' :: ']' :: rest => (setParts fuel rest).map (.signs [c] :: ·)
  | fuel + 1, s =>
    let repeated : Option (Char × Option Nat × List Char) := match s with
      | '[' :: rest => match setSign rest with
        | some (c, _, '*' :: after) => (repetition? after).map fun (n, rest) => (c, n, rest)
        | _ => none
      | _ => none
    match repeated, setSign s with
    | some (c, some n, after), _ => (setParts fuel after).map (.signs (List.replicate n c) :: ·)
    | some (c, none, after), _ => (setParts fuel after).map (.filling c :: ·)
    | none, none => .ok []
    | none, some (low, _, '-' :: after) =>
      match setSign after with
      | none => (setParts fuel ['-']).map (.signs [low] :: ·)
      | some (high, _, rest) =>
        if high < low then
          .error ("range-endpoints of '" ++ shownSign low ++ "-" ++ shownSign high ++
            "' are in reverse collating sequence order")
        else (setParts fuel rest).map (.signs (signsBetween low high) :: ·)
    | none, some (c, _, rest) => (setParts fuel rest).map (.signs [c] :: ·)

def SetPart.text : SetPart → List Char
  | .signs s | .named _ s => s
  | .filling _ => []

def members (parts : List SetPart) : List Char := parts.flatMap SetPart.text

def targets (size : Nat) (isCut : Bool) (parts : List SetPart) : List Char :=
  let missing := size - (members parts).length
  let s := parts.flatMap fun part => match part with
    | .filling c => List.replicate missing c
    | part => part.text
  if isCut then s
  else s ++ List.replicate (size - s.length) (s.getLast?.getD ' ')

def squeeze (set : Array Bool) (s : List Char) : List Char :=
  (s.foldl (fun (kept, last) c =>
    if last = some c && set.getD c.toNat false then (kept, last) else (c :: kept, some c))
    (([] : List Char), (none : Option Char))).1.reverse

def tableOf (s : List Char) : Array Bool :=
  s.foldl (fun table c => table.set! c.toNat true) (Array.replicate 256 false)

def casePlaces (parts : List SetPart) : List Nat :=
  (parts.foldl (fun (places, n) part => match part with
    | .named name s =>
      (if name == "upper" || name == "lower" then n :: places else places, n + s.length)
    | part => (places, n + part.text.length)) (([] : List Nat), 0)).1

def targetFault? (isCut : Bool) (first second : List SetPart) : Option String :=
  if second.any fun part => match part with
      | .named name _ => name != "upper" && name != "lower"
      | _ => false then
    some ("when translating, the only character classes that may appear in\nstring2 are " ++
      "'upper' and 'lower'")
  else if !(casePlaces second).all (casePlaces first).contains then
    some "misaligned [:upper:] and/or [:lower:] construct"
  else if !isCut && (second.isEmpty) then
    some "when not truncating set1, string2 must be non-empty"
  else none

def tr (name : String) (args : List String) : Step Nat := do
  let g := Given.readLeading
    [flag "c" "complement", flag "C", flag "d" "delete", flag "s" "squeeze-repeats",
      flag "t" "truncate-set1"] args
  obey name g anyValue do
    let (deletes, squeezes) := (g.has "d", g.has "s")
    let needsTwo := deletes == squeezes
    let say2 (text : String) : Step Unit := discard (sayLine 2 text)
    match g.operands with
    | [] => return ← usage name "missing operand"
    | [one] =>
      if needsTwo then
        discard (complain name ("missing operand after " ++ slashed one))
        say2 (if deletes then
          "Two strings must be given when both deleting and squeezing repeats."
          else "Two strings must be given when translating.")
        return ← pointToHelp name 1
    | [_, two] =>
      if deletes && !squeezes then
        discard (complain name ("extra operand " ++ slashed two))
        say2 "Only one string may be given when deleting without squeezing repeats."
        return ← pointToHelp name 1
    | _ :: _ :: extra :: _ => return ← usage name ("extra operand " ++ slashed extra)
    let endsBare (s : String) : Bool := (s.toList.reverse.takeWhile (· == '\\')).length % 2 = 1
    (g.operands.take 2).forM fun s => do
      if endsBare s then
        discard (complain name "warning: an unescaped backslash at end of string is not portable")
    let read (s : String) : Except String (List SetPart) := setParts s.length s.toList
    match read (g.operands.headD ""), read ((g.operands[1]?).getD "") with
    | .error text, _ | _, .error text => complain name text
    | .ok first, .ok second =>
      let hasTargets := 1 < g.operands.length && !deletes
      if hasTargets then
        if let some text := targetFault? (g.has "t") first second then
          return ← complain name text
      let set := members first
      let set := if g.has "c" || g.has "C" then
          let table := tableOf set
          allSigns.filter fun c => !table.getD c.toNat false
        else set
      let text := (Octets.write (← flowing 0)).toList
      let goals := targets set.length (g.has "t") second
      let text :=
        if deletes then
          let table := tableOf set
          text.filter fun c => !table.getD c.toNat false
        else if hasTargets then
          let table := (set.zip goals).foldl (fun (table : Array Char) (c, d) =>
            table.set! c.toNat d) allSigns.toArray
          text.map fun c => table.getD c.toNat c
        else text
      let text :=
        if !squeezes then text
        else squeeze (tableOf (if g.operands.length = 1 then set
          else if deletes then members second else goals)) text
      discard (say 1 (String.ofList text))
      return 0

end Cosim.Script.Tool
