import Cosim.Script.Pattern
import Cosim.Script.Regex.Reader
import Cosim.Script.Tool.Calling

namespace Cosim.Script.Tool

open Cosim.Files Cosim.Numeral Step

inductive Sieve where
  | always (holds : Bool)
  | name (ignoresCase : Bool) (pattern : List Sign)
  | path (ignoresCase : Bool) (pattern : List Sign)
  | matching (r : Regex)
  | kind (letters : List Char)
  | isEmpty
  | isRunnable
  | size (order : Option Bool) (unit n : Nat)
  | prune
  | quit
  | print (stop : String)
  | delete
  | call (words : List String)
  | gather (words : List String)
  | negation (a : Sieve)
  | both (a b : Sieve)
  | either (a b : Sieve)
  | list (a b : Sieve)

namespace Sieve

def acts : Sieve → Bool
  | print _ | delete | call _ | gather _ | quit => true
  | negation a => a.acts
  | both a b | either a b | list a b => a.acts || b.acts
  | _ => false

def deletes : Sieve → Bool
  | delete => true
  | negation a => a.deletes
  | both a b | either a b | list a b => a.deletes || b.deletes
  | _ => false

end Sieve

/-- What is asked of the depth of files, and whether directories come after what is in them. -/
structure Reach where
  least : Nat
  most : Option Nat
  isInnerFirst : Bool

/-- Where the reading of an expression is. -/
structure SieveReading where
  rest : List String
  reach : Reach

abbrev ReadSieve (α : Type) := StateT SieveReading (Except String) α

namespace Sieve

def next? : ReadSieve (Option String) := return (← get).rest.head?

def skip : ReadSieve Unit := modify fun s => { s with rest := s.rest.tail }

def argument (part : String) : ReadSieve String := do
  match ← next? with
  | some w => skip *> pure w
  | none => throw ("missing argument to \x60" ++ part ++ "'")

def number (part : String) : ReadSieve Nat := do
  let w ← argument part
  if isDecimal w.toList then return decimalValue w.toList
  throw ("Expected a positive decimal integer argument to " ++ part ++ ", but got " ++ quoted w)

def words (part : String) : ReadSieve (List String × Bool) := do
  let rest := (← get).rest
  let body := rest.takeWhile (· != ";")
  let many := rest.takeWhile (· != "+")
  let isMany := many.length < body.length && many.getLast? = some "\x7b\x7d"
  let found := if isMany then many else body
  if found.length = rest.length || found.isEmpty then
    throw ("missing argument to \x60" ++ part ++ "'")
  modify fun s => { s with rest := rest.drop (found.length + 1) }
  if isMany && 1 < found.count "\x7b\x7d" then
    throw ("Only one instance of \x7b\x7d is supported with " ++ part ++ " ... +")
  return (found, isMany)

def sizeOf? (text : String) : Option Sieve :=
  let (order, body) := match text.toList with
    | '+' :: rest => (some true, rest)
    | '-' :: rest => (some false, rest)
    | rest => (none, rest)
  let ds := body.takeWhile isDecimalDigit
  let unit? : Option Nat := match body.drop ds.length with
    | [] | ['b'] => some 512
    | ['c'] => some 1
    | ['w'] => some 2
    | ['k'] => some 1024
    | ['M'] => some (1024 ^ 2)
    | ['G'] => some (1024 ^ 3)
    | _ => none
  if ds.isEmpty then none else unit?.map fun unit => size order unit (decimalValue ds)

def single (part : String) : ReadSieve Sieve := do
  match part with
  | "-true" => return always true
  | "-false" => return always false
  | "-name" => return name false (Pattern.ofText (← argument part).toList)
  | "-iname" => return name true (Pattern.ofText (← argument part).toLower.toList)
  | "-path" | "-wholename" => return path false (Pattern.ofText (← argument part).toList)
  | "-ipath" | "-iwholename" => return path true (Pattern.ofText (← argument part).toLower.toList)
  | "-regex" | "-iregex" =>
    match Regex.read { Regex.Manner.easy with ignoresCase := part == "-iregex" }
        (← argument part).toList with
    | .ok (r, _) => return matching r
    | .error fault => throw ("failed to compile regular expression: " ++ fault.message)
  | "-type" =>
    let w ← argument part
    match w.toList.find? (!"bcdpflsD,".toList.contains ·) with
    | some c => throw ("Unknown argument to -type: " ++ String.singleton c)
    | none => return kind w.toList
  | "-empty" => return isEmpty
  | "-executable" => return isRunnable
  | "-readable" | "-writable" => return always true
  | "-size" =>
    let w ← argument part
    match sizeOf? w with
    | some s => return s
    | none => throw ("Invalid argument \x60" ++ w ++ "' to -size")
  | "-prune" => return prune
  | "-quit" => return quit
  | "-print" => return print "\n"
  | "-print0" => return print "\x00"
  | "-delete" => return delete
  | "-exec" =>
    let (found, isMany) ← words part
    return if isMany then gather found.dropLast else call found
  | "-maxdepth" =>
    let n ← number part
    modify fun s => { s with reach := { s.reach with most := some n } }
    return always true
  | "-mindepth" =>
    let n ← number part
    modify fun s => { s with reach := { s.reach with least := n } }
    return always true
  | "-depth" | "-d" =>
    modify fun s => { s with reach := { s.reach with isInnerFirst := true } }
    return always true
  | "-mount" | "-xdev" | "-noleaf" | "-follow" | "-daystart" | "-warn" | "-nowarn" =>
    return always true
  | part =>
    if part.startsWith "-" then throw ("unknown predicate \x60" ++ part ++ "'")
    throw ("paths must precede expression: \x60" ++ part ++ "'")

def missing (sign : String) : String :=
  "invalid expression; you have used a binary operator '" ++ sign ++ "' with nothing before it."

mutual

def read (fuel k : Nat) : ReadSieve Sieve := do
  match fuel with
  | 0 => return always true
  | fuel + 1 =>
    match k with
    | 0 | 1 => further fuel k (← read fuel (k + 1))
    | 2 => further fuel 2 (← factor fuel)
    | _ => factor fuel

def further (fuel k : Nat) (a : Sieve) : ReadSieve Sieve := do
  match fuel with
  | 0 => return a
  | fuel + 1 =>
    match k, ← next? with
    | _, none | _, some ")" => return a
    | 0, some "," =>
      skip
      further fuel 0 (list a (← read fuel 1))
    | 1, some "-o" | 1, some "-or" =>
      skip
      further fuel 1 (either a (← read fuel 2))
    | 2, some "-a" | 2, some "-and" =>
      skip
      further fuel 2 (both a (← factor fuel))
    | 2, some w =>
      if [",", "-o", "-or"].contains w then return a
      further fuel 2 (both a (← factor fuel))
    | _, _ => return a

def factor (fuel : Nat) : ReadSieve Sieve := do
  match fuel with
  | 0 => return always true
  | fuel + 1 =>
    match ← next? with
    | none => throw "invalid expression"
    | some "(" =>
      skip
      if (← next?) = some ")" then throw "invalid expression; empty parentheses are not allowed."
      let a ← if (← next?).isNone then pure (always true) else read fuel 0
      if (← next?) ≠ some ")" then
        throw "invalid expression; I was expecting to find a ')' somewhere but did not see one."
      skip
      return a
    | some ")" => throw "invalid expression; you have too many ')'"
    | some w =>
      skip
      if w = "!" || w = "-not" then
        if (← next?).isNone then throw ("expected an expression after " ++ quoted w)
        return negation (← factor fuel)
      if ["-o", "-or", "-a", "-and", ","].contains w then throw (missing w)
      single w

end

end Sieve

/-- What a search has to remember: the paths gathered for calls, whether what is below the present
file is left out, whether it is over, and its status. -/
structure Hunt where
  gathered : List (List String × String)
  isPruned : Bool
  isOver : Bool
  status : Nat

/-- A file on the way: its path, its place and what is there. -/
structure Quarry where
  path : String
  place : Location
  node : Node

namespace Sieve

def fits (ignoresCase : Bool) (pattern : List Sign) (text : String) : Bool :=
  Pattern.isMatch pattern (if ignoresCase then text.toLower else text)

def pass (call : List String → Step Ending) (name : String) (q : Quarry) :
    Sieve → Hunt → Step (Bool × Hunt)
  | .always holds, h => return (holds, h)
  | .name ignoresCase pattern, h => return (fits ignoresCase pattern (lastName q.path ""), h)
  | .path ignoresCase pattern, h => return (fits ignoresCase pattern q.path, h)
  | .matching r, h =>
    return ((r.matchAt q.path.toList.toArray 0).any (·.stop == q.path.length), h)
  | .kind letters, h => return (letters.contains (match q.node with
      | .directory => 'd'
      | .file .. => 'f'
      | .device _ => 'c'), h)
  | .isEmpty, h => do
    let t ← tree
    return (match q.node with
      | .file content _ => content.isEmpty
      | .directory => (t.children (Octets.toText q.path)).isEmpty
      | .device _ => false, h)
  | .isRunnable, h => return (match q.node with
      | .file _ runnable => runnable
      | .directory => true
      | .device _ => false, h)
  | .size order unit n, h =>
    let octets := match q.node with
      | .file content _ => content.size
      | .directory => 4096
      | .device _ => 0
    let units := (octets + unit - 1) / unit
    return (match order with
      | none => units == n
      | some true => decide (n < units)
      | some false => decide (units < n), h)
  | .prune, h => return (true, { h with isPruned := true })
  | .quit, h => return (true, { h with isOver := true })
  | .print stop, h => do
    discard (say 1 (q.path ++ stop))
    return (true, h)
  | .delete, h => do
    if q.node = .directory && !((← tree).children (Octets.toText q.path)).isEmpty then
      let status ← complain name ("cannot delete " ++ quoted q.path ++ ": Directory not empty")
      return (false, { h with status := status })
    if q.path != "." then remove q.place
    return (true, h)
  | .call words, h => do
    let words := words.map fun w => w.replace "\x7b\x7d" q.path
    match ← call words with
    | .status status => return (status == 0, h)
    | .signal _ => return (false, h)
    | .refused _ reason =>
      discard (complain name (quoted (words.headD "") ++ ": " ++ reason))
      return (false, h)
  | .gather words, h => return (true, { h with gathered := (words, q.path) :: h.gathered })
  | .negation a, h => do
    let (holds, h) ← pass call name q a h
    return (!holds, h)
  | .both a b, h => do
    let (holds, h) ← pass call name q a h
    if !holds || h.isOver then return (false, h)
    pass call name q b h
  | .either a b, h => do
    let (holds, h) ← pass call name q a h
    if holds || h.isOver then return (true, h)
    pass call name q b h
  | .list a b, h => do
    let (_, h) ← pass call name q a h
    if h.isOver then return (false, h)
    pass call name q b h

end Sieve

def search (call : List String → Step Ending) (name : String) (reach : Reach) (sieve : Sieve) :
    Nat → Nat → String → Hunt → Step Hunt
  | 0, _, _, h => return h
  | fuel + 1, depth, path, h => do
    if h.isOver then return h
    let t ← tree
    match t.find (Octets.toText path), t.locate (Octets.toText path) with
    | .ok node, .ok place =>
      let own (h : Hunt) : Step Hunt := do
        if depth < reach.least then return h
        let (_, h) ← sieve.pass call name ⟨path, place, node⟩ h
        return h
      let below (h : Hunt) : Step Hunt := do
        if node ≠ .directory || reach.most.any (· ≤ depth) || h.isPruned then return h
        let names := ((t.children (Octets.toText path)).map Octets.ofText).mergeSort fun a b =>
          decide (a ≤ b)
        names.foldlM (fun h child =>
          search call name reach sieve fuel (depth + 1) (joinText path child)
            { h with isPruned := false }) h
      if reach.isInnerFirst then own { (← below h) with isPruned := false }
      else below (← own { h with isPruned := false })
    | .error e, _ | _, .error e =>
      return { h with status := ← complain name (quoted path ++ ": " ++ e.text) }

def find (caller : Caller) (name : String) (environment : List (String × String))
    (args : List String) : Step Nat := do
  let args := args.dropWhile ["-H", "-L", "-P"].contains
  let isPath (arg : String) : Bool :=
    !(1 < arg.length && arg.startsWith "-") && arg != "(" && arg != "!"
  let paths := args.takeWhile isPath
  let words := args.drop paths.length
  let call := caller environment
  let start : SieveReading := ⟨words, ⟨0, none, false⟩⟩
  let read : ReadSieve Sieve := do
    if words.isEmpty then return .always true
    let s ← Sieve.read (10 * words.length + 10) 0
    match ← Sieve.next? with
    | some _ => throw "invalid expression; you have too many ')'"
    | none => return s
  match read.run start with
  | .error text => complain name text
  | .ok (sieve, after) =>
    let reach := { after.reach with isInnerFirst := after.reach.isInnerFirst || sieve.deletes }
    let sieve := if sieve.acts then sieve else .both sieve (.print "\n")
    let size := (← tree).entries.length + 1
    let h ← (if paths.isEmpty then ["."] else paths).foldlM (fun h path =>
      search call name reach sieve size 0 path h) ⟨[], false, false, 0⟩
    let batches := (h.gathered.reverse.map Prod.fst).eraseDups
    batches.foldlM (fun status words => do
      let found := h.gathered.reverse.filterMap fun (ws, path) =>
        if ws == words then some path else none
      match ← call (words ++ found) with
      | .status 0 => return status
      | .status _ | .signal _ => return 1
      | .refused _ reason =>
        complain name (quoted (words.headD "") ++ ": " ++ reason)) h.status

end Cosim.Script.Tool
