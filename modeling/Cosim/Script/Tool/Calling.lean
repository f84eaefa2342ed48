import Cosim.Script.Signal
import Cosim.Script.Tool.Saying

namespace Cosim.Script.Tool

open Cosim.Files Cosim.Numeral Step

def interval? (text : String) : Option Nat :=
  let (body, factor) := match text.toList.reverse with
    | 's' :: rest => (rest.reverse, 1)
    | 'm' :: rest => (rest.reverse, 60)
    | 'h' :: rest => (rest.reverse, 3600)
    | 'd' :: rest => (rest.reverse, 86400)
    | _ => (text.toList, 1)
  if ["inf", "infinity"].contains (String.ofList body).toLower then some (10 ^ 30)
  else match Stepped.read (String.ofList body) with
    | some ⟨.ofNat units, places⟩ =>
      if body.contains '-' then none
        else some ((units * factor * 10 ^ 9 + 10 ^ places - 1) / 10 ^ places)
    | _ => none

def wait (size : Nat) : Step Unit := do
  let w ← world
  let goal := w.clock + size
  match w.deadline with
  | some deadline =>
    if deadline < goal then
      modifyWorld fun w => { w with clock := deadline }
      throw .expired
  | none => pure ()
  modifyWorld fun w => { w with clock := goal }

def sleep (name : String) (args : List String) : Step Nat := do
  let g := Given.readLeading [] args
  obey name g anyValue do
    if g.operands.isEmpty then return ← usage name "missing operand"
    let bad := g.operands.filter fun arg => (interval? arg).isNone
    if bad.isEmpty then
      wait (sumOf (g.operands.filterMap interval?))
      return 0
    bad.forM fun arg => discard (complain name ("invalid time interval " ++ quoted arg))
    pointToHelp name 1

/-- For how long a program may run, the signal that ends it then, and whether its status tells of
the signal. -/
structure Limit where
  size : Nat
  signal : Nat
  keepsStatus : Bool
  isLoud : Bool

/-- A program that is to be called. `refusal` is what a complaint says of it before the reason. -/
structure Errand where
  words : List String
  environment : List (String × String)
  directory : Option String
  limit : Option Limit
  refusal : String → String

/-- How the call of a program ends: with a status, by a signal, or at once, with a status and the
reason. -/
inductive Ending where
  | status (status : Nat)
  | signal (signal : Nat)
  | refused (status : Nat) (reason : String)

abbrev Caller := List (String × String) → List String → Step Ending

def Limit.within {α : Type} (l : Limit) (step : Step α) : Step (Option α) := do
  let w ← world
  let own := w.clock + l.size
  modifyWorld fun w => { w with deadline := some (min own (w.deadline.getD own)) }
  let found ← outcome step
  modifyWorld fun v => { v with deadline := w.deadline }
  match found with
  | .ok a => return some a
  | .error .expired => if own ≤ (← world).clock then return none else throw .expired
  | .error e => throw e

def Errand.carryOut (call : Caller) (name : String) (e : Errand) : Step Nat := do
  if let some path := e.directory then
    let t ← tree
    match t.find (Octets.toText path), t.locate (Octets.toText path) with
    | .ok .directory, .ok place =>
      modifyWorld fun w => { w with tree := ⟨w.tree.entries, place⟩ }
    | found, _ =>
      let reason := match found with
        | .error e => e.text
        | .ok _ => Errno.notDirectory.text
      discard (complain name ("cannot change directory to " ++ quoted path ++ ": " ++ reason))
      return 125
  let word := e.words.headD ""
  let ended (found : Ending) : Step Nat := do
    match found with
    | .status status => return status
    | .signal signal => throw (.died signal)
    | .refused status reason =>
      discard (complain name (e.refusal word ++ ": " ++ reason))
      if name = "env" && status = 127 && word.any Char.isWhitespace then
        discard (complain name "use -[v]S to pass options in shebang lines")
      return status
  match e.limit with
  | none => ended (← call e.environment e.words)
  | some limit =>
    match ← limit.within (call e.environment e.words) with
    | some found => ended found
    | none =>
      if limit.isLoud then
        discard (complain name ("sending signal " ++ Signal.name limit.signal ++ " to command " ++
          quoted word))
      if limit.signal = 9 then throw (.died 9)
      return if limit.keepsStatus then 128 + limit.signal else 124

def decline (name text : String) : Step (Except Nat Errand) := do
  discard (complain name text)
  return .error 125

def declineUsage (name text : String) : Step (Except Nat Errand) :=
  return .error (← usage name text 125)

def entrust (name : String) (g : Given) (step : Step (Except Nat Errand)) :
    Step (Except Nat Errand) :=
  match g.fault with
  | some text => declineUsage name text
  | none => step

/-- What is wrong with a text of words. -/
inductive SplitFault where
  | unclosed
  | endsInBackslash
  | unknownEscape (c : Char)
  | stopInQuotes
  | expansion (rest : String)

def SplitFault.message : SplitFault → String
  | .unclosed => "no terminating quote in -S string"
  | .endsInBackslash => "invalid backslash at end of string in -S"
  | .unknownEscape c => "invalid sequence '\\" ++ String.singleton c ++ "' in -S"
  | .stopInQuotes => "'\\c' must not appear in double-quoted -S string"
  | .expansion rest => "only $\x7bVARNAME\x7d expansion is supported, error at: " ++ rest

/-- How far a text of words has been read: the words before, last one first, and the word under way
with its last character first. -/
structure Splitting where
  words : List String
  word : Option (List Char)

namespace Splitting

def push (s : Splitting) (cs : List Char) : Splitting :=
  { s with word := some (cs.reverse ++ s.word.getD []) }

def close (s : Splitting) : Splitting :=
  match s.word with
  | none => s
  | some cs => ⟨String.ofList cs.reverse :: s.words, none⟩

def escape? (c : Char) : Option Char :=
  match c with
  | 'f' => some '\x0c'
  | 'n' => some '\n'
  | 'r' => some '\x0d'
  | 't' => some '\t'
  | 'v' => some '\x0b'
  | c => if "\"#$'\\".toList.contains c then some c else none

def from? (environment : List (String × String)) :
    Nat → Option Char → Splitting → List Char → Except SplitFault Splitting
  | 0, _, s, _ => .ok s.close
  | _ + 1, none, s, [] => .ok s.close
  | _ + 1, some _, _, [] => .error .unclosed
  | fuel + 1, quote, s, c :: rest =>
    let next := from? environment fuel
    let isSpace := c = ' ' || ('\t' ≤ c && c ≤ '\x0d')
    match c, quote, rest with
    | '\'', none, _ | '"', none, _ => next (some c) (s.push []) rest
    | '\'', some '\'', _ | '"', some '"', _ => next none s rest
    | '\\', some '\'', d :: rest =>
      next quote (s.push (if d = '\\' || d = '\'' then [d] else ['\\', d])) rest
    | '\\', _, [] => .error .endsInBackslash
    | '\\', _, '_' :: rest =>
      if quote.isSome then next quote (s.push [' ']) rest else next quote s.close rest
    | '\\', none, 'c' :: _ => .ok s.close
    | '\\', some _, 'c' :: _ => .error .stopInQuotes
    | '\\', _, d :: rest =>
      match escape? d with
      | some sign => next quote (s.push [sign]) rest
      | none => .error (.unknownEscape d)
    | '#', none, _ => if s.word.isNone then .ok s.close else next quote (s.push [c]) rest
    | '$', some '\'', _ => next quote (s.push [c]) rest
    | '$', _, '{' :: after =>
      let name := after.takeWhile fun d => d.isAlphanum || d = '_'
      if name.isEmpty || isDecimal (name.take 1) || (after.drop name.length).head? ≠ some '}' then
        .error (.expansion (String.ofList (c :: rest)))
      else
        next quote (s.push ((environment.lookup (String.ofList name)).getD "").toList)
          (after.drop (name.length + 1))
    | '$', _, _ => .error (.expansion (String.ofList (c :: rest)))
    | _, none, _ => if isSpace then next none s.close rest else next none (s.push [c]) rest
    | _, some _, _ => next quote (s.push [c]) rest

def split (environment : List (String × String)) (text : String) :
    Except SplitFault (List String) :=
  (from? environment (text.length + 1) none ⟨[], none⟩ text.toList).map fun s => s.words.reverse

end Splitting

def envSwitches : List Switch :=
  [flag "i" "ignore-environment", flag "0" "null", setting "u" "unset", setting "C" "chdir",
    setting "S" "split-string", flag "v" "debug", ⟨"block", "block-signal", .attached⟩,
    ⟨"default", "default-signal", .attached⟩, ⟨"ignore", "ignore-signal", .attached⟩,
    flag "list" "list-signal-handling"]

def withVariable (environment : List (String × String)) (name value : String) :
    List (String × String) :=
  if (environment.lookup name).isSome then
    environment.map fun e => if e.1 == name then (name, value) else e
  else environment ++ [(name, value)]

def splitTexts (environment : List (String × String)) : Nat → Given → Except SplitFault Given
  | 0, g => .ok g
  | fuel + 1, g =>
    match g.value? "S" with
    | none => .ok g
    | some text => do
      let words ← Splitting.split environment text
      let inner := Given.readLeading envSwitches (words ++ g.operands)
      splitTexts environment fuel { inner with
        found := g.found.filter (·.1 != "S") ++ inner.found }

def envErrand (name : String) (environment : List (String × String)) (args : List String) :
    Step (Except Nat Errand) := do
  let g := Given.readLeading envSwitches args
  if let some text := g.fault then
    let isSpaced := text.endsWith " '"
    discard (complain name text)
    if isSpaced then discard (complain name "use -[v]S to pass options in shebang lines")
    return .error (← pointToHelp name 125)
  match splitTexts environment args.length g with
  | .error fault => decline name fault.message
  | .ok g => entrust name g do
    let (isBare, operands) := match g.operands with
      | "-" :: rest => (true, rest)
      | operands => (g.has "i", operands)
    let settings := operands.takeWhile fun arg => arg.toList.contains '='
    let words := operands.drop settings.length
    let unset := (g.found.filter (·.1 == "u")).map Prod.snd
    if let some bad := unset.find? fun name => name.isEmpty || name.toList.contains '=' then
      return ← decline name ("cannot unset " ++ quoted bad ++ ": Invalid argument")
    let kept := if isBare then [] else environment.filter fun e => !unset.contains e.1
    let environment := settings.foldl (fun environment arg =>
      let key := arg.toList.takeWhile (· != '=')
      withVariable environment (String.ofList key)
        (String.ofList (arg.toList.drop (key.length + 1)))) kept
    if words.isEmpty then
      if g.has "C" then return ← declineUsage name "must specify command with --chdir (-C)"
      let stop := if g.has "0" then "\x00" else "\n"
      discard (say 1 (String.join (environment.map fun (name, value) =>
        name ++ "=" ++ value ++ stop)))
      return .error 0
    if g.has "0" then return ← declineUsage name "cannot specify --null (-0) with command"
    if g.has "v" then
      discard (sayLine 2 ("executing: " ++ words.headD ""))
      words.zipIdx.forM fun (w, i) =>
        discard (sayLine 2 ("   arg[" ++ toString i ++ "]= " ++ quoted w))
    return .ok ⟨words, environment, g.value? "C", none, quoted⟩

def plainErrand (switches : List Switch) (missing : String)
    (refusal : String → String) (name : String) (environment : List (String × String))
    (args : List String) : Step (Except Nat Errand) := do
  let g := Given.readLeading switches args
  entrust name g do
    if g.operands.isEmpty then return ← declineUsage name missing
    return .ok ⟨g.operands, environment, none, none, refusal⟩

def failedToRun (word : String) : String := "failed to run command " ++ quoted word

def niceErrand (name : String) (environment : List (String × String)) (args : List String) :
    Step (Except Nat Errand) := do
  let isShort (arg : String) : Bool :=
    match arg.toList with
    | '-' :: '-' :: ds | '-' :: '+' :: ds | '-' :: ds => isDecimal ds
    | _ => false
  let short := args.takeWhile isShort
  let g := Given.readLeading [setting "n" "adjustment"] (args.drop short.length)
  entrust name g do
    match g.value? "n" with
    | some n =>
      if !isShort ("-" ++ n) then
        return ← decline name ("invalid adjustment " ++ quoted n)
    | none => pure ()
    match g.operands with
    | [] =>
      if g.has "n" || !short.isEmpty then
        return ← declineUsage name "a command must be given with an adjustment"
      discard (sayLine 1 "0")
      return .error 0
    | words => return .ok ⟨words, environment, none, none, quoted⟩

def timeoutErrand (name : String) (environment : List (String × String)) (args : List String) :
    Step (Except Nat Errand) := do
  let g := Given.readLeading
    [flag "foreground" "foreground", setting "k" "kill-after",
      flag "preserve-status" "preserve-status", setting "s" "signal", flag "v" "verbose"] args
  entrust name g do
    let signal := Signal.ofWord? 1 ((g.value? "s").getD "TERM")
    if (g.value? "k").any fun text => (interval? text).isNone then
      return ← declineUsage name ("invalid time interval " ++ quoted ((g.value? "k").getD ""))
    match g.operands, signal with
    | _, none => declineUsage name (quoted ((g.value? "s").getD "") ++ ": invalid signal")
    | [], _ | [_], _ => return .error (← pointToHelp name 125)
    | size :: words, some signal =>
      match interval? size with
      | none => declineUsage name ("invalid time interval " ++ quoted size)
      | some 0 => return .ok ⟨words, environment, none, none, failedToRun⟩
      | some size =>
        return .ok ⟨words, environment, none,
          some ⟨size, signal, g.has "preserve-status", g.has "v"⟩, failedToRun⟩

def stdbufErrand (name : String) (environment : List (String × String)) (args : List String) :
    Step (Except Nat Errand) := do
  let g := Given.readLeading
    [setting "e" "error", setting "i" "input", setting "o" "output"] args
  entrust name g do
    match g.found.find? fun (_, mode) => mode != "L" && mode != "0" && !isDecimal mode.toList with
    | some (_, mode) => return ← decline name ("invalid mode " ++ quoted mode)
    | none => pure ()
    if g.operands.isEmpty then return ← declineUsage name "missing operand"
    if g.found.isEmpty then
      return ← declineUsage name "you must specify a buffering mode option"
    return .ok ⟨g.operands, environment, none, none, failedToRun⟩

def setsidErrand (name : String) (environment : List (String × String)) (args : List String) :
    Step (Except Nat Errand) := do
  let g := Given.readLeading [flag "c" "ctty", flag "f" "fork", flag "w" "wait"] args
  match g.fault with
  | some text => return .error (← usage name text)
  | none =>
    if g.operands.isEmpty then return .error (← usage name "no command specified")
    return .ok ⟨g.operands, environment, none, none, fun word => "failed to execute " ++ word⟩

end Cosim.Script.Tool
