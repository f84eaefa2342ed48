import Cosim.Script.Condition
import Cosim.Script.Format
import Cosim.Script.State

namespace Cosim.Script

open Cosim.Files Cosim.Numeral Cosim.Text

namespace Builtin

open Step

def options (allowed : String) : List String → Except Char (List Char × List String)
  | [] => .ok ([], [])
  | arg :: rest =>
    match arg.toList with
    | ['-', '-'] => .ok ([], rest)
    | '-' :: c :: letters =>
      match (c :: letters).find? fun letter => !allowed.toList.contains letter with
      | some letter => .error letter
      | none => (options allowed rest).map fun (more, args) => (c :: letters ++ more, args)
    | _ => .ok ([], arg :: rest)

def takeOptions (allowed : String) (args : List String) : Step (List Char × List String) := do
  match options allowed args with
  | .ok found => return found
  | .error c => raise ("Illegal option -" ++ String.singleton c)

def number (s : String) : Step Nat := do
  if isDecimal s.toList && decimalValue s.toList < 2 ^ 31 then return decimalValue s.toList
  raise ("Illegal number: " ++ s)

/-- Say something on the output, and complain if that leads nowhere. -/
def print (speaker text : String) : Step Nat := do
  if ← say 1 text then return 0
  complain (speaker ++ ": I/O error")
  return 1

def echo (args : List String) : Step Nat := print "echo" (Format.echo args)

def printf (args : List String) : Step Nat := do
  let (_, args) ← takeOptions "" args
  match args with
  | [] => raise "usage: printf format [arg ...]"
  | format :: args =>
    let p := Format.print .shell format args
    p.complaints.forM complain
    match p.fault with
    | none =>
      let status ← print "printf" (String.ofList p.text.reverse)
      return if p.isFaulty then 1 else status
    | some fault =>
      complain fault
      discard (say 1 (String.ofList p.text.reverse))
      setStatus 2
      throw .fault

def test (name : String) (args : List String) : Step Nat := do
  let words ← if name = "[" then
      if args.getLast? = some "]" then pure args.dropLast else raise "missing ]"
    else pure args
  match Condition.holds (← tree) words with
  | .ok holds => return if holds then 0 else 1
  | .error fault => raise fault.message

def directory (t : Tree) : String := Octets.ofText ("/" ++ Path.joined t.here)

def changeDirectory (args : List String) : Step Nat := do
  let (_, args) ← takeOptions "LP" args
  let s ← shell
  let old := directory (← tree)
  let path := match args.head? with
    | some "-" => (valueOf? s "OLDPWD").getD ""
    | some path => path
    | none => (valueOf? s "HOME").getD ""
  if path.isEmpty then return 0
  let t ← tree
  match t.locate (Octets.toText path) with
  | .ok place =>
    if t.node? place != some .directory then raise ("can't cd to " ++ path)
    modifyWorld fun w => { w with tree := ⟨w.tree.entries, place⟩ }
    modifyVariable "OLDPWD" fun v => { v with value := some old, isExported := true }
    modifyVariable "PWD" fun v =>
      { v with value := some (directory ⟨[], place⟩), isExported := true }
    if args.head? = some "-" then discard (sayLine 1 (directory ⟨[], place⟩))
    return 0
  | .error _ => raise ("can't cd to " ++ path)

/-- Turn an option on or off. There is no terminal from which jobs could be controlled. -/
def setOption (isOn : Bool) (c : Char) : Step Unit := do
  if !(optionNames.map Prod.fst).contains c then raise ("Illegal option -" ++ String.singleton c)
  if isOn && c = 'm' then
    complain "can't access tty; job control turned off"
  else modifyShell fun s =>
    let others := s.options.filter (· != c)
    { s with options := if isOn then others ++ [c] else others }

def listOptions (isTable : Bool) (isOn : Char → Bool) : Step Unit := do
  let line (c : Char) (name : String) : String :=
    if isTable then
      name ++ String.ofList (List.replicate (16 - name.length) ' ') ++
        (if isOn c then "on" else "off")
    else "set " ++ (if isOn c then "-o " else "+o ") ++ name
  discard (say 1 ((if isTable then "Current option settings\n" else "") ++
    String.join (optionNames.map fun (c, name) => line c name ++ "\n")))

/-- Set options from arguments, and give the arguments that follow, if there are any or their start
is marked. When a shell is called, two more letters are known, and the first tells that a text is to
be carried out. -/
def setOptions (isCall hasText : Bool) : List String → Step (Bool × Option (List String))
  | [] => return (hasText, none)
  | arg :: rest => do
    match arg.toList with
    | ['-', '-'] => return (hasText, some rest)
    | ['-'] =>
      if !isCall then
        ['x', 'v'].forM (setOption false)
      return (hasText, if rest.isEmpty then none else some rest)
    | sign :: letters =>
      if sign = '-' || sign = '+' then
        letters.forM fun c =>
          if c = 'o' || (isCall && (c = 'c' || c = 'l')) then pure () else setOption (sign = '-') c
        let hasText := hasText || (isCall && letters.contains 'c')
        if letters.contains 'o' then
          match rest with
          | name :: rest =>
            match optionNames.find? (·.2 == name) with
            | some (c, _) => setOption (sign = '-') c
            | none => raise ("Illegal option -o " ++ name)
            setOptions isCall hasText rest
          | [] =>
            let s ← shell
            listOptions (sign = '-') (if isCall then fun _ => true else s.options.contains)
            return (hasText, none)
        else setOptions isCall hasText rest
      else return (hasText, some (arg :: rest))
    | [] => return (hasText, some (arg :: rest))

def quoted (s : String) : String :=
  "'" ++ String.join (s.toList.map fun c => if c = '\'' then "'\"'\"'" else String.singleton c) ++
    "'"

def list (before : String) (keep : Variable → Bool) : Step Nat := do
  let shown := (← shell).bindings.filter fun (_, v) => keep v
  let lines := (shown.mergeSort fun a b => decide (a.1 ≤ b.1)).map fun (name, v) =>
    before ++ name ++ (match v.value with
      | some value => "=" ++ quoted value
      | none => "") ++ "\n"
  print "set" (String.join lines)

def set (args : List String) : Step Nat := do
  if args.isEmpty then return ← list "" (·.value.isSome)
  match (← setOptions false false args).2 with
  | some args => modifyShell fun s => { s with args := args }
  | none => pure ()
  return 0

def abbreviate (args : List String) : Step Nat := do
  let line (name text : String) : String := name ++ "=" ++ quoted text ++ "\n"
  if args.isEmpty then
    return ← print "alias" (String.join ((← shell).aliases.map fun (name, text) => line name text))
  args.foldlM (fun status arg => do
    match (arg.toList.drop 1).contains '=', (← shell).aliases.lookup arg with
    | true, _ =>
      let name := String.ofList (arg.toList.take 1 ++ (arg.toList.drop 1).takeWhile (· != '='))
      let text := (arg.drop (name.length + 1)).toString
      modifyShell fun s =>
        { s with aliases := (name, text) :: s.aliases.filter (·.1 != name) }
      return status
    | false, some text => return max status (← print "alias" (line arg text))
    | false, none =>
      discard (sayLine 2 ("alias: " ++ arg ++ " not found"))
      return 1) 0

def unalias (args : List String) : Step Nat := do
  let (letters, args) ← takeOptions "a" args
  if !letters.isEmpty then modifyShell fun s => { s with aliases := [] }
  args.foldlM (fun status name => do
    if ((← shell).aliases.lookup name).isNone then
      discard (sayLine 2 ("unalias: " ++ name ++ " not found"))
      return 1
    modifyShell fun s => { s with aliases := s.aliases.filter (·.1 != name) }
    return status) 0

def splitSetting (arg : String) : String × Option String :=
  let name := arg.toList.takeWhile (· != '=')
  (String.ofList name,
    if name.length < arg.length then some (String.ofList (arg.toList.drop (name.length + 1)))
    else none)

def mark (command : String) (f : Variable → Variable) (shows : Variable → Bool)
    (args : List String) : Step Nat := do
  let (_, args) ← takeOptions "p" args
  if args.isEmpty then return ← list (command ++ " ") shows
  args.forM fun arg => do
    let (name, value) := splitSetting arg
    if !isName name then raise (name ++ ": bad variable name")
    match value with
    | some value => assign name value
    | none => pure ()
    modifyVariable name f
  return 0

def declare (args : List String) : Step Nat := do
  if (← shell).saved.isEmpty then raise "not in a function"
  args.forM fun arg => do
    let (name, value) := splitSetting arg
    if !isName name then raise (name ++ ": bad variable name")
    cover name
    match value with
    | some value => assign name value
    | none => pure ()
  return 0

def unset (args : List String) : Step Nat := do
  let (letters, args) ← takeOptions "vf" args
  args.forM fun name => do
    if letters.getLast? = some 'f' then
      modifyShell fun s => { s with functions := s.functions.filter (·.1 != name) }
    else unassign name
  return 0

def shift (args : List String) : Step Nat := do
  let n ← match args with
    | [] => pure 1
    | n :: _ => number n
  let s ← shell
  if s.args.length < n then raise "can't shift that many"
  modifyShell fun s => { s with args := s.args.drop n }
  return 0

def exit (args : List String) : Step Nat := do
  match args with
  | [] => pure ()
  | n :: _ => setStatus (← number n)
  throw .quit

def leave (args : List String) : Step Nat := do
  match args with
  | [] => pure ()
  | n :: _ => setStatus (← number n)
  throw .back

def jump (again : Bool) (args : List String) : Step Nat := do
  let n ← match args with
    | [] => pure 1
    | n :: _ =>
      let k ← number n
      if k = 0 then raise ("Illegal number: " ++ n) else pure k
  let n := min n (← shell).loops
  if n = 0 then return 0
  setStatus 0
  throw (.jump again n)

/-- Wait for commands in the background, which are over as soon as they have begun. -/
def wait (args : List String) : Step Nat := do
  match args with
  | [] => return 0
  | pid :: _ => return ((← shell).jobs.lookup (← number pid)).getD 127

def kill (args : List String) : Step Nat := do
  let usage : Step (Option Nat × List String) := raise
    "Usage: kill [-s sigspec | -signum | -sigspec] [pid | job]... or\nkill -l [exitstatus]"
  let (signal, rest) ← match args with
    | [] => usage
    | first :: rest =>
      if !first.startsWith "-" then pure (some 15, args)
      else match Signal.ofWord? 1 (first.drop 1).toString with
        | some n => pure (some n, rest)
        | none =>
          match first, rest with
          | "-l", rest => pure (none, rest)
          | "-s", name :: rest =>
            match Signal.ofWord? 1 name with
            | some n => pure (some n, rest)
            | none => raise ("invalid signal number or name: " ++ name)
          | "--", rest => pure (some 15, rest)
          | _, _ => raise ("Illegal option -" ++ ((first.drop 1).take 1).toString)
  match signal with
  | none =>
    match rest with
    | [] =>
      print "kill" (String.join ((List.range Signal.limit).map fun n =>
        (if n = 0 then "0" else Signal.name n) ++ "\n"))
    | word :: _ =>
      let n ← number word
      let n := if 128 < n then n - 128 else n
      if n = 0 || Signal.limit ≤ n then
        raise ("invalid signal number or exit status: " ++ word)
      print "kill" (Signal.name n ++ "\n")
  | some signal =>
    if rest.isEmpty then discard usage
    rest.foldlM (fun status pid => do
      let n ← number (if pid.startsWith "-" then (pid.drop 1).toString else pid)
      let s ← shell
      if n ≠ ownNumber then
        if (s.jobs.lookup n).isSome then
          modifyShell fun s => { s with jobs := (n, 128 + signal) :: s.jobs.filter (·.1 != n) }
          return status
        complain "No such process\n"
        return 1
      match s.traps.lookup signal with
      | some _ =>
        if signal = 9 then throw (.killed signal)
        modifyShell fun s => { s with signals := s.signals ++ [signal] }
      | none => if !Signal.isIdle signal then throw (.killed signal)
      return status) 0

def getopts (args : List String) : Step Nat := do
  match args with
  | letters :: name :: operands =>
    let s ← shell
    let operands := if operands.isEmpty then s.args else operands
    let index := (((valueOf? s "OPTIND").bind String.toNat?).getD 1) - 1
    let rest := match s.letter, index with
      | some k, n + 1 => ((operands[n]?).getD "").toList.drop k
      | _, _ => []
    let finish (index : Nat) (letter : Option Nat) (value : String) (status : Nat) : Step Nat := do
      assign "OPTIND" (toString (index + 1))
      assign name value
      modifyShell fun s => { s with letter := letter }
      return status
    let take (index : Nat) (word : List Char) (c : Char) (rest : List Char) : Step Nat := do
      let spot := letters.toList.dropWhile (· != c)
      let letter := if rest.isEmpty then none else some (word.length - rest.length)
      let isSilent := letters.startsWith ":"
      let refuse (text value : String) (letter : Option Nat) : Step Nat := do
        if isSilent then
          assign "OPTARG" (String.singleton c)
          finish index letter value 0
        else
          discard (sayLine 2 text)
          unassign "OPTARG"
          finish index letter "?" 0
      match spot with
      | [] => refuse ("Illegal option -" ++ String.singleton c) "?" letter
      | _ :: ':' :: _ =>
        match rest, operands[index]? with
        | [], none => refuse ("No arg for -" ++ String.singleton c ++ " option") ":" none
        | [], some value =>
          assign "OPTARG" value
          finish (index + 1) none (String.singleton c) 0
        | rest, _ =>
          assign "OPTARG" (String.ofList rest)
          finish index none (String.singleton c) 0
      | _ =>
        assign "OPTARG" ""
        finish index letter (String.singleton c) 0
    match rest with
    | c :: rest => take index ((operands[index - 1]?).getD "").toList c rest
    | [] =>
      match (operands[index]?).map String.toList with
      | some ['-', '-'] => finish (index + 1) none "?" 1
      | some ('-' :: c :: rest) => take (index + 1) ('-' :: c :: rest) c rest
      | _ => finish index none "?" 1
  | _ => raise "Usage: getopts optstring var [arg]"

def trap (args : List String) : Step Nat := do
  let (_, args) ← takeOptions "" args
  match args with
  | [] =>
    let traps := (← shell).traps.mergeSort fun a b => decide (a.1 ≤ b.1)
    print "trap" (String.join (traps.map fun (n, action) =>
      "trap -- " ++ quoted action ++ " " ++ Signal.name n ++ "\n"))
  | first :: rest =>
    let (action, names) :=
      if rest.isEmpty || isDecimal first.toList then (none, args)
      else (if first = "-" then none else some first, rest)
    names.foldlM (fun status name => do
      if status ≠ 0 then return status
      match Signal.ofWord? 0 name with
      | none =>
        discard (sayLine 2 ("trap: " ++ name ++ ": bad trap"))
        return 1
      | some n =>
        modifyShell fun s =>
          let others := s.traps.filter (·.1 != n)
          { s with traps := match action with
              | some action => others ++ [(n, action)]
              | none => others }
        return 0) 0

/-- The characters of a line that is read, without the backslashes that take the meaning from the
next one, and whether words split at each. Without its end the line is the last one. -/
def lineSigns (isRaw isHidden : Bool) : List Char → List (Char × Bool) × Bool
  | [] => ([], false)
  | c :: rest =>
    if isHidden then
      let (signs, isWhole) := lineSigns isRaw false rest
      (if c = '\n' then signs else (c, false) :: signs, isWhole)
    else if c = '\n' then ([], true)
    else if c = '\\' && !isRaw then lineSigns isRaw true rest
    else
      let (signs, isWhole) := lineSigns isRaw false rest
      ((c, true) :: signs, isWhole)

def splitLine (separators : String) : List String → List (Char × Bool) → List (String × String)
  | [], _ => []
  | names, signs =>
    let isBlank (c : Char × Bool) : Bool :=
      c.2 && separators.toList.contains c.1 && standardSeparators.toList.contains c.1
    let isMark (c : Char × Bool) : Bool := c.2 && separators.toList.contains c.1
    let text (s : List (Char × Bool)) : String := String.ofList (s.map Prod.fst)
    let signs := signs.dropWhile isBlank
    match names with
    | [] => []
    | [name] =>
      let body := (signs.reverse.dropWhile isBlank).reverse
      let first := body.takeWhile fun c => !isMark c
      let isSingle := (body.drop first.length).length = 1
      [(name, text (if isSingle then first else body))]
    | name :: rest =>
      let first := signs.takeWhile fun c => !isMark c
      let after := (signs.drop first.length).dropWhile isBlank
      let after := match after with
        | c :: more => if isMark c then more else after
        | [] => []
      (name, text first) :: splitLine separators rest after

/-- Read lines up to one whose end is not hidden. -/
def wholeLine (isRaw : Bool) : Nat → Step (List Char)
  | 0 => return []
  | fuel + 1 => do
    let line := (Octets.write (← readLine 0)).toList
    match line.reverse with
    | '\n' :: before =>
      if !isRaw && (before.takeWhile (· == '\\')).length % 2 == 1 then
        return line ++ (← wholeLine isRaw fuel)
      return line
    | _ => return line

def read (args : List String) : Step Nat := do
  let (letters, names) ← takeOptions "r" args
  if names.isEmpty then raise "arg count"
  let isRaw := letters.contains 'r'
  let line ← wholeLine isRaw 1000
  let (signs, isWhole) := lineSigns isRaw false (line.filter (· != '\x00'))
  (splitLine (← separators) names signs).forM fun (name, value) => do
    if !isName name then raise (name ++ ": bad variable name")
    assign name value
  return if isWhole then 0 else 1

end Builtin

end Cosim.Script
