import Cosim.Script.Expansion
import Cosim.Script.Reader
import Cosim.Script.Tool

namespace Cosim.Script

open Cosim.Files Cosim.Run Cosim.Text

open Step

def header? (content : ByteArray) : Option (String × Option String) :=
  let isBlank (c : Char) : Bool := c = ' ' || c = '\t'
  match (Octets.write (content.extract 0 (min 256 content.size))).toList with
  | '#' :: '!' :: rest =>
    let line := Blank.dropEndWhile isBlank (rest.takeWhile fun c => c != '\n' && c != '\x00')
    let line := line.dropWhile isBlank
    let program := line.takeWhile (!isBlank ·)
    let argument := (line.drop program.length).dropWhile isBlank
    if program.isEmpty then none
    else some (String.ofList program,
      if argument.isEmpty then none else some (String.ofList argument))
  | _ => none

/-- A tool, the name it is called by, and its arguments. -/
structure Program where
  tool : String
  name : String
  args : List String

def program (t : Tree) : Nat → String → String → List String → Except Errno Program
  | 0, _, _, _ => .error .notRunnable
  | fuel + 1, name, path, args => do
    let place ← t.locate (Octets.toText path)
    match t.node? place with
    | none => throw .noEntry
    | some (.file content true) =>
      match Tool.at? t place, header? content with
      | some tool, _ => return ⟨tool, name, args⟩
      | none, some (reader, argument) =>
        program t fuel reader reader (argument.toList ++ path :: args)
      | none, none => throw .notRunnable
    | _ => throw .denied

def findProgram (s : Shell) (t : Tree) (word : String) : Option String :=
  if word.toList.contains '/' then some word
  else
    let directories := Blank.cut (· == ':') ((valueOf? s "PATH").getD "").toList
    (directories.map fun d => joinText (String.ofList d) word).find? fun path =>
      t.isFile (Octets.toText path)

/-- The program that words call. A file that is no program is read as a script. -/
def programOf (s : Shell) (t : Tree) (word : String) (args : List String) :
    Except (Nat × String) Program :=
  match findProgram s t word with
  | none => .error (127, "not found")
  | some path =>
    match program t 5 word path args with
    | .ok p => .ok p
    | .error .notRunnable => .ok ⟨"sh", "/bin/sh", path :: args⟩
    | .error .noEntry => .error (127, "not found")
    | .error .notDirectory => .error (127, "not found")
    | .error e => .error (126, e.text)

def builtin? (name : String) : Option (List String → Step Nat) :=
  match name with
  | ":" | "true" | "hash" | "jobs" | "times" | "ulimit" => some fun _ => pure 0
  | "alias" => some Builtin.abbreviate
  | "unalias" => some Builtin.unalias
  | "umask" => some fun args => if args.isEmpty then Builtin.print name "0022\n" else pure 0
  | "false" => some fun _ => pure 1
  | "echo" => some Builtin.echo
  | "printf" => some Builtin.printf
  | "test" | "[" => some (Builtin.test name)
  | "cd" => some Builtin.changeDirectory
  | "pwd" => some fun _ => do Builtin.print "pwd" (Builtin.directory (← tree) ++ "\n")
  | "set" => some Builtin.set
  | "export" => some (Builtin.mark name (fun v => { v with isExported := true }) (·.isExported))
  | "readonly" => some (Builtin.mark name (fun v => { v with isFixed := true }) (·.isFixed))
  | "local" => some Builtin.declare
  | "unset" => some Builtin.unset
  | "shift" => some Builtin.shift
  | "exit" => some Builtin.exit
  | "return" => some Builtin.leave
  | "break" => some (Builtin.jump false)
  | "continue" => some (Builtin.jump true)
  | "kill" => some Builtin.kill
  | "trap" => some Builtin.trap
  | "wait" => some Builtin.wait
  | "read" => some Builtin.read
  | "getopts" => some Builtin.getopts
  | _ => none

def runners : List String := ["eval", ".", "exec", "command", "type"]

def isBuiltin (name : String) : Bool := (builtin? name).isSome || runners.contains name

def marksVariables (name : String) : Bool := ["export", "readonly", "local"].contains name

def keepingChannels {α : Type} (step : Step α) : Step α := do
  let channels := (← shell).channels
  afterwards step fun s => { s with channels := channels }

def inCopy {α : Type} (change : Shell → Shell) (step : Step α) : Step α := do
  let s ← shell
  let place := (← tree).here
  modifyShell change
  let found ← outcome step
  modifyShell fun _ => s
  modifyWorld fun w => { w with tree := ⟨w.tree.entries, place⟩ }
  match found with
  | .ok a => return a
  | .error e => throw e

/-- How a round of a loop ends. -/
inductive Round where
  | done (status : Nat)
  | again
  | over

def round (step : Step Nat) : Step Round := do
  modifyShell fun s => { s with loops := s.loops + 1 }
  let found ← outcome step
  modifyShell fun s => { s with loops := s.loops - 1 }
  match found with
  | .ok status => return .done status
  | .error (.jump again 1) => return if again then .again else .over
  | .error (.jump again n) => throw (.jump again (n - 1))
  | .error e => throw e

def linesOf : Nat → List Char → List Char
  | 0, _ | _, [] => []
  | n + 1, '\n' :: rest => '\n' :: linesOf n rest
  | n + 1, c :: rest => c :: linesOf (n + 1) rest

def pipeRooms : List Nat := [2 ^ 16, 2 ^ 20, 2 ^ 24]

def shellCopy (s : Shell) : Shell := { s with traps := [], signals := [] }

def bury (signal : Nat) : Step Nat := do
  let text := Signal.obituary signal
  if !text.isEmpty then discard (sayLine 2 text)
  return 128 + signal

def depthLimit : Nat := 1000

def standardPath : String := "/usr/local/sbin:/usr/local/bin:/usr/sbin:/usr/bin:/sbin:/bin"

def freshShell (channels : List (Nat × Nat)) (name directory : String)
    (environment : List (String × String)) : Shell where
  program := name
  args := []
  bindings :=
    let value (name standard : String) : String × Variable :=
      match environment.lookup name with
      | some given => (name, ⟨some given, true, false⟩)
      | none => (name, ⟨some standard, false, false⟩)
    let own := [("IFS", ⟨some standardSeparators, false, false⟩), value "PATH" standardPath,
      value "PS1" "# ", value "PS2" "> ", value "PS4" "+ ", ("OPTIND", ⟨some "1", false, false⟩)]
    let given := environment.filter fun (name, _) => isName name && (own.lookup name).isNone &&
      name != "PPID" && name != "PWD"
    own ++ given.map (fun (name, value) => (name, ⟨some value, true, false⟩)) ++
      [("PPID", ⟨some (toString (ownNumber - 1)), false, false⟩),
        ("PWD", ⟨some directory, true, false⟩)]
  functions := []
  aliases := []
  channels := channels
  options := []
  status := 0
  line := 0
  reached := 0
  speaker := none
  letter := none
  traps := []
  signals := []
  loops := 0
  depth := 0
  outputStatus := 0
  jobs := []
  saved := []

mutual

def evaluate (fuel : Nat) (isTested : Bool) (c : Command) : Step Nat := do
  match fuel with
  | 0 => throw (.killed 9)
  | fuel + 1 =>
    let finish (endsScript : Bool) (status : Nat) : Step Nat := do
      setStatus status
      answerSignals fuel
      if endsScript && !isTested && status ≠ 0 && (← hasOption 'e') then throw .quit
      return status
    match c with
    | .nothing => return (← shell).status
    | .call line settings words redirections =>
      finish true (← call fuel isTested line settings words redirections)
    | .negation c =>
      let status ← evaluate fuel true c
      finish false (if status = 0 then 1 else 0)
    | .both a b =>
      let status ← evaluate fuel true a
      if status = 0 then evaluate fuel isTested b else return status
    | .either a b =>
      let status ← evaluate fuel true a
      if status = 0 then return status else evaluate fuel isTested b
    | .sequence a b =>
      discard (evaluate fuel isTested a)
      evaluate fuel isTested b
    | .background line c =>
      modifyShell fun s => { s with line := line }
      let nowhere ← addOpening ⟨.nowhere, 0, false, none⟩
      let status ← branch fuel do
        lead 0 (some nowhere)
        evaluate fuel false c
      modifyShell fun s => { s with jobs := (ownNumber + 1 + s.jobs.length, status) :: s.jobs }
      finish true 0
    | .pipe stages => finish true (← pipeWithin fuel stages pipeRooms)
    | .apart line c redirections =>
      modifyShell fun s => { s with line := line }
      let status ← branch fuel do
        redirections.forM (redirect fuel)
        evaluate fuel isTested c
      finish true status
    | .redirected line c redirections =>
      modifyShell fun s => { s with line := line }
      keepingChannels do
        match ← outcome (redirections.forM (redirect fuel)) with
        | .ok () => finish false (← evaluate fuel isTested c)
        | .error .fault => finish false 2
        | .error e => throw e
    | .choice condition yes no =>
      if (← evaluate fuel true condition) = 0 then evaluate fuel isTested yes
      else match no with
        | .nothing => finish false 0
        | no => evaluate fuel isTested no
    | .loop negated condition body =>
      finish false (← rounds fuel isTested negated condition body 0)
    | .each line name values body =>
      modifyShell fun s => { s with line := line }
      let values ← values.mapM (Expansion.fields (outputOf fuel) fuel)
      finish false (← roundsOver fuel isTested name body 0 values.flatten)
    | .select line word arms =>
      modifyShell fun s => { s with line := line }
      let value ← Expansion.text (outputOf fuel) fuel word
      finish false (← select fuel isTested value arms)
    | .define name body =>
      modifyShell fun s =>
        { s with functions := (name, body) :: s.functions.filter (·.1 != name) }
      finish false 0

def answerSignals (fuel : Nat) : Step Unit := do
  match fuel with
  | 0 => throw (.killed 9)
  | fuel + 1 =>
    let s ← shell
    match s.signals with
    | [] => return
    | signal :: rest =>
      modifyShell fun s => { s with signals := rest }
      match s.traps.lookup signal with
      | some action =>
        discard (script fuel false action.toList)
        setStatus s.status
      | none => pure ()
      answerSignals fuel

def rounds (fuel : Nat) (isTested negated : Bool) (condition body : Command) (status : Nat) :
    Step Nat := do
  match fuel with
  | 0 => throw (.killed 9)
  | fuel + 1 =>
    match ← round (evaluate fuel true condition) with
    | .over => return status
    | .again => rounds fuel isTested negated condition body status
    | .done holds =>
      if (holds = 0) == negated then return status
      match ← round (evaluate fuel isTested body) with
      | .over => return 0
      | .again => rounds fuel isTested negated condition body 0
      | .done status => rounds fuel isTested negated condition body status

def roundsOver (fuel : Nat) (isTested : Bool) (name : String) (body : Command) (status : Nat)
    (values : List String) : Step Nat := do
  match fuel, values with
  | 0, _ => throw (.killed 9)
  | _, [] => return status
  | fuel + 1, value :: rest =>
    assign name value
    match ← round (evaluate fuel isTested body) with
    | .over => return 0
    | .again => roundsOver fuel isTested name body 0 rest
    | .done status => roundsOver fuel isTested name body status rest

def select (fuel : Nat) (isTested : Bool) (value : String)
    (arms : List (List Word × Command)) : Step Nat := do
  match fuel, arms with
  | 0, _ => throw (.killed 9)
  | _, [] => return 0
  | fuel + 1, (patterns, body) :: rest =>
    let isMatch ← patterns.foldlM (fun found w => do
      if found then return true
      return Pattern.isMatch (← Expansion.pattern (outputOf fuel) fuel w) value) false
    if !isMatch then select fuel isTested value rest
    else match body with
      | .nothing => return 0
      | body => evaluate fuel isTested body

/-- Carry out a pipe with ever more room between its stages, until there is enough for the last one.
-/
def pipeWithin (fuel : Nat) (stages : List Command) (rooms : List Nat) : Step Nat := do
  match fuel, rooms with
  | 0, _ => throw (.killed 9)
  | _, [] => throw .starved
  | fuel + 1, room :: rest =>
    let before ← get
    match ← outcome (pipe fuel room none stages) with
    | .ok status => return status
    | .error .starved =>
      set before
      pipeWithin fuel stages rest
    | .error e => throw e

/-- Carry out stages one after the other, of which each reads what the one before it has said. A
stage that would need more than that has an open end to what it says. -/
def pipe (fuel room : Nat) (input : Option Nat) (stages : List Command) : Step Nat := do
  match fuel, stages with
  | 0, _ => throw (.killed 9)
  | _, [] => return 0
  | fuel + 1, stage :: rest =>
    let output ← if rest.isEmpty then pure none
      else some <$> addOpening ⟨.memory .empty (some room), 0, false, none⟩
    let found ← outcome (branch fuel do
      if input.isSome then lead 0 input
      if output.isSome then lead 1 output
      evaluate fuel false stage)
    match found, output with
    | .ok status, none => return status
    | .ok _, some _ => pipe fuel room output rest
    | .error .starved, some i =>
      fillUp i
      pipe fuel room output rest
    | .error e, _ => throw e

def branch (fuel : Nat) (step : Step Nat) : Step Nat := do
  match fuel with
  | 0 => throw (.killed 9)
  | fuel + 1 =>
    match ← outcome (inCopy shellCopy (ended fuel step)) with
    | .ok status => return status
    | .error (.died signal) => bury signal
    | .error e => throw e

def ended (fuel : Nat) (step : Step Nat) : Step Nat := do
  match fuel with
  | 0 => throw (.killed 9)
  | fuel + 1 =>
    let status ← closing step
    let action := (← shell).traps.lookup 0
    match action with
    | none => return status % 256
    | some action =>
      setStatus status
      modifyShell fun s => { s with traps := s.traps.filter (·.1 != 0), speaker := none }
      let last ← closing do
        discard (script fuel false action.toList)
        return status
      return last % 256
where
  closing (step : Step Nat) : Step Nat := do
    match ← outcome step with
    | .ok status => return status
    | .error e => if e.endsShell then return (← shell).status else throw e

def outputOf (fuel : Nat) (c : Command) : Step String := do
  match fuel with
  | 0 => throw (.killed 9)
  | fuel + 1 =>
    let output ← addOpening ⟨.memory .empty none, 0, false, none⟩
    let status ← branch fuel do
      lead 1 (some output)
      evaluate fuel false c
    modifyShell fun s => { s with outputStatus := status }
    match (← world).openings[output]? with
    | some ⟨.memory content _, _, _, _⟩ => return Octets.write content
    | _ => return ""

def redirect (fuel : Nat) (r : Redirection) : Step Unit := do
  match fuel with
  | 0 => throw (.killed 9)
  | fuel + 1 =>
    let text (w : Word) : Step String := Expansion.text (outputOf fuel) fuel w
    let refuse : Step Unit := do
      modifyShell fun s => { s with line := s.reached }
      raise "Syntax error: Bad fd number"
    match r with
    | .file channel opened w => lead channel (some (← openFile opened (← text w)))
    | .document channel number =>
      let w := ((← world).documents.lookup number).getD []
      let content := Octets.read (← text w)
      lead channel (some (← addOpening ⟨.memory content none, 0, false, none⟩))
    | .duplicate channel w =>
      let other ← text w
      match other.toList with
      | ['-'] => lead channel none
      | [c] =>
        if !c.isDigit then return ← refuse
        match (← shell).channels.lookup (c.toNat - 48) with
        | some opening => lead channel (some opening)
        | none => raise (other ++ ": Bad file descriptor")
      | _ => refuse

/-- The words of a call. Where variables are marked, settings are not split. -/
def arguments (fuel : Nat) (words : List Word) : Step (List String) := do
  match fuel, words with
  | 0, _ => throw (.killed 9)
  | _, [] => return []
  | fuel + 1, w :: rest =>
    let found ← Expansion.fields (outputOf fuel) fuel w
    match found with
    | [] => arguments fuel rest
    | name :: _ =>
      let others ← rest.mapM fun w => do
        if marksVariables name && w.setting?.isSome then
          return [← Expansion.text (outputOf fuel) fuel w]
        Expansion.fields (outputOf fuel) fuel w
      return found ++ others.flatten

/-- Carry out a call. Without a program it only sets variables. -/
def call (fuel : Nat) (isTested : Bool) (line : Nat) (settings : List (String × Word))
    (words : List Word) (redirections : List Redirection) : Step Nat := do
  match fuel with
  | 0 => throw (.killed 9)
  | fuel + 1 =>
    modifyShell fun s => { s with line := line, outputStatus := 0 }
    let args ← arguments fuel words
    let name := args.headD ""
    let isSpecial := specialNames.contains name
    let channels := (← shell).channels
    let set (f : Variable → Variable) (covers : Bool) : Step (List String) :=
      settings.mapM fun (name, w) => do
        let value ← Expansion.text (outputOf fuel) fuel w
        if covers then cover name
        assign name value
        modifyVariable name f
        return name ++ "=" ++ value
    let trace (shown : List String) : Step Unit := do
      if ← hasOption 'x' then
        let present := (← shell).channels
        modifyShell fun s => { s with channels := channels }
        let lead := (valueOf? (← shell) "PS4").getD ""
        discard (sayLine 2 (lead ++ " ".intercalate (shown ++ args)))
        modifyShell fun s => { s with channels := present }
    let exported (v : Variable) : Variable := { v with isExported := true }
    let step : Step Nat := do
      match ← outcome (redirections.forM (redirect fuel)) with
      | .error .fault =>
        if isSpecial then throw .fault
        return 2
      | .error e => throw e
      | .ok () =>
        if args.isEmpty then
          trace (← set id false)
          return (← shell).outputStatus
        else if isSpecial then
          trace (← set (if name = "exec" && 1 < args.length then exported else id) false)
          dispatch fuel isTested true args
        else if settings.isEmpty then
          trace []
          dispatch fuel isTested true args
        else covering do
          trace (← set exported true)
          dispatch fuel isTested true args
    if name = "exec" then step else keepingChannels step

def dispatch (fuel : Nat) (isTested functions : Bool) (args : List String) : Step Nat := do
  match fuel, args with
  | 0, _ => throw (.killed 9)
  | _, [] => return 0
  | fuel + 1, name :: rest =>
    let s ← shell
    match (if functions then s.functions.lookup name else none) with
    | some body => invoke fuel isTested body rest
    | none =>
      if !isBuiltin name then external fuel args
      else
        if name != "command" then modifyShell fun s => { s with speaker := some name }
        let found ← outcome (match builtin? name with
          | some run => run rest
          | none => runner fuel isTested name rest)
        modifyShell fun t => { t with speaker := s.speaker }
        match found with
        | .ok status => return status
        | .error .fault =>
          if specialNames.contains name && functions then throw .fault
          return (← shell).status
        | .error e => throw e

def invoke (fuel : Nat) (isTested : Bool) (body : Command) (args : List String) : Step Nat := do
  match fuel with
  | 0 => throw (.killed 9)
  | fuel + 1 =>
    let s ← shell
    if s.depth = depthLimit then
      raise ("Maximum function recursion depth (" ++ toString depthLimit ++ ") reached")
    let status ← afterwards (covering do
        modifyShell fun t => { t with args := args, loops := 0, depth := t.depth + 1 }
        match ← outcome (evaluate fuel isTested body) with
        | .ok status => return status
        | .error .back => return (← shell).status
        | .error e => throw e)
      fun t => { t with args := s.args, loops := s.loops, depth := s.depth }
    return status

def runner (fuel : Nat) (isTested : Bool) (name : String) (args : List String) : Step Nat := do
  match fuel with
  | 0 => throw (.killed 9)
  | fuel + 1 =>
    let s ← shell
    let t ← tree
    match name, args with
    | "eval", args => script fuel false (" ".intercalate args).toList
    | ".", [] => return 0
    | ".", path :: _ =>
      match findProgram s t path with
      | none => raise (path ++ ": not found")
      | some path =>
        match t.read (Octets.toText path) with
        | .error e => raise ("cannot open " ++ path ++ ": " ++ reason "No such file" e)
        | .ok octets =>
          modifyShell fun s => { s with speaker := some path }
          match ← outcome (script fuel true (Octets.write ⟨octets.toArray⟩).toList) with
          | .ok status => return status
          | .error .back => return (← shell).status
          | .error e => throw e
    | "exec", [] => return 0
    | "exec", word :: args =>
      match programOf s t word args with
      | .error (status, text) =>
        complain (word ++ ": " ++ text)
        setStatus status
        throw .quit
      | .ok p =>
        match ← process fuel p (environment s) with
        | .ok status =>
          modifyShell fun s => { s with status := status, traps := [] }
          throw .quit
        | .error signal => throw (.died signal)
    | "command", "-v" :: word :: _ | "type", word :: _ =>
      let isShort := name == "command"
      let say (kind : String) (short : String) : Step Nat :=
        Builtin.print name ((if isShort then short else word ++ " is " ++ kind) ++ "\n")
      if Token.keywords.contains word then say "a shell keyword" word
      else if (s.functions.lookup word).isSome then say "a shell function" word
      else if specialNames.contains word then say "a special shell builtin" word
      else if isBuiltin word then say "a shell builtin" word
      else match findProgram s t word with
        | some path => if t.has (Octets.toText path) then say path path else return 127
        | none =>
          if !isShort then discard (Builtin.print name (word ++ ": not found\n"))
          return 127
    | "command", args =>
      match args.filter fun arg => arg != "-p" && arg != "--" with
      | [] => return 0
      | args => dispatch fuel isTested false args
    | _, _ => return 0

def external (fuel : Nat) (args : List String) : Step Nat := do
  match fuel, args with
  | 0, _ => throw (.killed 9)
  | _, [] => return 0
  | fuel + 1, word :: args =>
    let s ← shell
    match programOf s (← tree) word args with
    | .error (status, text) =>
      complain (word ++ ": " ++ text)
      return status
    | .ok p =>
      match ← process fuel p (environment s) with
      | .ok status => return status
      | .error signal => bury signal

def process (fuel : Nat) (p : Program) (environment : List (String × String)) :
    Step (Except Nat Nat) := do
  match fuel with
  | 0 => throw (.killed 9)
  | fuel + 1 =>
    let directory := Builtin.directory (← tree)
    inCopy (fun s => freshShell s.channels p.name directory environment) do
      let found ← outcome (tool fuel p environment)
      let isStarving := (← world).isStarving
      modifyWorld fun w => { w with isStarving := false, refusal := none }
      match found with
      | .ok status =>
        if isStarving then throw .starved
        return .ok status
      | .error (.killed signal) | .error (.died signal) => return .error signal
      | .error e => if e.endsShell then return .ok (← shell).status else throw e

def tool (fuel : Nat) (p : Program) (environment : List (String × String)) : Step Nat := do
  match fuel with
  | 0 => throw (.killed 9)
  | fuel + 1 =>
    if Tool.shells.contains p.tool then interpret fuel p.name p.args
    else match Tool.all.lookup p.tool with
      | some run => Tool.attended p.tool p.name (run (summon fuel) p.name environment p.args)
      | none => return 127

def summon (fuel : Nat) (environment : List (String × String)) (words : List String) :
    Step Tool.Ending := do
  match fuel, words with
  | 0, _ => throw (.killed 9)
  | _, [] => return .status 0
  | fuel + 1, word :: args =>
    let s := freshShell [] word "" environment
    match programOf s (← tree) word args with
    | .error (127, _) => return .refused 127 Errno.noEntry.text
    | .error (status, text) => return .refused status text
    | .ok p =>
      match ← process fuel p environment with
      | .ok status => return .status status
      | .error signal => return .signal signal

def interpret (fuel : Nat) (name : String) (args : List String) : Step Nat := do
  match fuel with
  | 0 => throw (.killed 9)
  | fuel + 1 =>
    let (hasText, operands) ← Builtin.setOptions true false args
    match hasText, operands.getD [], ← hasOption 's' with
    | true, [], _ => raise "-c requires an argument"
    | true, text :: operands, _ =>
      modifyShell fun s => { s with program := operands.headD name, args := operands.tail }
      ended fuel (script fuel false text.toList)
    | false, path :: args, false =>
      match (← tree).read (Octets.toText path) with
      | .error e =>
        raise ("cannot open " ++ path ++ ": " ++ reason "No such file" e)
      | .ok octets =>
        modifyShell fun s => { s with program := path, args := args }
        ended fuel (script fuel true (Octets.write ⟨octets.toArray⟩).toList)
    | false, args, _ =>
      Builtin.setOption true 's'
      modifyShell fun s => { s with args := args }
      let content := (← readAll 0).getD .empty
      ended fuel (script fuel true (Octets.write content).toList)

def script (fuel : Nat) (isFile : Bool) (text : List Char) : Step Nat := do
  match fuel with
  | 0 => throw (.killed 9)
  | fuel + 1 =>
    scriptFrom fuel 0 isFile (.start (text.filter (· != '\x00')) 1 (← world).count)

def scriptFrom (fuel status : Nat) (isFile : Bool) (source : Source) : Step Nat := do
  match fuel with
  | 0 => throw (.killed 9)
  | fuel + 1 =>
    let source := { source with
      documents := [], count := (← world).count, aliases := (← shell).aliases }
    let isLoud := (← hasOption 'v') && isFile
    match Reader.line.run source with
    | .error fault =>
      if isLoud then
        discard (say 2 (String.ofList (linesOf (fault.line + 1 - source.line) source.input)))
      modifyShell fun s => { s with line := fault.line }
      raise ("Syntax error: " ++ fault.text)
    | .ok ((command, isEnd), after) =>
      if isLoud then
        discard (say 2 (String.ofList
          (source.input.take (source.input.length - after.input.length))))
      modifyShell fun s => { s with reached := after.line }
      modifyWorld fun w =>
        { w with documents := after.documents ++ w.documents, count := after.count }
      let status ← match command with
        | .nothing => pure status
        | command => if ← hasOption 'n' then pure 0 else evaluate fuel false command
      if isEnd then return status
      scriptFrom fuel status isFile after

end

end Cosim.Script
