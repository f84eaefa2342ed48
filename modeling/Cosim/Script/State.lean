import Cosim.Run.Command
import Cosim.Script.Octets
import Cosim.Script.Signal
import Cosim.Script.Syntax

namespace Cosim.Script

open Cosim.Files Cosim.Run Cosim.Text

/-- What can be open: nothing, what takes nothing, a file, a document or pipe, which may have
limited room, or a file that has been taken from its place. -/
inductive Target where
  | nowhere
  | refusing
  | file (place : Location)
  | memory (content : ByteArray) (room : Option Nat)
  | lost (content : ByteArray)

/-- Whether a pipe has been given all that it has room for, so that what would come next is not
known. -/
def Target.isFull : Target → Bool
  | memory content (some room) => room ≤ content.size
  | _ => false

/-- An opening, and the channel of the script that it was made for, if it was. -/
structure Opening where
  target : Target
  offset : Nat
  appends : Bool
  channel : Option Channel

/-- What all shells share. The effects are held last one first. The clock counts nanoseconds, and a
program that would go on after the deadline is ended. `isStarving` tells that the tool at work has
read as much as a full pipe holds, and `refusal` tells why what it has said was not taken. -/
structure World where
  tree : Tree
  openings : Array Opening
  effects : List Effect
  documents : List (Nat × Word)
  count : Nat
  clock : Nat
  deadline : Option Nat
  isStarving : Bool
  refusal : Option String

structure Variable where
  value : Option String
  isExported : Bool
  isFixed : Bool

/-- What a shell has to itself. Channels lead to openings by their place among them. `reached` is
the line up to which the script has been read, `speaker` the command of the shell that complaints
name, `letter` the place of the next option within an argument, `jobs` are the commands in the
background with their numbers and statuses, last one first, and `saved` holds the variables that the
functions under way have covered up. -/
structure Shell where
  program : String
  args : List String
  bindings : List (String × Variable)
  functions : List (String × Command)
  aliases : List (String × String)
  channels : List (Nat × Nat)
  options : List Char
  status : Nat
  line : Nat
  reached : Nat
  speaker : Option String
  letter : Option Nat
  traps : List (Nat × String)
  signals : List Nat
  loops : Nat
  depth : Nat
  outputStatus : Nat
  jobs : List (Nat × Nat)
  saved : List (List (String × Option Variable))

structure State where
  shell : Shell
  world : World

/-- Why a step does not go on to the next one: its shell ends, by itself or by a signal, or the
whole script is killed, or its time is over; what it reads from a pipe is not known; or it leaves a
loop or a function. -/
inductive Leave where
  | quit
  | fault
  | died (signal : Nat)
  | killed (signal : Nat)
  | expired
  | starved
  | jump (again : Bool) (loops : Nat)
  | back
deriving DecidableEq, Repr

def Leave.endsShell : Leave → Bool
  | quit | fault | jump .. | back => true
  | died _ | killed _ | expired | starved => false

abbrev Step := ExceptT Leave (StateM State)

def ownNumber : Nat := 32767

def standardSeparators : String := " \t\n"

def optionNames : List (Char × String) :=
  [('e', "errexit"), ('f', "noglob"), ('I', "ignoreeof"), ('i', "interactive"), ('m', "monitor"),
    ('n', "noexec"), ('s', "stdin"), ('x', "xtrace"), ('v', "verbose"), ('V', "vi"),
    ('E', "emacs"), ('C', "noclobber"), ('a', "allexport"), ('b', "notify"), ('u', "nounset"),
    ('p', "privileged"), ('\x01', "nolog"), ('\x02', "debug")]

namespace Step

def shell : Step Shell := return (← get).shell

def world : Step World := return (← get).world

def modifyShell (f : Shell → Shell) : Step Unit := modify fun s => { s with shell := f s.shell }

def modifyWorld (f : World → World) : Step Unit := modify fun s => { s with world := f s.world }

def setStatus (status : Nat) : Step Unit := modifyShell fun s => { s with status := status }

def tree : Step Tree := return (← world).tree

def put (place : Location) (node : Node) : Step Unit :=
  modifyWorld fun w =>
    { w with tree := w.tree.set place node, effects := .put place node :: w.effects }

def follow (f : Location → Target) : Step Unit :=
  modifyWorld fun w => { w with openings := w.openings.map fun o =>
    match o.target with
    | .file place => { o with target := f place }
    | _ => o }

def spare (t : Tree) (gone place : Location) : Target :=
  if place = gone then .lost (t.content gone) else .file place

def remove (place : Location) : Step Unit := do
  follow (spare (← tree) place)
  modifyWorld fun w =>
    { w with tree := w.tree.remove place, effects := .remove place :: w.effects }

def move (old new : Location) : Step Unit := do
  if old = new then return
  let t ← tree
  follow fun place => match spare t new place with
    | .file place => .file (Tree.moved old new place)
    | target => target
  modifyWorld fun w =>
    { w with tree := w.tree.move old new, effects := .move old new :: w.effects }

def fill (place : Location) (content : ByteArray) : Step Unit := do
  let t ← tree
  if !(t.node? place).any Node.isDevice then put place (.file content (t.mode place))

def opening? (channel : Nat) : Step (Option (Nat × Opening)) := do
  match (← shell).channels.lookup channel with
  | none => return none
  | some i => return (← world).openings[i]?.map fun o => (i, o)

def setOpening (i : Nat) (o : Opening) : Step Unit :=
  modifyWorld fun w => { w with openings := w.openings.set! i o }

def addOpening (o : Opening) : Step Nat := do
  let i := (← world).openings.size
  modifyWorld fun w => { w with openings := w.openings.push o }
  return i

def fillUp (i : Nat) : Step Unit := do
  match (← world).openings[i]? with
  | some o@⟨.memory content _, _, _, _⟩ =>
    setOpening i { o with target := .memory content (some content.size) }
  | _ => pure ()

def refuse (channel : Nat) (octets : ByteArray) (reason : String) : Step Bool := do
  if octets.isEmpty then return true
  if channel = 1 then modifyWorld fun w => { w with refusal := some reason }
  return false

/-- Say octets through a channel. A channel that leads to no opening refuses them. -/
def sayOctets (channel : Nat) (octets : ByteArray) : Step Bool := do
  match ← opening? channel with
  | none => refuse channel octets "Bad file descriptor"
  | some (i, o) =>
    match o.target with
    | .nowhere => pure ()
    | .refusing => return ← refuse channel octets Errno.noSpace.text
    | .memory old room =>
      let whole := old ++ octets
      match room with
      | none => setOpening i { o with target := .memory whole none }
      | some room =>
        setOpening i { o with
          target := .memory (whole.extract 0 (min room whole.size)) (some room) }
        if room < whole.size then throw (.died Signal.brokenPipe)
    | .lost old =>
      let offset := if o.appends then old.size else o.offset
      setOpening i
        { o with target := .lost (overlay old offset octets), offset := offset + octets.size }
    | .file place =>
      let t ← tree
      let old := t.content place
      let offset := if o.appends then old.size else o.offset
      setOpening i { o with offset := offset + octets.size }
      modifyWorld fun w => { w with
        tree := w.tree.set place (.file (overlay old offset octets) (t.mode place))
        effects := Effect.addTo w.effects (match o.channel with
          | some c => .say c octets
          | none => .write place offset octets) }
    return true

def say (channel : Nat) (text : String) : Step Bool := sayOctets channel (Octets.read text)

def sayLine (channel : Nat) (text : String) : Step Bool := say channel (text ++ "\n")

def complain (text : String) : Step Unit := do
  let s ← shell
  let speaker := match s.speaker with
    | none => ""
    | some name => name ++ ": "
  discard (sayLine 2 (s.program ++ ": " ++ toString s.line ++ ": " ++ speaker ++ text))

def raise {α : Type} (text : String) : Step α := do
  complain text
  setStatus 2
  throw .fault

def source? (channel : Nat) : Step (Option (Nat × Opening × ByteArray)) := do
  match ← opening? channel with
  | none => return none
  | some (i, o) =>
    let content ← match o.target with
      | .nowhere | .refusing => pure .empty
      | .memory content _ | .lost content => pure content
      | .file place => pure ((← tree).content place)
    return some (i, o, content)

/-- All that is still to be read from a channel, and whether more would come that is not known. -/
def peekAll (channel : Nat) : Step (Option (ByteArray × Bool)) := do
  match ← source? channel with
  | none => return none
  | some (_, o, content) => return some (content.extract o.offset content.size, o.target.isFull)

def use (channel size : Nat) : Step Unit := do
  match ← opening? channel with
  | none => return
  | some (i, o) => setOpening i { o with offset := o.offset + size }

def readAll (channel : Nat) : Step (Option ByteArray) := do
  match ← peekAll channel with
  | none => return none
  | some (content, isPart) =>
    if isPart then throw .starved
    use channel content.size
    return some content

def behindNext (mark : UInt8) (content : ByteArray) : Nat → Nat → Nat
  | 0, place => place
  | fuel + 1, place =>
    match content[place]? with
    | none => place
    | some b => if b = mark then place + 1 else behindNext mark content fuel (place + 1)

/-- Read up to the end of a line, which is given too if it is there. -/
def readLine (channel : Nat) : Step ByteArray := do
  match ← source? channel with
  | none => return .empty
  | some (i, o, content) =>
    let stop := behindNext 10 content (content.size - o.offset) o.offset
    if o.target.isFull && (stop ≤ o.offset || content[stop - 1]? != some 10) then throw .starved
    setOpening i { o with offset := stop }
    return content.extract o.offset stop

def outcome {α : Type} (step : Step α) : Step (Except Leave α) := ExceptT.lift step.run

def afterwards {α : Type} (step : Step α) (after : Shell → Shell) : Step α := do
  let found ← outcome step
  modifyShell after
  match found with
  | .ok a => return a
  | .error e => throw e

def lookup (s : Shell) (name : String) : Option Variable := s.bindings.lookup name

def valueOf? (s : Shell) (name : String) : Option String := (lookup s name).bind Variable.value

def hasOption (c : Char) : Step Bool := return (← shell).options.contains c

def replaced (vs : List (String × Variable)) (name : String) (v : Option Variable) :
    List (String × Variable) :=
  match v with
  | none => vs.filter (·.1 != name)
  | some v =>
    if (vs.lookup name).isSome then vs.map fun e => if e.1 == name then (name, v) else e
    else vs ++ [(name, v)]

def setVariable (name : String) (v : Option Variable) : Step Unit :=
  modifyShell fun s => { s with bindings := replaced s.bindings name v }

def assign (name value : String) : Step Unit := do
  let s ← shell
  let old := (lookup s name).getD ⟨none, false, false⟩
  if old.isFixed then raise (name ++ ": is read only")
  setVariable name (some { old with
    value := some value, isExported := old.isExported || s.options.contains 'a' })

def unassign (name : String) : Step Unit := do
  match lookup (← shell) name with
  | none => pure ()
  | some old =>
    if old.isFixed then raise (name ++ ": is read only")
    setVariable name none

def modifyVariable (name : String) (f : Variable → Variable) : Step Unit := do
  setVariable name (some (f ((lookup (← shell) name).getD ⟨none, false, false⟩)))

/-- Keep a variable as it is until the function that runs is over. -/
def cover (name : String) : Step Unit :=
  modifyShell fun s =>
    match s.saved with
    | [] => s
    | covered :: rest =>
      if (covered.lookup name).isSome then s
      else { s with saved := ((name, lookup s name) :: covered) :: rest }

def covering {α : Type} (step : Step α) : Step α := do
  modifyShell fun s => { s with saved := [] :: s.saved }
  afterwards step fun s =>
    match s.saved with
    | [] => s
    | covered :: rest => { s with
        saved := rest
        bindings := covered.foldl (fun vs (name, old) => replaced vs name old) s.bindings }

def shelf (name : String) : Nat :=
  match name.toList with
  | [] => 0
  | c :: rest => (rest.foldl (fun n d => n + d.toNat) (17 * c.toNat)) % 39

def environment (s : Shell) : List (String × String) :=
  let exported := s.bindings.filterMap fun (name, v) =>
    if v.isExported then v.value.map fun value => (name, value) else none
  exported.mergeSort fun a b => decide (shelf a.1 ≤ shelf b.1)

def separators : Step String :=
  return ((lookup (← shell) "IFS").bind Variable.value).getD standardSeparators

def reason (absent : String) : Errno → String
  | .noEntry | .notDirectory => absent
  | e => e.text

def channelAt? (path : String) : Option Nat :=
  match path with
  | "/dev/stdin" => some 0
  | "/dev/stdout" => some 1
  | "/dev/stderr" => some 2
  | _ =>
    if path.startsWith "/dev/fd/" then (path.drop "/dev/fd/".length).toString.toNat? else none

def isWriting : Opened → Bool
  | .input => false
  | _ => true

def zeros (_ : Unit) : ByteArray := ⟨Array.replicate (2 ^ 20) 0⟩

def targetOf (opened : Opened) : Device → Target
  | .null | .terminal => .nowhere
  | .zeros => if opened == .input then .memory (zeros ()) (some (2 ^ 20)) else .nowhere
  | .full => if opened == .input then .memory (zeros ()) (some (2 ^ 20)) else .refusing

/-- Open the file at a place, which is emptied unless its content is to be kept. -/
def openAt (opened : Opened) (place : Location) : Step Nat := do
  let t ← tree
  if let some (.device d) := t.node? place then
    return ← addOpening ⟨targetOf opened d, 0, false, none⟩
  match opened with
  | .input => pure ()
  | .output | .overwrite => fill place .empty
  | .append | .both => if (t.node? place).isNone then fill place .empty
  addOpening ⟨.file place, 0, opened == .append, none⟩

def openFile (opened : Opened) (path : String) : Step Nat := do
  let refuse {α : Type} (e : Errno) : Step α :=
    if isWriting opened then
      raise ("cannot create " ++ path ++ ": " ++ reason "Directory nonexistent" e)
    else raise ("cannot open " ++ path ++ ": " ++ reason "No such file" e)
  let t ← tree
  match channelAt? path with
  | some channel =>
    match ← opening? channel with
    | none => refuse .noEntry
    | some (i, o) =>
      match o.target with
      | .file place => openAt opened place
      | _ => return i
  | none =>
    if isWriting opened then
      match t.target (Octets.toText path) with
      | .error e => refuse e
      | .ok place =>
        if opened == .output && (← hasOption 'C') && t.isFile (Octets.toText path) then
          refuse .exists
        openAt opened place
    else
      match t.locate (Octets.toText path) with
      | .error e => refuse e
      | .ok place =>
        match t.node? place with
        | none => refuse .noEntry
        | some (.device .terminal) => refuse .noDevice
        | some _ => openAt opened place

def lead (channel : Nat) (opening : Option Nat) : Step Unit :=
  modifyShell fun s =>
    let others := s.channels.filter (·.1 != channel)
    { s with channels := match opening with
        | some i => (channel, i) :: others
        | none => others }

end Step

end Cosim.Script
