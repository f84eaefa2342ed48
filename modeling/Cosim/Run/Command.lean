import Cosim.Run.Session

namespace Cosim.Run

open Cosim.Files Cosim.Text

def isPlainInCommand (c : Char) : Bool :=
  c.isAlphanum || "_@%+=:,./-".toList.contains c

def quoteInWord (c : Char) : List Char :=
  if c = '\'' then ['\'', '"', '\'', '"', '\''] else [c]

def commandWord (word : String) : String :=
  if word.isEmpty then "''"
  else if word.toList.all isPlainInCommand then word
  else String.ofList ('\'' :: (word.toList.flatMap quoteInWord ++ ['\'']))

/-- An opening of a file: where the file is and where the next octet goes. -/
structure Handle where
  place : Location
  offset : Nat
deriving DecidableEq, Repr

/-- The openings that the channels of a program lead to; without one, they lead nowhere. Joint
channels both lead to the first. -/
structure Streams where
  output : Option Handle
  errors : Option Handle
  isJoint : Bool
deriving DecidableEq, Repr

/-- A call of a program: the name it is called by, its file, its arguments, its environment, and
its channels. -/
structure Call where
  name : String
  program : String
  args : List String
  environment : List (String × String)
  streams : Streams
deriving DecidableEq, Repr

inductive Channel where
  | output
  | errors
deriving DecidableEq, Repr

/-- What a program does to the world: it says octets on a channel, puts something at a place, writes
octets over a file from an offset on, or takes a place away. -/
inductive Effect where
  | say (channel : Channel) (octets : ByteArray)
  | put (place : Location) (node : Node)
  | write (place : Location) (offset : Nat) (octets : ByteArray)
  | remove (place : Location)
  | move (old new : Location)
deriving DecidableEq

def Effect.addTo (before : List Effect) (e : Effect) : List Effect :=
  match e, before with
  | .say channel octets, .say last old :: rest =>
    if last = channel then .say channel (old ++ octets) :: rest else e :: before
  | .write place offset octets, .write last start old :: rest =>
    if last = place && start + old.size = offset then .write place start (old ++ octets) :: rest
    else e :: before
  | e, before => e :: before

/-- What a program did. A negative status is the number of the signal that ended it. -/
structure Outcome where
  effects : List Effect
  status : Int
deriving DecidableEq

abbrev Machine := Call → Tree → Except Errno Outcome

structure Redirect where
  output : Option String
  errors : Option String
deriving DecidableEq, Repr

namespace Redirect

def isJoint (r : Redirect) : Bool := r.errors.isSome && r.errors == r.output

def text (r : Redirect) : String :=
  let output := match r.output with
    | none => ""
    | some path => " >" ++ commandWord path
  let errors := match r.errors with
    | none => ""
    | some path => if r.isJoint then " 2>&1" else " 2>" ++ commandWord path
  output ++ errors

end Redirect

def overlay (old : ByteArray) (offset : Nat) (octets : ByteArray) : ByteArray :=
  if offset = old.size then old ++ octets
  else old.extract 0 offset ++ ⟨Array.replicate (offset - old.size) 0⟩ ++ octets ++
    old.extract (offset + octets.size) old.size

structure Playing where
  tree : Tree
  streams : Streams

namespace Playing

def sayThrough (t : Tree) (handle : Option Handle) (octets : ByteArray) : Tree × Option Handle :=
  match handle with
  | none => (t, none)
  | some h =>
    (t.fill h.place (overlay (t.content h.place) h.offset octets),
      some ⟨h.place, h.offset + octets.size⟩)

def follow (f : Handle → Option Handle) (s : Streams) : Streams :=
  { s with output := s.output.bind f, errors := s.errors.bind f }

def spare (place : Location) (h : Handle) : Option Handle :=
  if h.place = place then none else some h

def play (p : Playing) : Effect → Playing
  | .say channel octets =>
    if channel = .output || p.streams.isJoint then
      let (tree, output) := sayThrough p.tree p.streams.output octets
      ⟨tree, { p.streams with output := output }⟩
    else
      let (tree, errors) := sayThrough p.tree p.streams.errors octets
      ⟨tree, { p.streams with errors := errors }⟩
  | .put place node => { p with tree := p.tree.set place node }
  | .write place offset octets =>
    { p with tree := p.tree.fill place (overlay (p.tree.content place) offset octets) }
  | .remove place => ⟨p.tree.remove place, follow (spare place) p.streams⟩
  | .move old new => ⟨p.tree.move old new, follow (fun h =>
      (spare new h).map fun h => ⟨Tree.moved old new h.place, h.offset⟩) p.streams⟩

end Playing

def programPaths (word : String) (searchPath : Option String) : List String :=
  if word.toList.contains '/' then [word]
  else ((Blank.cut (· == ':') (searchPath.getD "/bin:/usr/bin").toList).map String.ofList).map
    fun directory => joinText directory word

def startAt (machine : Machine) (t : Tree) (call : Call) : Except Errno Outcome := do
  match ← t.find call.program with
  | .directory | .device _ | .file _ false => .error .denied
  | .file _ true => machine call t

def startFirst (start : String → Except Errno Outcome) (seen : Option Errno) :
    List String → Except Errno Outcome
  | [] => .error (seen.getD .noEntry)
  | path :: rest =>
    match start path, seen with
    | .ok outcome, _ => .ok outcome
    | .error e, some first =>
      if first = .noEntry || first = .notDirectory then startFirst start (some e) rest
      else startFirst start (some first) rest
    | .error e, none => startFirst start (some e) rest

open Session

def openChannel : Option String → Action (Option Handle)
  | none | some "/dev/null" => pure none
  | some path => do
    checkText path
    let place ← settle (.files · path) ((← get).tree.target path)
    modify fun s => { s with tree := s.tree.fill place .empty }
    return some ⟨place, 0⟩

def commandLine (words : List Wide) (redirect : Redirect) : String :=
  "+ " ++ " ".intercalate (words.map fun w => commandWord w.shown) ++ redirect.text ++ "\n"

def checkVariables (environment : List (String × String)) : Action Unit := do
  if environment.any fun v => v.1.toList.contains '=' then throw .badVariableName
  environment.forM fun v => do
    checkText v.1
    checkText v.2

def runCommand (machine : Machine) (verbose : Bool) (words : List Wide) (redirect : Redirect)
    (environment : Option (List (String × String))) : Action Int := do
  if verbose then complain (commandLine words redirect)
  let output ← openChannel redirect.output
  let errors ← if redirect.isJoint then pure none else openChannel redirect.errors
  match words with
  | [] => throw .noCommand
  | word :: args =>
    let s ← get
    let environment := environment.getD s.environment
    checkVariables environment
    let word ← asText word
    let args ← args.mapM asText
    let streams : Streams := ⟨output, errors, redirect.isJoint⟩
    let start (path : String) := startAt machine s.tree ⟨word, path, args, environment, streams⟩
    let outcome ← settle (.files · word)
      (startFirst start none (programPaths word (environment.lookup "PATH")))
    let played := outcome.effects.foldl Playing.play ⟨s.tree, streams⟩
    modify fun s => { s with tree := played.tree }
    return outcome.status

end Cosim.Run
