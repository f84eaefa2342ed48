import Cosim.Run.Fault

namespace Cosim.Run

open Cosim.Files Cosim.Text

inductive Level where
  | debug
  | info
  | error
deriving DecidableEq, Repr

def Level.rank : Level → Nat
  | .debug => 0
  | .info => 1
  | .error => 2

def Level.name : Level → String
  | .debug => "DEBUG"
  | .info => "INFO"
  | .error => "ERROR"

structure Record where
  level : Level
  text : String
deriving DecidableEq, Repr

structure Session where
  tree : Tree
  environment : List (String × String)
  threshold : Level
  records : List Record
  output : String
  errors : String

abbrev Action := ExceptT Fault (StateM Session)

namespace Session

def start (tree : Tree) (environment : List (String × String)) : Session :=
  ⟨tree, environment, .debug, [], "", ""⟩

/-- Keep a record, unless its level is below the threshold. -/
def note (level : Level) (text : String) : Action Unit :=
  modify fun s =>
    if s.threshold.rank ≤ level.rank then { s with records := s.records ++ [⟨level, text⟩] }
    else s

def setThreshold (level : Level) : Action Unit := modify fun s => { s with threshold := level }

def print (text : String) : Action Unit := modify fun s => { s with output := s.output ++ text }

def complain (text : String) : Action Unit := modify fun s => { s with errors := s.errors ++ text }

def getVariable (name : String) : Action (Option String) :=
  return (← get).environment.lookup name

def settle {ε α : Type} (fault : ε → Fault) : Except ε α → Action α
  | .ok x => pure x
  | .error e => throw (fault e)

/-- The system takes no text that holds U+0000. -/
def checkText (text : String) : Action Unit :=
  if text.toList.contains '\x00' then throw .zeroCharacter else pure ()

/-- The system takes no text that holds half of a pair either. -/
def asText (text : Wide) : Action String := do
  let t ← settle .unencodable text.spelled
  checkText t
  return t

def readOctets (path : String) : Action (List UInt8) := do
  checkText path
  settle (.files · path) ((← get).tree.read path)

def writeText (path text : String) : Action Unit := do
  checkText path
  let tree ← settle (.files · path) ((← get).tree.write path (Utf8.encode text.toList))
  modify fun s => { s with tree := tree }

/-- Make a directory and those that lead to it, unless it is there. -/
def makeDirectories (p : Path) : Action Unit := do
  checkText p.text
  let (tree, stopped) := (← get).tree.makeDirectories p
  modify fun s => { s with tree := tree }
  stopped.forM fun (e, failed) => throw (.files e failed.text)

end Session

end Cosim.Run
