import Cosim.Run.Command

namespace Cosim.Run

open Cosim.Files Cosim.Text

namespace Tool

def isProgram (t : Tree) (path : String) : Bool := t.isFile path && t.isRunnable path

/-- The directories of a search path. The empty search path has none, an empty entry is the current
directory. -/
def directories (searchPath : String) : List String :=
  if searchPath.isEmpty then [] else (Blank.cut (· == ':') searchPath.toList).map String.ofList

def search (t : Tree) (searchPath : String) (name : String) : Option String :=
  if name.toList.contains '/' then [name].find? (isProgram t)
  else ((directories searchPath).map fun d => joinText d name).find? (isProgram t)

open Session

/-- Find a simulator: in the directory that its variable names, and without one by a search. -/
def find (name variableName : String) : Action String := do
  let t := (← get).tree
  match ← getVariable variableName with
  | some directory =>
    let path := joinText directory name
    checkText path
    if t.isRunnable path then return path
    throw (.toolNotRunnable name variableName path)
  | none =>
    let searchPath := (← getVariable "PATH").getD "/bin:/usr/bin"
    match search t searchPath name with
    | some path => return path
    | none => throw (.toolNotFound name variableName)

end Tool

namespace Simulator

def spikeWords (tool : String) (args : List Wide) (elf : Path) : List Wide :=
  tool :: (args ++ [Wide.ofString elf.text])

def boatWords (tool : String) (args : List Wide) (elf eventLog : Path) : List Wide :=
  [tool, "-vvv", "--elf-path", elf.text, "--output-log-path", eventLog.text].map Wide.ofString ++
    args

def commitLog (runDir : Path) : Path := runDir.child "spike.log"

def spikeOutput (runDir : Path) : Path := runDir.child "spike.stdout"

def eventLog (runDir : Path) : Path := runDir.child "boat_trace_event.jsonl"

def boatOutput (runDir : Path) : Path := runDir.child "boat.log"

def runSpike (machine : Machine) (verbose : Bool) (args : List Wide) (elf runDir : Path) :
    Action Path := do
  let tool ← Tool.find "spike" "SPIKE_PATH"
  let log := commitLog runDir
  let status ← runCommand machine verbose (spikeWords tool args elf)
    ⟨some (spikeOutput runDir).text, some log.text⟩ none
  if status ≠ 0 then throw (.spikeFailed tool args elf status log)
  return log

def runBoat (machine : Machine) (verbose : Bool) (args : List Wide) (elf runDir : Path) :
    Action Path := do
  let tool ← Tool.find "boat" "BOAT_PATH"
  let log := eventLog runDir
  let output := boatOutput runDir
  let status ← runCommand machine verbose (boatWords tool args elf log)
    ⟨some output.text, some output.text⟩ none
  if status ≠ 0 then throw (.boatFailed args elf status output)
  if !(← get).tree.has log.text then throw (.noEventLog log)
  return log

end Simulator

end Cosim.Run
