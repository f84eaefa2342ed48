import Cosim.Cli.CampaignCommand
import Cosim.Cli.CompareCommand
import Cosim.Script.Machine

namespace Cosim.Main

open Cosim.Files Cosim.Run

def isScript (content : ByteArray) : Bool := content.extract 0 2 == ⟨#[0x23, 0x21]⟩

def plantFile (t : Tree) (place : Location) (content : ByteArray) : Tree :=
  t.plant place (.file content (isScript content))

/-- Take the entries of a directory, and all below it, into a tree. -/
partial def load (t : Tree) (place : Location) (entries : Array IO.FS.DirEntry) : IO Tree :=
  entries.foldlM (fun t e => do
    let below := place ++ [e.fileName]
    if ← e.path.isDir then load (t.plant below .directory) below (← e.path.readDir)
    else return plantFile t below (← IO.FS.readBinFile e.path)) t

/-- Take what an argument names in full into a tree, with the directory that holds it. -/
def loadArgument (t : Tree) (argument : String) : IO Tree := do
  if !argument.startsWith "/" then return t
  let place := (Path.ofString argument).names
  let path ← IO.FS.realPath argument
  let t ← match path.parent with
    | some above => if ← above.isDir then pure (t.plant place.dropLast .directory) else pure t
    | none => pure t
  if ← path.isDir then return t.plant place .directory
  if ← path.pathExists then return plantFile t place (← IO.FS.readBinFile argument)
  return t

def variableNames : List String :=
  ["PATH", "SPIKE_PATH", "BOAT_PATH", "SAIL_DIFFTEST_CONFIG", "COLUMNS"]

def loadEnvironment : IO (List (String × String)) :=
  variableNames.filterMapM fun name => return (← IO.getEnv name).map fun value => (name, value)

def absolute (place : Location) : String := "/" ++ Path.joined place

def save (t earlier : Tree) : IO Unit := do
  (t.newDirectories earlier).forM fun place => IO.FS.createDirAll (absolute place)
  (t.changedFiles earlier).forM fun (place, octets) =>
    IO.FS.writeBinFile (absolute place) (ByteArray.mk octets.toArray)

def command : List String → Action Nat
  | "compare" :: arguments => Cli.CompareCommand.run arguments
  | arguments => Cli.CampaignCommand.run Script.machine arguments

def run (arguments : List String) : IO UInt32 := do
  let directory ← IO.currentDir
  let here := (Path.ofString directory.toString).names
  let start := Script.Tool.equip
    ((⟨[], here⟩ : Tree).plant here .directory).equip
  let t ← load start here (← directory.readDir)
  let t ← arguments.foldlM loadArgument t
  let (outcome, session) := (command arguments).run (.start t (← loadEnvironment))
  save session.tree t
  session.records.forM fun r => IO.eprintln (r.level.name ++ " " ++ r.text)
  IO.print session.output
  IO.eprint session.errors
  match outcome with
  | .ok status => return status.toUInt32
  | .error f =>
    IO.eprintln f.message
    return 1

end Cosim.Main

def main (arguments : List String) : IO UInt32 := Cosim.Main.run arguments
