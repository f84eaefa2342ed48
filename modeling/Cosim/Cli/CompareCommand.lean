import Cosim.Cli.Help
import Cosim.Numeral.HexWord
import Cosim.Run.Logs

namespace Cosim.Cli.CompareCommand

open Cosim.Numeral Cosim.Run Cosim.Text Cosim.Trace

def anyText : Use := .value fun _ => none

def hexWord : Use := .value fun text =>
  if (HexWord.read? text.toList).isSome then none else some (HexWord.complaint text)

def form : Form where
  program := "sail-difftest-compare"
  purpose := "Compare a saved Spike commit log with a boat event log"
  options :=
    [⟨["-h", "--help"], "help", .help, false, "show this help message and exit"⟩,
      ⟨["--spike-log"], "spike-log", anyText, true, "Output of `spike --log-commits`"⟩,
      ⟨["--boat-log"], "boat-log", anyText, true, "JSON event log written by boat"⟩,
      ⟨["--end-address"], "end-address", hexWord, false,
        "Address of the store that ends the test"⟩,
      ⟨["--end-data"], "end-data", hexWord, false, "Data of the store that ends the test"⟩,
      ⟨["--output"], "output", anyText, false, "Write a result file here as well"⟩,
      ⟨["-v", "--verbose"], "verbose", .flag, false, "Verbose logging"⟩]

/-- What the command is asked to do. -/
structure Settings where
  commitLog : Setting
  eventLog : Setting
  endAddress : Option Setting
  endData : Option Setting
  output : Option Setting
  verbose : Bool
deriving DecidableEq, Repr

def Settings.ofFound (found : Options.Found) : Settings where
  commitLog := (Options.setting? found "spike-log").getD .nothing
  eventLog := (Options.setting? found "boat-log").getD .nothing
  endAddress := Options.setting? found "end-address"
  endData := Options.setting? found "end-data"
  output := Options.setting? found "output"
  verbose := (Options.setting? found "verbose").isSome

def nameOf : Setting → String
  | .text s => s
  | .nothing => "[]"

def asWord : Setting → Except Fault Nat
  | .text s =>
    match HexWord.read? s.toList with
    | some n => .ok n
    | none => .error (.missingText .number)
  | .nothing => .error (.missingText .number)

open Session

/-- Compare two traces up to the end that is asked for. An end that is none is a fault only where
both traces have a start. -/
def compareUpTo (commits : List Commit) (events : List Event) :
    Except Fault (Option EndPattern) → Action (Report.Verdict Wide)
  | .ok pattern => compareTraces commits events pattern
  | .error f => do
    let comparison ← settle .notComparable (Align.compare commits events none)
    match comparison.notes with
    | [] => return .ofComparison comparison
    | synced :: _ =>
      note .debug synced.message
      throw f

def octetsOf (s : Setting) : Action (List UInt8) := do readOctets (← settle id s.asPath)

def compareAndReport (s : Settings) (pattern : Except Fault (Option EndPattern)) : Action Nat := do
  let commits ← commitsFrom (nameOf s.commitLog) (octetsOf s.commitLog)
  let events ← eventsFrom (nameOf s.eventLog) (octetsOf s.eventLog)
  let verdict ← compareUpTo commits events pattern
  noteVerdict (verdict.map Wide.shown)
  let facts := [("spike log", nameOf s.commitLog), ("boat log", nameOf s.eventLog)]
  s.output.forM fun path => do
    let _ ← writeVerdict (← settle id path.asPath) verdict facts
  return if verdict.isPass then 0 else 1

def carryOut (s : Settings) : Action Nat := do
  setThreshold (levelFor s.verbose)
  match s.endAddress, s.endData with
  | none, none => compareAndReport s (.ok none)
  | some address, some data =>
    compareAndReport s (do return some ⟨← asWord address, ← asWord data⟩)
  | _, _ => stop form (.misuse .halfEndPattern)

def run (arguments : List String) : Action Nat :=
  match Options.read form.options arguments with
  | .error reason => stop form reason
  | .ok found => reporting (carryOut (.ofFound found))

end Cosim.Cli.CompareCommand
