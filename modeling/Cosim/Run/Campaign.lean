import Cosim.Files.Glob
import Cosim.Report.Table
import Cosim.Run.Logs
import Cosim.Run.Simulator

namespace Cosim.Run.Campaign

open Cosim.Files Cosim.Report Cosim.Text

open Session

def runDir (workDir elf : Path) : Path := workDir.child elf.name

def resultFile (runDir : Path) : Path := runDir.child "compare.log"

def facts (elf runDir : Path) : List (String × String) :=
  [("elf", elf.text), ("spike log", (Simulator.commitLog runDir).text),
    ("boat log", (Simulator.eventLog runDir).text),
    ("comparison log", (resultFile runDir).text)]

def matching (t : Tree) (pattern : Wide) : List Path :=
  match pattern.spelled with
  | .ok text => Glob.files t text
  | .error _ => []

def checkPattern (pattern : Wide) : Action Unit :=
  match pattern.spelled with
  | .ok text => checkText (Glob.searched text)
  | .error _ => discard (asText (Glob.leading pattern))

def findElfs (pattern : Wide) : Action (List Path) := do
  checkPattern pattern
  return matching (← get).tree pattern

@[simp] theorem matching_ofString (t : Tree) (pattern : String) :
    matching t pattern = Glob.files t pattern := by
  rw [matching, Wide.spelled_ofString]

def testOne (machine : Machine) (config : Config) (workDir : Path) (verbose : Bool) (elf : Path) :
    Action CaseResult := do
  let dir := runDir workDir elf
  makeDirectories dir
  let commitLog ← Simulator.runSpike machine verbose config.spikeArgs elf dir
  let eventLog ← Simulator.runBoat machine verbose config.boatArgs elf dir
  let verdict ← compareFiles commitLog.text eventLog.text config.endPattern
  let facts := facts elf dir
  let told ← writeVerdict (resultFile dir).text verdict facts
  return ⟨elf.text, told, facts⟩

/-- Test the programs one by one. That there is no directory for logs is a fault of the first
test. -/
def testAll (machine : Machine) (config : Config) (workDir : Except Fault Path) (verbose : Bool) :
    List Path → Action (List CaseResult)
  | [] => return []
  | elf :: rest => do
    note .info ("running difftest for " ++ elf.text)
    let result ← testOne machine config (← settle id workDir) verbose elf
    noteVerdict result.verdict
    return result :: (← testAll machine config workDir verbose rest)

def run (machine : Machine) (config : Config) (workDir : Except Fault Path) (verbose : Bool) :
    Action (List CaseResult) := do
  match ← findElfs config.elfGlob with
  | [] => throw (.noElf config.elfGlob)
  | elfs => testAll machine config workDir verbose elfs

/-- What a campaign is given besides the simulators: its configuration file, the directory for logs,
whether commands are shown, and where to write a report and a document of results. -/
structure Plan where
  configFile : Except Fault String
  workDir : Except Fault Path
  verbose : Bool
  report : Option (Except Fault String)
  document : Option (Except Fault String)

def runAndReport (machine : Machine) (plan : Plan) : Action Bool := do
  let config ← readConfig (← settle id plan.configFile)
  let results ← run machine config plan.workDir plan.verbose
  note .info ("Summary:\n" ++ Table.summary results ++ "\n" ++ summaryLine results)
  plan.report.forM fun path => do writeCampaign results (← settle id path)
  plan.document.forM fun path => do writeDocument results (← settle id path)
  return (failing results).isEmpty

end Cosim.Run.Campaign
