import Cosim.Report.Block
import Cosim.Run.Session
import Cosim.Trace.LogFile

namespace Cosim.Run

open Cosim.Files Cosim.Text Cosim.Trace Cosim.Report

open Session

def commitsFrom (name : String) (octets : Action (List UInt8)) : Action (List Commit) := do
  note .info ("Processing spike log : " ++ name)
  let commits ← settle .badLog (LogFile.commits (← octets))
  note .info ("Processed commit count : " ++ toString commits.length)
  return commits

def eventsFrom (name : String) (octets : Action (List UInt8)) : Action (List Event) := do
  note .info ("Processing boat log : " ++ name)
  let events ← settle .badLog (LogFile.events (← octets))
  note .info ("Processed event count : " ++ toString events.length)
  return events

def readCommits (path : String) : Action (List Commit) := commitsFrom path (readOctets path)

def readEvents (path : String) : Action (List Event) := eventsFrom path (readOctets path)

/-- The file of the configuration, unless the command line names another. -/
def configLocation : Action String := do
  return (← getVariable "SAIL_DIFFTEST_CONFIG").getD "./sail_difftest_config.json"

def readConfig (path : String) : Action Config := do
  checkText path
  let octets ← settle (.unreadableConfig path ·) ((← get).tree.read path)
  let text ← settle .undecodable (Utf8.decode octets)
  settle .badConfig (Config.ofText (Lines.unify text))

def compareTraces (commits : List Commit) (events : List Event) (pattern : Option EndPattern) :
    Action (Verdict Wide) := do
  let comparison ← settle .notComparable (Align.compare commits events pattern)
  comparison.notes.forM fun n => note .debug n.message
  return Verdict.ofComparison comparison

def compareFiles (commitLog eventLog : String) (pattern : Option EndPattern) :
    Action (Verdict Wide) := do
  let commits ← readCommits commitLog
  let events ← readEvents eventLog
  compareTraces commits events pattern

def noteVerdict : Verdict String → Action Unit
  | .pass => note .info "difftest pass"
  | .fail diagnostic => note .error ("\n" ++ diagnostic)

/-- Write a verdict with its facts. Half of a pair in its diagnostic is found out once the file is
open, and cuts it off before the diagnostic. -/
def writeVerdict (path : String) (verdict : Verdict Wide) (facts : List (String × String)) :
    Action (Verdict String) := do
  match verdict.spelled with
  | .ok told =>
    writeText path (resultText told facts)
    return told
  | .error e =>
    writeText path failOpening
    throw (.unencodable e)

def writeCampaign (results : List CaseResult) (path : String) : Action Unit :=
  writeText path (campaignText results)

def writeDocument (results : List CaseResult) (path : String) : Action Unit :=
  writeText path (Block.document results)

end Cosim.Run
