import Cosim.Cli.Help
import Cosim.Run.Campaign

namespace Cosim.Cli.CampaignCommand

open Cosim.Files Cosim.Run

def anyValue : Use := .value fun _ => none

def form : Form where
  program := "sail-difftest"
  purpose := "Differential test of boat against Spike"
  options :=
    [⟨["-h", "--help"], "help", .help, false, "show this help message and exit"⟩,
      ⟨["-c", "--config-path"], "config-path", anyValue, false, "Case config file (hjson)"⟩,
      ⟨["--work-dir"], "work-dir", anyValue, false, "Directory for simulator logs"⟩,
      ⟨["--output"], "output", anyValue, false, "Write a report of every test here"⟩,
      ⟨["--results-yaml"], "results-yaml", anyValue, false,
        "Write the results in YAML form here"⟩,
      ⟨["-v", "--verbose"], "verbose", .flag, false, "Verbose logging"⟩]

/-- What the command is asked to do. -/
structure Settings where
  configFile : Option Setting
  workDir : Option Setting
  report : Option Setting
  document : Option Setting
  verbose : Bool
deriving DecidableEq, Repr

def Settings.ofFound (found : Options.Found) : Settings where
  configFile := Options.setting? found "config-path"
  workDir := Options.setting? found "work-dir"
  report := Options.setting? found "output"
  document := Options.setting? found "results-yaml"
  verbose := (Options.setting? found "verbose").isSome

open Session

def Settings.plan (s : Settings) (location : String) : Campaign.Plan where
  configFile := (s.configFile.getD (.text location)).asPath
  workDir := (s.workDir.getD (.text "./difftest_out")).asDirectory
  verbose := s.verbose
  report := s.report.map Setting.asPath
  document := s.document.map Setting.asPath

def carryOut (machine : Machine) (s : Settings) : Action Nat := do
  setThreshold (levelFor s.verbose)
  let passed ← Campaign.runAndReport machine (s.plan (← configLocation))
  return if passed then 0 else 1

def run (machine : Machine) (arguments : List String) : Action Nat :=
  match Options.read form.options arguments with
  | .error reason => stop form reason
  | .ok found => reporting (carryOut machine (.ofFound found))

end Cosim.Cli.CampaignCommand
