import Cosim.Proofs.Files.Patterns
import Cosim.Proofs.Run.Ending

namespace Cosim.Proofs.Run.TestPrograms

open Cosim.Files Cosim.Files.Tree Cosim.Report Cosim.Run Cosim.Run.Session
  Cosim.Proofs.Files.Globbing Cosim.Proofs.Files.Joining Cosim.Proofs.Files.Patterns
  Cosim.Proofs.Files.Ways Cosim.Proofs.Outcome Cosim.Proofs.Run.Actions Cosim.Proofs.Run.Ending
  Cosim.Proofs.Run.OwnLogs Cosim.Proofs.Session

section Campaigns

variable {machine : Machine} {config : Config} {workDir elf : Path} {verbose : Bool}
  {elfs : List Path} {result : CaseResult} {results : List CaseResult} {s s' : Session} {t : Tree}
  {pattern : String}

theorem exists_text {pattern : Text.Wide} (h : Campaign.matching t pattern ≠ []) :
    ∃ text : String, pattern = text := by
  rw [Campaign.matching] at h
  split at h
  · next text hspelled => exact ⟨text, Text.Wide.spelled_eq_ok.mp hspelled⟩
  · exact absurd rfl h

end Campaigns

end Cosim.Proofs.Run.TestPrograms
