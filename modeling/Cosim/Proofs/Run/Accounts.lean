import Cosim.Proofs.Report.Documents
import Cosim.Proofs.Run.Ending

namespace Cosim.Proofs.Run.Accounts

open Cosim.Cli Cosim.Files Cosim.Files.Tree Cosim.Proofs Cosim.Report Cosim.Run Cosim.Run.Session
  Cosim.Proofs.Files.Changes Cosim.Proofs.Files.Writing Cosim.Proofs.Outcome
  Cosim.Proofs.Report.Documents Cosim.Proofs.Run.Actions Cosim.Proofs.Run.Ending
  Cosim.Proofs.Run.OwnLogs Cosim.Proofs.Session

inductive Parted : List CaseResult → List CaseResult → List CaseResult → Prop
  | nil : Parted [] [] []
  | fails {r : CaseResult} {results failed passed : List CaseResult}
      (verdict_eq : r.verdict.isPass = false) (rest : Parted results failed passed) :
      Parted (r :: results) (r :: failed) passed
  | passes {r : CaseResult} {results failed passed : List CaseResult}
      (verdict_eq : r.verdict.isPass = true) (rest : Parted results failed passed) :
      Parted (r :: results) failed (r :: passed)

structure Stores (t : Tree) (path : String) (place : Location) : Prop where
  target_eq : t.target path = .ok place
  no_device : (t.node? place).any Node.isDevice = false

/-- The report and the document are in the files that they are asked for in, unless the document
takes the place of the report. -/
structure Told (settings : CampaignCommand.Settings) (report document : String) (t t' : Tree) :
    Prop where
  report_eq : ∀ {path place}, settings.report = some (.text path) → Stores t path place →
    (∀ other, settings.document = some (.text other) →
      ∃ q, t.target other = .ok q ∧ q ≠ place) →
    t'.read path = .ok (Text.Utf8.encode report.toList)
  document_eq : ∀ {path place}, settings.document = some (.text path) → Stores t path place →
    t'.read path = .ok (Text.Utf8.encode document.toList)

section Texts

variable {r : CaseResult} {results failed passed : List CaseResult}

theorem parted (results : List CaseResult) :
    Parted results (failing results) (passing results) := by
  induction results with
  | nil => exact .nil
  | cons r results ih =>
    cases hr : r.verdict.isPass with
    | true =>
      rw [failing, passing, List.filter_cons_of_neg (by simp [hr]),
        List.filter_cons_of_pos (by simp [hr])]
      exact .passes hr ih
    | false =>
      rw [failing, passing, List.filter_cons_of_pos (by simp [hr]),
        List.filter_cons_of_neg (by simp [hr])]
      exact .fails hr ih

theorem Parted.unique (h : Parted results failed passed) :
    failed = failing results ∧ passed = passing results := by
  induction h with
  | nil => exact ⟨rfl, rfl⟩
  | fails verdict_eq rest ih =>
    obtain ⟨rfl, rfl⟩ := ih
    simp [failing, passing, verdict_eq]
  | passes verdict_eq rest ih =>
    obtain ⟨rfl, rfl⟩ := ih
    simp [failing, passing, verdict_eq]

end Texts

section Files

variable {settings : CampaignCommand.Settings} {setting : Option Setting} {s s' : Session}
  {path text : String} {place : Location} {results : List CaseResult} {status : Nat}

/-- Writing a text to a file, if one is asked for. -/
inductive Wrote (text : String) (t : Tree) : Option Setting → Tree → Prop
  | nowhere : Wrote text t none t
  | file {path : String} {place : Location} (target_eq : t.target path = .ok place) :
      Wrote text t (some (.text path))
        (t.fill place ⟨(Text.Utf8.encode text.toList).toArray⟩)

namespace Wrote

variable {t t' : Tree} {q : Location}

theorem target_eq (h : Wrote text t setting t') (hq : t.target path = .ok q) :
    t'.target path = .ok q := by
  cases h with
  | nowhere => exact hq
  | file htarget => exact target_fill htarget hq

theorem read_eq (h : Wrote text t (some (.text path)) t') (hk : Stores t path q) :
    t'.read path = .ok (Text.Utf8.encode text.toList) := by
  cases h with
  | file htarget =>
    obtain rfl := Except.ok.inj (hk.target_eq.symm.trans htarget)
    exact read_fill htarget hk.no_device

end Wrote

end Files

def tested : Except Fault (List CaseResult) × Session :=
  (Campaign.testAll (writersEnding eventsOf fun _ => 0) config (.ok ⟨0, ["out"]⟩) settings.verbose
    (programs "u.elf")).run (begun settings configured)

end Cosim.Proofs.Run.Accounts
