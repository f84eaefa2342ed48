import Cosim.Cli.CampaignCommand
import Cosim.Proofs.Files.Writing
import Cosim.Proofs.Run.Restraint

namespace Cosim.Proofs.Run.Ending

open Cosim.Cli Cosim.Files Cosim.Files.Tree Cosim.Report Cosim.Run Cosim.Run.Session
  Cosim.Proofs.Files.Changes Cosim.Proofs.Files.Ways Cosim.Proofs.Files.Writing
  Cosim.Proofs.Outcome Cosim.Proofs.Run.Actions Cosim.Proofs.Run.Commands
  Cosim.Proofs.Run.OwnLogs Cosim.Proofs.Run.Restraint Cosim.Proofs.Session

/-- The locations that the reports of a campaign are asked for. -/
def IsReport (settings : CampaignCommand.Settings) (here : Location) (q : Location) : Prop :=
  ∃ path, (settings.report = some (.text path) ∨ settings.document = some (.text path)) ∧
    q = goal (origin here path) (pieces path)

/-- The session in which the command looks for its configuration. -/
def begun (settings : CampaignCommand.Settings) (s : Session) : Session :=
  { s with threshold := levelFor settings.verbose }

theorem here_begun (settings : CampaignCommand.Settings) (s : Session) :
    (begun settings s).tree.here = s.tree.here := rfl

def planned (settings : CampaignCommand.Settings) (s : Session) : Campaign.Plan :=
  settings.plan ((s.environment.lookup "SAIL_DIFFTEST_CONFIG").getD "./sail_difftest_config.json")

/-- A campaign over programs with names of their own, with its reports outside the directories of
the tests. -/
structure Planned (settings : CampaignCommand.Settings) (s : Session) (config : Config)
    (workDir : Path) (elfs : List Path) : Prop where
  config_eq : ∃ path, (planned settings s).configFile = .ok path ∧
    outcome (readConfig path) s = .ok config
  workDir_eq : (planned settings s).workDir = .ok workDir
  elfs_eq : outcome (Campaign.findElfs config.elfGlob) s = .ok elfs
  some_elf : elfs ≠ []
  names : (elfs.map Path.name).Nodup
  here : IsReached s.tree s.tree.here
  outside : ∀ q, IsReport settings s.tree.here q →
    ∀ elf ∈ elfs, ¬ testPlace s.tree.here workDir elf <+: q

def gathered (machine : Machine) (settings : CampaignCommand.Settings) :
    Action (List CaseResult) := do
  setThreshold (levelFor settings.verbose)
  let location ← configLocation
  let path ← settle id (settings.plan location).configFile
  let config ← readConfig path
  Campaign.run machine config (settings.plan location).workDir settings.verbose

def report (settings : CampaignCommand.Settings) (results : List CaseResult) : Action Nat := do
  note .info ("Summary:\n" ++ Table.summary results ++ "\n" ++ summaryLine results)
  (settings.report.map Setting.asPath).forM fun path => do
    writeCampaign results (← settle id path)
  (settings.document.map Setting.asPath).forM fun path => do
    writeDocument results (← settle id path)
  return if (failing results).isEmpty then 0 else 1

section Commands

variable {machine : Machine} {settings : CampaignCommand.Settings} {s s' : Session}
  {config : Config} {workDir : Path} {elfs : List Path} {results : List CaseResult} {status : Nat}

theorem carryOut_eq (machine : Machine) (settings : CampaignCommand.Settings) :
    CampaignCommand.carryOut machine settings = gathered machine settings >>= report settings := by
  simp only [CampaignCommand.carryOut, Campaign.runAndReport, gathered, bind_assoc, pure_bind]
  rfl

theorem run_gathered {path : String} (hpath : (planned settings s).configFile = .ok path)
    (machine : Machine) : (gathered machine settings).run s = (do
      let config ← readConfig path
      Campaign.run machine config (planned settings s).workDir settings.verbose).run
        (begun settings s) := by
  have hbegin : (setThreshold (levelFor settings.verbose)).run s = (.ok (), begun settings s) := rfl
  have hlocation : configLocation.run (begun settings s) =
      (.ok ((s.environment.lookup "SAIL_DIFFTEST_CONFIG").getD "./sail_difftest_config.json"),
        begun settings s) := rfl
  have hsettle : (settle id (planned settings s).configFile).run (begun settings s) =
      (.ok path, begun settings s) := by
    rw [hpath]
    rfl
  rw [gathered, run_bind_ok hbegin, run_bind_ok hlocation, ← planned, run_bind_ok hsettle]

theorem run_readConfig {path : String} (h : outcome (readConfig path) s = .ok config) :
    (readConfig path).run s = (.ok config, s) := by
  refine Prod.ext h ?_
  rw [readConfig]
  rcases (still_checkText path).bind_cases _ s with ⟨e, he⟩ | ⟨_, hrest⟩
  · rw [he]
  · rw [hrest, run_get_bind]
    have hstill : Still (do
        let octets ← settle (.unreadableConfig path ·) (s.tree.read path)
        let text ← settle .undecodable (Text.Utf8.decode octets)
        settle .badConfig (Config.ofText (Text.Lines.unify text))) :=
      (still_settle _ _).bind fun octets => (still_settle _ _).bind fun text => still_settle _ _
    exact hstill.eq_of_run rfl

theorem run_findElfs {pattern : Text.Wide}
    (h : outcome (Campaign.findElfs pattern) s = .ok elfs) :
    (Campaign.findElfs pattern).run s = (.ok elfs, s) ∧
      elfs = Campaign.matching s.tree pattern := by
  rw [outcome, Campaign.findElfs] at h
  rw [Campaign.findElfs]
  rcases (still_checkPattern pattern).bind_cases
    (fun _ => do return Campaign.matching (← get).tree pattern) s with ⟨e, he⟩ | ⟨_, hrest⟩
  · rw [he] at h
    cases h
  · rw [hrest] at h ⊢
    obtain rfl := Except.ok.inj h
    exact ⟨rfl, rfl⟩

theorem text_ofString_ne (text : String) : (Path.ofString text).text ≠ "" := by
  have hnames : ∀ name ∈ (Path.ofString text).names, name ≠ "" := by
    rintro name hname rfl
    exact absurd (List.mem_filter.mp hname).2 (by decide)
  generalize Path.ofString text = p at *
  obtain ⟨slashes, names⟩ := p
  intro hempty
  have htext := congrArg String.toList hempty
  cases names with
  | nil => cases slashes <;> simp [Path.text, Path.joined, List.replicate_succ] at htext
  | cons name rest =>
    have hname : name ≠ "" := hnames name List.mem_cons_self
    cases rest <;> simp [Path.text, Path.joined, hname] at htext

theorem Planned.workDir_ne (h : Planned settings s config workDir elfs) : workDir.text ≠ "" := by
  have hdir := h.workDir_eq
  rw [planned, CampaignCommand.Settings.plan] at hdir
  dsimp only at hdir
  cases hsetting : settings.workDir.getD (.text "./difftest_out") with
  | text path =>
    rw [hsetting] at hdir
    obtain rfl := Except.ok.inj hdir
    exact text_ofString_ne path
  | nothing =>
    rw [hsetting] at hdir
    cases hdir

theorem Planned.plain (h : Planned settings s config workDir elfs) :
    ∀ elf ∈ elfs, IsPlainName elf.name := by
  obtain ⟨-, rfl⟩ := run_findElfs h.elfs_eq
  exact isPlainName_of_mem_matching h.here config.elfGlob

theorem Planned.run_eq (h : Planned settings s config workDir elfs) (machine : Machine) :
    (Campaign.run machine config (.ok workDir) settings.verbose).run s =
      (Campaign.testAll machine config (.ok workDir) settings.verbose elfs).run s := by
  rw [Campaign.run, run_bind_ok (run_findElfs h.elfs_eq).1]
  cases elfs with
  | nil => exact absurd rfl h.some_elf
  | cons elf rest => rfl

theorem Planned.run_gathered (h : Planned settings (begun settings s) config workDir elfs)
    (machine : Machine) : (gathered machine settings).run s =
      (Campaign.testAll machine config (.ok workDir) settings.verbose elfs).run
        (begun settings s) := by
  obtain ⟨path, hpath, hconfig⟩ := h.config_eq
  have hpath : (planned settings s).configFile = .ok path := hpath
  have hwork : (planned settings s).workDir = .ok workDir := h.workDir_eq
  rw [Ending.run_gathered hpath, run_bind_ok (run_readConfig hconfig), hwork, h.run_eq machine]

theorem Planned.run_carryOut (h : Planned settings (begun settings s) config workDir elfs)
    (machine : Machine) : (CampaignCommand.carryOut machine settings).run s =
      (Campaign.testAll machine config (.ok workDir) settings.verbose elfs >>=
        report settings).run (begun settings s) := by
  rw [carryOut_eq, run_bind, run_bind, h.run_gathered machine]

theorem status_of_report (h : (report settings results).run s = (.ok status, s')) :
    status = if results.all (·.verdict.isPass) then 0 else 1 := by
  rw [report, run_bind_eq_ok] at h
  obtain ⟨_, s₁, -, h⟩ := h
  rw [run_bind_eq_ok] at h
  obtain ⟨_, s₂, -, h⟩ := h
  rw [run_bind_eq_ok] at h
  obtain ⟨_, s₃, -, h⟩ := h
  have hpass : (failing results).isEmpty = results.all (·.verdict.isPass) := by
    rw [Bool.eq_iff_iff]
    simp [failing]
  rw [← hpass]
  exact (Except.ok.inj (Prod.mk.inj h).1).symm

/-- Writing a report that is asked for, if one is. What can be written still can be afterwards. -/
theorem exists_run_write {setting : Option Setting}
    (h : ∀ x, setting = some x → ∃ path, x = .text path ∧ Writable s.tree path) (text : String) :
    ∃ t, ((setting.map Setting.asPath).forM fun path => do
        writeText (← settle id path) text).run s = (.ok (), { s with tree := t }) ∧
      ∀ path, Writable s.tree path → Writable t path := by
  cases setting with
  | none => exact ⟨s.tree, rfl, fun _ => id⟩
  | some x =>
    obtain ⟨path, rfl, hpath⟩ := h x rfl
    obtain ⟨t, ht⟩ := hpath.exists_write (Text.Utf8.encode text.toList)
    refine ⟨t, run_writeText hpath.no_zero ht, fun other hother => ?_⟩
    obtain ⟨place, htarget, -, rfl⟩ := write_eq_ok.mp ht
    exact hother.fill htarget

theorem exists_run_report
    (h : ∀ x, settings.report = some x ∨ settings.document = some x →
      ∃ path, x = .text path ∧ Writable s.tree path) (results : List CaseResult) :
    ∃ status s', (report settings results).run s = (.ok status, s') := by
  obtain ⟨records, hnote⟩ :=
    run_note .info ("Summary:\n" ++ Table.summary results ++ "\n" ++ summaryLine results) s
  obtain ⟨t, hreport, hstays⟩ := exists_run_write (s := { s with records := records })
    (fun x hx => h x (.inl hx)) (campaignText results)
  have hdocument : ∀ x, settings.document = some x → ∃ path, x = .text path ∧ Writable t path := by
    intro x hx
    obtain ⟨path, rfl, hpath⟩ := h x (.inr hx)
    exact ⟨path, rfl, hstays path hpath⟩
  obtain ⟨t', hdocument, -⟩ := exists_run_write (s := { s with records := records, tree := t })
    hdocument (Block.document results)
  refine ⟨if (failing results).isEmpty then 0 else 1,
    { s with records := records, tree := t' }, ?_⟩
  rw [report, run_bind_ok hnote]
  exact (run_bind_ok hreport _).trans (run_bind_ok hdocument _)

end Commands

end Cosim.Proofs.Run.Ending
