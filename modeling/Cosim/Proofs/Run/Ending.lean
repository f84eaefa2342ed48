import Cosim.Proofs.Run.Ending.Commands
import Cosim.Proofs.Run.Ending.Tests

namespace Cosim.Proofs.Run.Ending

open Cosim.Cli Cosim.Files Cosim.Files.Tree Cosim.Report Cosim.Run Cosim.Run.Session
  Cosim.Proofs.Files.Changes Cosim.Proofs.Files.Ways Cosim.Proofs.Files.Writing
  Cosim.Proofs.Outcome Cosim.Proofs.Run.Actions Cosim.Proofs.Run.Commands
  Cosim.Proofs.Run.OwnLogs Cosim.Proofs.Run.Restraint Cosim.Proofs.Session

/-- All tests have a verdict. There is a result for each in their order, with the verdict that its
logs give, and the status of the command tells whether all of them passed. -/
structure Completes (machine : Machine) (settings : CampaignCommand.Settings) (config : Config)
    (workDir : Path) (elfs : List Path) (s : Session) (results : List CaseResult) (s₁ : Session) :
    Prop where
  run_eq : (Campaign.run machine config (.ok workDir) settings.verbose).run (begun settings s) =
    (.ok results, s₁)
  logs : List.Forall₂ (fun elf result => KeepsLogs config.endPattern workDir elf s₁ result)
    elfs results
  status : ∀ status s₂,
    (CampaignCommand.carryOut machine settings).run s = (.ok status, s₂) →
      status = if results.all (·.verdict.isPass) then 0 else 1
  returns : (∀ x, settings.report = some x ∨ settings.document = some x →
      ∃ path, x = .text path ∧ Writable s₁.tree path) →
    ∃ status s₂, (CampaignCommand.carryOut machine settings).run s = (.ok status, s₂)

/-- The campaign and the command end with the fault of one test, in the session that this test
leaves. The tests before it keep their logs. No file comes to be or changes where a report is asked
for, where a test behind it has its comparison log, or where it has its own, unless that is cut
off. -/
structure BreaksOff (machine : Machine) (settings : CampaignCommand.Settings) (config : Config)
    (workDir : Path) (s : Session) (before : List Path) (results : List CaseResult) (elf : Path)
    (after : List Path) (f : Fault) (s₂ : Session) : Prop where
  run_eq : (Campaign.run machine config (.ok workDir) settings.verbose).run (begun settings s) =
    (.error f, s₂)
  command_eq : (CampaignCommand.carryOut machine settings).run s = (.error f, s₂)
  logs : List.Forall₂ (fun elf result => KeepsLogs config.endPattern workDir elf s₂ result)
    before results
  reports : ∀ q, IsReport settings s.tree.here q → Unwritten s.tree s₂.tree q
  comparisons : ∀ later ∈ after, Unwritten s.tree s₂.tree
    (placeOf s.tree.here (Campaign.resultFile (Campaign.runDir workDir later)))
  comparison : Unwritten s.tree s₂.tree
      (placeOf s.tree.here (Campaign.resultFile (Campaign.runDir workDir elf))) ∨
    CutOff config.endPattern workDir elf f s₂

section Campaigns

variable {machine : Machine} {settings : CampaignCommand.Settings} {s s₁ s₂ : Session}
  {config : Config} {workDir elf : Path} {elfs before after : List Path}
  {results : List CaseResult} {f : Fault}

theorem completes (h : Planned settings (begun settings s) config workDir elfs)
    (hmachine : Discreet machine s.tree.here workDir (IsReport settings s.tree.here))
    (htested : Tested machine config workDir settings.verbose (begun settings s) elfs results s₁) :
    Completes machine settings config workDir elfs s results s₁ where
  run_eq := (h.run_eq machine).trans htested.run_eq
  logs := (keepsLogs_testAll hmachine.below h.workDir_ne h.plain h.names (here_begun settings s)
    htested.run_eq).1
  status status s₂ hrun := by
    rw [h.run_carryOut, run_bind_ok htested.run_eq] at hrun
    exact status_of_report hrun
  returns hreports := by
    rw [h.run_carryOut, run_bind_ok htested.run_eq]
    exact exists_run_report hreports results

theorem place_comparison (hwork : workDir.text ≠ "") (helf : IsPlainName elf.name)
    (here : Location) : placeOf here (Campaign.resultFile (Campaign.runDir workDir elf)) =
      testPlace here workDir elf ++ ["compare.log"] :=
  (leads_child workDir hwork helf here).1.goal_child (isPlainName_of_mem (by decide))

theorem apart_of_name_ne {here : Location} {kept : Location → Prop} {other : Path}
    (hne : elf.name ≠ other.name) (rest : Location) :
    Apart here workDir (testPlace here workDir elf) kept
      (testPlace here workDir other ++ rest) := by
  refine ⟨fun hfront => ?_, .inr ?_⟩
  · rw [testPlace, testPlace, List.append_assoc, List.prefix_append_right_inj,
      List.singleton_append, List.cons_prefix_cons] at hfront
    exact hne hfront.1
  · rw [testPlace, List.append_assoc]
    exact List.prefix_append _ _

theorem names_apart (hnames : ((before ++ elf :: after).map Path.name).Nodup) :
    (∀ other ∈ elf :: after, ∀ e ∈ before, e.name ≠ other.name) ∧
      ∀ other ∈ after, elf.name ≠ other.name := by
  rw [List.map_append, List.map_cons, List.nodup_append, List.nodup_cons] at hnames
  obtain ⟨-, ⟨helf, -⟩, hbefore⟩ := hnames
  refine ⟨fun other hother e he => ?_, fun other hother hsame => ?_⟩
  · exact hbefore _ (List.mem_map_of_mem he) _ (List.mem_map_of_mem hother)
  · exact helf (hsame ▸ List.mem_map_of_mem hother)

theorem breaksOff (h : Planned settings (begun settings s) config workDir
      (before ++ elf :: after))
    (hmachine : Discreet machine s.tree.here workDir (IsReport settings s.tree.here))
    (hfault : FirstFault machine config workDir settings.verbose (begun settings s) before results
      s₁ elf f s₂) :
    BreaksOff machine settings config workDir s before results elf after f s₂ where
  run_eq := (h.run_eq machine).trans (hfault.run_eq after)
  command_eq := by
    rw [h.run_carryOut]
    exact run_bind_error (hfault.run_eq after) _
  logs := hfault.keepsLogs hmachine h.workDir_ne h.plain (here_begun settings s) h.names
  reports q hq := by
    have hapart : ∀ e ∈ before ++ elf :: after,
        Apart s.tree.here workDir (testPlace s.tree.here workDir e)
          (IsReport settings s.tree.here) q :=
      fun e he => ⟨h.outside q hq e he, .inl hq⟩
    obtain ⟨hbefore, helf⟩ := List.forall_mem_append.mp hapart
    exact hfault.unwritten hmachine h.workDir_ne h.plain (here_begun settings s) hbefore
      (List.forall_mem_cons.mp helf).1
  comparisons later hlater := by
    -- names of their own keep a later test apart from those before it and from the one at fault
    obtain ⟨hbefore, helf⟩ := names_apart h.names
    have hmem := List.mem_cons_of_mem elf hlater
    rw [place_comparison h.workDir_ne (h.plain later (List.mem_append_right before hmem))]
    exact hfault.unwritten hmachine h.workDir_ne h.plain (here_begun settings s)
      (fun e he => apart_of_name_ne (hbefore later hmem e he) _)
      (apart_of_name_ne (helf later hlater) _)
  comparison := by
    obtain ⟨hbefore, -⟩ := names_apart h.names
    have hmem : elf ∈ elf :: after := List.mem_cons_self
    rw [place_comparison h.workDir_ne (h.plain elf (List.mem_append_right before hmem))]
    exact hfault.comparison (s := begun settings s) hmachine h.workDir_ne h.plain
      (here_begun settings s) fun e he => apart_of_name_ne (hbefore elf hmem e he) _

theorem exists_result {verbose : Bool} {verdict : Verdict Text.Wide} {told : Verdict String}
    (hjudge : (judgeTest machine config workDir verbose elf).run s = (.ok verdict, s₁))
    (htold : verdict.spelled = .ok told)
    (hpath : Writable s₁.tree (Campaign.resultFile (Campaign.runDir workDir elf)).text) :
    ∃ s₂, (Campaign.testOne machine config workDir verbose elf).run s =
      (.ok ⟨elf.text, told, Campaign.facts elf (Campaign.runDir workDir elf)⟩, s₂) := by
  obtain ⟨t, ht⟩ := hpath.exists_write (Text.Utf8.encode
    (resultText told (Campaign.facts elf (Campaign.runDir workDir elf))).toList)
  rw [testOne_eq, run_bind_ok hjudge, writeVerdict, htold]
  exact ⟨_, run_bind_ok (run_bind_ok (run_writeText hpath.no_zero ht) _) _⟩

/-- A divergence that can be told does not stop a campaign, and a fault does: either all tests have
a verdict, or one of them is the first to end in a fault, after which nothing is run or reported. -/
theorem campaign_ends (h : Planned settings (begun settings s) config workDir elfs)
    (hmachine : Discreet machine s.tree.here workDir (IsReport settings s.tree.here)) :
    (∀ {results s₁},
      Tested machine config workDir settings.verbose (begun settings s) elfs results s₁ →
        Completes machine settings config workDir elfs s results s₁) ∧
    (∀ {before elf after results s₁ f s₂}, elfs = before ++ elf :: after →
      FirstFault machine config workDir settings.verbose (begun settings s) before results s₁ elf f
          s₂ →
        BreaksOff machine settings config workDir s before results elf after f s₂) ∧
    ((∃ results s₁,
        Tested machine config workDir settings.verbose (begun settings s) elfs results s₁) ∨
      ∃ before elf after results s₁ f s₂, elfs = before ++ elf :: after ∧
        FirstFault machine config workDir settings.verbose (begun settings s) before results s₁ elf
          f s₂) ∧
    ∀ {elf s s₁ verdict told},
      (judgeTest machine config workDir settings.verbose elf).run s = (.ok verdict, s₁) →
      verdict.spelled = .ok told →
      Writable s₁.tree (Campaign.resultFile (Campaign.runDir workDir elf)).text →
        ∃ s₂, (Campaign.testOne machine config workDir settings.verbose elf).run s =
          (.ok ⟨elf.text, told, Campaign.facts elf (Campaign.runDir workDir elf)⟩, s₂) := by
  refine ⟨completes h hmachine, ?_, tested_or_fault _ _ _ _ _ _, exists_result⟩
  rintro before elf after results s₁ f s₂ rfl hfault
  exact breaksOff h hmachine hfault

end Campaigns

def configured : Session :=
  { campaignWith "u.elf" with
    tree := (campaignWith "u.elf").tree.set ["sail_difftest_config.json"] (.file
      ⟨(Text.Utf8.encode "\x7belf_path_glob: elfs/*/*.elf\n\x7d".toList).toArray⟩ false) }

def settings : CampaignCommand.Settings :=
  ⟨none, some (.text "out"), some (.text "report.txt"), some (.text "results.yaml"), false⟩

def writersEnding (events : List String → List UInt8) (status : List String → Int) : Machine :=
  fun call t => (writersOf events call t).map fun o => { o with status := status call.args }

def refusing (args : List String) : Int := if args.contains "elfs/b/u.elf" then 1 else 0

theorem isReport_settings {q : Location} (h : IsReport settings [] q) :
    q = ["report.txt"] ∨ q = ["results.yaml"] := by
  have hplaces : goal (origin [] "report.txt") (pieces "report.txt") = ["report.txt"] ∧
      goal (origin [] "results.yaml") (pieces "results.yaml") = ["results.yaml"] := by
    decide +kernel
  obtain ⟨path, hpath | hpath, rfl⟩ := h
  · cases hpath
    exact .inl hplaces.1
  · cases hpath
    exact .inr hplaces.2

theorem discreet_writersEnding (events : List String → List UInt8)
    (status : List String → Int) :
    Discreet (writersEnding events status) [] ⟨0, ["out"]⟩ (IsReport settings []) where
  below call t o handle hcall := by
    obtain ⟨a, ha, rfl⟩ := map_eq_ok.mp hcall
    exact staysBelow_writersOf events call t a handle ha
  spares call t o handle hcall houtput e he q hq htouches := by
    obtain ⟨a, ha, rfl⟩ := map_eq_ok.mp hcall
    obtain rfl := Except.ok.inj ha
    dsimp only at he
    rw [houtput] at he
    rcases List.mem_cons.mp he with rfl | he
    · exact htouches.elim id id
    · split_ifs at he
      · obtain rfl := List.mem_singleton.mp he
        obtain rfl : _ = q := htouches.resolve_right id
        rcases hq with hreport | hcompare
        · rcases isReport_settings hreport with h | h <;>
            exact absurd (congrArg List.getLast? h) (by simp)
        · simp at hcompare
      · cases he

theorem files_configured :
    Campaign.matching configured.tree config.elfGlob = programs "u.elf" := by
  have hexpand : (Glob.ofString globText).expand configured.tree =
      ["elfs/a/t.elf", "elfs/b/u.elf"] := by
    decide +kernel
  have hpaths : (["elfs/a/t.elf", "elfs/b/u.elf"].map Path.ofString).filter
      (fun p => configured.tree.isFile p.text) = programs "u.elf" := by
    decide +kernel
  rw [config, Campaign.matching_ofString, Glob.files, hexpand,
    List.mergeSort_of_pairwise (by decide), hpaths]

theorem planned_configured :
    Planned settings (begun settings configured) config ⟨0, ["out"]⟩ (programs "u.elf") where
  config_eq :=
    ⟨"./sail_difftest_config.json", rfl, eq_ok_of_toOption (by decide +kernel)⟩
  workDir_eq := congrArg Except.ok (by decide +kernel : Path.ofString "out" = ⟨0, ["out"]⟩)
  elfs_eq := congrArg Except.ok files_configured
  some_elf := by decide
  names := by decide
  here q hq hne := absurd (List.prefix_nil.mp hq) hne
  outside q hq := by
    rcases isReport_settings hq with rfl | rfl
    · decide +kernel
    · decide +kernel

def first : Path := ⟨0, ["elfs", "a", "t.elf"]⟩

def second : Path := ⟨0, ["elfs", "b", "u.elf"]⟩

def testOf (machine : Machine) (elf : Path) (s : Session) : Except Fault CaseResult × Session :=
  (Campaign.testOne machine config ⟨0, ["out"]⟩ false elf).run (announced elf s)

def passes (machine : Machine) : List Bool :=
  match testOf machine first (begun settings configured) with
  | (.error _, _) => []
  | (.ok result, s₁) => result.verdict.isPass ::
      match testOf machine second (noted result.verdict s₁) with
      | (.error _, _) => []
      | (.ok result', _) => [result'.verdict.isPass]

section Passes

variable {machine : Machine} {a b : Bool}

theorem tested_of_passes (h : passes machine = [a, b]) : ∃ results s₁,
    Tested machine config ⟨0, ["out"]⟩ false (begun settings configured) (programs "u.elf") results
      s₁ ∧ results.map (·.verdict.isPass) = [a, b] := by
  unfold passes at h
  split at h
  · cases h
  · next result s₁ hfirst =>
    split at h
    · cases h
    · next result' s₂ hsecond =>
      exact ⟨[result, result'], _, .cons hfirst (.cons hsecond (.nil _)), h⟩

theorem fault_of_passes (h : passes machine = [a]) : ∃ results s₁ f s₂,
    FirstFault machine config ⟨0, ["out"]⟩ false (begun settings configured) [first] results s₁
      second f s₂ ∧ results.map (·.verdict.isPass) = [a] := by
  unfold passes at h
  split at h
  · cases h
  · next result s₁ hfirst =>
    split at h
    · next f s₂ hsecond =>
      exact ⟨[result], _, f, s₂, ⟨.cons hfirst (.nil _), hsecond⟩, h⟩
    · cases h

end Passes

/-- A program that fails does not keep the other one from being tested, but simulators that refuse a
program end the campaign. -/
theorem configured_ends :
    (∃ results s₁, Completes (writersEnding eventsOf fun _ => 0) settings config ⟨0, ["out"]⟩
      [first, second] configured results s₁ ∧ results.map (·.verdict.isPass) = [false, true]) ∧
    ∃ results f s₂, BreaksOff (writersEnding eventsOf refusing) settings config ⟨0, ["out"]⟩
      configured [first] results second [] f s₂ ∧ results.map (·.verdict.isPass) = [false] := by
  have hpasses : passes (writersEnding eventsOf fun _ => 0) = [false, true] := by decide +kernel
  have hrefused : passes (writersEnding eventsOf refusing) = [false] := by decide +kernel
  obtain ⟨results, s₁, htested, hresults⟩ := tested_of_passes hpasses
  obtain ⟨results', s₁', f, s₂, hfault, hresults'⟩ := fault_of_passes hrefused
  exact ⟨⟨results, s₁,
      (campaign_ends planned_configured (discreet_writersEnding _ _)).1 htested, hresults⟩,
    results', f, s₂,
      (campaign_ends planned_configured (discreet_writersEnding _ _)).2.1 rfl hfault, hresults'⟩

def halvedEvents (args : List String) : List UInt8 :=
  if args.contains "elfs/a/t.elf" then eventOctets "\\ud800" "2" else eventOctets "write" "1"

def leavesLog : Except Fault CaseResult × Session → Bool
  | (.error _, s₂) => (s₂.tree.node? ["out", "t.elf", "compare.log"] matches some (.file ..))
  | (.ok _, _) => false

/-- A divergence ends a campaign of two programs: the diagnostic cannot be told, the comparison log
of the first program is cut off, and the second one is not tested. -/
theorem divergence_breaks_off : ∃ f s₂,
    BreaksOff (writersEnding halvedEvents fun _ => 0) settings config ⟨0, ["out"]⟩ configured [] []
      first [second] f s₂ ∧ CutOff none ⟨0, ["out"]⟩ first f s₂ := by
  have hleaves : leavesLog (testOf (writersEnding halvedEvents fun _ => 0) first
      (begun settings configured)) = true := by
    decide +kernel
  rcases htest : testOf (writersEnding halvedEvents fun _ => 0) first
    (begun settings configured) with ⟨f | result, s₂⟩
  · rw [htest] at hleaves
    have hfault : FirstFault (writersEnding halvedEvents fun _ => 0) config ⟨0, ["out"]⟩ false
        (begun settings configured) [] [] (begun settings configured) first f s₂ :=
      ⟨.nil _, htest⟩
    have hbreaks : BreaksOff (writersEnding halvedEvents fun _ => 0) settings config ⟨0, ["out"]⟩
        configured [] [] first [second] f s₂ :=
      breaksOff planned_configured (discreet_writersEnding _ _) hfault
    refine ⟨f, s₂, hbreaks, hbreaks.comparison.resolve_left ?_⟩
    have hplace : placeOf [] (Campaign.resultFile (Campaign.runDir ⟨0, ["out"]⟩ first)) =
        ["out", "t.elf", "compare.log"] := by
      decide +kernel
    have hnone : configured.tree.node? ["out", "t.elf", "compare.log"] = none := by
      decide +kernel
    rw [show configured.tree.here = [] from rfl, hplace, Unwritten, hnone]
    rintro (hnode | ⟨-, hnode⟩)
    · simp [leavesLog, hnode] at hleaves
    · simp [leavesLog, hnode] at hleaves
  · rw [htest] at hleaves
    cases hleaves

end Cosim.Proofs.Run.Ending
