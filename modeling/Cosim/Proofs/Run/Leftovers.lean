import Cosim.Proofs.Run.TwinRuns

namespace Cosim.Proofs.Run.Leftovers

open Cosim.Files Cosim.Files.Tree Cosim.Run Cosim.Run.Session Cosim.Text
  Cosim.Proofs.Files.Changes Cosim.Proofs.Files.Leftovers Cosim.Proofs.Files.Ways
  Cosim.Proofs.Run.Actions
  Cosim.Proofs.Run.Commands Cosim.Proofs.Run.TwinRuns Cosim.Proofs.Session

/-- Two sessions with the same environment and the same files but for the logs in a directory, each
of which is a file or not there. -/
structure DifferInLogs (place : Location) (s s' : Session) : Prop where
  environment : s.environment = s'.environment
  rest : without (logs place) s.tree = without (logs place) s'.tree
  plain : ∀ q ∈ logs place, IsPlain (s.tree.node? q) ∧ IsPlain (s'.tree.node? q)

section Outcomes

variable {here place : Location} {workDir dir elf : Path} {machine : Machine} {config : Config}
  {verbose : Bool} {s s' r r' : Session}

theorem DifferInLogs.matched (h : DifferInLogs place s s') :
    Matched s.environment s.tree.here place (fun q => Equal (s.tree.node? q) (s'.tree.node? q))
      s s' :=
  ⟨rfl, h.environment.symm, rfl, h.rest, fun q hq => .inr (h.plain q hq), fun _ _ he => he⟩

theorem DifferInLogs.isLogDir (h : DifferInLogs place s s') (hnames : dir.names ≠ [])
    (hplace : s.tree.locate dir.text = .ok place) : IsLogDir s.tree.here dir place where
  names := hnames
  text := ne_empty_of_locate hplace
  leads := (goal_of_locate hplace).symm
  no_log q hq hlog := by
    have hplain := (h.plain q hlog).1
    rw [directory_of_locate hplace q hq] at hplain
    cases hplain

theorem run_makeDirectories_there (h : s.tree.locate dir.text = .ok place)
    (hdir : s.tree.node? place = some .directory) (hzero : '\x00' ∉ dir.text.toList) :
    (makeDirectories dir).run s = (.ok (), s) := by
  have htext : checkText dir.text = pure () := if_neg (by simpa using hzero)
  rw [Session.makeDirectories, htext, pure_bind, run_get_bind, makeDirectories_there h hdir]
  rfl

theorem outcome_testOne_eq
    (hr : (makeDirectories (Campaign.runDir workDir elf)).run s = (.ok (), r))
    (hr' : (makeDirectories (Campaign.runDir workDir elf)).run s' = (.ok (), r'))
    (hplace : r.tree.locate (Campaign.runDir workDir elf).text = .ok place)
    (hdiffer : DifferInLogs place r r') (hmachine : Heedless machine r.tree.here place)
    (hspike : SoughtElsewhere r.environment r.tree.here place "spike" "SPIKE_PATH")
    (hboat : SoughtElsewhere r.environment r.tree.here place "boat" "BOAT_PATH")
    (hlog : Equal (r.tree.node? (place ++ ["boat_trace_event.jsonl"]))
        (r'.tree.node? (place ++ ["boat_trace_event.jsonl"])) ∨
      RenewsLog machine config.boatArgs elf (Campaign.runDir workDir elf) place) :
    outcome (Campaign.testOne machine config workDir verbose elf) s =
      outcome (Campaign.testOne machine config workDir verbose elf) s' := by
  have hdir := hdiffer.isLogDir (by simp [Campaign.runDir, Path.child]) hplace
  rw [outcome, outcome, Campaign.testOne, run_bind_ok hr, run_bind_ok hr']
  refine (Related.bind (R := fun _ _ _ => True) (related_runSpike hmachine hdir hspike)
    (fun commitLog => ?_) r r' hdiffer.matched).1
  refine related_of_fact fun hcommitLog => ?_
  refine (related_runBoat hmachine hdir hboat (hlog.imp_left .inr)).bind fun eventLog =>
    related_of_fact fun heventLog => ?_
  rw [hcommitLog, heventLog]
  refine (related_compareFiles deaf_matched
    (fun t t' h => (h.read_eq hdir (by decide) (.inr (.inl rfl))).1)
    (fun t t' h => (h.read_eq hdir (by decide) (.inl rfl)).1) config.endPattern).bind
    fun verdict => ?_
  exact (related_writeVerdict hdir (by decide) verdict _).bind fun _ => related_pure fun _ _ h => h

end Outcomes

def WroteLog (machine : Machine) (args : List Wide) (elf dir : Path) (place : Location)
    (s : Session) : Prop :=
  ∃ tool words told streams s₁ path o,
    (openChannels ⟨some (Simulator.boatOutput dir).text, some (Simulator.boatOutput dir).text⟩).run
      { s with errors := told } = (.ok streams, s₁) ∧
    words.map Wide.ofString = (Simulator.boatWords tool args elf (Simulator.eventLog dir)).tail ∧
    machine ⟨tool, path, words, s₁.environment, streams⟩ s₁.tree = .ok o ∧ o.status = 0 ∧
    ∃ e ∈ o.effects, Makes (place ++ ["boat_trace_event.jsonl"]) e

section EventLogs

variable {here place : Location} {dir elf : Path} {machine : Machine} {verbose : Bool}
  {args : List Wide} {s s' : Session} {tool : String}

theorem wrote_or_missing (hmachine : Heedless machine here place) (hdir : IsLogDir here dir place)
    (hhere : s.tree.here = here)
    (hnone : s.tree.node? (place ++ ["boat_trace_event.jsonl"]) = none)
    (h : (boatCommand machine verbose args elf dir tool).run s = (.ok 0, s')) :
    WroteLog machine args elf dir place s ∨
      s'.tree.has (Simulator.eventLog dir).text = false := by
  obtain ⟨told, streams, s₁, words, path, o, hopen, hwords, hcall, hstatus, rfl⟩ := runCommand_ok h
  by_cases hmade : ∃ e ∈ o.effects, Makes (place ++ ["boat_trace_event.jsonl"]) e
  · exact .inl ⟨tool, words, told, streams, s₁, path, o, hopen, hwords.symm, hcall, hstatus, hmade⟩
  -- no effect makes the log, so nothing is where it should be after the call
  right
  have hopened := opened_logs (a := "boat.log") (b := "boat.log") hdir.toLeads (by decide)
    (by decide) hopen hhere
  have hne : place ++ ["boat_trace_event.jsonl"] ≠ place ++ ["boat.log"] := by simp
  have hnode := none_foldl_play (p := ⟨s₁.tree, streams⟩)
    (fun e he hmakes => hmade ⟨e, he, hmakes⟩) (hopened.away hne hne)
    ((hopened.same _ hne hne).trans hnone)
  have hthere := here_foldl_play (p := ⟨s₁.tree, streams⟩) fun e he =>
    (hopened.here.trans hhere).symm ▸ (hmachine.spares _ _ o hcall e he).2
  rw [has, Tree.find]
  cases hlocate : (o.effects.foldl Playing.play ⟨s₁.tree, streams⟩).tree.locate
      (Simulator.eventLog dir).text with
  | error e => rfl
  | ok x =>
    obtain rfl := hdir.place_of_locate (isPlainName_of_mem (by decide))
      (hthere.trans (hopened.here.trans hhere)) hlocate
    simp only [bind, Except.bind, hnode]
    rfl

end EventLogs

/-- Unless the event log was left behind and is not renewed, what a test gives does not depend on
the logs in its directory. Where no event log was, the other side gives one only if its own call
wrote it, and else tells that it is missing. -/
theorem leftovers_ignored {machine : Machine} {config : Config} {workDir elf : Path}
    {verbose : Bool} {s s' r r' : Session} {place : Location}
    (hr : (makeDirectories (Campaign.runDir workDir elf)).run s = (.ok (), r))
    (hr' : (makeDirectories (Campaign.runDir workDir elf)).run s' = (.ok (), r'))
    (hplace : r.tree.locate (Campaign.runDir workDir elf).text = .ok place)
    (hdiffer : DifferInLogs place r r') (hmachine : Heedless machine r.tree.here place)
    (hspike : SoughtElsewhere r.environment r.tree.here place "spike" "SPIKE_PATH")
    (hboat : SoughtElsewhere r.environment r.tree.here place "boat" "BOAT_PATH")
    (hlog : Equal (r.tree.node? (place ++ ["boat_trace_event.jsonl"]))
        (r'.tree.node? (place ++ ["boat_trace_event.jsonl"])) ∨
      RenewsLog machine config.boatArgs elf (Campaign.runDir workDir elf) place) :
    outcome (Campaign.testOne machine config workDir verbose elf) s =
      outcome (Campaign.testOne machine config workDir verbose elf) s' ∧
    ∀ {q q' log}, q.tree.here = r.tree.here →
      q.tree.node? (place ++ ["boat_trace_event.jsonl"]) = none →
      ((Simulator.runBoat machine verbose config.boatArgs elf (Campaign.runDir workDir elf)).run q =
          (.ok log, q') →
        log = Simulator.eventLog (Campaign.runDir workDir elf) ∧
          WroteLog machine config.boatArgs elf (Campaign.runDir workDir elf) place q) ∧
      ∀ {tool}, (Tool.find "boat" "BOAT_PATH").run q = (.ok tool, q) →
        (boatCommand machine verbose config.boatArgs elf (Campaign.runDir workDir elf) tool).run q =
          (.ok 0, q') →
        WroteLog machine config.boatArgs elf (Campaign.runDir workDir elf) place q ∨
          outcome (Simulator.runBoat machine verbose config.boatArgs elf
              (Campaign.runDir workDir elf)) q =
            .error (.noEventLog (Simulator.eventLog (Campaign.runDir workDir elf))) := by
  have hdir := hdiffer.isLogDir (by simp [Campaign.runDir, Path.child]) hplace
  refine ⟨outcome_testOne_eq hr hr' hplace hdiffer hmachine hspike hboat hlog,
    fun {q q' log} hhere hnone => ⟨fun h => ?_, fun {tool} hfind hcommand => ?_⟩⟩
  · obtain ⟨tool, -, hcommand, hhas, hlog⟩ := runBoat_ok h
    refine ⟨hlog, (wrote_or_missing hmachine hdir hhere hnone hcommand).resolve_right ?_⟩
    rw [hhas]
    exact Bool.noConfusion
  · refine (wrote_or_missing hmachine hdir hhere hnone hcommand).imp_right fun hmissing => ?_
    rw [outcome, run_runBoat hfind hcommand, hmissing]
    rfl

def commit : ByteArray := ⟨commitOctets.toArray⟩

def events : ByteArray := ⟨(eventOctets "write" "1").toArray⟩

instance decidablePlain (a : Option Node) : Decidable (IsPlain a) :=
  match a with
  | none | some (.file ..) => .isTrue trivial
  | some .directory | some (.device _) => .isFalse id

def runWith (left : List (Location × Node)) : Session := .start ⟨left ++ [
  (["a.elf"], .file .empty false), (["spike"], .file .empty true), (["boat"], .file .empty true),
  (["out"], .directory), (["out", "a.elf"], .directory)], []⟩ [("PATH", ".")]

def left : List (Location × Node) :=
  [(["out", "a.elf", "spike.log"], .file events false),
    (["out", "a.elf", "compare.log"], .file commit true),
    (["out", "a.elf", "boat_trace_event.jsonl"], .file events false)]

theorem differ_left : DifferInLogs ["out", "a.elf"] (runWith []) (runWith left) where
  environment := rfl
  rest := rfl
  plain := by decide

theorem sought_elsewhere : ∀ tool ∈ [("spike", "SPIKE_PATH"), ("boat", "BOAT_PATH")],
    SoughtElsewhere [("PATH", ".")] [] ["out", "a.elf"] tool.1 tool.2 := by
  have hsought : ∀ tool ∈ [("spike", "SPIKE_PATH"), ("boat", "BOAT_PATH")],
      sought [("PATH", ".")] tool.1 tool.2 = ["./" ++ tool.1] := by
    decide +kernel
  intro tool htool path hpath
  rw [hsought tool htool, List.mem_singleton] at hpath
  subst hpath
  unfold PassesBy
  revert tool
  decide +kernel

def simulators (log : List Effect) : Machine := fun call _ =>
  .ok ⟨.say .errors commit :: if call.args.contains "--output-log-path" then log else [], 0⟩

def putLog : Effect := .put ["out", "a.elf", "boat_trace_event.jsonl"] (.file events false)

def config : Config := ⟨"*.elf", [], [], none⟩

theorem heedless_simulators {log : List Effect} (h : ∀ e ∈ log, e = putLog)
    (here place : Location) : Heedless (simulators log) here place where
  same _ _ _ _ := rfl
  spares call t o hcall := by
    have heffects : ∀ e ∈ o.effects, e = .say .errors commit ∨ e = putLog := by
      obtain rfl := Except.ok.inj hcall
      refine List.forall_mem_cons.mpr ⟨.inl rfl, fun e he => .inr ?_⟩
      split at he
      · exact h e he
      · cases he
    intro e he
    rcases heffects e he with rfl | rfl
    · exact ⟨trivial, id⟩
    · exact ⟨trivial, id⟩

def tested (log : List Effect) (s : Session) : Except Fault Report.CaseResult :=
  outcome (Campaign.testOne (simulators log) config ⟨0, ["out"]⟩ false ⟨0, ["a.elf"]⟩) s

theorem there (left : List (Location × Node))
    (hlocate : (runWith left).tree.locate "out/a.elf" = .ok ["out", "a.elf"])
    (hnode : (runWith left).tree.node? ["out", "a.elf"] = some .directory) :
    (Session.makeDirectories (Campaign.runDir ⟨0, ["out"]⟩ ⟨0, ["a.elf"]⟩)).run (runWith left) =
      (.ok (), runWith left) :=
  run_makeDirectories_there hlocate hnode (by decide +kernel)

/-- Simulators that write both logs pass, whatever was left behind. -/
theorem written_anew : tested [putLog] (runWith []) = tested [putLog] (runWith left) ∧
    (tested [putLog] (runWith left)).toOption.map (·.verdict) = some .pass := by
  have hlocate : (runWith []).tree.locate "out/a.elf" = .ok ["out", "a.elf"] := by decide +kernel
  have hlog : RenewsLog (simulators [putLog]) [] ⟨0, ["a.elf"]⟩
      (Campaign.runDir ⟨0, ["out"]⟩ ⟨0, ["a.elf"]⟩) ["out", "a.elf"] := by
    rintro call t o hcall hwords -
    have hargs : call.args = ["-vvv", "--elf-path", "a.elf", "--output-log-path",
        "out/a.elf/boat_trace_event.jsonl"] :=
      List.map_injective_iff.mpr (fun _ _ => Wide.ofString_inj.mp) (List.cons.inj hwords).2
    obtain rfl := Except.ok.inj hcall
    refine ⟨putLog, List.mem_cons_of_mem _ ?_, rfl⟩
    rw [hargs, if_pos (by decide)]
    exact List.mem_singleton_self putLog
  refine ⟨(leftovers_ignored (there [] hlocate rfl) (there left (by decide +kernel) rfl) hlocate
    differ_left (heedless_simulators (by simp) _ _) (sought_elsewhere ("spike", _) (by decide))
    (sought_elsewhere ("boat", _) (by decide)) (.inr hlog)).1, ?_⟩
  decide +kernel

/-- With a simulator that logs nothing, the event log of an earlier run passes for its own. -/
theorem stale_log_passes :
    DifferInLogs ["out", "a.elf"] (runWith []) (runWith left) ∧
      Heedless (simulators []) [] ["out", "a.elf"] ∧
      (tested [] (runWith []) matches
        .error (.noEventLog ⟨0, ["out", "a.elf", "boat_trace_event.jsonl"]⟩)) ∧
      (tested [] (runWith left)).toOption.map (·.verdict) = some .pass :=
  ⟨differ_left, heedless_simulators (by simp) _ _, by decide +kernel, by decide +kernel⟩

end Cosim.Proofs.Run.Leftovers
