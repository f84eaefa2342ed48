import Cosim.Proofs.Files.Writing
import Cosim.Proofs.Run.Commands
import Cosim.Run.Campaign
import Mathlib.Data.List.Nodup

namespace Cosim.Proofs.Run.OwnLogs

open Cosim.Files Cosim.Files.Tree Cosim.Report Cosim.Run Cosim.Run.Session
  Cosim.Proofs.Files.Changes Cosim.Proofs.Files.Ways Cosim.Proofs.Files.Writing
  Cosim.Proofs.Outcome Cosim.Proofs.Run.Actions Cosim.Proofs.Run.Commands Cosim.Proofs.Session

def placeOf (here : Location) (path : Path) : Location :=
  goal (origin here path.text) (pieces path.text)

/-- In the directory for logs, programs touch only what is below the directory that their output
goes to. They leave the way to it alone, and do not carry the current directory elsewhere. -/
def StaysBelow (machine : Machine) (here : Location) (workDir : Path) : Prop :=
  ∀ call t o handle, machine call t = .ok o → call.streams.output = some handle →
    ∀ e ∈ o.effects, ¬ Carries here e ∧
      ∀ q, q ∈ wayTo here workDir.text ∨
        placeOf here workDir <+: q ∧ ¬ handle.place.dropLast <+: q → ¬ Touches q e

/-- What a session keeps while only a directory for the logs of one test is used. -/
structure Frame (here : Location) (workDir : Path) (place : Location) (s s' : Session) : Prop where
  here_eq : s'.tree.here = s.tree.here
  way : ∀ q ∈ wayTo here workDir.text, s.tree.node? q = some .directory →
    s'.tree.node? q = some .directory
  others : ∀ q node, placeOf here workDir <+: q → ¬ place <+: q → s.tree.node? q = some node →
    s'.tree.node? q = some node

section Frames

variable {here place p : Location} {workDir dir : Path} {s s' s₁ s₂ : Session} {machine : Machine}
  {verbose : Bool} {word a b name text : String} {args : List Text.Wide} {status : Int}
  {content : ByteArray}

theorem Frame.of_tree_eq (h : s'.tree = s.tree) : Frame here workDir place s s' := by
  refine ⟨by rw [h], fun q _ hq => ?_, fun q node _ _ hq => ?_⟩
  · rwa [h]
  · rwa [h]

theorem Frame.trans (h : Frame here workDir place s s₁) (h' : Frame here workDir place s₁ s₂) :
    Frame here workDir place s s₂ where
  here_eq := h'.here_eq.trans h.here_eq
  way q hq hdir := h'.way q hq (h.way q hq hdir)
  others q node hbelow hplace hnode :=
    h'.others q node hbelow hplace (h.others q node hbelow hplace hnode)

theorem grows_of_run {r : Except Fault Unit}
    (h : (Session.makeDirectories dir).run s = (r, s')) : Grows s.tree s'.tree := by
  rcases tree_of_makeDirectories h with htree | htree
  · exact htree ▸ Grows.refl s.tree
  · exact htree ▸ grows_makeDirectories dir s.tree

theorem frame_makeDirectories {r : Except Fault Unit}
    (h : (Session.makeDirectories dir).run s = (r, s')) : Frame here workDir place s s' := by
  have hgrows := grows_of_run h
  exact ⟨hgrows.here_eq, fun q _ hq => (hgrows.unwritten q).keeps hq,
    fun q _ _ _ hq => (hgrows.unwritten q).keeps hq⟩

theorem frame_runCommand (hmachine : StaysBelow machine here workDir) (hdir : Leads here dir place)
    (ha : a ∈ logNames) (hb : b ∈ logNames) (hhere : s.tree.here = here)
    (h : (runCommand machine verbose (↑word :: args)
      ⟨some (dir.child a).text, some (dir.child b).text⟩ none).run s = (.ok status, s')) :
    Frame here workDir place s s' := by
  obtain ⟨told, streams, s₁, words, path, o, hopen, -, hcall, -, rfl⟩ := runCommand_ok h
  have hopened := opened_logs hdir ha hb hopen hhere
  have hstays := hmachine _ _ o _ hcall hopened.output
  rw [List.dropLast_concat] at hstays
  have hkeep : ∀ x, x ≠ place ++ [a] → x ≠ place ++ [b] →
      (∀ e ∈ o.effects, ¬ Touches x e) →
      (o.effects.foldl Playing.play ⟨s₁.tree, streams⟩).tree.node? x = s.tree.node? x := by
    intro x hxa hxb htouches
    exact (node?_foldl_play htouches (hopened.away hxa hxb)).trans (hopened.same x hxa hxb)
  refine ⟨?_, fun x hx hdirectory => ?_, fun x node hbase hplace hnode => ?_⟩
  · refine (here_foldl_play fun e he => ?_).trans hopened.here
    rw [hopened.here]
    exact hhere ▸ (hstays e he).1
  · obtain ⟨hxa, hxb⟩ := hopened.apart x hdirectory
    exact (hkeep x hxa hxb fun e he => (hstays e he).2 x (.inl hx)).trans hdirectory
  · have hne : ∀ name : String, x ≠ place ++ [name] := by
      rintro name rfl
      exact hplace (List.prefix_append place [name])
    exact (hkeep x (hne a) (hne b) fun e he => (hstays e he).2 x (.inr ⟨hbase, hplace⟩)).trans hnode

theorem writeText_ok (hdir : Leads here dir place) (hname : name ∈ logNames)
    (hhere : s.tree.here = here) (h : (writeText (dir.child name).text text).run s = (.ok (), s')) :
    s.tree.target (dir.child name).text = .ok (place ++ [name]) ∧
      s' = { s with
        tree := s.tree.fill (place ++ [name]) ⟨(Text.Utf8.encode text.toList).toArray⟩ } := by
  obtain ⟨t, hwrite, rfl⟩ := tree_of_writeText h
  obtain ⟨p, hp, -, rfl⟩ := write_eq_ok.mp hwrite
  obtain rfl := hdir.place_of_target (isPlainName_of_mem hname) hhere hp
  exact ⟨hp, rfl⟩

theorem frame_fill {path : String} (htarget : s.tree.target path = .ok (place ++ [name])) :
    Frame here workDir place s { s with tree := s.tree.fill (place ++ [name]) content } := by
  refine ⟨here_fill, fun q _ => directory_fill htarget,
    fun q node _ hplace hq => (node?_fill_of_ne ?_).trans hq⟩
  rintro rfl
  exact hplace (List.prefix_append place [name])

theorem frame_writeText (hdir : Leads here dir place) (hname : name ∈ logNames)
    (hhere : s.tree.here = here) (h : (writeText (dir.child name).text text).run s = (.ok (), s')) :
    Frame here workDir place s s' := by
  obtain ⟨htarget, rfl⟩ := writeText_ok hdir hname hhere h
  exact frame_fill htarget

end Frames

/-- A file holds a text, unless it is a device. -/
def Holds (t : Tree) (path text : String) : Prop :=
  (∃ d, t.find path = .ok (.device d)) ∨ t.read path = .ok (Text.Utf8.encode text.toList)

def logVerdict (pattern : Option Trace.EndPattern) (workDir elf : Path) (s : Session) :
    Except Fault (Verdict Text.Wide) :=
  outcome (compareFiles (Simulator.commitLog (Campaign.runDir workDir elf)).text
    (Simulator.eventLog (Campaign.runDir workDir elf)).text pattern) s

/-- The logs that a result names are there: the comparison log tells its verdict, and comparing the
two others gives it again. -/
structure KeepsLogs (pattern : Option Trace.EndPattern) (workDir elf : Path) (s : Session)
    (result : CaseResult) : Prop where
  elf_eq : result.elf = elf.text
  facts_eq : result.facts = Campaign.facts elf (Campaign.runDir workDir elf)
  comparison : Holds s.tree (Campaign.resultFile (Campaign.runDir workDir elf)).text
    (resultText result.verdict result.facts)
  verdict_eq : logVerdict pattern workDir elf s = .ok (result.verdict.map Text.Wide.ofString)

def judgeTest (machine : Machine) (config : Config) (workDir : Path) (verbose : Bool)
    (elf : Path) : Action (Verdict Text.Wide) := do
  let dir := Campaign.runDir workDir elf
  makeDirectories dir
  let commitLog ← Simulator.runSpike machine verbose config.spikeArgs elf dir
  let eventLog ← Simulator.runBoat machine verbose config.boatArgs elf dir
  compareFiles commitLog.text eventLog.text config.endPattern

theorem testOne_eq (machine : Machine) (config : Config) (workDir : Path) (verbose : Bool)
    (elf : Path) : Campaign.testOne machine config workDir verbose elf =
      judgeTest machine config workDir verbose elf >>= fun verdict => do
        let told ← writeVerdict (Campaign.resultFile (Campaign.runDir workDir elf)).text verdict
          (Campaign.facts elf (Campaign.runDir workDir elf))
        return ⟨elf.text, told, Campaign.facts elf (Campaign.runDir workDir elf)⟩ := by
  simp only [Campaign.testOne, judgeTest, bind_assoc]

section Files

variable {here place : Location} {dir : Path} {t : Tree} {name other text : String}
  {content : ByteArray} {node : Node}

theorem find_fill (hdir : Leads here dir place) (hname : name ∈ logNames) (hne : name ≠ other)
    (hhere : t.here = here) (htarget : t.target (dir.child other).text = .ok (place ++ [other]))
    (h : t.find (dir.child name).text = .ok node) :
    (t.fill (place ++ [other]) content).find (dir.child name).text = .ok node := by
  refine find_of_kept here_fill (fun q _ => directory_fill htarget)
    (fun n hn => (node?_fill_of_ne ?_).trans hn) h
  rw [hhere, hdir.goal_child (isPlainName_of_mem hname)]
  simpa using hne

theorem holds_fill {path : String} (htarget : t.target path = .ok place) :
    Holds (t.fill place ⟨(Text.Utf8.encode text.toList).toArray⟩) path text := by
  cases hdevice : (t.node? place).any Node.isDevice with
  | false => exact .inr (read_fill htarget hdevice)
  | true =>
    left
    rw [find_of_locate (locate_fill htarget (locate_of_target htarget)),
      node?_fill_self (ne_nil_of_target htarget), if_pos hdevice]
    cases hnode : t.node? place with
    | none =>
      rw [hnode] at hdevice
      cases hdevice
    | some node =>
      cases node with
      | directory | file =>
        rw [hnode] at hdevice
        cases hdevice
      | device d => exact ⟨d, rfl⟩

end Files

section Tests

variable {here : Location} {workDir elf other : Path} {s s' : Session} {machine : Machine}
  {verbose : Bool} {config : Config} {pattern : Option Trace.EndPattern} {result : CaseResult}
  {name : String}

theorem find_of_frame (hwork : workDir.text ≠ "") (helf : IsPlainName elf.name)
    (hname : name ∈ logNames) (hne : elf.name ≠ other.name) (hhere : s.tree.here = here)
    (hframe : Frame here workDir (placeOf here workDir ++ [other.name]) s s') {node : Node}
    (h : s.tree.find ((Campaign.runDir workDir elf).child name).text = .ok node) :
    s'.tree.find ((Campaign.runDir workDir elf).child name).text = .ok node := by
  obtain ⟨hdir, hway⟩ := leads_child workDir hwork helf here
  have hapart : ∀ rest, ¬ placeOf here workDir ++ [other.name] <+:
      placeOf here workDir ++ elf.name :: rest := by
    intro rest hfront
    rw [List.prefix_append_right_inj, List.cons_prefix_cons] at hfront
    exact hne hfront.1.symm
  have hbelow : ¬ placeOf here workDir ++ [other.name] <+: placeOf here workDir := by
    intro hfront
    have hlength := hfront.length_le
    rw [List.length_append, List.length_singleton] at hlength
    omega
  refine find_of_kept hframe.here_eq (fun q hq hdirectory => ?_) (fun n hn => ?_) h
  · rw [hhere, Campaign.runDir, hdir.way_child (isPlainName_of_mem hname), List.mem_append,
      List.mem_singleton] at hq
    rcases hq with hq | rfl
    · rcases hway q hq with hq | rfl
      · exact hframe.way q hq hdirectory
      · exact hframe.others _ _ List.prefix_rfl hbelow hdirectory
    · exact hframe.others _ _ (List.prefix_append _ _) (hapart []) hdirectory
  · rw [hhere, Campaign.runDir, hdir.goal_child (isPlainName_of_mem hname),
      List.append_assoc] at hn ⊢
    exact hframe.others _ _ (List.prefix_append _ _) (hapart [name]) hn

theorem verdict_kept {commitLog eventLog : String} {verdict : Verdict Text.Wide}
    (hcommits : ∀ node, s.tree.find commitLog = .ok node → s'.tree.find commitLog = .ok node)
    (hevents : ∀ node, s.tree.find eventLog = .ok node → s'.tree.find eventLog = .ok node)
    (h : outcome (compareFiles commitLog eventLog pattern) s = .ok verdict) :
    outcome (compareFiles commitLog eventLog pattern) s' = .ok verdict := by
  obtain ⟨⟨a, ha⟩, b, hb⟩ := reads_of_compareFiles (s := s) (Prod.ext h rfl)
  rw [← h]
  refine (compareFiles_of_read ?_ ?_).1.symm
  · rw [ha, read_of_find hcommits ha]
  · rw [hb, read_of_find hevents hb]

theorem KeepsLogs.of_find (h : KeepsLogs pattern workDir elf s result)
    (hfind : ∀ name ∈ logNames, ∀ node,
      s.tree.find ((Campaign.runDir workDir elf).child name).text = .ok node →
        s'.tree.find ((Campaign.runDir workDir elf).child name).text = .ok node) :
    KeepsLogs pattern workDir elf s' result := by
  refine ⟨h.elf_eq, h.facts_eq, ?_, ?_⟩
  · rcases h.comparison with ⟨d, hd⟩ | hread
    · exact .inl ⟨d, hfind _ (by decide) _ hd⟩
    · exact .inr (read_of_find (hfind _ (by decide)) hread)
  · exact verdict_kept (hfind _ (by decide)) (hfind _ (by decide)) h.verdict_eq

theorem KeepsLogs.of_tree_eq (h : KeepsLogs pattern workDir elf s result)
    (htree : s'.tree = s.tree) : KeepsLogs pattern workDir elf s' result :=
  h.of_find fun _ _ _ hnode => htree ▸ hnode

theorem verdict_of_judgeTest (hmachine : StaysBelow machine here workDir)
    (hwork : workDir.text ≠ "") (helf : IsPlainName elf.name) (hhere : s.tree.here = here)
    {verdict : Verdict Text.Wide}
    (h : (judgeTest machine config workDir verbose elf).run s = (.ok verdict, s')) :
    logVerdict config.endPattern workDir elf s' = .ok verdict ∧
      Frame here workDir (placeOf here workDir ++ [elf.name]) s s' := by
  obtain ⟨hdir, -⟩ := leads_child workDir hwork helf here
  rw [judgeTest, run_bind_eq_ok] at h
  obtain ⟨⟨⟩, s₁, hmade, h⟩ := h
  rw [run_bind_eq_ok] at h
  obtain ⟨commitLog, s₂, hspikeRun, h⟩ := h
  rw [run_bind_eq_ok] at h
  obtain ⟨eventLog, s₃, hboatRun, hcompare⟩ := h
  obtain ⟨spike, hspike, rfl⟩ := runSpike_ok hspikeRun
  obtain ⟨boat, -, hboat, -, rfl⟩ := runBoat_ok hboatRun
  -- each of the four steps touches only the directory of the test
  have hframe₁ : Frame here workDir (placeOf here workDir ++ [elf.name]) s s₁ :=
    frame_makeDirectories hmade
  have hhere₁ := hframe₁.here_eq.trans hhere
  have hframe₂ := frame_runCommand (a := "spike.stdout") (b := "spike.log") hmachine hdir
    (by decide) (by decide) hhere₁ hspike
  have hhere₂ := hframe₂.here_eq.trans hhere₁
  have hframe₃ := frame_runCommand (a := "boat.log") (b := "boat.log") hmachine hdir
    (by decide) (by decide) hhere₂ hboat
  have htree := tree_of_compareFiles hcompare
  refine ⟨?_, hframe₁.trans (hframe₂.trans (hframe₃.trans (.of_tree_eq htree)))⟩
  exact verdict_kept (fun _ hnode => htree ▸ hnode) (fun _ hnode => htree ▸ hnode)
    (congrArg Prod.fst hcompare)

theorem verdict_of_writeText (hwork : workDir.text ≠ "") (helf : IsPlainName elf.name)
    (hhere : s.tree.here = here) {verdict : Verdict Text.Wide} {text : String}
    (hverdict : logVerdict pattern workDir elf s = .ok verdict)
    (h : (writeText (Campaign.resultFile (Campaign.runDir workDir elf)).text text).run s =
      (.ok (), s')) :
    Holds s'.tree (Campaign.resultFile (Campaign.runDir workDir elf)).text text ∧
      logVerdict pattern workDir elf s' = .ok verdict := by
  obtain ⟨hdir, -⟩ := leads_child workDir hwork helf here
  obtain ⟨htarget, rfl⟩ := writeText_ok hdir (by decide) hhere h
  refine ⟨holds_fill htarget, verdict_kept (fun node hnode => ?_) (fun node hnode => ?_) hverdict⟩
  · exact find_fill hdir (by decide) (by decide) hhere htarget hnode
  · exact find_fill hdir (by decide) (by decide) hhere htarget hnode

theorem keepsLogs_testOne (hmachine : StaysBelow machine here workDir) (hwork : workDir.text ≠ "")
    (helf : IsPlainName elf.name) (hhere : s.tree.here = here)
    (h : (Campaign.testOne machine config workDir verbose elf).run s = (.ok result, s')) :
    KeepsLogs config.endPattern workDir elf s' result ∧
      Frame here workDir (placeOf here workDir ++ [elf.name]) s s' := by
  obtain ⟨hdir, -⟩ := leads_child workDir hwork helf here
  rw [testOne_eq, run_bind_eq_ok] at h
  obtain ⟨verdict, s₁, hjudge, h⟩ := h
  rw [run_bind_eq_ok] at h
  obtain ⟨told, s₂, htold, ⟨⟩⟩ := h
  obtain ⟨rfl, hwrite⟩ := writeVerdict_ok htold
  obtain ⟨hverdict, hframe⟩ := verdict_of_judgeTest hmachine hwork helf hhere hjudge
  have hhere₁ := hframe.here_eq.trans hhere
  obtain ⟨hholds, hverdict⟩ := verdict_of_writeText hwork helf hhere₁ hverdict hwrite
  exact ⟨⟨rfl, rfl, hholds, hverdict⟩,
    hframe.trans (frame_writeText hdir (by decide) hhere₁ hwrite)⟩

theorem tree_of_noteVerdict {verdict : Verdict String}
    (h : (noteVerdict verdict).run s = (.ok (), s')) :
    s'.tree = s.tree := by
  cases verdict with
  | pass => exact tree_of_note h
  | fail diagnostic => exact tree_of_note h

theorem keepsLogs_testAll {elfs : List Path} {results : List CaseResult}
    (hmachine : StaysBelow machine here workDir) (hwork : workDir.text ≠ "")
    (hplain : ∀ elf ∈ elfs, IsPlainName elf.name) (hnames : (elfs.map Path.name).Nodup)
    (hhere : s.tree.here = here)
    (h : (Campaign.testAll machine config (.ok workDir) verbose elfs).run s = (.ok results, s')) :
    List.Forall₂ (fun elf result => KeepsLogs config.endPattern workDir elf s' result)
        elfs results ∧
      ∀ other result, IsPlainName other.name → other.name ∉ elfs.map Path.name →
        KeepsLogs config.endPattern workDir other s result →
          KeepsLogs config.endPattern workDir other s' result := by
  -- the logs of the first test are among those that the remaining tests leave as they are
  induction elfs generalizing s results with
  | nil =>
    obtain ⟨⟨⟩, ⟨⟩⟩ := h
    exact ⟨.nil, fun other result _ _ hkeeps => hkeeps⟩
  | cons elf rest ih =>
    obtain ⟨helf, hrest⟩ := List.forall_mem_cons.mp hplain
    rw [List.map_cons, List.nodup_cons] at hnames
    rw [Campaign.testAll, run_bind_eq_ok] at h
    obtain ⟨⟨⟩, s₁, hbefore, h⟩ := h
    have htree₁ := tree_of_note hbefore
    rw [run_bind_eq_ok] at h
    obtain ⟨_, _, ⟨⟩, h⟩ := h
    rw [run_bind_eq_ok] at h
    obtain ⟨result, s₂, htest, h⟩ := h
    rw [run_bind_eq_ok] at h
    obtain ⟨⟨⟩, s₃, hafter, h⟩ := h
    have htree₃ := tree_of_noteVerdict hafter
    rw [run_bind_eq_ok] at h
    obtain ⟨results, s₄, htests, ⟨⟩⟩ := h
    have hhere₁ : s₁.tree.here = here := htree₁ ▸ hhere
    obtain ⟨hkeeps, hframe⟩ := keepsLogs_testOne hmachine hwork helf hhere₁ htest
    have hhere₃ : s₃.tree.here = here := htree₃ ▸ hframe.here_eq.trans hhere₁
    obtain ⟨hall, hothers⟩ := ih hrest hnames.2 hhere₃ htests
    refine ⟨.cons (hothers elf result helf hnames.1 (hkeeps.of_tree_eq htree₃)) hall, ?_⟩
    intro other earlier hother hne hkept
    rw [List.map_cons, List.mem_cons, not_or] at hne
    refine hothers other earlier hother hne.2 (KeepsLogs.of_tree_eq ?_ htree₃)
    exact (hkept.of_tree_eq htree₁).of_find fun name hname node =>
      find_of_frame hwork hother hname hne.1 hhere₁ hframe

end Tests

theorem isPlainName_of_mem_matching {t : Tree} (hhere : IsReached t t.here)
    (pattern : Text.Wide) : ∀ elf ∈ Campaign.matching t pattern, IsPlainName elf.name := by
  intro elf helf
  unfold Campaign.matching at helf
  split at helf
  · obtain ⟨hmem, hfile⟩ := List.mem_filter.mp helf
    obtain ⟨text, -, rfl⟩ := List.mem_map.mp hmem
    exact isPlainName_of_isFile hhere hfile
  · cases helf

theorem still_checkPattern (pattern : Text.Wide) : Still (Campaign.checkPattern pattern) := by
  unfold Campaign.checkPattern
  split
  · exact still_checkText _
  · exact (still_asText _).bind fun _ => still_pure _

/-- Test programs with names of their own have directories of their own for their logs, and at the
end of a campaign the logs that a result names are those of its own test. -/
theorem logs_kept {config : Config} {workDir : Path} {s : Session} (hwork : workDir.text ≠ "")
    (hnames : ((Campaign.matching s.tree config.elfGlob).map Path.name).Nodup)
    (hhere : IsReached s.tree s.tree.here) :
    ((Campaign.matching s.tree config.elfGlob).map fun elf =>
        placeOf s.tree.here (Campaign.runDir workDir elf)).Nodup ∧
      ∀ {machine verbose results s'}, StaysBelow machine s.tree.here workDir →
        (Campaign.run machine config (.ok workDir) verbose).run s = (.ok results, s') →
        List.Forall₂ (fun elf result => KeepsLogs config.endPattern workDir elf s' result)
          (Campaign.matching s.tree config.elfGlob) results := by
  have hplain := isPlainName_of_mem_matching hhere config.elfGlob
  constructor
  · have hplaces : (Campaign.matching s.tree config.elfGlob).map (fun elf =>
        placeOf s.tree.here (Campaign.runDir workDir elf)) =
          ((Campaign.matching s.tree config.elfGlob).map Path.name).map fun name =>
            placeOf s.tree.here workDir ++ [name] := by
      rw [List.map_map]
      refine List.map_congr_left fun elf helf => ?_
      exact (leads_child workDir hwork (hplain elf helf) s.tree.here).1.leads
    rw [hplaces]
    exact List.Nodup.map (fun a b hab => by simpa using hab) hnames
  · intro machine verbose results s' hmachine h
    rw [Campaign.run, run_bind_eq_ok] at h
    obtain ⟨elfs, s₁, hfind, h⟩ := h
    obtain ⟨⟨⟩, hfound⟩ := (still_checkPattern _).of_bind hfind
    obtain ⟨⟨⟩, ⟨⟩⟩ := hfound
    split at h
    · cases (Prod.mk.inj h).1
    · exact (keepsLogs_testAll hmachine hwork hplain hnames rfl h).1

def beside (octets : List UInt8) : Option Handle → List Effect
  | none => []
  | some handle => [.put (handle.place.dropLast ++ ["boat_trace_event.jsonl"])
      (.file ⟨octets.toArray⟩ false)]

/-- Simulators that say a commit, and write an event log if they are told to. -/
def writersOf (events : List String → List UInt8) : Machine := fun call _ =>
  .ok ⟨.say .errors ⟨commitOctets.toArray⟩ ::
    if call.args.contains "--output-log-path" then beside (events call.args) call.streams.output
    else [], 0⟩

def eventsOf (args : List String) : List UInt8 :=
  eventOctets "write" (if args.contains "elfs/a/t.elf" then "2" else "1")

def writers : Machine := writersOf eventsOf

def campaignWith (second : String) : Session := .start ⟨[
  (["elfs", "a", "t.elf"], .file .empty false), (["elfs", "b", second], .file .empty false),
  (["elfs"], .directory), (["elfs", "a"], .directory), (["elfs", "b"], .directory),
  (["spike"], .file .empty true), (["boat"], .file .empty true)], []⟩ [("PATH", ".")]

def globText : String := "elfs/*/*.elf"

def config : Config := ⟨globText, [], [], none⟩

theorem staysBelow_writersOf (events : List String → List UInt8) :
    StaysBelow (writersOf events) [] ⟨0, ["out"]⟩ := by
  intro call t o handle hcall houtput e he
  obtain rfl := Except.ok.inj hcall
  rw [houtput] at he
  rcases List.mem_cons.mp he with rfl | he
  · exact ⟨id, fun q _ htouches => htouches.elim id id⟩
  · split_ifs at he
    · obtain rfl := List.mem_singleton.mp he
      refine ⟨id, fun q hq htouches => ?_⟩
      obtain rfl : _ = q := htouches.resolve_right id
      rcases hq with hq | ⟨-, hq⟩
      · have hway : wayTo [] (Path.text ⟨0, ["out"]⟩) = [[]] := by decide +kernel
        rw [hway] at hq
        simp at hq
      · exact hq (List.prefix_append _ _)
    · cases he

def programs (second : String) : List Path :=
  [⟨0, ["elfs", "a", "t.elf"]⟩, ⟨0, ["elfs", "b", second]⟩]

theorem files_campaignWith : ∀ second ∈ ["t.elf", "u.elf"],
    Campaign.matching (campaignWith second).tree config.elfGlob = programs second := by
  have hexpand : ∀ second ∈ ["t.elf", "u.elf"],
      (Glob.ofString globText).expand (campaignWith second).tree =
        ["elfs/a/t.elf", "elfs/b/" ++ second] := by
    decide +kernel
  have hle : ∀ second ∈ ["t.elf", "u.elf"], "elfs/a/t.elf" ≤ "elfs/b/" ++ second := by decide
  have hpaths : ∀ second ∈ ["t.elf", "u.elf"],
      (["elfs/a/t.elf", "elfs/b/" ++ second].map Path.ofString).filter
        (fun p => (campaignWith second).tree.isFile p.text) = programs second := by
    decide +kernel
  intro second hsecond
  rw [config, Campaign.matching_ofString, Glob.files, hexpand second hsecond,
    List.mergeSort_of_pairwise, hpaths second hsecond]
  simpa using hle second hsecond

def tested (second : String) : Except Fault (List CaseResult) × Session :=
  (Campaign.testAll writers config (.ok ⟨0, ["out"]⟩) false (programs second)).run
    (campaignWith second)

theorem run_campaignWith : ∀ second ∈ ["t.elf", "u.elf"],
    (Campaign.run writers config (.ok ⟨0, ["out"]⟩) false).run (campaignWith second) =
      tested second := by
  intro second hsecond
  have hfind : (Campaign.findElfs config.elfGlob).run (campaignWith second) =
      (.ok (programs second), campaignWith second) := by
    rw [← files_campaignWith second hsecond]
    rfl
  rw [Campaign.run, run_bind_ok hfind]
  rfl

/-- Programs of two names keep their logs, the one that fails and the one that passes. -/
theorem two_names_kept : ∃ results s',
    (Campaign.run writers config (.ok ⟨0, ["out"]⟩) false).run (campaignWith "u.elf") =
      (.ok results, s') ∧
    results.map (·.verdict.isPass) = [false, true] ∧
    List.Forall₂ (fun elf result => KeepsLogs none ⟨0, ["out"]⟩ elf s' result)
      (programs "u.elf") results := by
  have hfiles := files_campaignWith "u.elf" (by decide)
  have hpasses : (tested "u.elf").1.toOption.map (fun results =>
      results.map (·.verdict.isPass)) = some [false, true] := by
    decide +kernel
  have hrun := run_campaignWith "u.elf" (by decide)
  cases htested : tested "u.elf" with
  | mk outcome s' =>
    rw [htested] at hpasses hrun
    cases outcome with
    | error e => cases hpasses
    | ok results =>
      refine ⟨results, s', hrun, Option.some.inj hpasses, ?_⟩
      rw [← hfiles]
      refine (logs_kept (by decide) ?_ ?_).2 (staysBelow_writersOf _) hrun
      · rw [hfiles]
        decide
      · exact fun q hq hne => absurd (List.prefix_nil.mp hq) hne

/-- Whether the first result fails and the logs that it names pass. -/
def isOverwritten : Except Fault (List CaseResult) × Session → Bool
  | (.ok [first, _], s') => !first.verdict.isPass &&
      first.facts.lookup "spike log" == some "out/t.elf/spike.log" &&
      first.facts.lookup "boat log" == some "out/t.elf/boat_trace_event.jsonl" &&
      (outcome (compareFiles "out/t.elf/spike.log" "out/t.elf/boat_trace_event.jsonl" none)
        s').toOption == some .pass
  | _ => false

/-- Of two programs of one name, the first one fails, and the logs that its result names pass. -/
theorem one_name_overwritten :
    Campaign.matching (campaignWith "t.elf").tree config.elfGlob =
        [⟨0, ["elfs", "a", "t.elf"]⟩, ⟨0, ["elfs", "b", "t.elf"]⟩] ∧
      StaysBelow writers [] ⟨0, ["out"]⟩ ∧
      isOverwritten ((Campaign.run writers config (.ok ⟨0, ["out"]⟩) false).run
        (campaignWith "t.elf")) = true := by
  refine ⟨files_campaignWith "t.elf" (by decide), staysBelow_writersOf _, ?_⟩
  rw [run_campaignWith "t.elf" (by decide)]
  decide +kernel

end Cosim.Proofs.Run.OwnLogs
