import Cosim.Proofs.Run.OwnLogs

namespace Cosim.Proofs.Run.Restraint

open Cosim.Files Cosim.Files.Tree Cosim.Report Cosim.Run Cosim.Run.Session
  Cosim.Proofs.Files.Changes Cosim.Proofs.Files.Ways Cosim.Proofs.Outcome
  Cosim.Proofs.Run.Actions Cosim.Proofs.Run.Commands Cosim.Proofs.Run.OwnLogs
  Cosim.Proofs.Session

/-- Programs keep to the directory that their output goes to, but for its comparison log, and leave
the locations alone that are to be kept. -/
structure Discreet (machine : Machine) (here : Location) (workDir : Path)
    (kept : Location → Prop) : Prop where
  below : StaysBelow machine here workDir
  spares : ∀ call t o handle, machine call t = .ok o → call.streams.output = some handle →
    ∀ e ∈ o.effects, ∀ q, kept q ∨ q = handle.place.dropLast ++ ["compare.log"] → ¬ Touches q e

/-- A location outside the directory of a test that is to be kept, or is below the one for all
logs. -/
def Apart (here : Location) (workDir : Path) (place : Location) (kept : Location → Prop)
    (q : Location) : Prop :=
  ¬ place <+: q ∧ (kept q ∨ placeOf here workDir <+: q)

/-- What two sessions have in common if only the directory of one test is used between them, and
nothing is written to certain locations. -/
structure Spares (here : Location) (workDir : Path) (place : Location) (apart : Location → Prop)
    (s s' : Session) : Prop extends Frame here workDir place s s' where
  unwritten : ∀ q, apart q → Unwritten s.tree s'.tree q

def Sparing {α : Type} (here : Location) (workDir : Path) (place : Location)
    (apart : Location → Prop) (a : Action α) : Prop :=
  ∀ s, s.tree.here = here → Spares here workDir place apart s (a.run s).2

section Rules

variable {α β : Type} {here place : Location} {workDir : Path} {apart apart' : Location → Prop}
  {s s' s₁ s₂ : Session} {a : Action α} {f : α → Action β}

theorem Spares.of_tree_eq (h : s'.tree = s.tree) : Spares here workDir place apart s s' :=
  ⟨Frame.of_tree_eq h, fun q _ => .inl (by rw [h])⟩

theorem Spares.trans (h : Spares here workDir place apart s s₁)
    (h' : Spares here workDir place apart s₁ s₂) : Spares here workDir place apart s s₂ :=
  ⟨h.toFrame.trans h'.toFrame, fun q hq => (h.unwritten q hq).trans (h'.unwritten q hq)⟩

theorem Spares.mono (h : Spares here workDir place apart s s') (hq : ∀ q, apart' q → apart q) :
    Spares here workDir place apart' s s' :=
  ⟨h.toFrame, fun q hq' => h.unwritten q (hq q hq')⟩

theorem sparing_of_quiet (h : Quiet a) : Sparing here workDir place apart a :=
  fun s _ => .of_tree_eq (h s)

theorem Sparing.bind (ha : Sparing here workDir place apart a)
    (hf : ∀ x, Sparing here workDir place apart (f x)) :
    Sparing here workDir place apart (a >>= f) := by
  intro s hhere
  have hfirst := ha s hhere
  rw [run_bind]
  rcases hrun : a.run s with ⟨e | x, s₁⟩
  · rwa [hrun] at hfirst
  · rw [hrun] at hfirst
    exact hfirst.trans (hf x s₁ (hfirst.here_eq.trans hhere))

end Rules

section Tests

variable {here place p : Location} {workDir dir elf : Path} {kept apart : Location → Prop}
  {s s' : Session} {machine : Machine} {verbose : Bool} {word a b name : String}
  {args : List Text.Wide} {content : ByteArray} {config : Config}

theorem sparing_makeDirectories (dir : Path) :
    Sparing here workDir place apart (Session.makeDirectories dir) := by
  intro s _
  have hgrows : Grows s.tree ((Session.makeDirectories dir).run s).2.tree := grows_of_run rfl
  exact ⟨frame_makeDirectories rfl, fun q _ => hgrows.unwritten q⟩

theorem spares_fill (hdir : Leads here dir place) (hname : name ∈ logNames)
    (hapart : ∀ q, apart q → q ≠ place ++ [name]) (hhere : s.tree.here = here)
    (htarget : s.tree.target (dir.child name).text = .ok p) :
    Spares here workDir place apart s { s with tree := s.tree.fill p content } := by
  obtain rfl := hdir.place_of_target (isPlainName_of_mem hname) hhere htarget
  exact ⟨frame_fill htarget, fun q hq => .inl (node?_fill_of_ne (hapart q hq))⟩

theorem sparing_openChannel (hdir : Leads here dir place) (hname : name ∈ logNames)
    (hapart : ∀ q, apart q → q ≠ place ++ [name]) :
    Sparing here workDir place apart (openChannel (some (dir.child name).text)) := by
  rw [openChannel]
  · refine (sparing_of_quiet (still_checkText _).quiet).bind fun _ s hhere => ?_
    rw [run_get_bind]
    cases htarget : s.tree.target (dir.child name).text with
    | error e => exact .of_tree_eq rfl
    | ok p => exact spares_fill hdir hname hapart hhere htarget
  · exact ne_null hdir.names hname

theorem sparing_openChannels (hdir : Leads here dir place) (ha : a ∈ logNames)
    (hb : b ∈ logNames) (hapart : ∀ q, apart q → q ≠ place ++ [a] ∧ q ≠ place ++ [b]) :
    Sparing here workDir place apart
      (openChannels ⟨some (dir.child a).text, some (dir.child b).text⟩) := by
  rw [openChannels]
  refine (sparing_openChannel hdir ha fun q hq => (hapart q hq).1).bind fun output => ?_
  dsimp only
  split
  · exact sparing_of_quiet ((still_pure _).bind fun _ => still_pure _).quiet
  · exact (sparing_openChannel hdir hb fun q hq => (hapart q hq).2).bind fun errors =>
      sparing_of_quiet (still_pure _).quiet

def Unjudged (here : Location) (workDir : Path) (place : Location) (kept : Location → Prop)
    (q : Location) : Prop :=
  Apart here workDir place kept q ∨ q = place ++ ["compare.log"]

theorem Unjudged.ne_log (h : Unjudged here workDir place kept p) (hne : name ≠ "compare.log") :
    p ≠ place ++ [name] := by
  rintro rfl
  rcases h with ⟨happart, -⟩ | h
  · exact happart (List.prefix_append place [name])
  · exact hne (by simpa using h)

theorem Discreet.untouched (h : Discreet machine here workDir kept) {call : Call} {t : Tree}
    {o : Outcome} {handle : Handle} (hcall : machine call t = .ok o)
    (houtput : call.streams.output = some handle) (hplace : handle.place.dropLast = place)
    (hp : Unjudged here workDir place kept p) : ∀ e ∈ o.effects, ¬ Touches p e := by
  intro e he
  have hspares := h.spares call t o handle hcall houtput e he p
  rcases hp with ⟨happart, hkept | hbelow⟩ | hcompare
  · exact hspares (.inl hkept)
  · exact (h.below call t o handle hcall houtput e he).2 p (.inr ⟨hbelow, hplace ▸ happart⟩)
  · exact hspares (.inr (hplace ▸ hcompare))

theorem sparing_runCommand (hmachine : Discreet machine here workDir kept)
    (hdir : Leads here dir place) (ha : a ∈ logNames) (hb : b ∈ logNames)
    (ha' : a ≠ "compare.log") (hb' : b ≠ "compare.log") :
    Sparing here workDir place (Unjudged here workDir place kept)
      (runCommand machine verbose (↑word :: args)
        ⟨some (dir.child a).text, some (dir.child b).text⟩ none) := by
  intro s hhere
  rcases hrun : (runCommand machine verbose (↑word :: args)
    ⟨some (dir.child a).text, some (dir.child b).text⟩ none).run s with ⟨e | status, s'⟩
  · obtain ⟨told, rfl⟩ := session_of_runCommand_error hrun
    have hapart : ∀ q, Unjudged here workDir place kept q →
        q ≠ place ++ [a] ∧ q ≠ place ++ [b] :=
      fun q hq => ⟨hq.ne_log ha', hq.ne_log hb'⟩
    have htold : Spares here workDir place (Unjudged here workDir place kept) s
        { s with errors := told } := .of_tree_eq rfl
    exact htold.trans (sparing_openChannels hdir ha hb hapart { s with errors := told } hhere)
  · refine ⟨frame_runCommand hmachine.below hdir ha hb hhere hrun, fun q hq => ?_⟩
    obtain ⟨told, streams, s₁, words, path, o, hopen, -, hcall, -, rfl⟩ := runCommand_ok hrun
    have hopened := opened_logs hdir ha hb hopen hhere
    have hqa := hq.ne_log ha'
    have hqb := hq.ne_log hb'
    have huntouched := hmachine.untouched hcall hopened.output List.dropLast_concat hq
    exact .inl ((node?_foldl_play huntouched (hopened.away hqa hqb)).trans
      (hopened.same q hqa hqb))

theorem sparing_runSpike (hmachine : Discreet machine here workDir kept)
    (hdir : Leads here dir place) : Sparing here workDir place (Unjudged here workDir place kept)
      (Simulator.runSpike machine verbose args elf dir) := by
  rw [Simulator.runSpike]
  refine (sparing_of_quiet (quiet_findTool _ _)).bind fun tool => ?_
  refine Sparing.bind (sparing_runCommand hmachine hdir (by decide) (by decide) (by decide)
    (by decide)) fun status => ?_
  split
  · exact sparing_of_quiet ((still_throw _).bind fun _ => still_pure _).quiet
  · exact sparing_of_quiet (still_pure _).quiet

theorem sparing_runBoat (hmachine : Discreet machine here workDir kept)
    (hdir : Leads here dir place) : Sparing here workDir place (Unjudged here workDir place kept)
      (Simulator.runBoat machine verbose args elf dir) := by
  rw [Simulator.runBoat]
  refine (sparing_of_quiet (quiet_findTool _ _)).bind fun tool => ?_
  refine Sparing.bind (sparing_runCommand hmachine hdir (by decide) (by decide) (by decide)
    (by decide)) fun status => sparing_of_quiet ?_
  have hlast : Quiet (do
      if !(← get).tree.has (Simulator.eventLog dir).text then
        throw (.noEventLog (Simulator.eventLog dir))
      return Simulator.eventLog dir : Action Path) := by
    refine quiet_get.bind fun s => ?_
    split
    · exact (still_throw _).quiet.bind fun _ => (still_pure _).quiet
    · exact (still_pure _).quiet
  split
  · exact (still_throw _).quiet.bind fun _ => hlast
  · exact hlast

def testPlace (here : Location) (workDir elf : Path) : Location :=
  placeOf here workDir ++ [elf.name]

theorem sparing_judgeTest (hmachine : Discreet machine here workDir kept)
    (hwork : workDir.text ≠ "")
    (helf : IsPlainName elf.name) (config : Config) (verbose : Bool) :
    Sparing here workDir (testPlace here workDir elf)
      (Unjudged here workDir (testPlace here workDir elf) kept)
      (judgeTest machine config workDir verbose elf) := by
  have hdir := (leads_child workDir hwork helf here).1
  rw [judgeTest]
  refine (sparing_makeDirectories _).bind fun _ => ?_
  refine (sparing_runSpike hmachine hdir).bind fun commitLog => ?_
  refine (sparing_runBoat hmachine hdir).bind fun eventLog => ?_
  exact sparing_of_quiet (quiet_compareFiles _ _ _)

theorem spares_writeText (hwork : workDir.text ≠ "") (helf : IsPlainName elf.name)
    (hhere : s.tree.here = here) {text : String}
    (h : (writeText (Campaign.resultFile (Campaign.runDir workDir elf)).text text).run s =
      (.ok (), s')) :
    Spares here workDir (testPlace here workDir elf)
      (Apart here workDir (testPlace here workDir elf) kept) s s' := by
  have hdir := (leads_child workDir hwork helf here).1
  obtain ⟨htarget, rfl⟩ := writeText_ok hdir (by decide) hhere h
  refine spares_fill hdir (by decide) ?_ hhere htarget
  rintro q ⟨happart, -⟩ rfl
  exact happart (List.prefix_append _ _)

theorem spares_testOne (hmachine : Discreet machine here workDir kept) (hwork : workDir.text ≠ "")
    (helf : IsPlainName elf.name) (hhere : s.tree.here = here) {result : CaseResult}
    (h : (Campaign.testOne machine config workDir verbose elf).run s = (.ok result, s')) :
    Spares here workDir (testPlace here workDir elf)
      (Apart here workDir (testPlace here workDir elf) kept) s s' := by
  rw [testOne_eq, run_bind_eq_ok] at h
  obtain ⟨verdict, s₁, hjudge, h⟩ := h
  rw [run_bind_eq_ok] at h
  obtain ⟨told, s₂, htold, ⟨⟩⟩ := h
  obtain ⟨-, hwrite⟩ := writeVerdict_ok htold
  have hfirst := sparing_judgeTest hmachine hwork helf config verbose s hhere
  rw [hjudge] at hfirst
  exact (hfirst.mono fun q => .inl).trans
    (spares_writeText hwork helf (hfirst.here_eq.trans hhere) hwrite)

/-- A divergence that is not told: its diagnostic holds half of a pair, and the comparison log of
the test breaks off in front of it. -/
structure CutOff (pattern : Option Trace.EndPattern) (workDir elf : Path) (f : Fault)
    (s : Session) : Prop where
  verdict : ∃ d half, logVerdict pattern workDir elf s = .ok (.fail d) ∧
    d.spelled = .error half ∧ f = .unencodable half
  comparison : Holds s.tree (Campaign.resultFile (Campaign.runDir workDir elf)).text failOpening

/-- A test that ends in a fault writes no comparison log either, unless it is cut off. -/
theorem spares_testOne_error (hmachine : Discreet machine here workDir kept)
    (hwork : workDir.text ≠ "") (helf : IsPlainName elf.name) (hhere : s.tree.here = here)
    {f : Fault}
    (h : (Campaign.testOne machine config workDir verbose elf).run s = (.error f, s')) :
    Spares here workDir (testPlace here workDir elf)
        (Apart here workDir (testPlace here workDir elf) kept) s s' ∧
      (Unwritten s.tree s'.tree (testPlace here workDir elf ++ ["compare.log"]) ∨
        CutOff config.endPattern workDir elf f s') := by
  have hfirst := sparing_judgeTest hmachine hwork helf config verbose s hhere
  rw [testOne_eq, run_bind_eq_error] at h
  rcases h with hjudge | ⟨verdict, s₁, hjudge, h⟩
  · rw [hjudge] at hfirst
    exact ⟨hfirst.mono fun q => .inl, .inl (hfirst.unwritten _ (.inr rfl))⟩
  · rw [hjudge] at hfirst
    have hhere₁ := hfirst.here_eq.trans hhere
    rw [run_bind_eq_error] at h
    rcases h with htold | ⟨_, s₂, -, h⟩
    · rcases writeVerdict_error htold with rfl | ⟨d, half, rfl, hhalf, rfl, hwrite⟩
      · exact ⟨hfirst.mono fun q => .inl, .inl (hfirst.unwritten _ (.inr rfl))⟩
      · obtain ⟨hverdict, -⟩ := verdict_of_judgeTest hmachine.below hwork helf hhere hjudge
        obtain ⟨hholds, hverdict⟩ := verdict_of_writeText hwork helf hhere₁ hverdict hwrite
        exact ⟨(hfirst.mono fun q => .inl).trans (spares_writeText hwork helf hhere₁ hwrite),
          .inr ⟨⟨d, half, hverdict, hhalf, rfl⟩, hholds⟩⟩
    · cases (Prod.mk.inj h).1

end Tests

end Cosim.Proofs.Run.Restraint
