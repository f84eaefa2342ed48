import Cosim.Proofs.Files.Changes
import Cosim.Proofs.Files.Ways
import Cosim.Proofs.Outcome
import Cosim.Proofs.Run.Actions
import Cosim.Run.Simulator

namespace Cosim.Proofs.Run.Commands

open Cosim.Files Cosim.Files.Tree Cosim.Run Cosim.Run.Session Cosim.Text
  Cosim.Proofs.Files.Changes Cosim.Proofs.Files.Ways Cosim.Proofs.Outcome
  Cosim.Proofs.Run.Actions Cosim.Proofs.Session

variable {machine : Machine} {verbose : Bool} {word path : String} {args : List Wide}
  {redirect : Redirect} {streams : Streams} {s s' : Session} {status : Int}

def openChannels (redirect : Redirect) : Action Streams := do
  let output ← openChannel redirect.output
  let errors ← if redirect.isJoint then pure none else openChannel redirect.errors
  return ⟨output, errors, redirect.isJoint⟩

/-- Find the program and let it do what it does. -/
def perform (machine : Machine) (word : String) (args : List Wide) (streams : Streams) :
    Action Int := do
  let s ← get
  checkVariables s.environment
  checkText word
  let args ← args.mapM asText
  let outcome ← settle (.files · word) (startFirst
    (fun path => startAt machine s.tree ⟨word, path, args, s.environment, streams⟩) none
    (programPaths word (s.environment.lookup "PATH")))
  modify fun s' =>
    { s' with tree := (outcome.effects.foldl Playing.play ⟨s.tree, streams⟩).tree }
  return outcome.status

theorem asText_ofString (text : String) :
    asText text = (checkText text >>= fun _ => pure text) := by
  rw [asText, Wide.spelled_ofString]
  rfl

theorem runCommand_eq (machine : Machine) (verbose : Bool) (word : String) (args : List Wide)
    (redirect : Redirect) :
    runCommand machine verbose (↑word :: args) redirect none =
      ((if verbose then complain (commandLine (↑word :: args) redirect) else pure ()) >>= fun _ =>
        openChannels redirect >>= perform machine word args) := by
  cases hjoint : redirect.isJoint with
  | true =>
    simp only [runCommand, openChannels, hjoint, asText_ofString, bind_assoc, pure_bind, if_true]
    cases verbose <;> rfl
  | false =>
    simp only [runCommand, openChannels, hjoint, asText_ofString, bind_assoc, pure_bind,
      Bool.false_eq_true, if_false]
    cases verbose <;> rfl

theorem still_checkVariables (environment : List (String × String)) :
    Still (checkVariables environment) := by
  have hforM := still_forM (g := fun v : String × String => do checkText v.1; checkText v.2)
    (fun v => (still_checkText v.1).bind fun _ => still_checkText v.2) environment
  rw [checkVariables]
  split
  · exact (still_throw .badVariableName).bind fun _ => hforM
  · exact hforM

section Start

variable {start start' : String → Except Errno Outcome} {paths : List String} {o : Outcome}

theorem startFirst_congr (h : ∀ path ∈ paths, start path = start' path) (seen : Option Errno) :
    startFirst start seen paths = startFirst start' seen paths := by
  induction paths generalizing seen with
  | nil => rfl
  | cons path rest ih =>
    obtain ⟨hpath, hrest⟩ := List.forall_mem_cons.mp h
    simp only [startFirst, hpath, ih hrest]

theorem exists_of_startFirst {seen : Option Errno} (h : startFirst start seen paths = .ok o) :
    ∃ path ∈ paths, start path = .ok o := by
  induction paths generalizing seen with
  | nil => cases h
  | cons path rest ih =>
    cases hfirst : start path with
    | ok first =>
      simp only [startFirst, hfirst] at h
      exact ⟨path, List.mem_cons_self, hfirst.trans h⟩
    | error e =>
      have hrest : ∃ seen, startFirst start seen rest = .ok o := by
        cases seen with
        | none =>
          simp only [startFirst, hfirst] at h
          exact ⟨_, h⟩
        | some first =>
          simp only [startFirst, hfirst] at h
          split_ifs at h
          · exact ⟨_, h⟩
          · exact ⟨_, h⟩
      obtain ⟨seen, hrest⟩ := hrest
      obtain ⟨p, hp, hstart⟩ := ih hrest
      exact ⟨p, List.mem_cons_of_mem path hp, hstart⟩

theorem machine_of_startAt {t : Tree} {call : Call} (h : startAt machine t call = .ok o) :
    machine call t = .ok o := by
  rw [startAt, bind_eq_ok] at h
  obtain ⟨node, -, h⟩ := h
  split at h
  · cases h
  · cases h
  · cases h
  · exact h

end Start

section Runs

variable {handle : Option Handle} {a b : String}

theorem openChannel_ok (hpath : path ≠ "/dev/null")
    (h : (openChannel (some path)).run s = (.ok handle, s')) :
    ∃ place, s.tree.target path = .ok place ∧ handle = some ⟨place, 0⟩ ∧
      s' = { s with tree := s.tree.fill place .empty } := by
  rw [openChannel] at h
  · obtain ⟨-, hopen⟩ := (still_checkText path).of_bind h
    rw [run_get_bind, run_bind_eq_ok] at hopen
    obtain ⟨place, s₁, hplace, hopen⟩ := hopen
    obtain ⟨htarget, rfl⟩ := settle_eq_ok hplace
    rw [run_bind_eq_ok] at hopen
    obtain ⟨⟨⟩, s₂, ⟨⟩, ⟨⟩⟩ := hopen
    exact ⟨place, htarget, rfl, rfl⟩
  · exact hpath

/-- Two channels are open, and lead to two locations, or both to the first. -/
structure Opened (s s₁ : Session) (streams : Streams) (p q : Location) : Prop where
  output : streams.output = some ⟨p, 0⟩
  errors : ∀ h, streams.errors = some h → h.place = q
  same : ∀ x, x ≠ p → x ≠ q → s₁.tree.node? x = s.tree.node? x
  apart : ∀ x, s.tree.node? x = some .directory → x ≠ p ∧ x ≠ q
  here : s₁.tree.here = s.tree.here
  environment : s₁.environment = s.environment

theorem Opened.away {s₁ : Session} {p q x : Location} (h : Opened s s₁ streams p q) (hp : x ≠ p)
    (hq : x ≠ q) : AwayFrom x streams where
  output handle hhandle := by
    obtain rfl := Option.some.inj (h.output.symm.trans hhandle)
    exact hp.symm
  errors handle hhandle := by
    rw [h.errors handle hhandle]
    exact hq.symm

theorem openChannels_ok (ha : a ≠ "/dev/null") (hb : b ≠ "/dev/null")
    (h : (openChannels ⟨some a, some b⟩).run s = (.ok streams, s')) :
    ∃ (p q : Location) (t : Tree), s.tree.target a = .ok p ∧ t.target b = .ok q ∧
      t.here = s.tree.here ∧ Opened s s' streams p q := by
  rw [openChannels, run_bind_eq_ok] at h
  obtain ⟨output, s₁, houtput, h⟩ := h
  obtain ⟨p, hp, rfl, rfl⟩ := openChannel_ok ha houtput
  have hdirectory : ∀ {t : Tree} {text : String} {p x : Location}, t.target text = .ok p →
      t.node? x = some .directory → x ≠ p := by
    rintro t text p x hp hx rfl
    exact not_directory_of_target hp hx
  dsimp only at h
  split at h
  · next hjoint =>
    have hab : b = a := by simpa [Redirect.isJoint] using hjoint
    rw [run_bind_eq_ok] at h
    obtain ⟨_, s₂, ⟨⟩, ⟨⟩⟩ := h
    refine ⟨p, p, s.tree, hp, hab ▸ hp, rfl, rfl, nofun, ?_, ?_, here_fill, rfl⟩
    · exact fun x hx _ => node?_fill_of_ne hx
    · exact fun x hx => ⟨hdirectory hp hx, hdirectory hp hx⟩
  · rw [run_bind_eq_ok] at h
    obtain ⟨errors, s₂, herrors, h⟩ := h
    obtain ⟨q, hq, rfl, rfl⟩ := openChannel_ok hb herrors
    obtain ⟨⟨⟩, ⟨⟩⟩ := h
    refine ⟨p, q, s.tree.fill p .empty, hp, hq, here_fill, rfl, ?_, ?_, ?_, ?_, rfl⟩
    · rintro x ⟨⟩
      rfl
    · exact fun x hxp hxq => (node?_fill_of_ne hxq).trans (node?_fill_of_ne hxp)
    · intro x hx
      have hxp := hdirectory hp hx
      exact ⟨hxp, hdirectory hq ((node?_fill_of_ne hxp).trans hx)⟩
    · exact here_fill.trans here_fill

theorem perform_ok (h : (perform machine word args streams).run s = (.ok status, s')) :
    ∃ words path o, args = words.map Wide.ofString ∧
      machine ⟨word, path, words, s.environment, streams⟩ s.tree = .ok o ∧ o.status = status ∧
      s' = { s with tree := (o.effects.foldl Playing.play ⟨s.tree, streams⟩).tree } := by
  rw [perform, run_get_bind] at h
  obtain ⟨_, h⟩ := (still_checkVariables s.environment).of_bind h
  obtain ⟨_, h⟩ := (still_checkText word).of_bind h
  rw [run_bind_eq_ok] at h
  obtain ⟨words, s₁, hwords, h⟩ := h
  obtain rfl := (still_mapM still_asText args).eq_of_run hwords
  rw [run_bind_eq_ok] at h
  obtain ⟨o, s₂, hstart, h⟩ := h
  obtain ⟨hstart, rfl⟩ := settle_eq_ok hstart
  obtain ⟨path, -, hstart⟩ := exists_of_startFirst hstart
  rw [run_bind_eq_ok] at h
  obtain ⟨⟨⟩, s₃, ⟨⟩, ⟨⟩⟩ := h
  exact ⟨words, path, o, eq_of_mapM_asText hwords, machine_of_startAt hstart, rfl, rfl⟩

theorem runCommand_ok
    (h : (runCommand machine verbose (↑word :: args) redirect none).run s = (.ok status, s')) :
    ∃ told streams s₁ words path o,
      (openChannels redirect).run { s with errors := told } = (.ok streams, s₁) ∧
      args = words.map Wide.ofString ∧
      machine ⟨word, path, words, s₁.environment, streams⟩ s₁.tree = .ok o ∧ o.status = status ∧
      s' = { s₁ with tree := (o.effects.foldl Playing.play ⟨s₁.tree, streams⟩).tree } := by
  rw [runCommand_eq, run_bind_eq_ok] at h
  obtain ⟨_, s₀, htold, h⟩ := h
  obtain ⟨told, rfl⟩ : ∃ told, s₀ = { s with errors := told } := by
    split at htold
    · exact ⟨_, (Prod.mk.inj htold).2.symm⟩
    · exact ⟨s.errors, (Prod.mk.inj htold).2.symm⟩
  rw [run_bind_eq_ok] at h
  obtain ⟨streams, s₁, hopen, h⟩ := h
  obtain ⟨words, path, o, hwords, hcall, hstatus, hs⟩ := perform_ok h
  exact ⟨told, streams, s₁, words, path, o, hopen, hwords, hcall, hstatus, hs⟩

theorem perform_cases (machine : Machine) (word : String) (args : List Wide)
    (streams : Streams) (s : Session) :
    (∃ e, (perform machine word args streams).run s = (.error e, s)) ∨
      ∃ status s', (perform machine word args streams).run s = (.ok status, s') := by
  rw [perform, run_get_bind]
  rcases (still_checkVariables s.environment).bind_cases _ s with ⟨e, he⟩ | ⟨_, h⟩
  · exact .inl ⟨e, he⟩
  rw [h]
  rcases (still_checkText word).bind_cases _ s with ⟨e, he⟩ | ⟨_, h⟩
  · exact .inl ⟨e, he⟩
  rw [h]
  rcases (still_mapM still_asText args).bind_cases _ s with ⟨e, he⟩ | ⟨_, h⟩
  · exact .inl ⟨e, he⟩
  rw [h]
  rcases (still_settle _ _).bind_cases _ s with ⟨e, he⟩ | ⟨_, h⟩
  · exact .inl ⟨e, he⟩
  rw [h]
  exact .inr ⟨_, _, rfl⟩

/-- A command that cannot be run leaves nothing but the files of its channels. -/
theorem session_of_runCommand_error {e : Fault}
    (h : (runCommand machine verbose (↑word :: args) redirect none).run s = (.error e, s')) :
    ∃ told, s' = ((openChannels redirect).run { s with errors := told }).2 := by
  have htold : ∃ told, ((if verbose then complain (commandLine (↑word :: args) redirect)
      else pure ()) : Action PUnit).run s = (.ok (), { s with errors := told }) := by
    cases verbose with
    | true => exact ⟨_, rfl⟩
    | false => exact ⟨s.errors, rfl⟩
  obtain ⟨told, htold⟩ := htold
  refine ⟨told, ?_⟩
  rw [runCommand_eq, run_bind_ok htold, run_bind] at h
  rcases hopen : (openChannels redirect).run { s with errors := told } with ⟨f | streams, s₁⟩
  · rw [hopen] at h
    exact (Prod.mk.inj h).2.symm
  · rw [hopen] at h
    rcases perform_cases machine word args streams s₁ with ⟨f, hf⟩ | ⟨status, s₂, hok⟩
    · exact (Prod.mk.inj (h.symm.trans hf)).2
    · cases (Prod.mk.inj (h.symm.trans hok)).1

end Runs

/-- The names of the files that a test leaves in its directory. -/
def logNames : List String :=
  ["spike.log", "spike.stdout", "boat.log", "boat_trace_event.jsonl", "compare.log"]

section Simulators

variable {tool : String} {dir elf log : Path}

theorem isPlainName_of_mem {name : String} (h : name ∈ logNames) : IsPlainName name := by
  have hall : ∀ name ∈ logNames, '/' ∉ name.toList ∧ isIdle name = false ∧ name ≠ ".." ∧
      name.utf8ByteSize ≤ nameLimit := by
    decide
  obtain ⟨hslash, hidle, hup, hshort⟩ := hall name h
  exact ⟨hslash, hidle, hup, hshort⟩

theorem ne_null {name : String} (h : dir.names ≠ []) (hname : name ∈ logNames) :
    (dir.child name).text ≠ "/dev/null" := by
  intro he
  have hnull : "null" ∉ logNames := by decide
  have hparts : pieces "/dev/null" = ["", "dev"] ++ ["null"] := by decide +kernel
  have hpieces := pieces_child (isPlainName_of_mem hname).no_slash dir.text
  rw [← text_child h, he, hparts] at hpieces
  obtain ⟨-, hlast⟩ := List.append_inj' hpieces rfl
  rw [List.singleton_inj.mp hlast] at hnull
  exact hnull hname

theorem opened_logs {here place : Location} {a b : String} (hdir : Leads here dir place)
    (ha : a ∈ logNames) (hb : b ∈ logNames)
    (h : (openChannels ⟨some (dir.child a).text, some (dir.child b).text⟩).run s =
      (.ok streams, s'))
    (hhere : s.tree.here = here) :
    Opened s s' streams (place ++ [a]) (place ++ [b]) := by
  obtain ⟨p, q, t, hp, hq, ht, hopened⟩ :=
    openChannels_ok (ne_null hdir.names ha) (ne_null hdir.names hb) h
  obtain rfl := hdir.place_of_target (isPlainName_of_mem ha) hhere hp
  obtain rfl := hdir.place_of_target (isPlainName_of_mem hb) (ht.trans hhere) hq
  exact hopened

/-- The command that runs the other side. -/
def boatCommand (machine : Machine) (verbose : Bool) (args : List Wide) (elf dir : Path)
    (tool : String) : Action Int :=
  runCommand machine verbose (Simulator.boatWords tool args elf (Simulator.eventLog dir))
    ⟨some (Simulator.boatOutput dir).text, some (Simulator.boatOutput dir).text⟩ none

theorem session_of_findTool {name variableName : String}
    (h : (Tool.find name variableName).run s = (.ok tool, s')) : s' = s := by
  rw [Tool.find, run_get_bind, run_bind_eq_ok] at h
  obtain ⟨value, _, ⟨⟩, h⟩ := h
  cases hvalue : s.environment.lookup variableName with
  | some directory =>
    simp only [hvalue] at h
    obtain ⟨⟨⟩, h⟩ := (still_checkText _).of_bind h
    split at h
    · exact (Prod.mk.inj h).2.symm
    · cases (Prod.mk.inj h).1
  | none =>
    simp only [hvalue] at h
    rw [run_bind_eq_ok] at h
    obtain ⟨searchPath, _, ⟨⟩, h⟩ := h
    split at h
    · exact (Prod.mk.inj h).2.symm
    · cases (Prod.mk.inj h).1

theorem quiet_findTool (name variableName : String) : Quiet (Tool.find name variableName) := by
  rw [Tool.find]
  refine quiet_get.bind fun s => (quiet_get.bind fun _ => (still_pure _).quiet).bind fun value => ?_
  cases value with
  | some directory =>
    refine (still_checkText _).quiet.bind fun _ => ?_
    split
    · exact (still_pure _).quiet
    · exact (still_throw _).quiet
  | none =>
    refine (quiet_get.bind fun _ => (still_pure _).quiet).bind fun searchPath => ?_
    dsimp only
    split
    · exact (still_pure _).quiet
    · exact (still_throw _).quiet

theorem status_eq_zero {α : Type} {status : Int} {fault : Fault} {after : PUnit → Action α}
    {next : Action α} {x : α}
    (h : (if status ≠ 0 then (throw fault : Action PUnit) >>= after else next).run s =
      (.ok x, s')) : status = 0 := by
  by_contra hne
  rw [if_pos hne, run_bind_eq_ok] at h
  obtain ⟨_, _, ⟨⟩, _⟩ := h

theorem runSpike_ok (h : (Simulator.runSpike machine verbose args elf dir).run s = (.ok log, s')) :
    ∃ tool, (runCommand machine verbose (Simulator.spikeWords tool args elf)
      ⟨some (Simulator.spikeOutput dir).text, some (Simulator.commitLog dir).text⟩ none).run s =
        (.ok 0, s') ∧ log = Simulator.commitLog dir := by
  rw [Simulator.runSpike, run_bind_eq_ok] at h
  obtain ⟨tool, s₁, hfind, h⟩ := h
  obtain rfl := session_of_findTool hfind
  rw [run_bind_eq_ok] at h
  obtain ⟨status, s₂, hcommand, h⟩ := h
  obtain rfl := status_eq_zero h
  rw [if_neg (by decide)] at h
  obtain ⟨⟨⟩, ⟨⟩⟩ := h
  exact ⟨tool, hcommand, rfl⟩

theorem run_runBoat (hfind : (Tool.find "boat" "BOAT_PATH").run s = (.ok tool, s))
    (h : (boatCommand machine verbose args elf dir tool).run s = (.ok 0, s')) :
    (Simulator.runBoat machine verbose args elf dir).run s =
      (if s'.tree.has (Simulator.eventLog dir).text then .ok (Simulator.eventLog dir)
        else .error (.noEventLog (Simulator.eventLog dir)), s') := by
  rw [boatCommand] at h
  rw [Simulator.runBoat, run_bind_ok hfind]
  dsimp only
  rw [run_bind_ok h, if_neg (by decide), run_get_bind]
  cases s'.tree.has (Simulator.eventLog dir).text with
  | true => rfl
  | false => rfl

theorem runBoat_ok (h : (Simulator.runBoat machine verbose args elf dir).run s = (.ok log, s')) :
    ∃ tool, (Tool.find "boat" "BOAT_PATH").run s = (.ok tool, s) ∧
      (boatCommand machine verbose args elf dir tool).run s = (.ok 0, s') ∧
      s'.tree.has (Simulator.eventLog dir).text = true ∧ log = Simulator.eventLog dir := by
  have hrun := h
  rw [Simulator.runBoat, run_bind_eq_ok] at h
  obtain ⟨tool, s₁, hfind, h⟩ := h
  obtain rfl := session_of_findTool hfind
  rw [run_bind_eq_ok] at h
  obtain ⟨status, s₂, hcommand, h⟩ := h
  obtain rfl := status_eq_zero h
  rw [run_runBoat hfind hcommand] at hrun
  obtain ⟨hlog, rfl⟩ := Prod.mk.inj hrun
  split_ifs at hlog with hhas
  exact ⟨tool, hfind, hcommand, hhas, (Except.ok.inj hlog).symm⟩

end Simulators

end Cosim.Proofs.Run.Commands
