import Cosim.Proofs.Files.Leftovers
import Cosim.Proofs.Run.Commands
import Cosim.Run.Campaign
import Mathlib.Data.List.Find

namespace Cosim.Proofs.Run.TwinRuns

open Cosim.Files Cosim.Files.Tree Cosim.Run Cosim.Run.Session Cosim.Text
  Cosim.Proofs.Files.Changes Cosim.Proofs.Files.Leftovers Cosim.Proofs.Files.Ways
  Cosim.Proofs.Outcome
  Cosim.Proofs.Run.Actions Cosim.Proofs.Run.Commands Cosim.Proofs.Session

def logs (place : Location) : List Location := logNames.map fun name => place ++ [name]

/-- A directory for logs is at a location, and its path leads there over no log. -/
structure IsLogDir (here : Location) (dir : Path) (place : Location) : Prop
    extends Leads here dir place where
  no_log : ∀ q ∈ wayTo here dir.text, q ∉ logs place

def sought (env : List (String × String)) (name variableName : String) : List String :=
  ((env.lookup variableName).map fun directory => joinText directory name).toList ++
    programPaths name (env.lookup "PATH")

/-- A path leads over no log, nor to one. -/
def PassesBy (here place : Location) (path : String) : Prop :=
  (∀ q ∈ wayTo here path, q ∉ logs place) ∧ goal (origin here path) (pieces path) ∉ logs place

/-- Simulators are not sought on a way over a log. -/
def SoughtElsewhere (env : List (String × String)) (here place : Location)
    (name variableName : String) : Prop :=
  ∀ path ∈ sought env name variableName, PassesBy here place path

/-- What programs do does not depend on the logs in a directory. They do not carry the logs
elsewhere, nor directories over them, nor the current directory. -/
structure Heedless (machine : Machine) (here place : Location) : Prop where
  same : ∀ call t t', without (logs place) t = without (logs place) t' →
    machine call t = machine call t'
  spares : ∀ call t o, machine call t = .ok o → ∀ e ∈ o.effects,
    Spares (logs place) e ∧ ¬ Carries here e

/-- Sessions that are alike but for leftovers in a directory, and for what they have told. -/
structure Matched (env : List (String × String)) (here place : Location)
    (IsFresh : Location → Prop) (s s' : Session) : Prop where
  environment : s.environment = env
  environment' : s'.environment = env
  here : s.tree.here = here
  alike : Alike (logs place) IsFresh s.tree s'.tree

section Places

variable {env : List (String × String)} {here place q : Location} {dir : Path}
  {name variableName : String} {IsFresh : Location → Prop} {s s' : Session}

theorem self_not_mem_logs (place : Location) : place ∉ logs place := by
  simp [logs, logNames]

theorem Matched.here' (h : Matched env here place IsFresh s s') : s'.tree.here = here :=
  h.alike.here_eq.symm.trans h.here

theorem Matched.mono {IsFresh' : Location → Prop} (h : Matched env here place IsFresh s s')
    (hf : ∀ q, IsFresh' q → IsFresh q) : Matched env here place IsFresh' s s' :=
  ⟨h.environment, h.environment', h.here, h.alike.mono hf⟩

theorem Matched.locate_eq (h : Matched env here place IsFresh s s') {path : String}
    (hway : ∀ q ∈ wayTo here path, q ∉ logs place) : s.tree.locate path = s'.tree.locate path := by
  refine locate_congr h.alike.here_eq fun q hq => ?_
  rw [h.alike.node?_eq (hway q (h.here ▸ hq))]

theorem IsLogDir.way_not_mem (hdir : IsLogDir here dir place) (hname : name ∈ logNames) :
    ∀ q ∈ wayTo here (dir.child name).text, q ∉ logs place := by
  intro q hq
  rw [hdir.way_child (isPlainName_of_mem hname), List.mem_append, List.mem_singleton] at hq
  rcases hq with hq | rfl
  · exact hdir.no_log q hq
  · exact self_not_mem_logs q

theorem mem_logs (hname : name ∈ logNames) : place ++ [name] ∈ logs place :=
  List.mem_map.mpr ⟨name, hname, rfl⟩

theorem Matched.target_eq (h : Matched env here place IsFresh s s')
    (hdir : IsLogDir here dir place) (hname : name ∈ logNames) :
    s.tree.target (dir.child name).text = s'.tree.target (dir.child name).text := by
  rw [target_child hdir.names (isPlainName_of_mem hname),
    target_child hdir.names (isPlainName_of_mem hname),
    h.locate_eq (hdir.way_not_mem hname)]
  refine bind_congr fun q => ?_
  rw [(h.alike.similar_all q).shut_eq]

theorem Matched.read_eq (h : Matched env here place IsFresh s s')
    (hdir : IsLogDir here dir place) (hname : name ∈ logNames)
    (hfresh : IsFresh (place ++ [name])) :
    s.tree.read (dir.child name).text = s'.tree.read (dir.child name).text ∧
      s.tree.has (dir.child name).text = s'.tree.has (dir.child name).text := by
  have hlocate := h.locate_eq (hdir.way_not_mem hname)
  rw [Tree.read, Tree.read, has, has, Tree.find, Tree.find, ← hlocate]
  cases hq : s.tree.locate (dir.child name).text with
  | error e => exact ⟨rfl, rfl⟩
  | ok q =>
    obtain rfl := hdir.place_of_locate (isPlainName_of_mem hname) h.here hq
    rcases h.alike.equal _ (mem_logs hname) hfresh with he | ⟨content, x, y, hx, hy⟩
    · simp [bind, Except.bind, he]
    · simp [bind, Except.bind, hx, hy, Except.toOption]

end Places

section Runs

variable {env : List (String × String)} {here place : Location} {dir : Path} {name a b : String}
  {IsFresh : Location → Prop} {machine : Machine} {verbose : Bool} {word : String}
  {args : List Wide} {streams : Streams}

theorem deaf_matched : Deaf (Matched env here place IsFresh) := by
  intro s s' t t' h ht hte ht' hte'
  refine ⟨hte.trans h.environment, hte'.trans h.environment', ?_, ?_⟩
  · rw [ht, h.here]
  · rw [ht, ht']
    exact h.alike

theorem related_fill (q : Location) (content : ByteArray) :
    Related (Matched env here place IsFresh)
      (modify fun s => { s with tree := s.tree.fill q content })
      (modify fun s => { s with tree := s.tree.fill q content })
      fun _ => Matched env here place fun r => r = q ∨ IsFresh r :=
  related_modify fun _ _ h =>
    ⟨h.environment, h.environment', here_fill.trans h.here, h.alike.fill q content⟩

theorem related_openChannel (hdir : IsLogDir here dir place) (hname : name ∈ logNames) :
    Related (Matched env here place IsFresh) (openChannel (some (dir.child name).text))
      (openChannel (some (dir.child name).text))
      fun _ => Matched env here place fun q => q = place ++ [name] ∨ IsFresh q := by
  rw [openChannel]
  · refine (still_checkText _).related.bind fun _ => related_get fun t t' h => ?_
    rw [h.target_eq hdir hname]
    refine related_settle.bind fun q => ?_
    refine Related.bind
      (Q := fun _ => Matched env here place fun r => r = place ++ [name] ∨ IsFresh r)
      ?_ fun _ => related_pure fun _ _ hs => hs
    intro s s' hs
    obtain ⟨hq, rfl, rfl⟩ := hs
    obtain rfl := hdir.place_of_target (isPlainName_of_mem hname) h.here' hq
    exact related_fill (place ++ [name]) .empty s s' h
  · exact ne_null hdir.names hname

theorem related_openChannels (hdir : IsLogDir here dir place) (ha : a ∈ logNames)
    (hb : b ∈ logNames) :
    Related (Matched env here place IsFresh)
      (openChannels ⟨some (dir.child a).text, some (dir.child b).text⟩)
      (openChannels ⟨some (dir.child a).text, some (dir.child b).text⟩)
      fun _ => Matched env here place
        fun q => q = place ++ [a] ∨ q = place ++ [b] ∨ IsFresh q := by
  rw [openChannels]
  refine (related_openChannel hdir ha).bind fun output => ?_
  dsimp only
  split
  · next hjoint =>
    -- one file for both
    have htext : (dir.child b).text = (dir.child a).text := by
      simpa [Redirect.isJoint] using hjoint
    have hsame : place ++ [b] = place ++ [a] := by
      rw [← hdir.goal_child (isPlainName_of_mem hb), htext,
        hdir.goal_child (isPlainName_of_mem ha)]
    refine (still_pure none).related.bind fun errors => related_pure fun s s' h => h.mono ?_
    rw [hsame]
    exact fun q hq => hq.elim .inl id
  · refine (related_openChannel hdir hb).bind fun errors =>
      related_pure fun s s' h => h.mono fun q hq => ?_
    rcases hq with hq | hq | hq
    · exact .inr (.inl hq)
    · exact .inl hq
    · exact .inr (.inr hq)

theorem Matched.find_eq {s s' : Session} (h : Matched env here place IsFresh s s') {path : String}
    (hpath : PassesBy here place path) : s.tree.find path = s'.tree.find path := by
  have hlocate := h.locate_eq hpath.1
  cases hq : s'.tree.locate path with
  | error e =>
    rw [Tree.find, Tree.find, hlocate, hq]
    rfl
  | ok q =>
    obtain rfl := goal_of_locate hq
    rw [h.here'] at hq
    rw [find_of_locate hq, find_of_locate (hlocate.trans hq), h.alike.node?_eq hpath.2]

theorem related_perform (hmachine : Heedless machine here place)
    (hpaths : ∀ path ∈ programPaths word (env.lookup "PATH"), PassesBy here place path) :
    Related (Matched env here place IsFresh) (perform machine word args streams)
      (perform machine word args streams) fun status s s' => ∃ words path t o,
        args = words.map Wide.ofString ∧
          machine ⟨word, path, words, env, streams⟩ t = .ok o ∧ o.status = status ∧
          Matched env here place (fun q => (∃ e ∈ o.effects, Renews q e) ∨ IsFresh q) s s' := by
  rw [perform]
  refine related_get fun t t' h => ?_
  rw [h.environment, h.environment']
  refine (still_checkVariables env).related.bind fun _ => ?_
  refine (still_checkText word).related.bind fun _ => ?_
  refine ((still_mapM still_asText args).related_of eq_of_mapM_asText).bind fun words =>
    related_of_fact fun hwords => ?_
  -- the program that is started is the same, since no path to one leads through the logs
  have hstart : startFirst
        (fun path => startAt machine t.tree ⟨word, path, words, env, streams⟩) none
        (programPaths word (env.lookup "PATH")) =
      startFirst (fun path => startAt machine t'.tree ⟨word, path, words, env, streams⟩) none
        (programPaths word (env.lookup "PATH")) := by
    refine startFirst_congr (fun path hpath => ?_) none
    rw [startAt, startAt, h.find_eq (hpaths path hpath), hmachine.same _ _ _ h.alike.without_eq]
  rw [hstart]
  refine related_settle.bind fun o => ?_
  intro s s' hs
  obtain ⟨ho, rfl, rfl⟩ := hs
  obtain ⟨path, -, ho⟩ := exists_of_startFirst ho
  have hcall := machine_of_startAt ho
  have hspares := hmachine.spares _ _ o hcall
  refine ⟨rfl, ?_⟩
  rintro status ⟨⟩
  refine ⟨words, path, _, o, hwords, hcall, rfl, h.environment, h.environment', ?_, ?_⟩
  · exact (here_foldl_play fun e he => h.here ▸ (hspares e he).2).trans h.here
  · exact alike_foldl_play h.alike rfl fun e he => (hspares e he).1

end Runs

section Tools

variable {env : List (String × String)} {here place : Location} {IsFresh : Location → Prop}
  {name variableName word path : String}

theorem eq_of_no_slash {directory : String} (h : '/' ∉ (joinText directory name).toList) :
    joinText directory name = name := by
  rw [joinText] at h ⊢
  split_ifs at h ⊢ with hname hend
  · rfl
  · have hsuffix := String.Slice.endsWith_string_iff.mp hend
    rw [String.copy_toSlice] at hsuffix
    refine absurd ?_ h
    rw [String.toList_append]
    exact List.mem_append_left _ (hsuffix.subset (by simp))
  · simp at h

theorem mem_sought_of_word (hslash : '/' ∉ name.toList)
    (hword : word ∈ sought env name variableName)
    (hpath : path ∈ programPaths word (env.lookup "PATH")) :
    path ∈ sought env name variableName := by
  rw [programPaths] at hpath
  split_ifs at hpath with h
  · exact List.mem_singleton.mp hpath ▸ hword
  · obtain rfl : word = name := by
      have hno : '/' ∉ word.toList := by simpa using h
      rcases List.mem_append.mp hword with hvariable | hsearch
      · obtain ⟨directory, -, rfl⟩ := Option.map_eq_some_iff.mp (Option.mem_toList.mp hvariable)
        exact eq_of_no_slash hno
      · rw [programPaths, if_neg (by simpa using hslash)] at hsearch
        obtain ⟨directory, -, rfl⟩ := List.mem_map.mp hsearch
        exact eq_of_no_slash hno
    refine List.mem_append_right _ ?_
    rw [programPaths, if_neg (by simpa using hslash)]
    exact hpath

theorem exists_searched (env : List (String × String)) (variableName : String)
    (hslash : '/' ∉ name.toList) : ∃ paths : List String,
    (∀ t, Tool.search t ((env.lookup "PATH").getD "/bin:/usr/bin") name =
      paths.find? (Tool.isProgram t)) ∧ ∀ path ∈ paths, path ∈ sought env name variableName := by
  refine ⟨_, fun t => by rw [Tool.search, if_neg (by simpa using hslash)], fun path hpath => ?_⟩
  obtain ⟨directory, hdirectory, rfl⟩ := List.mem_map.mp hpath
  rw [Tool.directories] at hdirectory
  split_ifs at hdirectory
  · cases hdirectory
  · refine List.mem_append_right _ ?_
    rw [programPaths, if_neg (by simpa using hslash)]
    exact List.mem_map_of_mem hdirectory

theorem related_getVariable {t t' : Session} (h : t.environment = env)
    (h' : t'.environment = env) (name : String) :
    Related (fun s s' => s = t ∧ s' = t') (getVariable name) (getVariable name)
      fun value s s' => value = env.lookup name ∧ s = t ∧ s' = t' := by
  rintro s s' ⟨rfl, rfl⟩
  have hsame : s'.environment.lookup name = s.environment.lookup name := by rw [h, h']
  refine ⟨congrArg Except.ok hsame.symm, ?_⟩
  rintro value ⟨⟩
  exact ⟨by rw [h], rfl, rfl⟩

theorem related_findTool (hslash : '/' ∉ name.toList)
    (hsought : SoughtElsewhere env here place name variableName) :
    Related (Matched env here place IsFresh) (Tool.find name variableName)
      (Tool.find name variableName) fun tool s s' =>
        tool ∈ sought env name variableName ∧ Matched env here place IsFresh s s' := by
  rw [Tool.find]
  refine related_get fun t t' h => ?_
  have hfind : ∀ path ∈ sought env name variableName, t.tree.find path = t'.tree.find path :=
    fun path hpath => h.find_eq (hsought path hpath)
  have hget := related_getVariable h.environment h.environment'
  have hmatched : ∀ s s', s = t ∧ s' = t' → Matched env here place IsFresh s s' := by
    rintro s s' ⟨rfl, rfl⟩
    exact h
  refine (hget variableName).bind fun value => related_of_fact fun hvalue => ?_
  -- a directory that is given is the only one looked into, and else all of the search path
  cases value with
  | some directory =>
    have hpath : joinText directory name ∈ sought env name variableName :=
      List.mem_append_left _ (by simp [← hvalue])
    have hrun : t.tree.isRunnable (joinText directory name) =
        t'.tree.isRunnable (joinText directory name) := by
      rw [isRunnable, isRunnable, hfind _ hpath]
    dsimp only
    refine (still_checkText _).related.bind fun _ => ?_
    rw [hrun]
    split
    · exact related_pure fun s s' hs => ⟨hpath, hmatched s s' hs⟩
    · exact related_throw
  | none =>
    refine (hget "PATH").bind fun searchPath => related_of_fact fun hsearch => ?_
    obtain ⟨paths, hpaths, hmem⟩ := exists_searched env variableName hslash
    have hsame : paths.find? (Tool.isProgram t.tree) = paths.find? (Tool.isProgram t'.tree) := by
      refine List.find?_congr fun path hpath => ?_
      rw [Tool.isProgram, Tool.isProgram, isFile, isFile, isRunnable, isRunnable,
        hfind path (hmem path hpath)]
    dsimp only
    rw [hsearch, hpaths, hpaths, hsame]
    cases hfound : paths.find? (Tool.isProgram t'.tree) with
    | some path =>
      exact related_pure fun s s' hs =>
        ⟨hmem path (List.mem_of_find?_eq_some hfound), hmatched s s' hs⟩
    | none => exact related_throw

end Tools

section Tests

variable {env : List (String × String)} {here place : Location} {dir elf : Path}
  {IsFresh : Location → Prop} {machine : Machine} {verbose : Bool} {word a b name : String}
  {args : List Wide}

theorem related_runCommand (hmachine : Heedless machine here place)
    (hdir : IsLogDir here dir place) (ha : a ∈ logNames) (hb : b ∈ logNames)
    (hpaths : ∀ path ∈ programPaths word (env.lookup "PATH"), PassesBy here place path) :
    Related (Matched env here place IsFresh)
      (runCommand machine verbose (↑word :: args)
        ⟨some (dir.child a).text, some (dir.child b).text⟩ none)
      (runCommand machine verbose (↑word :: args)
        ⟨some (dir.child a).text, some (dir.child b).text⟩ none)
      fun status s s' => ∃ call t o, machine call t = .ok o ∧
        (call.name :: call.args).map Wide.ofString = ↑word :: args ∧ o.status = status ∧
          Matched env here place (fun q => (∃ e ∈ o.effects, Renews q e) ∨
            q = place ++ [a] ∨ q = place ++ [b] ∨ IsFresh q) s s' := by
  rw [runCommand_eq]
  refine Related.bind (Q := fun _ => Matched env here place IsFresh) ?_ fun _ => ?_
  · split
    · exact deaf_matched.tell fun s => ⟨rfl, rfl⟩
    · exact related_pure fun _ _ h => h
  · refine (related_openChannels hdir ha hb).bind fun streams => ?_
    refine (related_perform hmachine hpaths).mono (fun _ _ h => h) ?_
    rintro status s s' ⟨words, path, t, o, rfl, hcall, hstatus, h⟩
    exact ⟨_, t, o, hcall, rfl, hstatus, h⟩

theorem related_runSpike (hmachine : Heedless machine here place)
    (hdir : IsLogDir here dir place)
    (hsought : SoughtElsewhere env here place "spike" "SPIKE_PATH") :
    Related (Matched env here place IsFresh) (Simulator.runSpike machine verbose args elf dir)
      (Simulator.runSpike machine verbose args elf dir) fun log s s' =>
        log = Simulator.commitLog dir ∧
          Matched env here place (fun q => q = place ++ ["spike.log"] ∨ IsFresh q) s s' := by
  rw [Simulator.runSpike]
  refine (related_findTool (by decide) hsought).bind fun tool => related_of_fact fun htool => ?_
  refine (related_runCommand hmachine hdir (by decide) (by decide)
    fun path hpath => hsought path (mem_sought_of_word (by decide) htool hpath)).bind
    fun status => ?_
  dsimp only
  split
  · exact related_throw_bind
  · refine related_pure ?_
    rintro s s' ⟨call, t, o, -, -, -, h⟩
    refine ⟨rfl, h.mono fun q hq => ?_⟩
    exact .inr (.inr hq)

def RenewsLog (machine : Machine) (args : List Wide) (elf dir : Path) (place : Location) : Prop :=
  ∀ call t o, machine call t = .ok o →
    (call.name :: call.args).map Wide.ofString =
      Simulator.boatWords call.name args elf (Simulator.eventLog dir) →
    o.status = 0 → ∃ e ∈ o.effects, Renews (place ++ ["boat_trace_event.jsonl"]) e

/-- The other side says the same in both sessions, and its log is fresh if it was before, or if
every call renews it. -/
theorem related_runBoat (hmachine : Heedless machine here place)
    (hdir : IsLogDir here dir place) (hsought : SoughtElsewhere env here place "boat" "BOAT_PATH")
    (hlog : IsFresh (place ++ ["boat_trace_event.jsonl"]) ∨
      RenewsLog machine args elf dir place) :
    Related (Matched env here place IsFresh) (Simulator.runBoat machine verbose args elf dir)
      (Simulator.runBoat machine verbose args elf dir) fun log s s' =>
        log = Simulator.eventLog dir ∧ Matched env here place
          (fun q => q = place ++ ["boat_trace_event.jsonl"] ∨ IsFresh q) s s' := by
  rw [Simulator.runBoat]
  refine (related_findTool (by decide) hsought).bind fun tool => related_of_fact fun htool => ?_
  refine (related_runCommand hmachine hdir (by decide) (by decide)
    fun path hpath => hsought path (mem_sought_of_word (by decide) htool hpath)).bind
    fun status => ?_
  dsimp only
  split
  · exact related_throw_bind
  · next hstatus =>
    have hzero : status = 0 := by simpa using hstatus
    refine related_get fun t t' hdone => ?_
    obtain ⟨call, t₀, o, hcall, hwords, ho, h⟩ := hdone
    have hfresh : Matched env here place
        (fun q => q = place ++ ["boat_trace_event.jsonl"] ∨ IsFresh q) t t' := by
      refine h.mono fun q hq => ?_
      rcases hq with rfl | hq
      · rcases hlog with hlog | hlog
        · exact .inr (.inr (.inr hlog))
        · obtain rfl := Wide.ofString_inj.mp (List.cons.inj hwords).1
          exact .inl (hlog call t₀ o hcall hwords (ho.trans hzero))
      · exact .inr (.inr (.inr hq))
    have hhas : t.tree.has (Simulator.eventLog dir).text =
        t'.tree.has (Simulator.eventLog dir).text :=
      (hfresh.read_eq hdir (by decide) (.inl rfl)).2
    rw [hhas]
    split
    · exact related_throw_bind
    · refine related_pure ?_
      rintro s s' ⟨rfl, rfl⟩
      exact ⟨rfl, hfresh⟩

theorem related_writeText (hdir : IsLogDir here dir place) (hname : name ∈ logNames)
    (text : String) :
    Related (Matched env here place IsFresh) (writeText (dir.child name).text text)
      (writeText (dir.child name).text text) fun _ _ _ => True := by
  rw [writeText]
  refine (still_checkText _).related.bind fun _ => related_get fun t t' h => ?_
  rw [Tree.write, Tree.write, h.target_eq hdir hname]
  cases hq : t'.tree.target (dir.child name).text with
  | error e => exact related_throw_bind
  | ok q =>
    have hfull := (h.alike.similar_all q).device_iff .full
    simp only [bind, Except.bind, hfull]
    split
    · exact related_throw_bind
    · exact fun _ _ _ => ⟨rfl, fun _ _ => trivial⟩

theorem related_writeVerdict (hdir : IsLogDir here dir place) (hname : name ∈ logNames)
    (verdict : Report.Verdict Wide) (facts : List (String × String)) :
    Related (Matched env here place IsFresh) (writeVerdict (dir.child name).text verdict facts)
      (writeVerdict (dir.child name).text verdict facts) fun _ _ _ => True := by
  unfold writeVerdict
  split
  · exact (related_writeText hdir hname _).bind fun _ => related_pure fun _ _ h => h
  · exact (related_writeText hdir hname _).bind fun _ => related_throw

end Tests

end Cosim.Proofs.Run.TwinRuns
