import Cosim.Run.Logs

namespace Cosim.Proofs.Session

open Cosim.Run Cosim.Run.Session Cosim.Trace

variable {α β : Type} {s s' : Session} {path : String} {octets : List UInt8}

/-- What an action gives in a session. -/
def outcome (a : Action α) (s : Session) : Except Fault α := (a.run s).1

theorem run_bind (a : Action α) (f : α → Action β) (s : Session) :
    (a >>= f).run s = match a.run s with
      | (.ok x, s') => (f x).run s'
      | (.error e, s') => (.error e, s') := by
  rw [ExceptT.run_bind]
  show (a.run >>= fun r => _) s = _
  simp only [bind, StateT.bind]
  cases a.run s with
  | mk r s' => cases r <;> rfl

theorem run_bind_ok {a : Action α} {x : α} (h : a.run s = (.ok x, s')) (f : α → Action β) :
    (a >>= f).run s = (f x).run s' := by
  rw [run_bind, h]

theorem run_bind_error {a : Action α} {e : Fault} (h : a.run s = (.error e, s'))
    (f : α → Action β) : (a >>= f).run s = (.error e, s') := by
  rw [run_bind, h]

theorem run_bind_eq_ok {a : Action α} {f : α → Action β} {y : β} :
    (a >>= f).run s = (.ok y, s') ↔
      ∃ x s₁, a.run s = (.ok x, s₁) ∧ (f x).run s₁ = (.ok y, s') := by
  rw [run_bind]
  rcases a.run s with ⟨e | x, s₁⟩
  · constructor
    · rintro ⟨⟩
    · rintro ⟨x, s₁, ⟨⟩, _⟩
  · constructor
    · exact fun h => ⟨x, s₁, rfl, h⟩
    · rintro ⟨x, s₁, ⟨⟩, h⟩
      exact h

theorem run_bind_eq_error {a : Action α} {f : α → Action β} {e : Fault} :
    (a >>= f).run s = (.error e, s') ↔ a.run s = (.error e, s') ∨
      ∃ x s₁, a.run s = (.ok x, s₁) ∧ (f x).run s₁ = (.error e, s') := by
  rw [run_bind]
  rcases a.run s with ⟨d | x, s₁⟩
  · constructor
    · exact fun h => .inl (by cases h; rfl)
    · rintro (h | ⟨x, s₁, ⟨⟩, _⟩)
      cases h
      rfl
  · constructor
    · exact fun h => .inr ⟨x, s₁, rfl, h⟩
    · rintro (h | ⟨x, s₁, ⟨⟩, h⟩)
      · cases h
      · exact h

theorem run_note (level : Level) (text : String) (s : Session) :
    ∃ records, (note level text).run s = (.ok (), { s with records := records }) := by
  by_cases h : s.threshold.rank ≤ level.rank
  · exact ⟨s.records ++ [⟨level, text⟩], congrArg (Prod.mk _) (if_pos h)⟩
  · exact ⟨s.records, congrArg (Prod.mk _) (if_neg h)⟩

theorem run_readOctets (hp : '\x00' ∉ path.toList) (h : s.tree.read path = .ok octets) :
    (readOctets path).run s = (.ok octets, s) := by
  have hc : checkText path = pure () := if_neg (by simpa using hp)
  have hs : (settle (.files · path) (s.tree.read path) : Action _).run s = (.ok octets, s) := by
    rw [h]
    rfl
  rw [readOctets, hc]
  exact hs

/-- Read a log of a file, with a note before it is read and one after. -/
def readLog (parse : List UInt8 → Except Log.Fault (List α)) (before : String)
    (after : List α → String) (path : String) : Action (List α) := do
  note .info before
  let xs ← settle .badLog (parse (← readOctets path))
  note .info (after xs)
  return xs

theorem commitsFrom_eq (name path : String) : commitsFrom name (readOctets path) =
    readLog LogFile.commits ("Processing spike log : " ++ name)
      (fun commits => "Processed commit count : " ++ toString commits.length) path := rfl

theorem eventsFrom_eq (name path : String) : eventsFrom name (readOctets path) =
    readLog LogFile.events ("Processing boat log : " ++ name)
      (fun events => "Processed event count : " ++ toString events.length) path := rfl

/-- What is read depends on the file alone, and nothing but notes is left. -/
theorem run_readLog {parse : List UInt8 → Except Log.Fault (List α)} (before : String)
    (after : List α → String) (hp : '\x00' ∉ path.toList) (h : s.tree.read path = .ok octets) :
    ∃ records, (readLog parse before after path).run s =
      ((parse octets).mapError .badLog, { s with records := records }) := by
  obtain ⟨records, hbefore⟩ := run_note .info before s
  rw [readLog, run_bind_ok hbefore,
    run_bind_ok (run_readOctets (s := { s with records := records }) hp h)]
  cases parse octets with
  | error f => exact ⟨records, rfl⟩
  | ok xs =>
    obtain ⟨records', hafter⟩ := run_note .info (after xs) { s with records := records }
    exact ⟨records', run_bind_ok hafter fun _ => return xs⟩

theorem run_commitsFrom (name : String) (hp : '\x00' ∉ path.toList)
    (h : s.tree.read path = .ok octets) :
    ∃ records, (commitsFrom name (readOctets path)).run s =
      ((LogFile.commits octets).mapError .badLog, { s with records := records }) :=
  commitsFrom_eq name path ▸ run_readLog _ _ hp h

theorem run_eventsFrom (name : String) (hp : '\x00' ∉ path.toList)
    (h : s.tree.read path = .ok octets) :
    ∃ records, (eventsFrom name (readOctets path)).run s =
      ((LogFile.events octets).mapError .badLog, { s with records := records }) :=
  eventsFrom_eq name path ▸ run_readLog _ _ hp h

theorem outcome_readCommits (hp : '\x00' ∉ path.toList) (h : s.tree.read path = .ok octets) :
    outcome (readCommits path) s = (LogFile.commits octets).mapError .badLog := by
  obtain ⟨records, hrun⟩ := run_commitsFrom path hp h
  rw [outcome, readCommits, hrun]

theorem outcome_readEvents (hp : '\x00' ∉ path.toList) (h : s.tree.read path = .ok octets) :
    outcome (readEvents path) s = (LogFile.events octets).mapError .badLog := by
  obtain ⟨records, hrun⟩ := run_eventsFrom path hp h
  rw [outcome, readEvents, hrun]

theorem run_forM_note (level : Level) (message : β → String) (xs : List β) (s : Session) :
    ∃ records, (xs.forM fun x => note level (message x)).run s =
      (.ok (), { s with records := records }) := by
  induction xs generalizing s with
  | nil => exact ⟨s.records, rfl⟩
  | cons x xs ih =>
    obtain ⟨records, hfirst⟩ := run_note level (message x) s
    obtain ⟨records', hrest⟩ := ih { s with records := records }
    exact ⟨records', (run_bind_ok hfirst fun _ => xs.forM fun x => note level (message x)).trans
      hrest⟩

theorem run_compareTraces (commits : List Commit) (events : List Event)
    (pattern : Option EndPattern) (s : Session) :
    ∃ records, (compareTraces commits events pattern).run s =
      (((Align.compare commits events pattern).mapError .notComparable).map
        Report.Verdict.ofComparison, { s with records := records }) := by
  rw [compareTraces]
  cases Align.compare commits events pattern with
  | error p => exact ⟨s.records, rfl⟩
  | ok comparison =>
    obtain ⟨records, hnotes⟩ :=
      run_forM_note .debug Align.Note.message comparison.notes s
    exact ⟨records, run_bind_ok hnotes fun _ => return Report.Verdict.ofComparison comparison⟩

theorem run_noteVerdict (verdict : Report.Verdict String) (s : Session) :
    ∃ records, (noteVerdict verdict).run s = (.ok (), { s with records := records }) := by
  cases verdict with
  | pass => exact run_note .info "difftest pass" s
  | fail diagnostic => exact run_note .error ("\n" ++ diagnostic) s

def sessionWith (name : String) (octets : List UInt8) : Session :=
  .start ⟨[([name], .file ⟨octets.toArray⟩ false)], []⟩ []

theorem read_sessionWith {name path : String} (octets : List UInt8)
    (h : (sessionWith name octets).tree.locate path = .ok [name]) :
    (sessionWith name octets).tree.read path = .ok octets := by
  have hnode : (sessionWith name octets).tree.node? [name] =
      some (.file ⟨octets.toArray⟩ false) := List.lookup_cons_self
  rw [Files.Tree.read, Files.Tree.find, h]
  simp only [bind, Except.bind, hnode]

theorem read_traceLog (octets : List UInt8) :
    (sessionWith "trace.log" octets).tree.read "trace.log" = .ok octets :=
  read_sessionWith octets (by with_unfolding_all rfl)

/-- A commit that writes 1 to a register. -/
def commitOctets : List UInt8 := Text.Utf8.encode "core 0: 3 0x80 (0x13) x1 0x1\n".toList

/-- The events of the same instruction, with an action and a value for the register. -/
def eventOctets (action value : String) : List UInt8 := Text.Utf8.encode (
  "\x7b\"fields\":\x7b\"event_type\":\"reset_vector\",\"new_addr\":128\x7d\x7d\n" ++
  "\x7b\"fields\":\x7b\"event_type\":\"arch_state\",\"action\":\"" ++ action ++
  "\",\"pc\":128,\"reg_idx\":1,\"data\":" ++ value ++ "\x7d\x7d\n").toList

end Cosim.Proofs.Session
