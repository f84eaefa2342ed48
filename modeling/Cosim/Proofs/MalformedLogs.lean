import Cosim.Cli.CampaignCommand
import Cosim.Cli.CompareCommand
import Cosim.Proofs.Json.Documents
import Cosim.Proofs.JoinedLogs
import Cosim.Proofs.LogEntries
import Cosim.Proofs.Session
import Cosim.Proofs.Text.Utf8

namespace Cosim.Proofs.MalformedLogs

open Cosim.Cli Cosim.Files Cosim.Json Cosim.Numeral Cosim.Run Cosim.Run.Session Cosim.Text
  Cosim.Trace
open Cosim.Proofs.JoinedLogs Cosim.Proofs.Json.Documents Cosim.Proofs.Json.Grammar
  Cosim.Proofs.Json.Numbers Cosim.Proofs.LogEntries Cosim.Proofs.Session Cosim.Proofs.Text.Utf8
  Cosim.Proofs.Text.Words Cosim.Proofs.CommitLine.Grammar

/-- One of two logs is refused; the event log is read behind the commit log. -/
inductive Refuses (t : Tree) (commitLog eventLog : String) (f : Log.Fault) : Prop
  | commits {octets : List UInt8} (hp : '\x00' ∉ commitLog.toList)
      (hread : t.read commitLog = .ok octets) (h : LogFile.commits octets = .error f)
  | events {octets octets' : List UInt8} {commits : List Commit}
      (hp : '\x00' ∉ commitLog.toList) (hread : t.read commitLog = .ok octets)
      (h : LogFile.commits octets = .ok commits) (hp' : '\x00' ∉ eventLog.toList)
      (hread' : t.read eventLog = .ok octets') (h' : LogFile.events octets' = .error f)

/-- A command ends with status 1 and tells of the fault in one line. -/
def Tells (r : Except Fault Nat × Session) (f : Log.Fault) : Prop :=
  r.1 = .ok 1 ∧ ∃ told, r.2.errors = told ++ ("Error: " ++ f.message ++ "\n")

section Commands

variable {s s' : Session} {commitLog eventLog : String} {f : Log.Fault} {number : Int}
  {line : List Char} {cause : Log.Cause} {arguments : List String} {found : Options.Found}

theorem run_refused {α : Type} (h : Refuses s.tree commitLog eventLog f) (name name' : String)
    (k : List Commit → List Event → Action α) :
    ∃ s', (do
      let commits ← commitsFrom name (readOctets commitLog)
      let events ← eventsFrom name' (readOctets eventLog)
      k commits events).run s = (.error (.badLog f), s') := by
  cases h with
  | commits hp hread hf =>
    obtain ⟨records, hrun⟩ := run_commitsFrom name hp hread
    rw [hf] at hrun
    exact ⟨_, run_bind_error hrun _⟩
  | events hp hread hcommits hp' hread' hf =>
    obtain ⟨records, hrun⟩ := run_commitsFrom name hp hread
    obtain ⟨records', hrun'⟩ :=
      run_eventsFrom (s := { s with records := records }) name' hp' hread'
    rw [hcommits] at hrun
    rw [hf] at hrun'
    rw [run_bind_ok hrun]
    exact ⟨_, run_bind_error hrun' _⟩

theorem run_reporting (action : Action Nat) {f : Fault} (h : action.run s = (.error f, s')) :
    (reporting action).run s = if f.isReported then
      (.ok 1, { s' with errors := s'.errors ++ ("Error: " ++ f.message ++ "\n") })
    else (.error f, s') := by
  unfold reporting
  simp only [tryCatch, tryCatchThe, MonadExceptOf.tryCatch, ExceptT.tryCatch, ExceptT.run_mk]
  show (action.run >>= _) s = _
  simp only [bind, StateT.bind, h]
  cases f.isReported <;> rfl

theorem run_reporting_ok (action : Action Nat) {status : Nat}
    (h : action.run s = (.ok status, s')) : (reporting action).run s = (.ok status, s') := by
  unfold reporting
  simp only [tryCatch, tryCatchThe, MonadExceptOf.tryCatch, ExceptT.tryCatch, ExceptT.run_mk]
  show (action.run >>= _) s = _
  simp only [bind, StateT.bind, h]
  rfl

theorem run_reporting_congr {action action' : Action Nat} {s₁ : Session}
    (h : action.run s = action'.run s₁) :
    (reporting action).run s = (reporting action').run s₁ := by
  rcases hrun : action'.run s₁ with ⟨f | status, s'⟩
  · rw [run_reporting _ (h.trans hrun), run_reporting _ hrun]
  · rw [run_reporting_ok _ (h.trans hrun), run_reporting_ok _ hrun]

theorem tells_reporting {action : Action Nat}
    (h : action.run s = (.error (.badLog (.badLine number line cause)), s')) :
    Tells ((reporting action).run s) (.badLine number line cause) := by
  rw [run_reporting action h]
  exact ⟨rfl, s'.errors, rfl⟩

theorem run_setThreshold (level : Level) (s : Session) :
    (setThreshold level).run s = (.ok (), { s with threshold := level }) := rfl

/-- What the comparison of two saved logs is asked for: two paths, and both numbers of an end
pattern or neither. -/
structure Asks (settings : CompareCommand.Settings) (commitLog eventLog : String) : Prop where
  commits : settings.commitLog = .text commitLog
  events : settings.eventLog = .text eventLog
  pattern : settings.endAddress.isSome = settings.endData.isSome

theorem run_compare_refused {settings : CompareCommand.Settings}
    (hasks : Asks settings commitLog eventLog) (h : Refuses s.tree commitLog eventLog f) :
    ∃ s', (CompareCommand.carryOut settings).run s = (.error (.badLog f), s') := by
  have hreport : ∀ s₁ : Session, s₁.tree = s.tree → ∀ pattern, ∃ s',
      (CompareCommand.compareAndReport settings pattern).run s₁ = (.error (.badLog f), s') := by
    intro s₁ htree pattern
    rw [CompareCommand.compareAndReport, hasks.commits, hasks.events]
    exact run_refused (htree ▸ h) _ _ _
  have hpattern := hasks.pattern
  rw [CompareCommand.carryOut, run_bind_ok (run_setThreshold _ s)]
  cases haddress : settings.endAddress with
  | none =>
    cases hdata : settings.endData with
    | none => exact hreport _ (by rfl) _
    | some data =>
      rw [haddress, hdata] at hpattern
      cases hpattern
  | some address =>
    cases hdata : settings.endData with
    | none =>
      rw [haddress, hdata] at hpattern
      cases hpattern
    | some data => exact hreport _ (by rfl) _

theorem tells_compare (hread : Options.read CompareCommand.form.options arguments = .ok found)
    (hasks : Asks (.ofFound found) commitLog eventLog)
    (h : Refuses s.tree commitLog eventLog (.badLine number line cause)) :
    Tells ((CompareCommand.run arguments).run s) (.badLine number line cause) := by
  obtain ⟨s', hs'⟩ := run_compare_refused hasks h
  rw [CompareCommand.run, hread]
  exact tells_reporting hs'

theorem tells_campaign {machine : Machine}
    (hread : Options.read CampaignCommand.form.options arguments = .ok found)
    (h : outcome (CampaignCommand.carryOut machine (.ofFound found)) s =
      .error (.badLog (.badLine number line cause))) :
    Tells ((CampaignCommand.run machine arguments).run s) (.badLine number line cause) := by
  rw [CampaignCommand.run, hread]
  exact tells_reporting (Prod.ext h rfl)

end Commands

section LongNumbers

variable {n : Nat}

def nines (n : Nat) : List Char := List.replicate n '9'

theorem exists_nines (h : 0 < n) : ∃ tail, nines n = '9' :: tail := by
  obtain ⟨m, rfl⟩ := Nat.exists_eq_add_one.mpr h
  exact ⟨nines m, rfl⟩

theorem isDecimal_nines (h : 0 < n) : isDecimal (nines n) = true := by
  have hall : ∀ c ∈ nines n, isDecimalDigit c = true := by
    intro c hc
    rw [List.eq_of_mem_replicate hc]
    decide
  obtain ⟨tail, htail⟩ := exists_nines h
  rw [isDecimal, List.all_eq_true.mpr hall, htail]
  rfl

theorem head?_nines (h : 0 < n) : ∀ c ∈ (nines n).head?, c = '9' := by
  obtain ⟨tail, htail⟩ := exists_nines h
  rw [htail]
  rintro c ⟨⟩
  rfl

theorem scalar_nines (h : Integer.digitLimit < n) :
    Reader.scalar (nines n) = .error (.tooLong n) := by
  have hnumber : IsNumber (nines n) ⟨false, nines n, [], none⟩ := by
    refine ⟨⟨isDecimal_nines (by omega), fun hzero => ?_⟩, rfl, [], .none,
      by simp [minusText, fractionText]⟩
    exact absurd (head?_nines (by omega) '0' hzero) (by decide)
  have hscan : NumberText.scan? isDecimalDigit (nines n) =
      some (⟨false, nines n, [], none⟩, []) := by
    have hend : IsEnd [] := by
      rintro c ⟨⟩
    have hread := scan?_number hnumber hend
    rwa [List.append_nil] at hread
  have hname := named?_number hnumber []
  rw [List.append_nil] at hname
  have hlength : (nines n).length = n := List.length_replicate
  rw [Reader.scalar, hname]
  dsimp only
  rw [Reader.number, hscan]
  dsimp only
  rw [if_pos (by rfl), NumberText.toInt, if_pos (hlength.symm ▸ h)]
  dsimp only
  rw [hlength]

theorem read_nines (h : Integer.digitLimit < n) : Reader.read (nines n) = .error (.tooLong n) := by
  have hstart := head?_nines (n := n) (by omega)
  have hskip : Reader.skip (nines n) = nines n :=
    skip_space isSpace_nil fun c hc => hstart c hc ▸ (by decide)
  have hdocument : Reader.document (nines n) = .error (.tooLong n) := by
    rw [Reader.document, hskip, value_scalar fun c hc => hstart c hc ▸ (by decide), scalar_nines h]
    rfl
  rw [Reader.read, hdocument]
  · rfl
  · exact fun rest he => absurd (hstart '\uFEFF' (by rw [he]; rfl)) (by decide)

def longCore (n : Nat) : List Char :=
  "core".toList ++ spaced [nines n ++ [':'], "3".toList, "0x80".toList, "(0x13)".toList]

theorem isSolid_nines (h : 0 < n) : IsSolid (nines n) := by
  obtain ⟨tail, htail⟩ := exists_nines h
  refine ⟨htail ▸ List.cons_ne_nil _ _, fun c hc => ?_⟩
  rw [List.eq_of_mem_replicate hc]
  decide

theorem words_longCore (h : 0 < n) : Blank.words (longCore n) =
    ["core".toList, nines n ++ [':'], "3".toList, "0x80".toList, "(0x13)".toList] := by
  have hwords : ∀ w ∈ [nines n ++ [':'], "3".toList, "0x80".toList, "(0x13)".toList],
      IsSolid w := by
    simp only [List.forall_mem_cons]
    exact ⟨(isSolid_nines h).append (by decide), by decide, by decide, by decide, nofun⟩
  rw [longCore, words_append (by decide), words_spaced hwords]
  rintro b ⟨⟩
  decide

theorem read_longCore (h : Integer.digitLimit < n) :
    CommitLine.read (longCore n) = .error (.tooLong n) := by
  have hpos : 0 < n := by omega
  have hcore : CommitLine.core (nines n ++ [':']) = .error (.tooLong n) := by
    have hlength : (nines n).length = n := List.length_replicate
    rw [CommitLine.core, if_pos List.getLast?_concat, List.dropLast_concat, CommitLine.number,
      if_pos (by rfl), isDecimal_nines hpos, if_neg (by decide), if_pos (hlength.symm ▸ h), hlength]
  rw [CommitLine.read, words_longCore hpos, CommitLine.ofTokens,
    List.dropWhile_cons_of_pos (by decide),
    List.dropWhile_cons_of_neg (by simpa using concat_ne_core (nines n)), part_bind, hcore]
  rfl

theorem return_not_mem_longCore (n : Nat) : '\r' ∉ longCore n := by
  simp [longCore, spaced, nines]

theorem commits_longCore (h : Integer.digitLimit < n) :
    Log.commits (longCore n) = .error (.tooLong n) := by
  have hnewline : '\n' ∉ longCore n := by simp [longCore, spaced, nines]
  rw [Log.commits, readText_line hnewline rfl, chomp_eq_self (return_not_mem_longCore n),
    Log.commitLine, read_longCore h]
  rfl

theorem events_nines (h : Integer.digitLimit < n) :
    Log.events (nines n) = .error (.tooLong n) := by
  obtain ⟨tail, htail⟩ := exists_nines (n := n) (by omega)
  have hnewline : '\n' ∉ nines n := by simp [nines]
  have hreturn : '\r' ∉ nines n := by simp [nines]
  have hsolid : (nines n).all Blank.isBlank = false := by
    rw [htail]
    rfl
  rw [Log.events, readText_line hnewline hsolid, chomp_eq_self hreturn, Log.eventLine,
    EventLine.read, read_nines h]
  rfl

end LongNumbers

/-- Every text is read as a log or refused for the first of its lines that cannot be read, and both
commands tell of such a line and end with status 1. -/
theorem malformed_logs_told (text : List Char) (machine : Machine) (arguments : List String)
    (s : Session) :
    (commitFormat.Reads (entries 1 ((Lines.lines text).map Lines.chomp)) (Log.commits text) ∧
      eventFormat.Reads (entries 1 ((Lines.lines text).map Lines.chomp)) (Log.events text)) ∧
    (∀ {found commitLog eventLog number line cause},
      Options.read CompareCommand.form.options arguments = .ok found →
      Asks (.ofFound found) commitLog eventLog →
      Refuses s.tree commitLog eventLog (.badLine number line cause) →
      Tells ((CompareCommand.run arguments).run s) (.badLine number line cause)) ∧
    ∀ {found number line cause},
      Options.read CampaignCommand.form.options arguments = .ok found →
      outcome (CampaignCommand.carryOut machine (.ofFound found)) s =
        .error (.badLog (.badLine number line cause)) →
      Tells ((CampaignCommand.run machine arguments).run s) (.badLine number line cause) :=
  ⟨⟨reads_commits text, reads_events text⟩, tells_compare, tells_campaign⟩

def comparison : List String := ["--spike-log", "trace.log", "--boat-log", "trace.log"]

theorem reads_comparison : Options.read CompareCommand.form.options comparison =
    .ok [("spike-log", .text "trace.log"), ("boat-log", .text "trace.log")] := by
  with_unfolding_all rfl

theorem asks_comparison : Asks (.ofFound [("spike-log", .text "trace.log"),
    ("boat-log", .text "trace.log")]) "trace.log" "trace.log" := by
  constructor <;> with_unfolding_all rfl

theorem commits_stray : LogFile.commits (Utf8.encode ['x', '\n']) =
    .error (.badLine 1 ['x'] (.commit (.noColon ['x']))) := by
  with_unfolding_all rfl

/-- A simulator that says a word of no meaning, and writes an empty event log. -/
def talker : Machine := fun _ _ =>
  .ok ⟨[.say .errors ⟨#[0x78]⟩,
    .put ["difftest_out", "a.elf", "boat_trace_event.jsonl"] (.file .empty false)], 0⟩

def talkers : Session := .start ⟨[
  (["a.elf"], .file .empty false), (["spike"], .file .empty true), (["boat"], .file .empty true),
  (["sail_difftest_config.json"],
    .file ⟨(Utf8.encode "\x7belf_path_glob: *.elf\n\x7d".toList).toArray⟩ false)], []⟩
  [("PATH", ".")]

def toldLine? : Except Fault Nat → Option (Int × List Char)
  | .error (.badLog (.badLine number line _)) => some (number, line)
  | _ => none

theorem exists_cause {r : Except Fault Nat} {number : Int} {line : List Char}
    (h : toldLine? r = some (number, line)) :
    ∃ cause, r = .error (.badLog (.badLine number line cause)) := by
  unfold toldLine? at h
  split at h
  · cases h
    exact ⟨_, rfl⟩
  · cases h

/-- Both commands tell of a line that is in no log. -/
theorem stray_told :
    Tells ((CompareCommand.run comparison).run (sessionWith "trace.log" (Utf8.encode ['x', '\n'])))
      (.badLine 1 ['x'] (.commit (.noColon ['x']))) ∧
    ∃ cause, Tells ((CampaignCommand.run talker []).run talkers) (.badLine 1 ['x'] cause) := by
  have hrefuses :
      Refuses (sessionWith "trace.log" (Utf8.encode ['x', '\n'])).tree "trace.log" "trace.log"
      (.badLine 1 ['x'] (.commit (.noColon ['x']))) :=
    .commits (by decide) (read_traceLog _) commits_stray
  have hline : toldLine? (outcome (CampaignCommand.carryOut talker (.ofFound [])) talkers) =
      some (1, ['x']) := by
    decide +kernel
  have hplain : Options.read CampaignCommand.form.options [] = .ok [] := by
    with_unfolding_all rfl
  obtain ⟨cause, hcause⟩ := exists_cause hline
  exact ⟨(malformed_logs_told ['x', '\n'] talker comparison _).2.1 reads_comparison
      asks_comparison hrefuses,
    cause, (malformed_logs_told ['x', '\n'] talker [] talkers).2.2 hplain hcause⟩

/-- A number with more digits than are converted is told of by no line, and breaks the command
off. -/
theorem long_numbers_untold :
    Log.commits (longCore 4301) = .error (.tooLong 4301) ∧
      Log.events (nines 4301) = .error (.tooLong 4301) ∧
      outcome (CompareCommand.run comparison)
        (sessionWith "trace.log" (Utf8.encode (longCore 4301))) =
        .error (.badLog (.tooLong 4301)) := by
  have hlong : Integer.digitLimit < 4301 := by decide
  have hcommits : LogFile.commits (Utf8.encode (longCore 4301)) = .error (.tooLong 4301) := by
    rw [LogFile.commits, LogFile.text, decodeLossy_encode,
      Lines.unify_of_no_return (return_not_mem_longCore 4301), commits_longCore hlong]
  refine ⟨commits_longCore hlong, events_nines hlong, ?_⟩
  have hrefuses :
      Refuses (sessionWith "trace.log" (Utf8.encode (longCore 4301))).tree "trace.log" "trace.log"
      (.tooLong 4301) :=
    .commits (by decide) (read_traceLog _) hcommits
  obtain ⟨s', hs'⟩ := run_compare_refused asks_comparison hrefuses
  rw [outcome, CompareCommand.run, reads_comparison]
  dsimp only
  rw [run_reporting _ hs']
  rfl

end Cosim.Proofs.MalformedLogs
