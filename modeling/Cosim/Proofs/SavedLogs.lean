import Cosim.Proofs.Files.Writing
import Cosim.Proofs.MalformedLogs
import Cosim.Proofs.Run.Actions

namespace Cosim.Proofs.SavedLogs

open Cosim.Cli Cosim.Files Cosim.Numeral Cosim.Report Cosim.Run Cosim.Run.Session Cosim.Text
  Cosim.Trace
open Cosim.Proofs.Files.Changes Cosim.Proofs.Files.Writing Cosim.Proofs.LogEntries
  Cosim.Proofs.MalformedLogs Cosim.Proofs.Outcome Cosim.Proofs.Run.Actions Cosim.Proofs.Session

/-- The verdict on two logs. The commit log is read first, and its fault is the one that counts. -/
def verdictOf (octets octets' : List UInt8) (pattern : Option EndPattern) :
    Except Fault (Verdict Wide) := do
  let commits ← (LogFile.commits octets).mapError .badLog
  let events ← (LogFile.events octets').mapError .badLog
  ((Align.compare commits events pattern).mapError .notComparable).map .ofComparison

/-- The options that say where a test ends: both numbers of a pattern, or none. -/
inductive EndOptions : Option Setting → Option Setting → Option EndPattern → Prop
  | neither : EndOptions none none none
  | both {address data : String} {a d : Nat} (ha : HexWord.read? address.toList = some a)
      (hd : HexWord.read? data.toList = some d) :
      EndOptions (some (.text address)) (some (.text data)) (some ⟨a, d⟩)

/-- What the comparison of two saved logs is asked for, with a file for its result. -/
structure Asked (settings : CompareCommand.Settings) (commitLog eventLog output : String)
    (pattern : Option EndPattern) : Prop where
  commits : settings.commitLog = .text commitLog
  events : settings.eventLog = .text eventLog
  output : settings.output = some (.text output)
  ends : EndOptions settings.endAddress settings.endData pattern

structure Readable (t : Tree) (path : String) (octets : List UInt8) : Prop where
  no_zero : '\x00' ∉ path.toList
  read_eq : t.read path = .ok octets

def Short {F α : Type} (format : Format F α) (octets : List UInt8) : Prop :=
  ∀ e ∈ entries 1 ((Lines.lines (LogFile.text octets)).map Lines.chomp), ∀ n,
    format.HasNumber n e.1 → n ≤ Integer.digitLimit

section Verdicts

variable {octets octets' : List UInt8} {pattern : Option EndPattern} {f : Fault}

theorem badLine_of_reads {F α : Type} {format : Format F α} {result : Except Log.Fault (List α)}
    {g : Log.Fault} (hshort : Short format octets)
    (hreads : format.Reads (entries 1 ((Lines.lines (LogFile.text octets)).map Lines.chomp)) result)
    (h : result = .error g) : ∃ number line cause, g = .badLine number line cause := by
  obtain ⟨before, e, after, hentries, -, hreports⟩ := hreads.error g h
  have hmem : e ∈ entries 1 ((Lines.lines (LogFile.text octets)).map Lines.chomp) := by
    rw [hentries]
    exact List.mem_append_right before List.mem_cons_self
  rcases hreports with ⟨cause, -, hg⟩ | ⟨digits, -, -, hlong, hnumber⟩
  · exact ⟨_, _, _, hg⟩
  · exact absurd (hshort e hmem digits hnumber) (Nat.not_le.mpr hlong)

theorem verdictOf_bad_commits {g : Log.Fault} (h : LogFile.commits octets = .error g)
    (octets' : List UInt8) (pattern : Option EndPattern) :
    verdictOf octets octets' pattern = .error (.badLog g) := by
  rw [verdictOf, h]
  rfl

theorem isReported_of_verdictOf (hcommits : Short commitFormat octets)
    (hevents : Short eventFormat octets') (h : verdictOf octets octets' pattern = .error f) :
    f.isReported = true := by
  simp only [verdictOf, bind_eq_error, map_eq_error, mapError_eq_error] at h
  obtain ⟨g, hg, rfl⟩ | ⟨commits, -, ⟨g, hg, rfl⟩ | ⟨events, -, p, -, rfl⟩⟩ := h
  · obtain ⟨number, line, cause, rfl⟩ := badLine_of_reads hcommits (reads_commits _) hg
    rfl
  · obtain ⟨number, line, cause, rfl⟩ := badLine_of_reads hevents (reads_events _) hg
    rfl
  · rfl

end Verdicts

def facts (commitLog eventLog : String) : List (String × String) :=
  [("spike log", commitLog), ("boat log", eventLog)]

/-- A text takes the place of what was in the file that a path leads to, and nothing else changes.
-/
def Overwrites (t : Tree) (path text : String) (t' : Tree) : Prop :=
  ∃ place, t.target path = .ok place ∧
    t' = t.fill place ⟨(Utf8.encode text.toList).toArray⟩ ∧
    ((t.node? place).any Node.isDevice = false →
      t'.read path = .ok (Utf8.encode text.toList))

/-- How the command ends. A verdict is the status and is in the file, whatever was there before; one
that cannot be told breaks the command off, with the file cut off. Without a verdict the files are
left as they are. -/
def Ends (s : Session) (output : String) (facts : List (String × String))
    (r : Except Fault Nat × Session) : Except Fault (Verdict Wide) → Prop
  | .ok verdict =>
    match verdict.spelled with
    | .ok told =>
      r.1 = .ok (if verdict.isPass then 0 else 1) ∧
        Overwrites s.tree output (resultText told facts) r.2.tree
    | .error half =>
      r.1 = .error (.unencodable half) ∧ Overwrites s.tree output failOpening r.2.tree
  | .error f =>
    r.1 = .ok 1 ∧ r.2.tree = s.tree ∧ r.2.errors = s.errors ++ ("Error: " ++ f.message ++ "\n")

section Commands

variable {s : Session} {commitLog eventLog output : String} {octets octets' : List UInt8}
  {pattern : Option EndPattern} {settings : CompareCommand.Settings} {verdict : Verdict Wide}

def judgeLogs (commitLog eventLog : String) (pattern : Option EndPattern) :
    Action (Verdict Wide) := do
  let commits ← commitsFrom commitLog (readOctets commitLog)
  let events ← eventsFrom eventLog (readOctets eventLog)
  compareTraces commits events pattern

def tell (output : String) (facts : List (String × String)) (verdict : Verdict Wide) :
    Action Nat := do
  noteVerdict (verdict.map Wide.shown)
  let _ ← writeVerdict output verdict facts
  return if verdict.isPass then 0 else 1

theorem compareAndReport_eq (hasked : Asked settings commitLog eventLog output pattern) :
    CompareCommand.compareAndReport settings (.ok pattern) =
      judgeLogs commitLog eventLog pattern >>= tell output (facts commitLog eventLog) := by
  rw [CompareCommand.compareAndReport, hasked.commits, hasked.events, hasked.output]
  simp only [judgeLogs, Option.forM, bind_assoc, pure_bind]
  rfl

theorem run_judgeLogs (hcommits : Readable s.tree commitLog octets)
    (hevents : Readable s.tree eventLog octets') (pattern : Option EndPattern) :
    ∃ records, (judgeLogs commitLog eventLog pattern).run s =
      (verdictOf octets octets' pattern, { s with records := records }) := by
  obtain ⟨records, hrun⟩ := run_commitsFrom commitLog hcommits.no_zero hcommits.read_eq
  obtain ⟨records', hrun'⟩ := run_eventsFrom (s := { s with records := records }) eventLog
    hevents.no_zero hevents.read_eq
  rw [judgeLogs, verdictOf]
  cases hcommitsRead : LogFile.commits octets with
  | error f =>
    rw [hcommitsRead] at hrun
    exact ⟨records, run_bind_error hrun _⟩
  | ok commits =>
    rw [hcommitsRead] at hrun
    rw [run_bind_ok hrun]
    cases heventsRead : LogFile.events octets' with
    | error f =>
      rw [heventsRead] at hrun'
      exact ⟨records', run_bind_error hrun' _⟩
    | ok events =>
      rw [heventsRead] at hrun'
      rw [run_bind_ok hrun']
      exact run_compareTraces commits events pattern { s with records := records' }

theorem exists_run_carryOut (hasked : Asked settings commitLog eventLog output pattern)
    (hcommits : Readable s.tree commitLog octets) (hevents : Readable s.tree eventLog octets') :
    ∃ s₁, s₁.tree = s.tree ∧ s₁.errors = s.errors ∧ (CompareCommand.carryOut settings).run s =
      match verdictOf octets octets' pattern with
      | .ok verdict => (tell output (facts commitLog eventLog) verdict).run s₁
      | .error f => (.error f, s₁) := by
  have hcarry : (CompareCommand.carryOut settings).run s =
      (CompareCommand.compareAndReport settings (.ok pattern)).run
        { s with threshold := levelFor settings.verbose } := by
    rw [CompareCommand.carryOut, run_bind_ok (run_setThreshold _ s)]
    have hends := hasked.ends
    generalize settings.endAddress = address, settings.endData = data at hends
    cases hends with
    | neither => rfl
    | both ha hd =>
      simp only [CompareCommand.asWord, ha, hd]
      rfl
  obtain ⟨records, hjudge⟩ :=
    run_judgeLogs (s := { s with threshold := levelFor settings.verbose }) hcommits hevents pattern
  rw [hcarry, compareAndReport_eq hasked, run_bind, hjudge]
  refine ⟨{ s with threshold := levelFor settings.verbose, records := records }, rfl, rfl, ?_⟩
  cases verdictOf octets octets' pattern <;> rfl

theorem exists_overwrites (h : Writable s.tree output) (text : String) :
    ∃ s', (writeText output text).run s = (.ok (), s') ∧ Overwrites s.tree output text s'.tree := by
  obtain ⟨t, hwrite⟩ := h.exists_write (Utf8.encode text.toList)
  have hrun := run_writeText h.no_zero hwrite
  obtain ⟨place, htarget, -, rfl⟩ := write_eq_ok.mp hwrite
  exact ⟨_, hrun, place, htarget, rfl, read_fill htarget⟩

theorem ends_tell (hwritable : Writable s.tree output) (facts : List (String × String))
    (verdict : Verdict Wide) :
    Ends s output facts ((reporting (tell output facts verdict)).run s) (.ok verdict) := by
  obtain ⟨records, hnote⟩ := run_noteVerdict (verdict.map Wide.shown) s
  have hwritable : Writable { s with records := records }.tree output := hwritable
  rw [Ends]
  split
  · next told hspelled =>
    obtain ⟨s', hwrite, hout⟩ := exists_overwrites hwritable (resultText told facts)
    have htell : (tell output facts verdict).run s =
        (.ok (if verdict.isPass then 0 else 1), s') := by
      rw [tell, run_bind_ok hnote, writeVerdict, hspelled]
      exact run_bind_ok (run_bind_ok hwrite _) _
    rw [run_reporting_ok _ htell]
    exact ⟨rfl, hout⟩
  · next half hspelled =>
    obtain ⟨s', hwrite, hout⟩ := exists_overwrites hwritable failOpening
    have htell : (tell output facts verdict).run s = (.error (.unencodable half), s') := by
      rw [tell, run_bind_ok hnote, writeVerdict, hspelled]
      exact run_bind_error (run_bind_ok hwrite _) _
    rw [run_reporting _ htell]
    exact ⟨rfl, hout⟩

theorem ends_run {arguments : List String} {found : Options.Found}
    (hread : Options.read CompareCommand.form.options arguments = .ok found)
    (hasked : Asked (.ofFound found) commitLog eventLog output pattern)
    (hcommits : Readable s.tree commitLog octets) (hevents : Readable s.tree eventLog octets')
    (hwritable : Writable s.tree output) (hshort : Short commitFormat octets)
    (hshort' : Short eventFormat octets') :
    Ends s output (facts commitLog eventLog) ((CompareCommand.run arguments).run s)
      (verdictOf octets octets' pattern) := by
  obtain ⟨s₁, htree, herrors, hcarry⟩ := exists_run_carryOut hasked hcommits hevents
  rw [CompareCommand.run, hread]
  dsimp only
  cases hverdict : verdictOf octets octets' pattern with
  | error f =>
    rw [hverdict] at hcarry
    rw [run_reporting _ hcarry, if_pos (isReported_of_verdictOf hshort hshort' hverdict)]
    exact ⟨rfl, htree, congrArg (· ++ _) herrors⟩
  | ok verdict =>
    rw [hverdict] at hcarry
    have hends := ends_tell (s := s₁) (htree.symm ▸ hwritable) (facts commitLog eventLog) verdict
    rw [run_reporting_congr hcarry]
    rwa [Ends, htree] at hends

def misuseText (form : Form) (m : Misuse) (environment : List (String × String)) : String :=
  form.usage (textWidth (screenColumns (environment.lookup "COLUMNS"))) ++ form.program ++
    ": error: " ++ m.message ++ "\n"

theorem run_stop (form : Form) (m : Misuse) (s : Session) : (stop form (.misuse m)).run s =
    (.ok 2, { s with errors := s.errors ++ misuseText form m s.environment }) := rfl

theorem run_half {arguments : List String} {found : Options.Found}
    (hread : Options.read CompareCommand.form.options arguments = .ok found)
    (hhalf : (CompareCommand.Settings.ofFound found).endAddress.isSome ≠
      (CompareCommand.Settings.ofFound found).endData.isSome) (s : Session) :
    ∃ s' : Session, ∀ t, (CompareCommand.run arguments).run { s with tree := t } =
      (.ok 2, { s' with tree := t }) := by
  have hstop : CompareCommand.carryOut (.ofFound found) =
      (setThreshold (levelFor (CompareCommand.Settings.ofFound found).verbose) >>= fun _ =>
        stop CompareCommand.form (.misuse .halfEndPattern)) := by
    rw [CompareCommand.carryOut]
    generalize (CompareCommand.Settings.ofFound found).endAddress = address,
      (CompareCommand.Settings.ofFound found).endData = data at hhalf
    cases address with
    | none =>
      cases data with
      | none => exact absurd rfl hhalf
      | some data => rfl
    | some address =>
      cases data with
      | none => rfl
      | some data => exact absurd rfl hhalf
  rw [CompareCommand.run, hread]
  dsimp only
  rw [hstop]
  refine ⟨{ s with
    threshold := levelFor (CompareCommand.Settings.ofFound found).verbose
    errors := s.errors ++ misuseText CompareCommand.form .halfEndPattern s.environment },
    fun t => run_reporting_ok _ ?_⟩
  rw [run_bind_ok (run_setThreshold _ _)]
  exact run_stop CompareCommand.form .halfEndPattern _

end Commands

/-- The status, the file of the result and what is told agree: with a verdict the status is zero
exactly for a pass and the file holds the verdict, without one the status is 1 and no file changes.
A commit log that is refused decides that alone. With half of an end pattern the status is 2, and no
file is looked at. -/
theorem status_file_agree {arguments : List String} {found : Options.Found}
    (hread : Options.read CompareCommand.form.options arguments = .ok found) (s : Session) :
    (∀ {commitLog eventLog output octets octets' pattern},
      Asked (.ofFound found) commitLog eventLog output pattern →
      Readable s.tree commitLog octets → Readable s.tree eventLog octets' →
      Writable s.tree output → Short commitFormat octets → Short eventFormat octets' →
      Ends s output (facts commitLog eventLog) ((CompareCommand.run arguments).run s)
        (verdictOf octets octets' pattern)) ∧
    (∀ {octets g}, LogFile.commits octets = .error g →
      ∀ octets' pattern, verdictOf octets octets' pattern = .error (.badLog g)) ∧
    ((CompareCommand.Settings.ofFound found).endAddress.isSome ≠
        (CompareCommand.Settings.ofFound found).endData.isSome →
      ∃ s' : Session, ∀ t, (CompareCommand.run arguments).run { s with tree := t } =
        (.ok 2, { s' with tree := t })) :=
  ⟨ends_run hread, verdictOf_bad_commits, fun hhalf => run_half hread hhalf s⟩

def savedWith (octets octets' : List UInt8) : Session := .start ⟨[
  (["spike.log"], .file ⟨octets.toArray⟩ false), (["boat.log"], .file ⟨octets'.toArray⟩ false),
  (["result.txt"], .file ⟨#[0x78]⟩ false)], []⟩ []

section Saved

variable (octets octets' : List UInt8)

theorem readable_commits : Readable (savedWith octets octets').tree "spike.log" octets :=
  ⟨by decide, by with_unfolding_all rfl⟩

theorem readable_events : Readable (savedWith octets octets').tree "boat.log" octets' :=
  ⟨by decide, by with_unfolding_all rfl⟩

theorem writable_result : Writable (savedWith octets octets').tree "result.txt" := by
  have htarget : (savedWith octets octets').tree.target "result.txt" = .ok ["result.txt"] := by
    with_unfolding_all rfl
  refine ⟨by decide, fun content => ⟨_, write_eq_ok.mpr ⟨_, htarget, fun hfull => ?_, rfl⟩⟩⟩
  have hnode : (savedWith octets octets').tree.node? ["result.txt"] =
      some (.file ⟨#[0x78]⟩ false) := by
    with_unfolding_all rfl
  rw [hnode] at hfull
  cases hfull

end Saved

def request : List String :=
  ["--spike-log", "spike.log", "--boat-log", "boat.log", "--output", "result.txt"]

def requestFound : Options.Found :=
  [("spike-log", .text "spike.log"), ("boat-log", .text "boat.log"), ("output", .text "result.txt")]

theorem reads_request : Options.read CompareCommand.form.options request = .ok requestFound := by
  with_unfolding_all rfl

theorem reads_half : Options.read CompareCommand.form.options (request ++ ["--end-data", "0x1"]) =
    .ok (requestFound ++ [("end-data", .text "0x1")]) := by
  with_unfolding_all rfl

theorem short_commitOctets : Short commitFormat commitOctets := by
  have hwords : ∀ e ∈ entries 1 ((Lines.lines (LogFile.text commitOctets)).map Lines.chomp),
      ∀ t ∈ Blank.words e.1, t.length ≤ Integer.digitLimit := by
    decide +kernel
  rintro e he n ⟨t, ht, hn⟩
  exact hn.le_length.trans (hwords e he t ht)

def saved : Session := savedWith commitOctets (eventOctets "write" "1")

theorem short_eventOctets : Short eventFormat (eventOctets "write" "1") := by
  have hlines : ∀ e ∈
      entries 1 ((Lines.lines (LogFile.text (eventOctets "write" "1"))).map Lines.chomp),
        e.1.length ≤ Integer.digitLimit := by
    decide +kernel
  exact fun e he n hn => hn.le_length.trans (hlines e he)

theorem verdictOf_saved : verdictOf commitOctets (eventOctets "write" "1") none = .ok .pass :=
  eq_ok_of_toOption (by decide +kernel)

theorem asked_request : Asked (.ofFound requestFound) "spike.log" "boat.log" "result.txt" none :=
  ⟨by decide, by decide, by decide, .neither⟩

/-- A pass takes the place of an earlier result, and half of an end pattern is refused. -/
theorem saved_compared :
    Ends saved "result.txt" (facts "spike.log" "boat.log") ((CompareCommand.run request).run saved)
      (.ok .pass) ∧
    ∃ s' : Session, ∀ t, (CompareCommand.run (request ++ ["--end-data", "0x1"])).run
      { saved with tree := t } = (.ok 2, { s' with tree := t }) := by
  refine ⟨?_, (status_file_agree reads_half _).2.2 (by decide)⟩
  rw [← verdictOf_saved]
  exact (status_file_agree reads_request _).1 asked_request (readable_commits _ _)
    (readable_events _ _) (writable_result _ _) short_commitOctets short_eventOctets

end Cosim.Proofs.SavedLogs
