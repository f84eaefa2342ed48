import Cosim.Proofs.JoinedLogs
import Cosim.Proofs.Session
import Cosim.Proofs.Text.Utf8
import Mathlib.Data.List.Chain

namespace Cosim.Proofs.LogFiles

open Cosim.Files Cosim.Run Cosim.Text Cosim.Trace Cosim.Proofs.JoinedLogs Cosim.Proofs.Outcome
  Cosim.Proofs.Session Cosim.Proofs.Text.Utf8 Cosim.Proofs.Text.Words

def ReturnsInEnds (s : List Char) : Prop := s.IsChain fun c d => c = '\r' → d = '\n'

instance (s : List Char) : Decidable (ReturnsInEnds s) :=
  inferInstanceAs (Decidable (s.IsChain fun c d => c = '\r' → d = '\n'))

theorem lines_unify {s : List Char} (h : ReturnsInEnds s) :
    ∃ blanks, Lines.lines (Lines.unify s) = (Lines.lines s).map Lines.chomp ++ blanks ∧
      ∀ line ∈ blanks, line = [] := by
  induction s using Lines.unify.induct with
  | case1 => exact ⟨[], rfl, nofun⟩
  | case2 rest ih =>
    obtain ⟨blanks, hlines, hblanks⟩ := ih h.tail.tail
    refine ⟨blanks, ?_, hblanks⟩
    have hreturn : Lines.lines ('\r' :: '\n' :: rest) = ['\r'] :: Lines.lines rest :=
      lines_append ['\r'] rest
    rw [Lines.unify, hreturn, List.map_cons, List.cons_append, ← hlines]
    exact lines_append [] (Lines.unify rest)
  | case3 c rest hend ih =>
    by_cases hc : c = '\r'
    · subst hc
      cases rest with
      | nil => exact ⟨[[]], rfl, by simp⟩
      | cons d rest =>
        have hd : d = '\n' := (List.isChain_cons_cons.mp h).1 rfl
        exact absurd (congrArg (· :: rest) hd) (hend rest rfl)
    obtain ⟨blanks, hlines, hblanks⟩ := ih h.tail
    refine ⟨blanks, ?_, hblanks⟩
    have hunify : Lines.unify (c :: rest) = c :: Lines.unify rest := by
      rw [Lines.unify, if_neg hc]
      exact hend
    rw [hunify]
    by_cases hn : c = '\n'
    · have hempty : ∀ t, Lines.lines (c :: t) = [] :: Lines.lines t := hn ▸ lines_append []
      rw [hempty, hempty, hlines]
      rfl
    · obtain ⟨first, more, hrest, hcons⟩ := lines_cons hn rest
      obtain ⟨first', more', hrest', hcons'⟩ := lines_cons hn (Lines.unify rest)
      rw [hrest, hrest', List.map_cons, List.cons_append] at hlines
      obtain ⟨rfl, rfl⟩ := List.cons.inj hlines
      rw [hcons, hcons', List.map_cons, List.cons_append, chomp_cons hc]

variable {α : Type} {read : Int → List Char → Except Log.Fault α}

theorem readLines_chomped (number : Nat) (lines : List (List Char)) :
    Log.readLines read number (lines.map Lines.chomp) = Log.readLines read number lines := by
  induction lines generalizing number with
  | nil => rfl
  | cons raw rest ih =>
    rw [List.map_cons, Log.readLines, Log.readLines, chomp_chomp, ih]

theorem readText_unify {s : List Char} (h : ReturnsInEnds s) :
    Log.readText read (Lines.unify s) = Log.readText read s := by
  obtain ⟨blanks, hlines, hblanks⟩ := lines_unify h
  have hnone : ∀ number, Log.readLines read number blanks = .ok [] :=
    readLines_blank fun line hline => hblanks line hline ▸ rfl
  rw [Log.readText, Log.readText, hlines, readLines_append, readLines_chomped, hnone]
  cases Log.readLines read 1 (Lines.lines s) with
  | error f => rfl
  | ok xs => exact congrArg Except.ok (List.append_nil xs)

section Session

variable {s : Session} {path : String} {text : List Char}

theorem outcome_commits (hp : '\x00' ∉ path.toList)
    (hread : s.tree.read path = .ok (Utf8.encode text)) :
    outcome (readCommits path) s = (Log.commits (Lines.unify text)).mapError .badLog := by
  rw [outcome_readCommits hp hread, LogFile.commits, LogFile.text, decodeLossy_encode]

theorem outcome_events (hp : '\x00' ∉ path.toList)
    (hread : s.tree.read path = .ok (Utf8.encode text)) :
    outcome (readEvents path) s = (Log.events (Lines.unify text)).mapError .badLog := by
  rw [outcome_readEvents hp hread, LogFile.events, LogFile.text, decodeLossy_encode]

/-- The log in a file is that of its unified text, result or fault. It is that of the text itself
where carriage returns stand at the ends of lines only. -/
theorem files_read_as_texts (hp : '\x00' ∉ path.toList)
    (hread : s.tree.read path = .ok (Utf8.encode text)) :
    (outcome (readCommits path) s = (Log.commits (Lines.unify text)).mapError .badLog ∧
      outcome (readEvents path) s = (Log.events (Lines.unify text)).mapError .badLog) ∧
    (ReturnsInEnds text →
      outcome (readCommits path) s = (Log.commits text).mapError .badLog ∧
      outcome (readEvents path) s = (Log.events text).mapError .badLog) := by
  have hcommits := outcome_commits hp hread
  have hevents := outcome_events hp hread
  refine ⟨⟨hcommits, hevents⟩, fun hends => ?_⟩
  rw [hcommits, hevents, Log.commits, Log.commits, Log.events, Log.events, readText_unify hends,
    readText_unify hends]
  exact ⟨rfl, rfl⟩

end Session

def endedByBoth : List Char := "core 0: 3 0x80 (0x13) x5 0x1\r\n".toList

theorem endedByBoth_read :
    ReturnsInEnds endedByBoth ∧
      outcome (readCommits "trace.log") (sessionWith "trace.log" (Utf8.encode endedByBoth)) =
        .ok [⟨0, 3, 0x80, 0x13, [⟨"x5", 1⟩], []⟩] := by
  have hends : ReturnsInEnds endedByBoth := by decide
  have hread := (files_read_as_texts (by decide) (read_traceLog _)).2 hends
  refine ⟨hends, hread.1.trans ?_⟩
  with_unfolding_all rfl

def parted : List Char := "core 0: 3 0x80 (0x13)\rx5 0x1".toList

def partedEvent : List Char :=
  "\x7b\"fields\":\r\x7b\"event_type\":\"reset_vector\",\"new_addr\":128\x7d\x7d".toList

/-- Each text is a log by itself, and as a file it is none. -/
theorem parted_unlike_file :
    ((Log.commits parted).isOk = true ∧
      (outcome (readCommits "trace.log") (sessionWith "trace.log" (Utf8.encode parted))).isOk =
        false) ∧
    (Log.events partedEvent).isOk = true ∧
      (outcome (readEvents "trace.log") (sessionWith "trace.log" (Utf8.encode partedEvent))).isOk =
        false := by
  have hcommits : (Log.commits (Lines.unify parted)).isOk = false := by decide +kernel
  have hevents : (Log.events (Lines.unify partedEvent)).isOk = false := by decide +kernel
  rw [outcome_commits (by decide) (read_traceLog _), isOk_mapError,
    outcome_events (by decide) (read_traceLog _), isOk_mapError]
  exact ⟨⟨by decide +kernel, hcommits⟩, by decide +kernel, hevents⟩

end Cosim.Proofs.LogFiles
