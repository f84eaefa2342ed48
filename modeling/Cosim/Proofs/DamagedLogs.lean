import Cosim.Proofs.LogEntries
import Cosim.Proofs.Session
import Cosim.Proofs.Text.Damage

namespace Cosim.Proofs.DamagedLogs

open Cosim.Files Cosim.Run Cosim.Text Cosim.Text.Utf8 Cosim.Trace
open Cosim.Proofs.LogEntries Cosim.Proofs.Session Cosim.Proofs.Text.Damage
  Cosim.Proofs.Text.Words

def ReturnsBeforeNewlines : List UInt8 → Prop
  | [] => True
  | b :: rest => (b = 0x0D → rest.head? = some 0x0A) ∧ ReturnsBeforeNewlines rest

instance decidableReturns (octets : List UInt8) : Decidable (ReturnsBeforeNewlines octets) :=
  match octets with
  | [] => .isTrue trivial
  | b :: rest =>
    have := decidableReturns rest
    inferInstanceAs (Decidable ((b = 0x0D → rest.head? = some 0x0A) ∧ _))

/-- The octets between newlines, without carriage returns at the end. -/
def pieces (octets : List UInt8) : List (List UInt8) :=
  (octets.splitOn 0x0A).map (List.rdropWhile (· == 0x0D))

section Lines

variable {a b p rest octets : List UInt8}

theorem ReturnsBeforeNewlines.append_right (h : ReturnsBeforeNewlines (a ++ b)) :
    ReturnsBeforeNewlines b := by
  induction a with
  | nil => exact h
  | cons x a ih => exact ih h.2

theorem unify_append {s : List Char} (h : '\r' ∉ s) (t : List Char) :
    Lines.unify (s ++ t) = s ++ Lines.unify t := by
  induction s with
  | nil => rfl
  | cons c s ih =>
    have hc : c ≠ '\r' := fun he => h (he ▸ List.mem_cons_self)
    rw [List.cons_append, Lines.unify]
    · rw [if_neg hc, ih fun hm => h (List.mem_cons_of_mem c hm)]
      rfl
    · exact fun r he => absurd he hc

theorem return_not_mem (h : 0x0D ∉ octets) : '\r' ∉ decodeLossy octets :=
  fun hm => h ((isDecoding_decodeLossy octets).mem_plain (by decide) hm)

theorem newline_not_mem (h : 0x0A ∉ octets) : '\n' ∉ decodeLossy octets :=
  fun hm => h ((isDecoding_decodeLossy octets).mem_plain (by decide) hm)

theorem rdropWhile_returns (h : 0x0D ∉ p) : p.rdropWhile (· == 0x0D) = p := by
  rw [List.rdropWhile_eq_self_iff]
  intro hne hlast
  exact h (beq_iff_eq.mp hlast ▸ List.getLast_mem hne)

theorem text_line (h : ReturnsBeforeNewlines (p ++ 0x0A :: rest)) (hp : 0x0A ∉ p) :
    '\r' ∉ decodeLossy (p.rdropWhile (· == 0x0D)) ∧
      LogFile.text (p ++ 0x0A :: rest) =
        decodeLossy (p.rdropWhile (· == 0x0D)) ++ '\n' :: LogFile.text rest := by
  by_cases hr : 0x0D ∈ p
  · obtain ⟨q, r, rfl, hq⟩ := List.eq_append_cons_of_mem hr
    -- nothing but the newline can stand behind the carriage return
    obtain rfl : r = [] := by
      rw [List.append_assoc] at h
      have hhead := h.append_right.1 rfl
      cases r with
      | nil => rfl
      | cons x r =>
        obtain rfl : x = 0x0A := Option.some.inj hhead
        exact absurd (by simp) hp
    rw [List.rdropWhile_concat_pos _ _ _ (by decide), rdropWhile_returns hq]
    refine ⟨return_not_mem hq, ?_⟩
    rw [LogFile.text, List.append_assoc, List.singleton_append,
      decodeLossy_append_plain (by decide), unify_append (return_not_mem hq)]
    have hline := decodeLossy_append_plain (b := 0x0A) (by decide) [] rest
    rw [List.nil_append] at hline
    rw [hline]
    rfl
  · rw [rdropWhile_returns hr]
    refine ⟨return_not_mem hr, ?_⟩
    rw [LogFile.text, decodeLossy_append_plain (by decide), unify_append (return_not_mem hr)]
    rfl

theorem pieces_append (hp : 0x0A ∉ p) (rest : List UInt8) :
    pieces (p ++ 0x0A :: rest) = p.rdropWhile (· == 0x0D) :: pieces rest := by
  have hsplit : (p ++ 0x0A :: rest).splitOn 0x0A = p :: rest.splitOn 0x0A := by
    rw [List.splitOn_eq_splitOnP, List.splitOn_eq_splitOnP]
    refine List.splitOnP_append_cons_of_forall_mem (fun x hx => ?_) 0x0A rfl rest
    exact beq_false_of_ne fun he => hp (he ▸ hx)
  rw [pieces, hsplit, List.map_cons, pieces]

theorem lines_text (h : ReturnsBeforeNewlines octets) :
    (Lines.lines (LogFile.text octets)).map Lines.chomp = (pieces octets).map decodeLossy := by
  induction hn : octets.length using Nat.strong_induction_on generalizing octets with
  | _ n ih =>
  -- on the first newline: the line before it, and by induction the lines behind it
  by_cases hnewline : 0x0A ∈ octets
  · obtain ⟨p, rest, rfl, hp⟩ := List.eq_append_cons_of_mem hnewline
    obtain ⟨hreturn, htext⟩ := text_line h hp
    have hend : '\n' ∉ decodeLossy (p.rdropWhile (· == 0x0D)) :=
      newline_not_mem fun hm => hp ((List.rdropWhile_prefix _ _).subset hm)
    have hrest := ih rest.length (by rw [← hn, List.length_append, List.length_cons]; omega)
      h.append_right.2 rfl
    rw [htext, lines_append, lines_of_not_mem hend, List.map_append, hrest, pieces_append hp,
      List.map_cons, List.map_cons, chomp_eq_self hreturn]
    rfl
  · have hreturn : 0x0D ∉ octets := by
      intro hm
      obtain ⟨q, r, rfl⟩ := List.append_of_mem hm
      have hhead := h.append_right.1 rfl
      exact hnewline (List.mem_append_right _ (List.mem_cons_of_mem _ (List.mem_of_head? hhead)))
    have hpieces : octets.splitOn 0x0A = [octets] := by
      rw [List.splitOn_eq_splitOnP]
      exact List.splitOnP_eq_singleton fun x hx => beq_false_of_ne fun he => hnewline (he ▸ hx)
    rw [LogFile.text, Lines.unify_of_no_return (return_not_mem hreturn),
      lines_of_not_mem (newline_not_mem hnewline), pieces, hpieces, List.map_singleton,
      List.map_singleton, List.map_singleton, rdropWhile_returns hreturn,
      chomp_eq_self (return_not_mem hreturn)]

end Lines

/-- Damage stays within its line. A log in a file is read piece by piece: each piece is decoded by
itself, with U+FFFD for each damaged stretch, and the first piece that cannot be read decides the
fault. -/
theorem damage_within_lines {s : Session} {path : String} {octets : List UInt8}
    (hp : '\x00' ∉ path.toList) (hread : s.tree.read path = .ok octets)
    (hreturns : ReturnsBeforeNewlines octets) :
    (∀ piece ∈ pieces octets, IsDecoding piece (decodeLossy piece)) ∧
    (outcome (readCommits path) s = (LogFile.commits octets).mapError .badLog ∧
      commitFormat.Reads (entries 1 ((pieces octets).map decodeLossy)) (LogFile.commits octets)) ∧
    outcome (readEvents path) s = (LogFile.events octets).mapError .badLog ∧
      eventFormat.Reads (entries 1 ((pieces octets).map decodeLossy)) (LogFile.events octets) := by
  rw [← lines_text hreturns]
  exact ⟨fun piece _ => isDecoding_decodeLossy piece,
    ⟨outcome_readCommits hp hread, reads_commits _⟩, outcome_readEvents hp hread, reads_events _⟩

/-- A commit, a character that is cut short by the end of its line, and a commit. -/
def cutShort : List UInt8 :=
  encode "core 0: 3 0x80 (0x13) x5 0x1\r\n".toList ++
    [0xE2, 0x82, 0x0D, 0x0A] ++ encode "core 0: 3 0x84 (0x13) x6 0x2\n".toList

theorem cutShort_read :
    ReturnsBeforeNewlines cutShort ∧
      (pieces cutShort).map decodeLossy = ["core 0: 3 0x80 (0x13) x5 0x1".toList, ['\uFFFD'],
        "core 0: 3 0x84 (0x13) x6 0x2".toList, []] ∧
      ∃ cause, outcome (readCommits "trace.log") (sessionWith "trace.log" cutShort) =
        .error (.badLog (.badLine 2 ['\uFFFD'] cause)) := by
  have hreturns : ReturnsBeforeNewlines cutShort := by decide
  obtain ⟨-, ⟨hcommits, -⟩, -⟩ :=
    damage_within_lines (by decide) (read_traceLog cutShort) hreturns
  refine ⟨hreturns, by with_unfolding_all rfl, .commit (.noColon ['\uFFFD']), ?_⟩
  rw [hcommits]
  with_unfolding_all rfl

end Cosim.Proofs.DamagedLogs
