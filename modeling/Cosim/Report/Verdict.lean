import Cosim.Align.Compare

namespace Cosim.Report

open Cosim.Text

/-- A verdict with its diagnostic: a `Wide` text as a comparison gives it, a `String` once it is
spelled in characters. -/
inductive Verdict (α : Type) where
  | pass
  | fail (diagnostic : α)
deriving DecidableEq, Repr

namespace Verdict

variable {α β : Type}

def isPass : Verdict α → Bool
  | .pass => true
  | .fail _ => false

def diagnostic : Verdict String → String
  | .pass => ""
  | .fail d => d

def map (f : α → β) : Verdict α → Verdict β
  | .pass => .pass
  | .fail d => .fail (f d)

def ofComparison (c : Align.Comparison) : Verdict Wide :=
  match c.divergence with
  | none => .pass
  | some d => .fail d.message

def spelled : Verdict Wide → Except Unencodable (Verdict String)
  | .pass => .ok .pass
  | .fail d => d.spelled.map .fail

theorem spelled_eq_ok {v : Verdict Wide} {told : Verdict String} :
    v.spelled = .ok told ↔ v = told.map Wide.ofString := by
  cases v with
  | pass => cases told <;> simp [spelled, map]
  | fail d =>
    cases hd : d.spelled with
    | ok text =>
      obtain rfl := Wide.spelled_eq_ok.mp hd
      cases told <;> simp [spelled, map, Except.map]
    | error e =>
      cases told with
      | pass => simp [spelled, map, hd, Except.map]
      | fail text =>
        have hne : d ≠ text := fun h => by simp [h] at hd
        simp [spelled, map, hd, hne, Except.map]

end Verdict

/-- The outcome of one test program, with what is to be remembered of its run. -/
structure CaseResult where
  elf : String
  verdict : Verdict String
  facts : List (String × String)
deriving DecidableEq, Repr

def endsLine (s : String) : Bool := s.toList.getLast? == some '\n'

/-- A text with a line end, unless it has one. -/
def closed (s : String) : String := if endsLine s then s else s ++ "\n"

def failOpening : String :=
  "FAIL\n\n" ++ "Test failed: spike and boat traces differ\n" ++ "---\n\n"

def header : Verdict String → String
  | .pass => "PASS\n\n"
  | .fail diagnostic => failOpening ++ closed diagnostic ++ "---\n\n"

def keyWidth (facts : List (String × String)) : Nat :=
  facts.foldl (fun width f => max width f.1.length) 1

def factLine (width : Nat) (fact : String × String) : String :=
  fact.1 ++ ":" ++ String.ofList (List.replicate (width - fact.1.length) ' ') ++ " | " ++
    fact.2 ++ "\n"

/-- The report of one verdict: the verdict, its diagnostic, and the facts in columns. -/
def resultText (verdict : Verdict String) (facts : List (String × String)) : String :=
  header verdict ++ String.join (facts.map (factLine (keyWidth facts)))

def passing (results : List CaseResult) : List CaseResult := results.filter (·.verdict.isPass)

def failing (results : List CaseResult) : List CaseResult := results.filter (!·.verdict.isPass)

def summaryLine (results : List CaseResult) : String :=
  toString (passing results).length ++ " PASSED, " ++ toString (failing results).length ++
    " FAILED"

def rule : String := String.ofList (List.replicate 80 '#')

def resultBlock (r : CaseResult) : String :=
  "\n" ++ r.elf ++ ":\n" ++ resultText r.verdict r.facts

def sectionText (title : String) (results : List CaseResult) : String :=
  if results.isEmpty then ""
  else "\n\n" ++ rule ++ "\n# " ++ title ++ "\n" ++ rule ++ "\n" ++
    String.join (results.map resultBlock)

def campaignText (results : List CaseResult) : String :=
  summaryLine results ++ "\n" ++ sectionText "Details of failing tests" (failing results) ++
    sectionText "Details of passing tests" (passing results)

end Cosim.Report
