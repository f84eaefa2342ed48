import Cosim.Proofs.Run.Restraint

namespace Cosim.Proofs.Run.Ending

open Cosim.Files Cosim.Report Cosim.Run Cosim.Run.Session Cosim.Proofs.Files.Changes
  Cosim.Proofs.Files.Ways Cosim.Proofs.Outcome Cosim.Proofs.Run.Actions
  Cosim.Proofs.Run.Commands Cosim.Proofs.Run.OwnLogs Cosim.Proofs.Run.Restraint
  Cosim.Proofs.Session

def announced (elf : Path) (s : Session) : Session :=
  ((note .info ("running difftest for " ++ elf.text)).run s).2

/-- The session in which the next test is announced, once the verdict is noted. -/
def noted (verdict : Verdict String) (s : Session) : Session := ((noteVerdict verdict).run s).2

/-- Tests of programs one after the other, each with a verdict. -/
inductive Tested (machine : Machine) (config : Config) (workDir : Path) (verbose : Bool) :
    Session → List Path → List CaseResult → Session → Prop
  | nil (s : Session) : Tested machine config workDir verbose s [] [] s
  | cons {elf : Path} {result : CaseResult} {rest : List Path} {results : List CaseResult}
      {s s₁ s' : Session}
      (test : (Campaign.testOne machine config workDir verbose elf).run (announced elf s) =
        (.ok result, s₁))
      (tests : Tested machine config workDir verbose (noted result.verdict s₁) rest results s') :
      Tested machine config workDir verbose s (elf :: rest) (result :: results) s'

/-- The tests before that of a program have their verdicts, and its own ends in a fault. -/
structure FirstFault (machine : Machine) (config : Config) (workDir : Path) (verbose : Bool)
    (s : Session) (before : List Path) (results : List CaseResult) (s₁ : Session) (elf : Path)
    (f : Fault) (s₂ : Session) : Prop where
  before : Tested machine config workDir verbose s before results s₁
  fault : (Campaign.testOne machine config workDir verbose elf).run (announced elf s₁) =
    (.error f, s₂)

section Notes

variable {elf : Path} {verdict : Verdict String} {s : Session}

theorem run_announce (elf : Path) (s : Session) :
    (note .info ("running difftest for " ++ elf.text)).run s = (.ok (), announced elf s) := by
  obtain ⟨records, hrun⟩ := run_note .info ("running difftest for " ++ elf.text) s
  rw [announced, hrun]

theorem run_noted (verdict : Verdict String) (s : Session) :
    (noteVerdict verdict).run s = (.ok (), noted verdict s) := by
  obtain ⟨records, hrun⟩ := run_noteVerdict verdict s
  rw [noted, hrun]

theorem tree_announced (elf : Path) (s : Session) : (announced elf s).tree = s.tree :=
  tree_of_note (run_announce elf s)

theorem tree_noted (verdict : Verdict String) (s : Session) : (noted verdict s).tree = s.tree :=
  tree_of_noteVerdict (run_noted verdict s)

end Notes

section Tests

variable {machine : Machine} {config : Config} {workDir elf : Path} {verbose : Bool}
  {elfs before after : List Path} {results : List CaseResult} {s s₁ s₂ s' : Session} {f : Fault}

theorem run_testAll_cons (elf : Path) (rest : List Path) (s : Session) :
    (Campaign.testAll machine config (.ok workDir) verbose (elf :: rest)).run s =
      (do
        let result ← Campaign.testOne machine config workDir verbose elf
        noteVerdict result.verdict
        return result :: (← Campaign.testAll machine config (.ok workDir) verbose rest) :
          Action (List CaseResult)).run (announced elf s) := by
  rw [Campaign.testAll, run_bind_ok (run_announce elf s)]
  rfl

theorem Tested.run_eq (h : Tested machine config workDir verbose s elfs results s') :
    (Campaign.testAll machine config (.ok workDir) verbose elfs).run s = (.ok results, s') := by
  induction h with
  | nil s => rfl
  | cons test tests ih =>
    rw [run_testAll_cons, run_bind_ok test, run_bind_ok (run_noted _ _), run_bind_ok ih]
    rfl

theorem FirstFault.run_eq
    (h : FirstFault machine config workDir verbose s before results s₁ elf f s₂)
    (after : List Path) :
    (Campaign.testAll machine config (.ok workDir) verbose (before ++ elf :: after)).run s =
      (.error f, s₂) := by
  obtain ⟨hbefore, hfault⟩ := h
  induction hbefore with
  | nil s => rw [List.nil_append, run_testAll_cons, run_bind_error hfault]
  | cons test tests ih =>
    rw [List.cons_append, run_testAll_cons, run_bind_ok test, run_bind_ok (run_noted _ _),
      run_bind_error (ih hfault)]

theorem tested_or_fault (machine : Machine) (config : Config) (workDir : Path) (verbose : Bool)
    (s : Session) (elfs : List Path) :
    (∃ results s', Tested machine config workDir verbose s elfs results s') ∨
      ∃ before elf after results s₁ f s₂, elfs = before ++ elf :: after ∧
        FirstFault machine config workDir verbose s before results s₁ elf f s₂ := by
  induction elfs generalizing s with
  | nil => exact .inl ⟨[], s, .nil s⟩
  | cons elf rest ih =>
    rcases htest : (Campaign.testOne machine config workDir verbose elf).run (announced elf s) with
      ⟨f | result, s₁⟩
    · exact .inr ⟨[], elf, rest, [], s, f, s₁, rfl, .nil s, htest⟩
    · rcases ih (noted result.verdict s₁) with ⟨results, s', htests⟩ |
        ⟨before, other, after, results, s₂, f, s₃, rfl, hbefore, hfault⟩
      · exact .inl ⟨result :: results, s', .cons htest htests⟩
      · exact .inr ⟨elf :: before, other, after, result :: results, s₂, f, s₃, rfl,
          .cons htest hbefore, hfault⟩

section Spared

variable {here q : Location} {kept : Location → Prop}

theorem Tested.unwritten (hmachine : Discreet machine here workDir kept)
    (hwork : workDir.text ≠ "") (h : Tested machine config workDir verbose s elfs results s')
    (hplain : ∀ elf ∈ elfs, IsPlainName elf.name) (hhere : s.tree.here = here) :
    s'.tree.here = here ∧
      ∀ q, (∀ elf ∈ elfs, Apart here workDir (testPlace here workDir elf) kept q) →
        Unwritten s.tree s'.tree q := by
  induction h with
  | nil s => exact ⟨hhere, fun q _ => .inl rfl⟩
  | cons test tests ih =>
    obtain ⟨helf, hrest⟩ := List.forall_mem_cons.mp hplain
    have hspares := spares_testOne hmachine hwork helf
      ((congrArg Tree.here (tree_announced _ _)).trans hhere) test
    have hhere₁ := hspares.here_eq
    rw [tree_announced] at hhere₁
    rw [tree_noted] at ih
    obtain ⟨hhere', hlater⟩ := ih hrest (hhere₁.trans hhere)
    refine ⟨hhere', fun q hq => ?_⟩
    obtain ⟨hqelf, hqrest⟩ := List.forall_mem_cons.mp hq
    have hfirst := hspares.unwritten q hqelf
    rw [tree_announced] at hfirst
    exact hfirst.trans (hlater q hqrest)

variable (hmachine : Discreet machine here workDir kept) (hwork : workDir.text ≠ "")
  (hplain : ∀ e ∈ before ++ elf :: after, IsPlainName e.name) (hhere : s.tree.here = here)
  (h : FirstFault machine config workDir verbose s before results s₁ elf f s₂)

include hmachine hwork hplain hhere h

theorem FirstFault.spares : Spares here workDir (testPlace here workDir elf)
      (Apart here workDir (testPlace here workDir elf) kept) (announced elf s₁) s₂ ∧
    (Unwritten (announced elf s₁).tree s₂.tree (testPlace here workDir elf ++ ["compare.log"]) ∨
      CutOff config.endPattern workDir elf f s₂) := by
  obtain ⟨hbefore, helf⟩ := List.forall_mem_append.mp hplain
  obtain ⟨hhere₁, -⟩ := h.before.unwritten hmachine hwork hbefore hhere
  rw [← tree_announced elf s₁] at hhere₁
  exact spares_testOne_error hmachine hwork (List.forall_mem_cons.mp helf).1 hhere₁ h.fault

theorem FirstFault.keepsLogs (hnames : ((before ++ elf :: after).map Path.name).Nodup) :
    List.Forall₂ (fun e result => KeepsLogs config.endPattern workDir e s₂ result)
      before results := by
  have hframe := (h.spares hmachine hwork hplain hhere).1.toFrame
  obtain ⟨hbefore, -⟩ := List.forall_mem_append.mp hplain
  obtain ⟨hhere₁, -⟩ := h.before.unwritten hmachine hwork hbefore hhere
  rw [← tree_announced elf s₁] at hhere₁
  rw [List.map_append, List.nodup_append] at hnames
  obtain ⟨hnames, -, hapart⟩ := hnames
  have hkeeps := (keepsLogs_testAll hmachine.below hwork hbefore hnames hhere h.before.run_eq).1
  have hne : ∀ e ∈ before, IsPlainName e.name ∧ e.name ≠ elf.name := fun e he =>
    ⟨hbefore e he, hapart _ (List.mem_map_of_mem he) _ List.mem_cons_self⟩
  refine ((List.forall₂_and_left _ _).mpr ⟨hne, hkeeps⟩).imp ?_
  rintro e result ⟨⟨hplain', hname⟩, hkept⟩
  refine (hkept.of_tree_eq (tree_announced elf s₁)).of_find fun name hlog node => ?_
  exact find_of_frame hwork hplain' hlog hname hhere₁ hframe

theorem FirstFault.unwritten {q : Location}
    (hbefore : ∀ e ∈ before, Apart here workDir (testPlace here workDir e) kept q)
    (hq : Apart here workDir (testPlace here workDir elf) kept q) :
    Unwritten s.tree s₂.tree q := by
  have hlast := (h.spares hmachine hwork hplain hhere).1.unwritten q hq
  rw [tree_announced] at hlast
  obtain ⟨hplainBefore, -⟩ := List.forall_mem_append.mp hplain
  obtain ⟨-, hfirst⟩ := h.before.unwritten hmachine hwork hplainBefore hhere
  exact (hfirst q hbefore).trans hlast

theorem FirstFault.comparison
    (hbefore : ∀ e ∈ before, Apart here workDir (testPlace here workDir e) kept
      (testPlace here workDir elf ++ ["compare.log"])) :
    Unwritten s.tree s₂.tree (testPlace here workDir elf ++ ["compare.log"]) ∨
      CutOff config.endPattern workDir elf f s₂ := by
  obtain ⟨hplainBefore, -⟩ := List.forall_mem_append.mp hplain
  obtain ⟨-, hfirst⟩ := h.before.unwritten hmachine hwork hplainBefore hhere
  refine (h.spares hmachine hwork hplain hhere).2.imp_left fun hlast => ?_
  rw [tree_announced] at hlast
  exact (hfirst _ hbefore).trans hlast

end Spared

end Tests

end Cosim.Proofs.Run.Ending
