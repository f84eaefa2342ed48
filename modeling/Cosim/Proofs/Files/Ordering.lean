import Cosim.Proofs.Files.Globbing
import Mathlib.Data.String.Basic

namespace Cosim.Proofs.Files.Ordering

open Cosim.Files Cosim.Files.Tree Cosim.Files.Glob Cosim.Proofs.Files.Globbing
  Cosim.Proofs.Files.Joining Cosim.Proofs.Files.Ways

section Texts

variable {a b d x r : String} {names chain : List String}

theorem exists_text (slashes : Nat) (front : List String) :
    ∃ c, ∀ names, names ≠ [] → Path.text ⟨slashes, front ++ names⟩ = c ++ Path.joined names := by
  by_cases hfront : front = []
  · refine ⟨String.ofList (List.replicate slashes '/'), fun names hnames => ?_⟩
    rw [Path.text, if_neg (by simp [hnames]), hfront, List.nil_append]
  · refine ⟨String.ofList (List.replicate slashes '/') ++ Path.joined front ++ "/",
      fun names hnames => ?_⟩
    rw [Path.text, if_neg (by simp [hnames]), Path.joined,
      String.intercalate_append_of_ne_nil hfront hnames, Path.joined, Path.joined]
    simp only [String.append_assoc]

end Texts

section Files

variable {t : Tree} {d x y name : String} {p : Path} {rest parts : List GlobPart}
  {names front back : List String} {slashes : Nat}

/-- No name of a pattern says nothing. -/
def IsTelling (parts : List GlobPart) : Prop := ∀ name, .exact name ∈ parts → isIdle name = false

theorem IsTelling.of_cons {part : GlobPart} (h : IsTelling (part :: rest)) : IsTelling rest :=
  fun name hname => h name (List.mem_cons_of_mem part hname)

end Files

end Cosim.Proofs.Files.Ordering
