import Cosim.Proofs.Files.Ordering

namespace Cosim.Proofs.Files.Patterns

open Cosim.Files Cosim.Files.Tree Cosim.Files.Glob Cosim.Text.Blank Cosim.Proofs.Files.Globbing
  Cosim.Proofs.Files.Joining Cosim.Proofs.Files.Ordering Cosim.Proofs.Files.Ways
  Cosim.Proofs.Text.Words

section Stems

variable {pattern text name : String} {names rest : List String}

/-- The names of a pattern before its first pattern name. -/
def leading (pattern : String) : List String :=
  (pieces pattern).takeWhile fun name => !Wildcard.isPattern name

end Stems

section Counts

variable {t : Tree} {pattern text x : String} {names : List String} {p : Path}

end Counts

section Order

variable {t : Tree} {pattern : String}

end Order

end Cosim.Proofs.Files.Patterns
