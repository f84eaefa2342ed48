import Cosim.Report.Scalar
import Cosim.Report.Verdict

namespace Cosim.Report.Block

open Cosim.Report.Scalar

def member (indent : Nat) (key value : List Char) : List Char :=
  let head := indentation indent ++ key ++ [':', ' ']
  head ++ write ⟨indent + 2, true⟩ head.length value ++ ['\n']

/-- Keys of this many characters and more do not stand on a line with their value. -/
def longKey : Nat := 123

def isShortKey (key : List Char) : Bool :=
  !key.isEmpty && key.length < longKey && !key.any breaksLine

def freeMember (indent : Nat) (key value : List Char) : List Char :=
  if isShortKey key then
    member indent (write ⟨indent + 2, false⟩ indent key) value
  else
    let layout : Layout := ⟨indent + 2, true⟩
    indentation indent ++ ['?', ' '] ++ write layout (indent + 2) key ++ ['\n'] ++
      indentation indent ++ [':', ' '] ++ write layout (indent + 2) value ++ ['\n']

def facts (fs : List (String × String)) : List Char :=
  if fs.isEmpty then "  logs: {}\n".toList
  else "  logs:\n".toList ++ fs.flatMap fun f => freeMember 4 f.1.toList f.2.toList

def entry (r : CaseResult) : List Char :=
  let elf := "- elf: ".toList
  elf ++ write ⟨4, true⟩ elf.length r.elf.toList ++ ['\n'] ++
    "  passed: ".toList ++ (if r.verdict.isPass then "true" else "false").toList ++ ['\n'] ++
    member 2 "diagnostic".toList r.verdict.diagnostic.toList ++ facts r.facts

def document (results : List CaseResult) : String :=
  String.ofList <|
    member 0 "summary".toList (summaryLine results).toList ++
      if results.isEmpty then "tests: []\n".toList
      else "tests:\n".toList ++ results.flatMap entry

end Cosim.Report.Block
