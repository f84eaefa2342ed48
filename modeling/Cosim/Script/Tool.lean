import Cosim.Script.Builtin
import Cosim.Script.Tool.Batches
import Cosim.Script.Tool.Columns
import Cosim.Script.Tool.Comparing
import Cosim.Script.Tool.Editing
import Cosim.Script.Tool.Finding
import Cosim.Script.Tool.Lines
import Cosim.Script.Tool.Listing
import Cosim.Script.Tool.Making
import Cosim.Script.Tool.Reading
import Cosim.Script.Tool.Reckoning
import Cosim.Script.Tool.Saying
import Cosim.Script.Tool.Search
import Cosim.Script.Tool.Sorting
import Cosim.Script.Tool.Translation
import Cosim.Script.Tool.Widths

namespace Cosim.Script

open Cosim.Files Cosim.Run Cosim.Text

namespace Tool

open Step

def pwd (name : String) (args : List String) : Step Nat := do
  let g := Given.read [flag "L" "logical", flag "P" "physical"] args
  obey name g anyValue do
    if !g.operands.isEmpty then discard (complain name "ignoring non-option arguments")
    sayLine 1 (Builtin.directory (← tree)) *> pure 0

def id (name : String) (args : List String) : Step Nat := do
  let g := Given.read
    [flag "a", flag "g" "group", flag "G" "groups", flag "n" "name", flag "r" "real",
      flag "u" "user", flag "z" "zero"] args
  obey name g anyValue do
    let choices := (["g", "G", "u"].filter g.has).length
    if 1 < choices then return ← complain name "cannot print \"only\" of more than one choice"
    if choices = 0 && (g.has "n" || g.has "r") then
      return ← complain name "printing only names or real IDs requires -u, -g, or -G"
    match g.operands.find? fun user => user != "root" && user != "0" with
    | some user => complain name (quoted user ++ ": no such user")
    | none =>
      sayLine 1 (if choices = 0 then "uid=0(root) gid=0(root) groups=0(root)"
        else if g.has "n" then "root" else "0") *> pure 0

def uname (name : String) (args : List String) : Step Nat := do
  let g := Given.read
    [flag "a" "all", flag "i" "hardware-platform", flag "m" "machine", flag "n" "nodename",
      flag "o" "operating-system", flag "p" "processor", flag "r" "kernel-release",
      flag "s" "kernel-name", flag "v" "kernel-version"] args
  obey name g anyValue do
    match g.operands with
    | extra :: _ => usage name ("extra operand " ++ quoted extra)
    | [] =>
      let parts := [("s", "Linux"), ("m", "x86_64"), ("p", "unknown"), ("i", "unknown"),
        ("o", "GNU/Linux")]
      let shown := parts.filter fun (key, _) => g.has key || (g.found.isEmpty && key = "s")
      sayLine 1 (" ".intercalate (shown.map Prod.snd)) *> pure 0

/-- Tell that what comes in is no terminal. -/
def tty (name : String) (args : List String) : Step Nat := do
  let g := Given.read [flag "s" "quiet", flag "s" "silent"] args
  obeyOr 2 name g anyValue do
    if let extra :: _ := g.operands then
      return ← usage name ("extra operand " ++ quoted extra) 2
    if !g.has "s" then discard (sayLine 1 "not a tty")
    return 1

def which (environment : List (String × String)) (args : List String) : Step Nat := do
  let isAll := args.head? = some "-a"
  let words := if isAll then args.tail else args
  let t ← tree
  let directories := Blank.cut (· == ':') ((environment.lookup "PATH").getD "").toList
  let paths (word : String) : List String :=
    let found := if word.toList.contains '/' then [word]
      else directories.map fun d => joinText (if d.isEmpty then "." else String.ofList d) word
    let found := found.filter fun path =>
      t.isFile (Octets.toText path) && t.isRunnable (Octets.toText path)
    if isAll then found else found.take 1
  words.forM fun word => (paths word).forM fun path => discard (sayLine 1 path)
  return if words.isEmpty || words.any fun word => (paths word).isEmpty then 1 else 0

abbrev Utility := Caller → String → List (String × String) → List String → Step Nat

def simple (f : String → List String → Step Nat) : Utility :=
  fun _ name _ args => f name args

def deputy
    (f : String → List (String × String) → List String → Step (Except Nat Errand)) : Utility :=
  fun call name environment args => do
    match ← f name environment args with
    | .error status => return status
    | .ok errand => errand.carryOut call name

def all : List (String × Utility) :=
  [("cat", simple cat), ("tee", simple tee), ("head", simple head), ("tail", simple tail),
    ("wc", simple wc), ("ls", fun _ => ls .lines), ("dir", fun _ => ls .down),
    ("grep", simple grep),
    ("egrep", simple fun _ => grepFrom (some 'E') "grep"),
    ("fgrep", simple fun _ => grepFrom (some 'F') "grep"), ("sed", simple sed), ("tr", simple tr),
    ("cut", simple cut), ("paste", simple paste), ("fold", simple fold),
    ("expand", simple expand), ("unexpand", simple unexpand), ("tac", simple tac),
    ("rev", simple rev), ("nl", simple nl),
    ("sort", simple sort), ("uniq", simple uniq), ("comm", simple comm), ("cmp", simple cmp),
    ("echo", simple fun _ => echo), ("printf", simple printf), ("yes", simple yes),
    ("seq", simple seq), ("basename", simple basename), ("dirname", simple dirname),
    ("printenv", fun _ => printenv), ("expr", simple expr),
    ("test", simple fun name => test name false),
    ("[", simple fun name => test name true), ("touch", simple touch), ("mkdir", simple mkdir),
    ("ln", simple ln), ("truncate", simple truncate), ("rm", simple rm), ("rmdir", simple rmdir),
    ("unlink", simple unlink), ("cp", simple (transfer false)), ("mv", simple (transfer true)),
    ("chmod", simple chmod), ("find", find), ("xargs", xargs), ("env", deputy envErrand),
    ("nice", deputy niceErrand),
    ("nohup", deputy (plainErrand [] "missing operand" failedToRun)),
    ("timeout", deputy timeoutErrand), ("stdbuf", deputy stdbufErrand),
    ("setsid", deputy setsidErrand), ("sleep", simple sleep), ("pwd", simple pwd),
    ("id", simple id), ("whoami", simple fun name => sayFixed name "root"),
    ("uname", simple uname), ("arch", simple fun name => sayFixed name "x86_64"),
    ("tty", simple tty), ("which", fun _ _ => which), ("sync", simple fun _ _ => pure 0),
    ("true", simple fun _ _ => pure 0), ("false", simple fun _ _ => pure 1)]

/-- What a tool complains of and ends with if what it said was not taken. -/
def refusalOf (tool reason : String) : List String × Nat :=
  let isClosed := reason = "Bad file descriptor"
  let usual := "write error: " ++ reason
  match tool with
  | "cat" => ([if isClosed then "standard output: " ++ reason else usual], 1)
  | "sed" => (["couldn't " ++ (if isClosed then "close" else "flush") ++ " stdout: " ++ reason], 4)
  | "sort" => (["fflush failed: 'standard output': " ++ reason, "write error"], 2)
  | "find" =>
    (["'standard output': " ++ reason, if isClosed then usual else "write error"], 1)
  | "tee" => (["'standard output': " ++ reason], 1)
  | "yes" => (["standard output: " ++ reason], 1)
  | "cmp" => if isClosed then ([], 1) else (["standard output: " ++ reason], 2)
  | "diff" => (["standard output: " ++ reason], 2)
  | "wc" => ([if isClosed then usual else "write error"], 1)
  | "rev" => if isClosed then ([], 0) else ([usual], 1)
  | "ls" | "grep" | "egrep" | "fgrep" | "printenv" => ([usual], 2)
  | "env" => ([usual], 125)
  | "expr" => ([usual], 3)
  | _ => ([usual], 1)

/-- Carry out a tool, and see to it that it tells if what it said was not taken. -/
def attended (tool name : String) (step : Step Nat) : Step Nat := do
  modifyWorld fun w => { w with refusal := none }
  let status ← step
  match (← world).refusal with
  | none => return status
  | some reason =>
    let (complaints, status) := refusalOf tool reason
    complaints.forM fun text => discard (complain name text)
    return status

def shells : List String := ["sh", "dash"]

def names : List String := shells ++ all.map Prod.fst

def directories : List Location := [["bin"], ["usr", "bin"]]

def equip (t : Tree) : Tree :=
  directories.foldl (fun t directory =>
    names.foldl (fun t name => t.plant (directory ++ [name]) (.file .empty true)) t) t

def at? (t : Tree) (place : Location) : Option String :=
  match place.getLast? with
  | some name =>
    if directories.contains place.dropLast && names.contains name && (t.content place).isEmpty then
      some name
    else none
  | none => none

end Tool

end Cosim.Script
