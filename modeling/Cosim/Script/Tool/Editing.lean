import Cosim.Script.Edit.Reader
import Cosim.Script.Edit.Run
import Cosim.Script.Tool.Basic

namespace Cosim.Script.Tool

open Cosim.Files Cosim.Numeral Step

def sedSwitches : List Switch :=
  [flag "n" "quiet", flag "n" "silent", flag "debug" "debug", setting "e" "expression",
    setting "f" "file", flag "follow-symlinks" "follow-symlinks", ⟨"i", "in-place", .attached⟩,
    setting "l" "line-length", flag "posix" "posix", flag "E" "regexp-extended", flag "r",
    flag "s" "separate", flag "sandbox" "sandbox", flag "u" "unbuffered", flag "z" "null-data"]

def sedUsage (name : String) : String :=
  "Usage: " ++ name ++ " [OPTION]... \x7bscript-only-if-no-other-script\x7d [input-file]...\n\n" ++
  "  -n, --quiet, --silent\n" ++
  "                 suppress automatic printing of pattern space\n" ++
  "      --debug\n" ++
  "                 annotate program execution\n" ++
  "  -e script, --expression=script\n" ++
  "                 add the script to the commands to be executed\n" ++
  "  -f script-file, --file=script-file\n" ++
  "                 add the contents of script-file to the commands to be executed\n" ++
  "  --follow-symlinks\n" ++
  "                 follow symlinks when processing in place\n" ++
  "  -i[SUFFIX], --in-place[=SUFFIX]\n" ++
  "                 edit files in place (makes backup if SUFFIX supplied)\n" ++
  "  -l N, --line-length=N\n" ++
  "                 specify the desired line-wrap length for the \x60l' command\n" ++
  "  --posix\n" ++
  "                 disable all GNU extensions.\n" ++
  "  -E, -r, --regexp-extended\n" ++
  "                 use extended regular expressions in the script\n" ++
  "                 (for portability use POSIX -E).\n" ++
  "  -s, --separate\n" ++
  "                 consider files as separate rather than as a single,\n" ++
  "                 continuous long stream.\n" ++
  "      --sandbox\n" ++
  "                 operate in sandbox mode (disable e/r/w commands).\n" ++
  "  -u, --unbuffered\n" ++
  "                 load minimal amounts of data from the input files and flush\n" ++
  "                 the output buffers more often\n" ++
  "  -z, --null-data\n" ++
  "                 separate lines by NUL characters\n" ++
  "      --help     display this help and exit\n" ++
  "      --version  output version information and exit\n\n" ++
  "If no -e, --expression, -f, or --file option is given, then the first\n" ++
  "non-option argument is taken as the sed script to interpret.  All\n" ++
  "remaining arguments are names of input files; if no input files are\n" ++
  "specified, then the standard input is read.\n"

/-- A part of a script: its text, and the file that it is from if it is from one. -/
abbrev ScriptPart := String × Option String

def partAt (place : Nat) : Nat → Nat → List ScriptPart → String × Nat
  | number, _, [] => ("-e expression #" ++ toString number, place)
  | number, start, (text, file) :: rest =>
    if place ≤ start + text.length || rest.isEmpty then
      match file with
      | none => ("-e expression #" ++ toString number ++ ", char " ++ toString (place - start), 0)
      | some path =>
        ("file " ++ path ++ " line " ++
          toString (((text.toList.take (place - start - 1)).count '\n') + 1), 0)
    else partAt place (if file.isNone then number + 1 else number) (start + text.length + 1) rest

def faultText (parts : List ScriptPart) (fault : Edit.Fault) : String :=
  match fault.place with
  | none => fault.text
  | some 0 => "-e expression #1, char 0: " ++ fault.text
  | some place => (partAt place 1 0 parts).1 ++ ": " ++ fault.text

def sourcesOf (file : String) (content : ByteArray) : List Edit.Source :=
  (wholeLines content).map fun line =>
    let text := lineText line
    ⟨text.toList, text.length < line.size, file, false, false⟩

/-- Mark the first and the last line of a count, unless more lines follow it. -/
def counted (hasMore : Bool) (lines : List Edit.Source) : List Edit.Source :=
  lines.zipIdx.map fun (line, i) =>
    { line with isFirst := i == 0, isLast := i + 1 == lines.length && !hasMore }

def peeked (channel : Nat) : Step ByteArray := do
  match ← peekAll channel with
  | some (content, isPart) => return if isPart then endedLines content else content
  | none => return .empty

def settleLines (block : Nat) (left : List Edit.Source) (path : String) : Step Unit := do
  match ← openOperand path with
  | .ok (.channel channel) =>
    match ← peekAll channel with
    | some (content, isPart) =>
      let sizes := (left.filter (·.file == path)).map fun line =>
        line.text.length + if line.isWhole then 1 else 0
      let known := if isPart then (endedLines content).size else content.size
      settle ⟨block, true⟩ channel content isPart
        (if sizes.isEmpty then none else some (known - sumOf sizes))
    | none => pure ()
  | _ => pure ()

def openGoals : List String → Step (Option String)
  | [] => return none
  | path :: rest => do
    match (← tree).target (Octets.toText path) with
    | .error e => return some ("couldn't open file " ++ path ++ ": " ++ e.text)
    | .ok place =>
      fill place .empty
      openGoals rest

def sed (name : String) (args : List String) : Step Nat := do
  let g := Given.read sedSwitches args
  let explain (status : Nat) : Step Nat := do
    discard (say 2 (sedUsage name))
    return status
  if let some text := g.fault then
    discard (complain name text)
    return ← explain 1
  let scripts := g.found.filter fun (key, _) => key = "e" || key = "f"
  let (parts, operands) ← match scripts, g.operands with
    | [], [] => return ← explain 1
    | [], script :: rest => pure ([(script, none)], rest)
    | scripts, operands =>
      let parts ← scripts.mapM fun (key, value) => do
        if key = "e" then return (some (value, (none : Option String)))
        match ← contents value with
        | .ok content =>
          let text := Octets.write content
          let text := if text.endsWith "\n" then (text.dropEnd 1).toString else text
          return some (text, some value)
        | .error r =>
          discard (complain name ("couldn't open file " ++ value ++ ": " ++ r.reason))
          return none
      if parts.any Option.isNone then return 4
      pure (parts.filterMap id, operands)
  let text := "\n".intercalate (parts.map Prod.fst)
  let (script, goals) := Edit.Edits.read (g.has "E" || g.has "r") text
  let goals := goals.filter fun path => path != "/dev/stdout" && path != "/dev/stderr"
  if let some text ← openGoals goals then
    discard (complain name text)
    return 4
  match script with
  | .error fault => complain name (faultText parts fault)
  | .ok script =>
    let inPlace := g.has "i"
    let isSeparate := inPlace || g.has "s"
    let isQuiet := g.has "n" || text = "#n" || text.startsWith "#n\n"
    let t ← tree
    let hasMore := (← peekAll 0).any Prod.snd
    let (groups, status) ← (if inPlace then operands else orIncoming operands).foldlM
      (fun (groups, status) path => do
        if inPlace && t.isDirectory (Octets.toText path) then
          discard (complain name ("couldn't edit " ++ path ++ ": not a regular file"))
          return (groups, 4)
        match ← contentsBy peeked path with
        | .ok content => return (sourcesOf path content :: groups, status)
        | .error (.unopened reason) =>
          discard (complain name ("can't read " ++ path ++ ": " ++ reason))
          return (groups, max status 2)
        | .error (.unread reason) =>
          discard (complain name ("read error on " ++ path ++ ": " ++ reason))
          return (groups, 4)) (([] : List (List Edit.Source)), 0)
    let groups := groups.reverse
    let input := if isSeparate then groups.flatMap (counted hasMore)
      else counted hasMore groups.flatten
    let files := script.sources.eraseDups.filterMap fun path =>
      ((t.read (Octets.toText path)).toOption).map fun octets =>
        (path, (wholeLines ⟨octets.toArray⟩).map Octets.write)
    let width := match g.value? "l" with
      | some n => decimalValue n.toList
      | none => 70
    let (s, outcome) := Edit.run ⟨isQuiet, inPlace, width⟩ script input files
    (orIncoming operands).eraseDups.forM (settleLines (if g.has "u" then 1 else 4096) s.input)
    let written (goal : Edit.Goal) : String :=
      String.join (((s.written.lookup goal).getD []).reverse)
    discard (say 1 (written .output))
    discard (say 2 (written (.file "/dev/stderr")))
    goals.forM fun path => do
      match t.target (Octets.toText path) with
      | .ok place => fill place (Octets.read (written (.file path)))
      | .error _ => pure ()
    if inPlace then
      let isReached (path : String) : Bool :=
        t.isFile (Octets.toText path) && !s.input.any fun line => line.file == path && line.isFirst
      (operands.filter isReached).forM fun path => do
        let ending := (g.value? "i").getD ""
        match t.locate (Octets.toText path), t.target (Octets.toText (path ++ ending)) with
        | .ok place, .ok kept =>
          if !ending.isEmpty then put kept (.file (t.content place) (t.mode place))
          fill place (Octets.read (written (.edited path)))
        | _, _ => pure ()
    match outcome with
    | .error text => complain name ("-e expression #1, char 0: " ++ text)
    | .ok last => return if last ≠ 0 then last else status

end Cosim.Script.Tool
