import Cosim.Script.Tool.Amount
import Cosim.Script.Tool.Basic
import Cosim.Script.Tool.Saying

namespace Cosim.Script.Tool

open Cosim.Files Cosim.Numeral Cosim.Text Step

def each (operands : List String) (step : String → Step Nat) : Step Nat :=
  operands.foldlM (fun status operand => return max status (← step operand)) 0

def isAgreed (name question : String) : Step Bool := do
  discard (say 2 (name ++ ": " ++ question ++ "? "))
  let answer ← readLine 0
  return answer[0]? = some 121 || answer[0]? = some 89

def isAgreedIf (asks : Bool) (name question : String) : Step Bool :=
  if asks then isAgreed name question else pure true

def kindOf : Node → String
  | .directory => "directory"
  | .device _ => "character special file"
  | .file content _ => if content.isEmpty then "regular empty file" else "regular file"

def touch (name : String) (args : List String) : Step Nat := do
  let g := Given.read
    [flag "a", flag "c" "no-create", setting "d" "date", flag "f", flag "h" "no-dereference",
      flag "m", setting "r" "reference", setting "t", setting "time" "time"] args
  obey name g anyValue do
    if g.operands.isEmpty then return ← usage name "missing file operand"
    each g.operands fun path => do
      let t ← tree
      if t.has (Octets.toText path) then return 0
      if g.has "c" then return 0
      match t.target (Octets.toText path) with
      | .error e =>
        if path.endsWith "/" then
          let e := if t.isFile (Octets.toText (pathAbove path ++ "/" ++ lastName path "")) then
              Errno.notDirectory else .noEntry
          complain name ("setting times of " ++ quoted path ++ ": " ++ e.text)
        else complain name ("cannot touch " ++ quoted path ++ ": " ++ e.text)
      | .ok place => fill place .empty *> pure 0

def makeDirectory (path : String) : Step (Except Errno Unit) := do
  let t ← tree
  match t.makeDirectory (Octets.toText path), t.locate (Octets.toText path) with
  | .error e, _ | _, .error e => return .error e
  | .ok _, .ok place => return .ok (← put place .directory)

def leading (path : String) : List String :=
  let names := pieces (String.ofList (Blank.dropEndWhile (· == '/') path.toList))
  let paths := (List.range (names.length - 1)).filterMap fun n =>
    if names[n]? = some "" then none else some (Path.joined (names.take (n + 1)))
  paths ++ [path]

def mkdir (name : String) (args : List String) : Step Nat := do
  let g := Given.read
    [setting "m" "mode", flag "p" "parents", flag "v" "verbose", ⟨"Z", "context", .attached⟩] args
  obey name g anyValue do
    if g.operands.isEmpty then return ← usage name "missing operand"
    each g.operands fun path => do
      let make (path : String) : Step Nat := do
        match ← makeDirectory path with
        | .ok () =>
          if g.has "v" then discard (sayLine 1 (name ++ ": created directory " ++ quoted path))
          return 0
        | .error e =>
          let bare := String.ofList (Blank.dropEndWhile (· == '/') path.toList)
          let e := if (← tree).has (Octets.toText bare) then Errno.exists else e
          complain name ("cannot create directory " ++ quoted path ++ ": " ++ e.text)
      if !g.has "p" || path.isEmpty then make path
      else (leading path).foldlM (fun status below => do
        let t ← tree
        if status ≠ 0 || t.isDirectory (Octets.toText below) then return status
        if t.has (Octets.toText below) then
          let e := if below = path then Errno.exists else .notDirectory
          complain name ("cannot create directory " ++ quoted below ++ ": " ++ e.text)
        else make below) 0

def ln (name : String) (args : List String) : Step Nat := do
  let g := Given.read
    [flag "f" "force", flag "L" "logical", flag "n" "no-dereference", flag "P" "physical",
      flag "r" "relative", setting "t" "target-directory", flag "T" "no-target-directory",
      flag "v" "verbose"] args
  obey name g anyValue do
    if g.has "r" then return ← complain name "cannot do --relative without --symbolic"
    let given := g.operands ++ (g.value? "t").toList
    match given.reverse with
    | [] => usage name "missing file operand"
    | last :: others =>
      let t ← tree
      let isInto := !g.has "T" && t.isDirectory (Octets.toText last)
      if (2 ≤ others.length || g.has "t") && !isInto then
        let e := if t.has (Octets.toText last) then Errno.notDirectory else .noEntry
        return ← complain name ("target " ++ quoted last ++ ": " ++ e.text)
      let sources := if others.isEmpty then [last] else others.reverse
      each sources fun source => do
        let goal := if others.isEmpty then "./" ++ lastName source ""
          else if isInto then joinText last (lastName source "") else last
        let t ← tree
        let isSame := match t.locate (Octets.toText source), t.locate (Octets.toText goal) with
          | .ok a, .ok b => a == b
          | _, _ => false
        match t.find (Octets.toText source), t.target (Octets.toText goal) with
        | .error e, _ => complain name ("failed to access " ++ quoted source ++ ": " ++ e.text)
        | .ok .directory, _ =>
          complain name (shown source ++ ": hard link not allowed for directory")
        | .ok _, .error e =>
          let isThere := t.isDirectory (Octets.toText goal)
          complain name ("failed to create hard link " ++ quoted goal ++
            if isThere then ": " ++ Errno.exists.text
            else " => " ++ quoted source ++ ": " ++ e.text)
        | .ok node, .ok place =>
          if g.has "f" && isSame then
            complain name (quoted source ++ " and " ++ quoted goal ++ " are the same file")
          else if (t.node? place).isSome && !g.has "f" then
            complain name ("failed to create hard link " ++ quoted goal ++ ": " ++
              Errno.exists.text)
          else
            put place node
            if g.has "v" then discard (sayLine 1 (quoted goal ++ " => " ++ quoted source))
            return 0

def truncate (name : String) (args : List String) : Step Nat := do
  let g := Given.read
    [flag "c" "no-create", flag "o" "io-blocks", setting "r" "reference", setting "s" "size"] args
  let size := (g.value? "s").getD ""
  let sign := (size.toList.head?.filter "+-<>/%".toList.contains).getD '='
  let number := if sign = '=' then size else (size.drop 1).toString
  let check (key value : String) : Option String :=
    if key = "s" && (Amount.read number).toOption.isNone then
      some ("Invalid number: " ++ quoted value)
    else none
  obey name g check do
    if !g.has "s" then
      return ← usage name "you must specify either '--size' or '--reference'"
    if g.operands.isEmpty then return ← usage name "missing file operand"
    let n := (Amount.read number).toOption.getD 0
    each g.operands fun path => do
      let t ← tree
      match t.target (Octets.toText path) with
      | .error e =>
        complain name ("cannot open " ++ quoted path ++ " for writing: " ++ e.text)
      | .ok place =>
        if (t.node? place).isNone && g.has "c" then return 0
        let old := t.content place
        let size := match sign with
          | '+' => old.size + n
          | '-' => old.size - n
          | '<' => min old.size n
          | '>' => max old.size n
          | '/' => old.size / n * n
          | '%' => (old.size + n - 1) / n * n
          | _ => n
        fill place (old.extract 0 size ++ ⟨Array.replicate (size - old.size) 0⟩)
        return 0

def removeAll (isLoud : Bool) (path : String) (place : Location) : Step Unit := do
  let t ← tree
  let below := (t.entries.filter fun e => place.isPrefixOf e.1).mergeSort fun a b =>
    decide (b.1.length ≤ a.1.length)
  below.forM fun (other, node) => do
    remove other
    if isLoud then
      let shownPath := joinText path (Path.joined ((other.drop place.length).map Octets.ofText))
      let shownPath := if other = place then path else shownPath
      discard (sayLine 1 ((if node = .directory then "removed directory " else "removed ") ++
        quoted shownPath))

def rm (name : String) (args : List String) : Step Nat := do
  let g := Given.read
    [flag "d" "dir", flag "f" "force", flag "i", flag "I",
      ⟨"interactive", "interactive", .attached⟩,
      flag "one-file-system" "one-file-system", flag "no-preserve-root" "no-preserve-root",
      ⟨"preserve-root", "preserve-root", .attached⟩, flag "r" "recursive", flag "R",
      flag "v" "verbose"] args
  obey name g anyValue do
    let isForced := g.last? ["f", "i", "I", "interactive"] = some "f"
    let asks := g.last? ["f", "i", "I", "interactive"] = some "i"
    let isDeep := g.has "r" || g.has "R"
    if g.operands.isEmpty then
      return ← if g.has "f" then pure 0 else usage name "missing operand"
    each g.operands fun path => do
      let refuse (e : String) : Step Nat :=
        complain name ("cannot remove " ++ quoted path ++ ": " ++ e)
      let t ← tree
      match t.locate (Octets.toText path) with
      | .error e => if isForced && e != .nameTooLong then return 0 else refuse e.text
      | .ok place =>
        match t.node? place with
        | none => if isForced then return 0 else refuse Errno.noEntry.text
        | some .directory =>
          let last := lastName path ""
          if !isDeep && !g.has "d" then refuse Errno.isDirectory.text
          else if last = "." || last = ".." then
            complain name ("refusing to remove '.' or '..' directory: skipping " ++ quoted path)
          else if place.isEmpty then
            discard (complain name "it is dangerous to operate recursively on '/'")
            complain name "use --no-preserve-root to override this failsafe"
          else
            let isEmpty := (t.children (Octets.toText path)).isEmpty
            if !isDeep && !isEmpty then refuse "Directory not empty"
            else
              if ← isAgreedIf asks name
                  ((if isEmpty then "remove directory " else "descend into directory ") ++
                    quoted path) then
                removeAll (g.has "v") path place
              return 0
        | some node =>
          if ← isAgreedIf asks name ("remove " ++ kindOf node ++ " " ++ quoted path) then
            remove place
            if g.has "v" then discard (sayLine 1 ("removed " ++ quoted path))
          return 0

def rmdir (name : String) (args : List String) : Step Nat := do
  let g := Given.read
    [flag "ignore" "ignore-fail-on-non-empty", flag "p" "parents", flag "v" "verbose"] args
  obey name g anyValue do
    if g.operands.isEmpty then return ← usage name "missing operand"
    each g.operands fun path => do
      let removeOne (path : String) (isFirst : Bool) : Step Nat := do
        let refuse (text : String) : Step Nat :=
          complain name ("failed to remove " ++ (if isFirst then "" else "directory ") ++
            quoted path ++ ": " ++ text)
        if g.has "v" then discard (sayLine 1 (name ++ ": removing directory, " ++ quoted path))
        let t ← tree
        match t.find (Octets.toText path), t.locate (Octets.toText path) with
        | .ok .directory, .ok place =>
          if lastName path "" = "." then refuse "Invalid argument"
          else if (t.children (Octets.toText path)).isEmpty then
            remove place
            return 0
          else if g.has "ignore" then return 0
          else refuse "Directory not empty"
        | .ok _, _ => refuse Errno.notDirectory.text
        | .error e, _ => refuse e.text
      let above := if g.has "p" then (leading path).dropLast.reverse else []
      let status ← removeOne path true
      above.foldlM (fun status path => do
        if status ≠ 0 then return status
        removeOne path false) status

def unlink (name : String) (args : List String) : Step Nat := do
  let g := Given.read [] args
  obey name g anyValue do
    match g.operands with
    | [] => usage name "missing operand"
    | [path] =>
      let refuse (e : Errno) : Step Nat :=
        complain name ("cannot unlink " ++ quoted path ++ ": " ++ e.text)
      let t ← tree
      match t.find (Octets.toText path), t.locate (Octets.toText path) with
      | .ok .directory, _ => refuse .isDirectory
      | .ok _, .ok place => remove place *> pure 0
      | .error e, _ | _, .error e => refuse e
    | _ :: extra :: _ => usage name ("extra operand " ++ quoted extra)

/-- How files are copied or moved: whether they are taken away, whether directories are copied too,
whether what is there is kept, whether each step is told, whether questions are asked, whether modes
go along, and whether the target is no directory to copy into. -/
structure Transfer where
  name : String
  moves : Bool
  isDeep : Bool
  keeps : Bool
  isLoud : Bool
  asks : Bool
  takesModes : Bool
  isExact : Bool

namespace Transfer

def tell (r : Transfer) (source goal : String) : Step Unit := do
  if r.isLoud then
    discard (sayLine 1 ((if r.moves then "renamed " else "") ++ quoted source ++ " -> " ++
      quoted goal))

def copyFile (r : Transfer) (source goal : String) (node : Node) (place : Location) : Step Nat := do
  let t ← tree
  let (content, runnable) := match node with
    | .file content runnable => (content, runnable)
    | _ => (.empty, false)
  match t.node? place with
  | some (.device _) => pure ()
  | some (.file _ old) => put place (.file content (if r.takesModes then runnable else old))
  | _ => put place (.file content runnable)
  r.tell source goal
  return 0

/-- Copy a directory with all that is below it, except for the copy itself. -/
def copyDirectory (r : Transfer) (source goal : String) (place target : Location) : Step Nat := do
  let t ← tree
  let below := (t.entries.filter fun e => place.isPrefixOf e.1 && !target.isPrefixOf e.1).mergeSort
    fun a b => !(b.1.lex a.1 fun m n => decide (m < n))
  let below := if below.any (·.1 == place) then below else (place, .directory) :: below
  below.forM fun (other, node) => do
    let rest := other.drop place.length
    let new := target ++ rest
    let path (stem : String) : String :=
      if rest.isEmpty then stem else joinText stem (Path.joined (rest.map Octets.ofText))
    match node with
    | .directory =>
      if ((← tree).node? new).isNone then
        put new .directory
        r.tell (path source) (path goal)
    | node => discard (r.copyFile (path source) (path goal) node new)
  if place.isPrefixOf target then
    complain r.name ("cannot copy a directory, " ++ quoted source ++ ", into itself, " ++
      quoted goal)
  else return 0

def one (r : Transfer) (source goal : String) : Step Nat := do
  let t ← tree
  let complain (text : String) : Step Nat := complain r.name text
  match t.find (Octets.toText source), t.locate (Octets.toText source) with
  | .error e, _ | _, .error e => complain ("cannot stat " ++ quoted source ++ ": " ++ e.text)
  | .ok node, .ok place =>
    if node = .directory && !r.moves && !r.isDeep then
      return ← complain ("-r not specified; omitting directory " ++ quoted source)
    let goalPath := Octets.toText goal
    let stem := String.ofList (Blank.dropEndWhile (· == '/') goalPath.toList)
    let found := t.locate (if stem.isEmpty then goalPath else stem)
    let present := found.toOption.bind t.node?
    match found with
    | .error .notDirectory =>
      complain ("cannot stat " ++ quoted goal ++ ": " ++ Errno.notDirectory.text)
    | .error e =>
      if r.moves then
        complain ("cannot move " ++ quoted source ++ " to " ++ quoted goal ++ ": " ++ e.text)
      else complain ("cannot create " ++ (if node = .directory then "directory " else
        "regular file ") ++ quoted goal ++ ": " ++ e.text)
    | .ok target =>
      match node, present with
      | .directory, some (.file ..) | .directory, some (.device _) =>
        complain ("cannot overwrite non-directory " ++ quoted goal ++ " with directory " ++
          quoted source)
      | .file .., some .directory | .device _, some .directory =>
        complain ("cannot overwrite directory " ++ quoted goal ++ " with non-directory")
      | node, present =>
        if target = place && node ≠ .directory then
          return ← complain (quoted source ++ " and " ++ quoted goal ++ " are the same file")
        if present.isSome && node ≠ .directory then
          if r.keeps then return 0
          if !(← isAgreedIf r.asks r.name ("overwrite " ++ quoted goal)) then return 1
        if node ≠ .directory && goal.endsWith "/" then
          return ← if r.moves then
              complain ("cannot move " ++ quoted source ++ " to " ++ quoted goal ++ ": " ++
                Errno.notDirectory.text)
            else complain ("cannot create regular file " ++ quoted goal ++ ": " ++
              Errno.notDirectory.text)
        match t.node? target.dropLast with
        | some .directory => pure ()
        | above =>
          let e := if above.isSome then Errno.notDirectory else .noEntry
          return ← if r.moves then
              complain ("cannot move " ++ quoted source ++ " to " ++ quoted goal ++ ": " ++ e.text)
            else complain ("cannot create " ++ (if node = .directory then "directory " else
              "regular file ") ++ quoted goal ++ ": " ++ e.text)
        match r.moves, node with
        | false, .directory => r.copyDirectory source goal place target
        | false, node => r.copyFile source goal node target
        | true, node =>
          if place.isPrefixOf target && node = .directory then
            return ← complain ("cannot move " ++ quoted source ++
              " to a subdirectory of itself, " ++
              quoted goal)
          if node = .directory && present = some .directory &&
              !(t.children (Octets.toText goal)).isEmpty then
            return ← complain ("cannot overwrite " ++ quoted goal ++ ": Directory not empty")
          if present.any Node.isDevice then
            remove place
          else move place target
          r.tell source goal
          return 0

end Transfer

def transferSwitches (moves : Bool) : List Switch :=
  [flag "f" "force", flag "i" "interactive", flag "n" "no-clobber",
    setting "t" "target-directory", flag "T" "no-target-directory", ⟨"update", "update", .attached⟩,
    flag "u", flag "v" "verbose", setting "S" "suffix", flag "b", ⟨"backup", "backup", .attached⟩,
    flag "strip-trailing-slashes" "strip-trailing-slashes", flag "Z"] ++
  if moves then []
  else [flag "a" "archive", flag "d", flag "H", flag "l" "link", flag "L" "dereference",
    flag "P" "no-dereference", flag "p", ⟨"preserve", "preserve", .attached⟩, flag "r" "recursive",
    flag "R", flag "s" "symbolic-link", flag "x" "one-file-system",
    ⟨"reflink", "reflink", .attached⟩, flag "parents" "parents"]

def transfer (moves : Bool) (name : String) (args : List String) : Step Nat := do
  let g := Given.read (transferSwitches moves) args
  obey name g anyValue do
    let r : Transfer := ⟨name, moves, ["r", "R", "a"].any g.has,
      g.last? ["n", "f", "i"] = some "n", g.has "v", g.last? ["n", "f", "i"] = some "i",
      ["a", "p", "preserve"].any g.has, g.has "T"⟩
    let t ← tree
    let missing (last : Option String) : Step Nat :=
      match last with
      | none => usage name "missing file operand"
      | some source => usage name ("missing destination file operand after " ++ quoted source)
    let into (target : String) (sources : List String) : Step Nat := do
      let (_, status) ← sources.foldlM (fun (made, status) source => do
        let last := lastName source ""
        let goal := if last = ".." then joinText target "." else joinText target last
        if (made : List String).contains goal && !moves &&
          (← tree).isFile (Octets.toText source) then
          let text := "will not overwrite just-created " ++ quoted goal ++ " with " ++ quoted source
          return (made, ← complain name text)
        let found ← r.one source goal
        return (if found = 0 then goal :: made else made, max status found)) (([] : List String), 0)
      return status
    match g.value? "t", g.operands.reverse with
    | some _, [] => missing none
    | some target, sources =>
      if t.isDirectory (Octets.toText target) then into target sources.reverse
      else
        let e := if t.has (Octets.toText target) then Errno.notDirectory else .noEntry
        complain name ("target directory " ++ quoted target ++ ": " ++ e.text)
    | none, [] => missing none
    | none, [source] => missing (some source)
    | none, [target, source] =>
      if !r.isExact && t.isDirectory (Octets.toText target) then into target [source]
      else r.one source target
    | none, target :: sources =>
      if r.isExact then usage name ("extra operand " ++ quoted target)
      else match t.find (Octets.toText target) with
        | .ok .directory => into target sources.reverse
        | .ok _ => complain name ("target " ++ quoted target ++ ": " ++ Errno.notDirectory.text)
        | .error e => complain name ("target " ++ quoted target ++ ": " ++ e.text)

/-- What a clause of a mode makes of whether a file may be run, if it is one. -/
def clause? (runnable : Bool) (text : List Char) : Option Bool :=
  let who := text.takeWhile "ugoa".toList.contains
  let isAll := who.isEmpty || who.contains 'a' || "ugo".toList.all who.contains
  match text.drop who.length with
  | [] => none
  | sign :: rest =>
    if !"+-=".toList.contains sign then none
    else (Blank.cut "+-=".toList.contains rest).zip (sign :: rest.filter "+-=".toList.contains)
      |>.foldlM (fun runnable (letters, sign) =>
        if !letters.all "rwxXstugo".toList.contains then none
        else
          let gives := letters.contains 'x' || (letters.contains 'X' && runnable)
          match sign with
          | '+' => some (runnable || gives)
          | '-' => some (runnable && !(gives && isAll))
          | _ => some (gives || (runnable && !isAll))) runnable

/-- What a mode makes of whether a file may be run, if it is one. -/
def mode? (runnable : Bool) (mode : String) : Option Bool :=
  if isDecimal mode.toList then
    if mode.toList.all (fun c => c ≤ '7') && decimalValue mode.toList ≤ 7777 then
      some ((mode.toList.reverse.take 3).any fun c => decimalValue [c] % 2 == 1)
    else none
  else (Blank.cut (· == ',') mode.toList).foldlM clause? runnable

def chmod (name : String) (args : List String) : Step Nat := do
  let isMode (arg : String) : Bool :=
    match arg.toList with
    | '-' :: c :: rest => (c :: rest).all "rwxXstugoa,+=-".toList.contains && c ≠ '-'
    | _ => false
  let modes := args.filter isMode
  let g := Given.read
    [flag "R" "recursive", flag "c" "changes", flag "f" "silent", flag "f" "quiet",
      flag "v" "verbose", setting "reference" "reference"] (args.filter (!isMode ·))
  obey name g anyValue do
    let operands := modes ++ g.operands
    match operands with
    | [] => usage name "missing operand"
    | [mode] => usage name ("missing operand after " ++ quoted mode)
    | mode :: paths =>
      if (mode? false mode).isNone then return ← usage name ("invalid mode: " ++ quoted mode)
      each paths fun path => do
        let t ← tree
        match t.locate (Octets.toText path), t.find (Octets.toText path) with
        | .ok place, .ok _ =>
          let below := t.entries.filter fun e =>
            e.1 == place || (g.has "R" && place.isPrefixOf e.1)
          below.forM fun (other, node) => match node with
            | .file content runnable =>
              let new := (mode? runnable mode).getD runnable
              if new = runnable then pure () else put other (.file content new)
            | _ => pure ()
          return 0
        | _, .error e | .error e, _ =>
          if g.has "f" then return 1
          complain name ("cannot access " ++ quoted path ++ ": " ++ e.text)

end Cosim.Script.Tool
