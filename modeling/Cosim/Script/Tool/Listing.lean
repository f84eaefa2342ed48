import Cosim.Script.Format
import Cosim.Script.Pattern
import Cosim.Script.Tool.Making
import Cosim.Script.Tool.Sorting

namespace Cosim.Script.Tool

open Cosim.Files Cosim.Numeral Cosim.Text Step

def lsSwitches : List Switch :=
  [flag "a" "all", flag "A" "almost-all", flag "b" "escape", flag "B" "ignore-backups", flag "c",
    flag "C", ⟨"color", "color", .attached⟩, flag "d" "directory", flag "f", flag "F",
    ⟨"classify", "classify", .attached⟩, flag "file-type" "file-type", setting "format" "format",
    flag "G" "no-group", flag "group-directories-first" "group-directories-first",
    setting "hide" "hide", setting "indicator-style" "indicator-style", setting "I" "ignore",
    flag "k" "kibibytes", flag "L" "dereference", flag "H" "dereference-command-line", flag "m",
    flag "N" "literal", flag "p", flag "q" "hide-control-chars", flag "Q" "quote-name",
    setting "quoting-style" "quoting-style", flag "r" "reverse", flag "R" "recursive", flag "S",
    setting "sort" "sort", flag "t", setting "T" "tabsize", flag "u", flag "U", flag "v",
    setting "w" "width", flag "x", flag "X", flag "zero" "zero", flag "1"]

/-- How names are put beside each other: one in a line, in rows with commas, in columns, or in rows
of columns. -/
inductive Layout where
  | lines
  | commas
  | down
  | across
deriving DecidableEq

/-- The order of names. -/
inductive NameOrder where
  | octets
  | size
  | ending
  | version
  | length
  | given
deriving DecidableEq

/-- How names are listed. Without a width there is no end to a row. -/
structure Listing where
  showsAll : Bool
  showsHidden : Bool
  hides : List String
  order : NameOrder
  directoriesFirst : Bool
  isReversed : Bool
  marksDirectories : Bool
  marksPrograms : Bool
  inQuotes : Bool
  layout : Layout
  width : Nat
  tab : Nat
  stop : String

namespace Listing

def bareName (l : Listing) (name : String) : String :=
  if l.inQuotes then "\"" ++ name ++ "\"" else name

def shownName (l : Listing) (name : String) (node : Node) : String :=
  match node with
  | .directory => if l.marksDirectories then l.bareName name ++ "/" else l.bareName name
  | .file _ runnable =>
    if runnable && l.marksPrograms then l.bareName name ++ "*" else l.bareName name
  | .device _ => l.bareName name

def sizeOf : Node → Nat
  | .file content _ => content.size
  | .directory => 4096
  | .device _ => 0

def ending (name : String) : String :=
  if name.toList.contains '.' then
    "." ++ String.ofList (name.toList.reverse.takeWhile (· != '.')).reverse
  else ""

def sorted (l : Listing) (names : List (String × Node)) : List (String × Node) :=
  let byName := names.mergeSort fun a b => decide (a.1 ≤ b.1)
  let names := match l.order with
    | .octets => byName
    | .size => byName.mergeSort fun a b => decide (sizeOf b.2 ≤ sizeOf a.2)
    | .ending => byName.mergeSort fun a b => decide (ending a.1 ≤ ending b.1)
    | .version => byName.mergeSort fun a b => compareVersions a.1.toList b.1.toList != .gt
    | .length => byName.mergeSort fun a b => decide (a.1.length ≤ b.1.length)
    | .given => names
  let names := if l.isReversed && l.order != .given then names.reverse else names
  if l.directoriesFirst then
    names.filter (·.2 = .directory) ++ names.filter (·.2 ≠ .directory)
  else names

def commaRows (l : Listing) (names : List String) : String :=
  (names.foldl (fun (text, column) name =>
    if column = none then (name, some name.length)
    else
      let column := column.getD 0
      if l.width = 0 || column + name.length + 2 < l.width then
        (text ++ ", " ++ name, some (column + name.length + 2))
      else (text ++ ",\n" ++ name, some name.length)) ("", (none : Option Nat))).1 ++ "\n"

def columnWidths (isDown : Bool) (names : List String) (columns : Nat) : List Nat :=
  let rows := (names.length + columns - 1) / columns
  names.zipIdx.foldl (fun widths (name, i) =>
    let k := if isDown then i / rows else i % columns
    widths.modify k (max (name.length + if k + 1 = columns then 0 else 2)))
    (List.replicate columns 3)

def bestWidths (l : Listing) (names : List String) : List Nat :=
  let most := min names.length ((l.width + 2) / 3)
  let isDown := l.layout = .down
  ((List.range most).reverse.map (· + 1)).findSome? (fun columns =>
    let widths := columnWidths isDown names columns
    if columns = 1 || sumOf widths < l.width then some widths else none) |>.getD [0]

def padding (tab : Nat) : Nat → Nat → Nat → List Char
  | 0, _, _ => []
  | fuel + 1, column, stop =>
    if stop ≤ column then []
    else if tab ≠ 0 && (column + 1) / tab < stop / tab then
      '\t' :: padding tab fuel (column + (tab - column % tab)) stop
    else ' ' :: padding tab fuel (column + 1) stop

def columnRow (tab : Nat) (widths : List Nat) (names : List String) : String :=
  ((names.zip widths).foldl (fun (text, column, start) (name, width) =>
    (text ++ String.ofList (padding tab start column start) ++ name, start + name.length,
      start + width)) ("", 0, 0)).1

def columns (l : Listing) (names : List String) : String :=
  let widths := l.bestWidths names
  let count := widths.length
  let rows := (names.length + count - 1) / count
  String.join ((List.range rows).map fun row =>
    let names := if l.layout = .down then
        (List.range count).filterMap fun k => names[k * rows + row]?
      else (names.drop (row * count)).take count
    columnRow l.tab widths names ++ l.stop)

def text (l : Listing) (names : List (String × Node)) : String :=
  let names := (l.sorted names).map fun (name, node) => l.shownName name node
  if names.isEmpty then ""
  else match l.layout with
    | .lines => String.join (names.map (· ++ l.stop))
    | .commas => l.commaRows names
    | .down | .across =>
      if l.width = 0 then "  ".intercalate names ++ l.stop else l.columns names

def children (l : Listing) (t : Tree) (path : String) : List (String × Node) :=
  let named (name : String) : String × Node :=
    (name, ((t.find (Octets.toText (joinText path name))).toOption).getD .directory)
  let names := ((t.children (Octets.toText path)).map Octets.ofText).filter fun name =>
    (l.showsHidden || l.showsAll || !name.startsWith ".") &&
      l.hides.all fun pattern =>
        !Pattern.isMatch (pattern.toList.map fun c => (c, false)) name
  ((if l.showsAll then [".", ".."] else []) ++ names).map named

def directoriesFrom (l : Listing) (t : Tree) : Nat → String → List String
  | 0, path => [path]
  | fuel + 1, path =>
    let below := (l.sorted (l.children t path)).filter fun (name, node) =>
      node = .directory && name != "." && name != ".."
    path :: below.flatMap fun (name, _) => directoriesFrom l t fuel (joinText path name)

end Listing

def rowWidth? (text : String) : Option Nat :=
  match text.toList with
  | '0' :: x :: ds =>
    if (x = 'x' || x = 'X') && isHex ds then some (hexValue ds)
    else if (x :: ds).all fun c => '0' ≤ c && c ≤ '7' then
      some (valueBy Format.octalDigit? 8 (x :: ds))
    else none
  | ds => if isDecimal ds then some (decimalValue ds) else none

def ls (layout : Layout) (name : String) (environment : List (String × String))
    (args : List String) : Step Nat := do
  let g := Given.read lsSwitches args
  let formats := [["verbose", "long"], ["commas"], ["horizontal", "across"], ["vertical"],
    ["single-column"]]
  let sorts := [["none"], ["time"], ["size"], ["extension"], ["version"], ["width"]]
  let colors := [["always", "yes", "force"], ["never", "no", "none"], ["auto", "tty", "if-tty"]]
  let styles := [["none"], ["slash"], ["file-type"], ["classify"]]
  let word (key value : String) : Except String String :=
    match key with
    | "format" => chosen name "--format" formats value
    | "sort" => chosen name "--sort" sorts value
    | "color" => chosen name "--color" colors (if value.isEmpty then "always" else value)
    | "classify" => chosen name "--classify" colors (if value.isEmpty then "always" else value)
    | "indicator-style" => chosen name "--indicator-style" styles value
    | _ => .ok value
  let check (key value : String) : Option String :=
    match key with
    | "w" => if (rowWidth? value).isSome then none
        else some ("invalid line width: " ++ quoted value)
    | "T" => if (rowWidth? value).isSome then none
        else some ("invalid tab size: " ++ quoted value)
    | key => complaintOf (word key value)
  let wordOf (key value : String) : String := ((word key value).toOption).getD ""
  let isWord := (g.found.find? fun (key, value) => (check key value).isSome).any fun (key, _) =>
    key != "w" && key != "T"
  obeyOr (if isWord then 1 else 2) name g check do
    let layout := (g.found.foldl (fun (layout : Layout) (key, value) =>
      match key, wordOf key value with
      | "m", _ | "format", "commas" => .commas
      | "C", _ | "format", "vertical" => .down
      | "x", _ | "format", "horizontal" => .across
      | "1", _ | "zero", _ | "format", _ => .lines
      | _, _ => layout) layout)
    let order := g.found.foldl (fun (order : NameOrder) (key, value) =>
      match key, wordOf key value with
      | "S", _ | "sort", "size" => .size
      | "X", _ | "sort", "extension" => .ending
      | "v", _ | "sort", "version" => .version
      | "sort", "width" => .length
      | "U", _ | "f", _ | "sort", "none" => .given
      | _, _ => order) .octets
    let style := g.found.foldl (fun style (key, value) =>
      match key with
      | "p" => "slash"
      | "F" => "classify"
      | "classify" => if wordOf key value == "always" then "classify" else style
      | "file-type" => "file-type"
      | "indicator-style" => wordOf key value
      | _ => style) "none"
    let width ← match g.value? "w", environment.lookup "COLUMNS" with
      | some value, _ => pure ((rowWidth? value).getD 80)
      | none, some value =>
        if layout = .lines || value.isEmpty then pure 80
        else match rowWidth? value with
          | some n => pure n
          | none =>
            discard (complain name
              ("ignoring invalid width in environment variable COLUMNS: " ++ quoted value))
            pure 80
      | none, none => pure 80
    let l : Listing :=
      { showsAll := g.last? ["a", "A", "f"] = some "a" || g.has "f"
        showsHidden := g.last? ["a", "A"] = some "A"
        hides := g.found.filterMap (fun (key, value) =>
          if key = "I" || key = "hide" then some value else none) ++
          if g.has "B" then ["*~"] else []
        order := order
        directoriesFirst := g.has "group-directories-first"
        isReversed := g.has "r"
        marksDirectories := style != "none"
        marksPrograms := style == "classify"
        inQuotes := g.last? ["Q", "N"] = some "Q"
        layout := layout
        width := width
        tab := ((g.value? "T").bind rowWidth?).getD 8
        stop := if g.has "zero" then "\x00" else "\n" }
    let t ← tree
    let operands := if g.operands.isEmpty then ["."] else g.operands
    let status ← operands.foldlM (fun status path => do
      match t.find (Octets.toText path) with
      | .ok _ => return status
      | .error e =>
        discard (complain name ("cannot access " ++ quoted path ++ ": " ++ e.text))
        return 2) 0
    let found := operands.filterMap fun path =>
      (t.find (Octets.toText path)).toOption.map fun node => (path, node)
    let (directories, files) := found.partition fun e => e.2 = .directory && !g.has "d"
    let isNamed := operands.length ≠ 1 || g.has "R"
    let directories := (l.sorted directories).map Prod.fst
    let directories := if g.has "R" then
        directories.flatMap (l.directoriesFrom t t.entries.length)
      else directories
    let blocks := (if files.isEmpty then [] else [l.text files]) ++ directories.map fun path =>
      (if isNamed then l.bareName path ++ ":\n" else "") ++ l.text (l.children t path)
    discard (say 1 ("\n".intercalate blocks))
    return status

end Cosim.Script.Tool
