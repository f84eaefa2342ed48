import Cosim.Numeral.Digits
import Cosim.Script.Format
import Cosim.Script.Tool.Basic
import Cosim.Text.Blank

namespace Cosim.Script.Tool

open Cosim.Numeral Cosim.Text Step

abbrev Span := Nat × Option Nat

def spans (hasFields : Bool) (text : String) : Except String (List Span) :=
  (Blank.cut (fun c => c = ',' || c = ' ' || c = '\t') text.toList).mapM fun item =>
    let number (ds : List Char) : Except String Nat :=
      if 2 ^ 64 - 1 ≤ decimalValue ds then
        .error (if hasFields then "field number '" ++ String.ofList ds ++ "' is too large"
          else "byte/character offset '" ++ String.ofList ds ++ "' is too large")
      else .ok (decimalValue ds)
    let zero : Except String Span :=
      .error (if hasFields then "fields are numbered from 1"
        else "byte/character positions are numbered from 1")
    let low := item.takeWhile isDecimalDigit
    match item.drop low.length with
    | [] => do
      let n ← number low
      if n = 0 then zero else .ok (n, some n)
    | '-' :: rest =>
      let high := rest.takeWhile isDecimalDigit
      if high.length < rest.length then
        if (rest.drop high.length).head? = some '-' then
          .error (if hasFields then "invalid field range" else "invalid byte or character range")
        else fault (rest.drop high.length)
      else if low.isEmpty && high.isEmpty then .error "invalid range with no endpoint: -"
      else do
        let first ← if low.isEmpty then pure 1 else number low
        if first = 0 then zero
        else if high.isEmpty then .ok (first, none)
        else
          let last ← number high
          if last < first then .error "invalid decreasing range" else .ok (first, some last)
    | rest => fault rest
where
  fault (rest : List Char) : Except String Span :=
    .error ((if hasFields then "invalid field value " else "invalid byte/character position ") ++
      quoted (String.ofList rest))

def merged (list : List Span) : List Span :=
  ((list.mergeSort fun a b => decide (a.1 ≤ b.1)).foldl (fun (found : List Span) (low, high) =>
    match found with
    | (first, last) :: rest =>
      match last with
      | none => found
      | some n =>
        if low ≤ n then
          (first, match high with
            | none => none
            | some k => some (max n k)) :: rest
        else (low, high) :: found
    | [] => [(low, high)]) []).reverse

def complement (list : List Span) : List Span :=
  let (found, next) := list.foldl (fun ((found : List Span), (next : Option Nat)) (low, high) =>
    match next with
    | none => (found, none)
    | some n =>
      (if n < low then (n, some (low - 1)) :: found else found, high.map (· + 1)))
    ([], some 1)
  (match next with
    | some n => (n, none) :: found
    | none => found).reverse

def within {α : Type} (items : List α) (span : Span) : List α :=
  let kept := items.drop (span.1 - 1)
  match span.2 with
  | some last => kept.take (last + 1 - span.1)
  | none => kept

def cut (name : String) (args : List String) : Step Nat := do
  let g := Given.read
    [setting "b" "bytes", setting "c" "characters", setting "d" "delimiter", setting "f" "fields",
      flag "n", flag "s" "only-delimited", flag "complement" "complement",
      setting "output-delimiter" "output-delimiter", flag "z" "zero-terminated"] args
  let check (key value : String) : Option String :=
    if key = "d" && 1 < value.length then
      some ("the delimiter must be a single character\nTry '" ++ name ++
        " --help' for more information.")
    else none
  obey name g check do
    let lists := g.found.filter fun e => ["b", "c", "f"].contains e.1
    match lists with
    | [] => usage name "you must specify a list of bytes, characters, or fields"
    | _ :: _ :: _ => usage name "only one list may be specified"
    | [(key, text)] =>
      let hasFields := key = "f"
      if !hasFields && g.has "d" then
        return ← usage name "an input delimiter may be specified only when operating on fields"
      if !hasFields && g.has "s" then
        return ← usage name
          "suppressing non-delimited lines makes sense\n\tonly when operating on fields"
      match spans hasFields text with
      | .error text => usage name text
      | .ok list =>
        let list := merged list
        let list := if g.has "complement" then complement list else list
        let mark := (((g.value? "d").getD "\t").toList.headD '\x00')
        let divider := (g.value? "output-delimiter").getD
          (if hasFields then String.singleton mark else "")
        let one (line : String) : Option String :=
          if !hasFields then
            let parts := (list.map (within line.toList)).filter fun part => !part.isEmpty
            some (divider.intercalate (parts.map String.ofList))
          else if !line.toList.contains mark then if g.has "s" then none else some line
          else
            let fields := (Blank.cut (· == mark) line.toList).map String.ofList
            some (divider.intercalate (list.flatMap (within fields)))
        filter name g.operands fun found =>
          joinRecords g.mark ((found.flatMap (recordTexts g.mark)).filterMap one)

/-- The marks of a list, where a backslash begins an escape; the mark of nothing is empty. -/
def dividers : List Char → List String
  | [] => []
  | '\\' :: c :: rest =>
    (match c with
      | 'n' => "\n"
      | 't' => "\t"
      | '0' => ""
      | 'b' => "\x08"
      | 'f' => "\x0c"
      | 'r' => "\x0d"
      | 'v' => "\x0b"
      | c => String.singleton c) :: dividers rest
  | c :: rest => String.singleton c :: dividers rest

def interleaved (marks : List String) (parts : List String) : String :=
  match parts with
  | [] => ""
  | first :: rest =>
    first ++ String.join (rest.zipIdx.map fun (part, i) =>
      (marks[i % marks.length]?).getD "" ++ part)

/-- Lines made of the lines of several contents with the same number. -/
def sideBySide (marks : List String) (columns : List (List String)) : List String :=
  let size := (columns.map List.length).foldl max 0
  (List.range size).map fun i => interleaved marks (columns.map fun lines => (lines[i]?).getD "")

def dealt (takers : Nat) (lines : List String) : List (List String) :=
  (List.range takers).map fun k =>
    (lines.zipIdx.filter fun (_, i) => i % takers = k).map Prod.fst

def paste (name : String) (args : List String) : Step Nat := do
  let g := Given.read
    [setting "d" "delimiters", flag "s" "serial", flag "z" "zero-terminated"] args
  obey name g anyValue do
    let marks := match (g.value? "d").map fun s => dividers s.toList with
      | none => ["\t"]
      | some [] => [""]
      | some marks => marks
    let operands := orIncoming g.operands
    let takers := operands.count "-"
    let content ← if takers = 0 then pure .empty
      else if takers = operands.length && !g.has "s" then flowing 0
      else incoming 0
    let texts := recordTexts g.mark
    let shares := dealt takers (texts content)
    let (columns, _, fault) ← operands.foldlM (fun (columns, shares, fault) path => do
      if path = "-" then
        if g.has "s" then
          return ((shares : List (List String)).flatten :: columns, [], fault)
        return (shares.headD [] :: columns, shares.tail, fault)
      match ← contents path with
      | .ok content => return (texts content :: columns, shares, fault)
      | .error r =>
        if fault = 0 || g.has "s" then
          discard (complain name (shown path ++ ": " ++ r.reason))
        return (columns, shares, 1)) (([] : List (List String)), shares, 0)
    let columns := columns.reverse
    if g.has "s" then
      discard (sayOctets 1 (joinRecords g.mark (columns.map (interleaved marks))))
    else if fault = 0 then
      discard (sayOctets 1 (joinRecords g.mark (sideBySide marks columns)))
    return fault

end Cosim.Script.Tool
