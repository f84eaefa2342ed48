import Cosim.Script.Regex.Reader
import Cosim.Script.Tool.Amount
import Cosim.Script.Tool.Basic

namespace Cosim.Script.Tool

open Cosim.Numeral Step

def cutAt (separator : List Char) (isBefore : Bool) :
    Nat → List Char → List Char → List (List Char)
  | 0, before, _ | _ + 1, before, [] => if before.isEmpty then [] else [before.reverse]
  | fuel + 1, before, c :: rest =>
    if separator.isPrefixOf (c :: rest) then
      let after := (c :: rest).drop separator.length
      if isBefore then
        (if before.isEmpty then [] else [before.reverse]) ++
          cutAt separator isBefore fuel separator.reverse after
      else (before.reverse ++ separator) :: cutAt separator isBefore fuel [] after
    else cutAt separator isBefore fuel (c :: before) rest

def tac (name : String) (args : List String) : Step Nat := do
  let g := Given.read [flag "b" "before", flag "r" "regex", setting "s" "separator"] args
  let separator := match g.value? "s" with
    | none => "\n"
    | some "" => "\x00"
    | some s => s
  let turned (content : ByteArray) : ByteArray :=
    if separator = "\n" && !g.has "b" then joinContents (wholeLines content).reverse
    else
      let text := (Octets.write content).toList
      Octets.read (String.ofList
        (cutAt separator.toList (g.has "b") text.length [] text).reverse.flatten)
  obey name g anyValue do
    gather (orIncoming g.operands) fun a path => do
      match ← contents path with
      | .ok content => return a.add (turned content)
      | .error r =>
        let status ← complain name (match r with
          | .unopened reason => "failed to open " ++ quoted path ++ " for reading: " ++ reason
          | .unread "Is a directory" => shown path ++ ": read error: Invalid argument"
          | .unread reason => shown (if path = "-" then "standard input" else path) ++
              ": read error: " ++ reason)
        return { a with status := status }

def rev (name : String) (args : List String) : Step Nat := do
  let g := Given.read [flag "0" "zero"] args
  obey name g anyValue do
    gather (orIncoming g.operands) fun a path => do
      match ← flow path with
      | .ok content =>
        let turned (line : ByteArray) : ByteArray :=
          let text := lineText line
          Octets.read (String.ofList text.toList.reverse ++
            if line.size = text.length then "" else "\n")
        return a.add (joinContents ((wholeLines content).map turned))
      | .error r =>
        return { a with status := ← complain name ("cannot open " ++ path ++ ": " ++ r.reason) }

inductive Numbering where
  | all
  | filled
  | none
  | matching (r : Regex)

def Numbering.read (text : String) : Option (Except String Numbering) :=
  match text.toList with
  | ['a'] => some (.ok .all)
  | ['t'] => some (.ok .filled)
  | ['n'] => some (.ok .none)
  | 'p' :: pattern => match Regex.read .easy pattern with
    | .ok (r, _) => some (.ok (.matching r))
    | .error fault => some (.error fault.message)
  | _ => Option.none

def numberField (style : String) (width : Nat) (n : Int) : String :=
  let body := decimal n
  let fill := List.replicate (width - body.length) ' '
  String.ofList (match style with
    | "ln" => body ++ fill
    | "rz" => (if n < 0 then ['-'] else []) ++
        zeroFill (if n < 0 then width - 1 else width) (digits 10 n.natAbs)
    | _ => fill ++ body)

inductive PagePart where
  | header
  | body
  | footer

/-- How the lines of pages are numbered. Every so many blank lines in a row one counts. -/
structure Pagination where
  numbering : PagePart → Numbering
  divider : String
  start : Int
  step : Int
  keepsOn : Bool
  blanks : Nat
  width : Nat
  style : String
  separator : String

/-- Where the numbering is: the part of the page, the next number, and how many blank lines have
been left out in a row. -/
structure Paging where
  part : PagePart
  number : Int
  blanks : Nat

namespace Pagination

def opened? (p : Pagination) (line : String) : Option PagePart :=
  if p.divider.length < 2 then none
  else if line = p.divider ++ p.divider ++ p.divider then some .header
  else if line = p.divider ++ p.divider then some .body
  else if line = p.divider then some .footer
  else none

def counts (p : Pagination) (s : Paging) (line : String) : Bool × Nat :=
  match p.numbering s.part with
  | .all =>
    if p.blanks < 2 then (true, s.blanks)
    else if !line.isEmpty || s.blanks + 1 = p.blanks then (true, 0)
    else (false, s.blanks + 1)
  | .filled => (!line.isEmpty, s.blanks)
  | .none => (false, s.blanks)
  | .matching r => (r.isMatch line.toList.toArray, s.blanks)

def numbered (p : Pagination) (s : Paging) (line : String) : Paging × String :=
  match p.opened? line with
  | some part => ({ s with part := part, number := if p.keepsOn then s.number else p.start }, "")
  | none => match p.counts s line with
    | (true, blanks) =>
      ({ s with number := s.number + p.step, blanks := blanks },
        numberField p.style p.width s.number ++ p.separator ++ line)
    | (false, blanks) =>
      ({ s with blanks := blanks },
        String.ofList (List.replicate (p.width + p.separator.length) ' ') ++ line)

end Pagination

def nlFault? (key value : String) : Option (String × Bool) :=
  let style (what : String) : Option (String × Bool) :=
    match Numbering.read value with
    | none => some ("invalid " ++ what ++ " numbering style: " ++ quoted value, false)
    | some (.error text) => some (text, true)
    | some (.ok _) => none
  let number (what : String) (least most : Int) : Option (String × Bool) :=
    match Amount.whole true least most value with
    | .error text => some ("invalid " ++ what ++ ": " ++ text, true)
    | .ok _ => none
  match key with
  | "b" => style "body"
  | "f" => style "footer"
  | "h" => style "header"
  | "n" => if ["ln", "rn", "rz"].contains value then none
      else some ("invalid line numbering format: " ++ quoted value, false)
  | "i" => number "line number increment" (-(2 ^ 63)) (2 ^ 63 - 1)
  | "v" => number "starting line number" (-(2 ^ 63)) (2 ^ 63 - 1)
  | "l" => number "line number of blank lines" 1 (2 ^ 63 - 1)
  | "w" => number "line number field width" 1 (2 ^ 31 - 1)
  | _ => none

def nl (name : String) (args : List String) : Step Nat := do
  let g := Given.read
    [setting "b" "body-numbering", setting "d" "section-delimiter", setting "f" "footer-numbering",
      setting "h" "header-numbering", setting "i" "line-increment", setting "l" "join-blank-lines",
      setting "n" "number-format", flag "p" "no-renumber", setting "s" "number-separator",
      setting "v" "starting-line-number", setting "w" "number-width"] args
  let faults := g.found.filterMap fun (key, value) => nlFault? key value
  let passing := faults.takeWhile (!·.2)
  passing.forM fun (text, _) => discard (complain name text)
  match faults[passing.length]? with
  | some (text, _) => return ← complain name text
  | none => pure ()
  if !passing.isEmpty && g.fault.isNone then return ← pointToHelp name 1
  obey name g anyValue do
    let style (key : String) (standard : Numbering) : Numbering :=
      match (g.value? key).bind Numbering.read with
      | some (.ok numbering) => numbering
      | _ => standard
    let number (key : String) (standard : Int) : Int :=
      ((g.value? key).bind fun value =>
        (Amount.whole true (-(2 ^ 63)) (2 ^ 63 - 1) value).toOption).getD standard
    let p : Pagination :=
      { numbering := fun part => match part with
          | .header => style "h" .none
          | .body => style "b" .filled
          | .footer => style "f" .none
        divider := match g.value? "d" with
          | none => "\\:"
          | some one => if one.length = 1 then one ++ ":" else one
        start := number "v" 1
        step := number "i" 1
        keepsOn := g.has "p"
        blanks := (number "l" 1).toNat
        width := (number "w" 6).toNat
        style := (g.value? "n").getD "rn"
        separator := (g.value? "s").getD "\t" }
    filter name g.operands fun found =>
      let (_, texts) := (found.flatMap linesOf).foldl (fun (s, texts) line =>
        let (s, text) := p.numbered s line
        (s, text :: texts)) ((⟨.body, p.start, 0⟩ : Paging), ([] : List String))
      joinLines texts.reverse

end Cosim.Script.Tool
