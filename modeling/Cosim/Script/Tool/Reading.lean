import Cosim.Script.Tool.Amount
import Cosim.Script.Tool.Basic
import Cosim.Text.Blank

namespace Cosim.Script.Tool

open Cosim.Files Cosim.Numeral Cosim.Text Step

def isOutput (path : String) : Step Bool := do
  match ← opening? 1 with
  | some (_, ⟨.file place, _, _, _⟩) =>
    let size := ((← tree).content place).size
    if path = "-" then
      match ← opening? 0 with
      | some (_, ⟨.file other, offset, _, _⟩) => return place == other && offset < size
      | _ => return false
    else match (← tree).locate (Octets.toText path) with
      | .ok other => return place == other && 0 < size
      | .error _ => return false
  | _ => return false

def catSwitches : List Switch :=
  [flag "A" "show-all", flag "b" "number-nonblank", flag "e", flag "E" "show-ends",
    flag "n" "number", flag "s" "squeeze-blank", flag "t", flag "T" "show-tabs", flag "u",
    flag "v" "show-nonprinting"]

/-- How lines are shown. -/
structure Showing where
  numbers : Bool
  numbersBlank : Bool
  squeezes : Bool
  ends : Bool
  tabs : Bool
  signs : Bool

def visible (c : Char) : List Char :=
  let low (n : Nat) : List Char :=
    if n < 32 then ['^', Char.ofNat (n + 64)] else if n = 127 then ['^', '?'] else [Char.ofNat n]
  if c.toNat < 128 then low c.toNat else 'M' :: '-' :: low (c.toNat - 128)

/-- Where the showing of lines is: the number of the last one, how many blank lines in a row there
were, and whether the next octet begins a line. -/
structure ShownSoFar where
  number : Nat
  blanks : Nat
  isStart : Bool

def showLine (s : Showing) (p : ShownSoFar) (line : List Char) : ShownSoFar × List Char :=
  let isBlank := p.isStart && line == ['\n']
  if isBlank && s.squeezes && 0 < p.blanks then (p, [])
  else
    let isNumbered := p.isStart && s.numbers && (!isBlank || s.numbersBlank)
    let number := if isNumbered then p.number + 1 else p.number
    let label := if isNumbered then decimalRight 6 number ++ ['\t'] else []
    let (body, isWhole) := match line.getLast? with
      | some '\n' => (line.dropLast, true)
      | _ => (line, false)
    let shownBody :=
      if s.signs || s.tabs then body.flatMap fun c =>
        if c = '\t' then (if s.tabs then ['^', 'I'] else [c])
        else if s.signs then visible c else [c]
      else body
    let shownBody := if s.ends && !s.signs && isWhole && body.getLast? = some '\x0d' then
        shownBody.dropLast ++ ['^', 'M']
      else shownBody
    (⟨number, if isBlank then p.blanks + 1 else 0, isWhole⟩,
      label ++ shownBody ++ (if isWhole then (if s.ends then ['$', '\n'] else ['\n']) else []))

def showContent (s : Showing) (p : ShownSoFar) (content : ByteArray) : ShownSoFar × ByteArray :=
  (wholeLines content).foldl (fun (p, shown) line =>
    let (p, text) := showLine s p (Octets.write line).toList
    (p, shown ++ Octets.read (String.ofList text))) (p, .empty)

def cat (name : String) (args : List String) : Step Nat := do
  let g := Given.read catSwitches args
  let has (keys : List String) : Bool := keys.any g.has
  let s : Showing := ⟨has ["b", "n"], !g.has "b", g.has "s", has ["A", "e", "E"],
    has ["A", "t", "T"], has ["A", "e", "t", "v"]⟩
  let isPlain := !(s.numbers || s.squeezes || s.ends || s.tabs || s.signs)
  obey name g anyValue do
    let (_, status) ← (orIncoming g.operands).foldlM (fun (p, status) path => do
      if ← isOutput path then
        return (p, ← complain name (shown path ++ ": input file is output file"))
      match ← flow path with
      | .error r => return (p, ← complain name (shown path ++ ": " ++ r.reason))
      | .ok content =>
        let (p, text) := if isPlain then (p, content) else showContent s p content
        discard (sayOctets 1 text)
        return (p, status)) ((⟨0, 0, true⟩ : ShownSoFar), 0)
    return status

def tee (name : String) (args : List String) : Step Nat := do
  let g := Given.read
    [flag "a" "append", flag "i" "ignore-interrupts", flag "p", ⟨"output-error", "output-error",
      .attached⟩] args
  obey name g anyValue do
    let t ← tree
    let (places, status) ← g.operands.foldlM (fun (places, status) path => do
      match t.target (Octets.toText path) with
      | .error e => return (places, ← complain name (shown path ++ ": " ++ e.text))
      | .ok place =>
        if !g.has "a" || (t.node? place).isNone then fill place .empty
        return (place :: places, status)) (([] : List Location), 0)
    let content ← flowing 0
    discard (sayOctets 1 content)
    places.reverse.forM fun place => do
      fill place ((← tree).content place ++ content)
    return status

/-- Which part of a content is meant: how many octets, or lines that a mark ends, and whether they
are counted from the near end and kept, or left out. -/
structure Part where
  mark : UInt8
  isOctets : Bool
  leavesOut : Bool
  amount : Nat

def lineCount (mark : UInt8) (content : ByteArray) : Nat :=
  content.foldl (fun n b => if b = mark then n + 1 else n) 0 +
    (if content.isEmpty || content[content.size - 1]? = some mark then 0 else 1)

def behindLines (mark : UInt8) (content : ByteArray) : Nat → Nat → Nat
  | 0, place => place
  | n + 1, place =>
    if content.size ≤ place then content.size
    else behindLines mark content n (behindNext mark content (content.size - place) place)

def Part.stop (p : Part) (content : ByteArray) : Nat :=
  let stop := match p.isOctets, p.leavesOut with
    | true, false => p.amount
    | true, true => content.size - p.amount
    | false, false => behindLines p.mark content (min p.amount content.size) 0
    | false, true => behindLines p.mark content (lineCount p.mark content - p.amount) 0
  min stop content.size

/-- Where the first part of a content ends, if more behind the content would not change that. -/
def Part.stop? (p : Part) (content : ByteArray) : Option Nat :=
  let stop := p.stop content
  let isWhole := p.amount = 0 || if p.isOctets then p.amount ≤ content.size
    else stop < content.size || (lineCount p.mark content = p.amount &&
      content[stop - 1]? = some p.mark)
  if isWhole then some stop else none

def Part.readFirst (p : Part) (channel : Nat) : Step ByteArray := do
  if !p.leavesOut then readNeeded ⟨if p.isOctets then 1 else 8192, true⟩ p.stop? channel
  else match ← source? channel with
    | some (i, o@⟨.file _, _, _, _⟩, content) =>
      let content := content.extract o.offset content.size
      setOpening i { o with offset := o.offset + p.stop content }
      return content
    | _ => incoming channel

def Part.first (p : Part) (path : String) : Step (Except Refusal ByteArray) := do
  match ← contentsBy p.readFirst path with
  | .error r =>
    let isIdle := p.amount = 0 && !p.leavesOut && r matches .unread _
    return if isIdle then .ok .empty else .error r
  | .ok content => return .ok (content.extract 0 (p.stop content))

def Part.start (p : Part) (content : ByteArray) : Nat :=
  let start := match p.isOctets, p.leavesOut with
    | true, false => content.size - p.amount
    | true, true => p.amount - 1
    | false, false => behindLines p.mark content (lineCount p.mark content - p.amount) 0
    | false, true => behindLines p.mark content (min (p.amount - 1) content.size) 0
  min start content.size

def Part.last (p : Part) (path : String) : Step (Except Refusal ByteArray) := do
  match ← contents path with
  | .error r => return .error r
  | .ok content => return .ok (content.extract (p.start content) content.size)

def partSwitches : List Switch :=
  [setting "c" "bytes", setting "n" "lines", flag "q" "quiet", flag "q" "silent",
    flag "v" "verbose", flag "z" "zero-terminated"]

def tailSwitches : List Switch :=
  partSwitches ++ [flag "F", ⟨"f", "follow", .attached⟩, setting "pid" "pid",
    flag "retry" "retry", setting "s" "sleep-interval",
    setting "max-unchanged-stats" "max-unchanged-stats"]

def turned (isEnd : Bool) (value : String) : Bool × String :=
  match value.toList with
  | '-' :: rest => (!isEnd, String.ofList rest)
  | '+' :: _ => (isEnd, value)
  | _ => (false, value)

def amountFault (isEnd : Bool) (key value : String) : Option String :=
  if key = "n" || key = "c" then
    let (_, text) := turned isEnd value
    let intro := "invalid number of " ++ (if key = "n" then "lines" else "bytes") ++ ": " ++
      quoted text
    match Amount.read text with
    | .ok _ => none
    | .error .malformed => some intro
    | .error .tooLarge => some (intro ++ ": Value too large for defined data type")
  else none

def Part.ofGiven (isEnd : Bool) (g : Given) : Part :=
  match g.found.reverse.find? fun (key, _) => key = "n" || key = "c" with
  | none => ⟨g.mark, false, false, 10⟩
  | some (key, value) =>
    let (leavesOut, text) := turned isEnd value
    ⟨g.mark, key == "c", leavesOut, ((Amount.read text).toOption).getD 0⟩

/-- The part that the first argument of `head` asks for by a hyphen, a number and letters, with the
letters, or one that does not belong there. -/
def firstPart? (arg : String) : Option (Except Char (Part × List Char)) :=
  match arg.toList with
  | '-' :: word =>
    let digits := word.takeWhile isDecimalDigit
    let letters := word.drop digits.length
    let units (letter : Char) : Nat :=
      match letter with
      | 'b' => 512
      | 'k' => 1024
      | 'm' => 1024 * 1024
      | _ => 1
    if digits.isEmpty then none
    else match letters.find? (!"bckmlqvz".toList.contains ·) with
      | some bad => some (.error bad)
      | none =>
        let last := (letters.filter "bckm".toList.contains).getLast?
        let isOctets := (letters.filter "bckml".toList.contains).getLast?.any (· != 'l')
        let mark := if letters.contains 'z' then 0 else 10
        some (.ok (⟨mark, isOctets, false, decimalValue digits * units (last.getD 'c')⟩, letters))
  | _ => none

def lastPart? (args : List String) : Option Part :=
  let isAlone := match args with
    | [_] | [_, "-"] => true
    | [_, operand] => !operand.startsWith "-"
    | _ :: "--" :: rest => rest.length < 2
    | _ => false
  match isAlone, (args.headD "").toList with
  | true, sign :: word =>
    let digits := word.takeWhile isDecimalDigit
    let letters := word.drop digits.length
    let letter := letters.head?.filter "bcl".toList.contains
    let rest := letters.drop (if letter.isSome then 1 else 0)
    if !(sign = '+' || (sign = '-' && !word.isEmpty && word != ['c'])) then none
    else if !(rest.isEmpty || rest == ['f']) then none
    else
      let units := if letter = some 'b' then 512 else 1
      let amount := if digits.isEmpty then 10 else decimalValue digits
      some ⟨10, letter == some 'b' || letter == some 'c', sign == '+', amount * units⟩
  | _, _ => none

def copyParts (name : String) (part : String → Step (Except Refusal ByteArray)) (hasHeads : Bool)
    (operands : List String) : Step Nat :=
  gather operands fun a path => do
    let label := if path = "-" then "standard input" else path
    let head := if hasHeads then
        (if a.isBegun then "\n" else "") ++ "==> " ++ label ++ " <==\n"
      else ""
    match ← part path with
    | .error (.unopened reason) =>
      a.complain name ("cannot open " ++ quoted path ++ " for reading: " ++ reason)
    | .error (.unread reason) =>
      (a.say head).complain name ("error reading " ++ quoted label ++ ": " ++ reason)
    | .ok content => return (a.say head).add content

def withDigitFault (intro : String) (g : Given) : Given :=
  match g.fault.map String.toList with
  | some text =>
    match text.reverse with
    | '\'' :: c :: '\'' :: _ =>
      if isDecimalDigit c then { g with fault := some (intro ++ String.singleton c) } else g
    | _ => g
  | none => g

def head (name : String) (args : List String) : Step Nat := do
  let intro := "invalid trailing option -- "
  let (p?, letters, args) ← match firstPart? (args.headD "") with
    | some (.error bad) => return ← usage name (intro ++ String.singleton bad)
    | some (.ok (p, letters)) => pure (some p, letters, args.tail)
    | none => pure (none, [], args)
  let g := withDigitFault intro (Given.read partSwitches args)
  obey name g (amountFault false) do
    let operands := orIncoming g.operands
    let p := if g.has "n" || g.has "c" then Part.ofGiven false g
      else p?.getD (.ofGiven false g)
    let p := if g.has "z" then { p with mark := 0 } else p
    let order := (letters.filter "qv".toList.contains).map String.singleton ++ g.found.map Prod.fst
    let hasHeads := match (order.filter ["q", "v"].contains).getLast? with
      | some key => key == "v"
      | none => 1 < operands.length
    copyParts name p.first hasHeads operands

def copyLast (name : String) (p : Part) (hasHeads : Bool) (operands : List String) : Step Nat :=
  if p.amount = 0 && !p.leavesOut then return 0 else copyParts name p.last hasHeads operands

def tail (name : String) (args : List String) : Step Nat := do
  match lastPart? args with
  | some p =>
    let operands := match args.tail with
      | "--" :: rest => rest
      | rest => rest
    copyLast name p false (orIncoming operands)
  | none =>
    let intro := "option used in invalid context -- "
    let g := withDigitFault intro (Given.read tailSwitches args)
    if (g.fault.getD "").startsWith intro then return ← complain name (g.fault.getD "")
    obey name g (amountFault true) do
      let operands := orIncoming g.operands
      let hasHeads := match g.last? ["q", "v"] with
        | some key => key == "v"
        | none => 1 < operands.length
      copyLast name (Part.ofGiven true g) hasHeads operands

/-- How much there is of a content. -/
structure Tally where
  lines : Nat
  words : Nat
  octets : Nat
  width : Nat

namespace Tally

def zero : Tally := ⟨0, 0, 0, 0⟩

def add (a b : Tally) : Tally :=
  ⟨a.lines + b.lines, a.words + b.words, a.octets + b.octets, max a.width b.width⟩

/-- A count that goes on: the column, and whether a word is under way. -/
structure Running where
  tally : Tally
  column : Nat
  isInWord : Bool

def Running.next (r : Running) (b : UInt8) : Running :=
  let t := r.tally
  let isSpace := b = 32 || (9 ≤ b && b ≤ 13)
  let column := match b.toNat with
    | 10 | 12 | 13 => 0
    | 9 => r.column + (8 - r.column % 8)
    | n => if 32 ≤ n && n < 127 then r.column + 1 else r.column
  ⟨⟨if b = 10 then t.lines + 1 else t.lines,
    if !isSpace && !r.isInWord then t.words + 1 else t.words, t.octets, max t.width column⟩,
    column, !isSpace⟩

def of (content : ByteArray) : Tally :=
  { (content.foldl Running.next ⟨zero, 0, false⟩).tally with octets := content.size }

def columns (t : Tally) (keys : List String) : List Nat :=
  let column (key : String) (n : Nat) : List Nat := if keys.contains key then [n] else []
  column "l" t.lines ++ column "w" t.words ++ column "m" t.octets ++ column "c" t.octets ++
    column "L" t.width

end Tally

def wcSwitches : List Switch :=
  [flag "c" "bytes", flag "m" "chars", flag "l" "lines", flag "w" "words",
    flag "L" "max-line-length", setting "total" "total", setting "files0-from" "files0-from"]

def sizeOf? (path : String) : Step (Except Unit (Option Nat)) := do
  if path = "-" then
    match ← source? 0 with
    | some (_, ⟨.file _, _, _, _⟩, content) => return .ok (some content.size)
    | some _ => return .ok none
    | none => return .error ()
  else match (← tree).find (Octets.toText path) with
    | .ok (.file content _) => return .ok (some content.size)
    | .ok _ => return .ok none
    | .error _ => return .error ()

def wc (name : String) (args : List String) : Step Nat := do
  let g := Given.read wcSwitches args
  let keys := (g.found.map Prod.fst).filter ["c", "m", "l", "w", "L"].contains
  let keys := if keys.isEmpty then ["l", "w", "c"] else keys
  let total (value : String) : Except String String :=
    chosen name "--total" [["auto"], ["always"], ["only"], ["never"]] value
  let check (key value : String) : Option String :=
    if key = "total" then complaintOf (total value) else none
  obey name g check do
    let hasOperands := !g.operands.isEmpty
    let operands := orIncoming g.operands
    let total := ((total ((g.value? "total").getD "auto")).toOption).getD "auto"
    let isSingle := operands.length = 1 && keys.eraseDups.length = 1
    let sizes ← if isSingle then pure [] else operands.mapM sizeOf?
    let sum := sumOf (sizes.map fun size => match size with
      | .ok (some n) => n
      | _ => 0)
    let least := if sizes.any fun size => size matches .ok none then 7 else 1
    let width := if isSingle || total = "only" then 1 else max least (digits 10 sum).length
    let row (t : Tally) (label : String) : String :=
      " ".intercalate ((t.columns keys).map fun (n : Nat) =>
        String.ofList (decimalRight width n)) ++
        label ++ "\n"
    let (status, sum) ← operands.foldlM (fun (status, sum) path => do
      let label := if hasOperands then " " ++ path else ""
      let sayRow (t : Tally) : Step Unit := do
        if total != "only" then discard (say 1 (row t label))
      match ← contents path with
      | .ok content =>
        sayRow (.of content)
        return (status, sum.add (.of content))
      | .error r =>
        let status ← complain name (shown path ++ ": " ++ r.reason)
        if r matches .unread _ then sayRow .zero
        return (status, sum)) (0, Tally.zero)
    let hasTotal := total = "always" || total = "only" || (total = "auto" && 1 < operands.length)
    if hasTotal then discard (say 1 (row sum (if total = "only" then "" else " total")))
    return status

end Cosim.Script.Tool
