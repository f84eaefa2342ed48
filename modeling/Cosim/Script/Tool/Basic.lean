import Cosim.Script.State
import Cosim.Script.Tool.Options
import Cosim.Script.Tool.Quoting

namespace Cosim.Script.Tool

open Cosim.Files Cosim.Text Step

def complain (name text : String) : Step Nat := do
  discard (sayLine 2 (name ++ ": " ++ text))
  return 1

def pointToHelp (name : String) (status : Nat) : Step Nat := do
  discard (sayLine 2 ("Try '" ++ name ++ " --help' for more information."))
  return status

def usage (name text : String) (status : Nat := 1) : Step Nat := do
  discard (complain name text)
  pointToHelp name status

def sumOf (amounts : List Nat) : Nat := amounts.foldl (· + ·) 0

/-- Carry out a tool if its options make sense. A value that does not is complained of before the
options behind it are looked at. -/
def obeyOr (status : Nat) (name : String) (g : Given) (check : String → String → Option String)
    (step : Step Nat) : Step Nat := do
  match g.found.findSome? fun (key, value) => check key value, g.fault with
  | some text, _ =>
    discard (complain name text)
    return status
  | none, some text => usage name text status
  | none, none => step

/-- Carry out a tool whose status is one if its options make no sense. -/
def obey (name : String) (g : Given) (check : String → String → Option String)
    (step : Step Nat) : Step Nat :=
  obeyOr 1 name g check step

def chosen (name option : String) (groups : List (List String)) (value : String) :
    Except String String :=
  let meant (p : String → Bool) : List String :=
    (groups.filter (·.any p)).map (·.headD "")
  match meant (· == value), meant (·.startsWith value) with
  | word :: _, _ | [], [word] => .ok word
  | [], words =>
    let rows := groups.map fun group => "\n  - " ++ ", ".intercalate (group.map quoted)
    .error ((if words.isEmpty then "invalid" else "ambiguous") ++ " argument " ++ quoted value ++
      " for " ++ quoted option ++ "\nValid arguments are:" ++ String.join rows ++
      "\nTry '" ++ name ++ " --help' for more information.")

def complaintOf {α : Type} : Except String α → Option String
  | .error text => some text
  | .ok _ => none

def anyValue (_ _ : String) : Option String := none

/-- Why an operand cannot be read: it cannot be opened, or what is there has no content. -/
inductive Refusal where
  | unopened (reason : String)
  | unread (reason : String)

def Refusal.reason : Refusal → String
  | .unopened reason | .unread reason => reason

/-- What an operand stands for: a channel, of which a hyphen names the first, or the content of a
file. -/
inductive Operand where
  | channel (channel : Nat)
  | content (content : ByteArray)

def openOperand (path : String) : Step (Except Refusal Operand) := do
  if path = "-" then
    if (← opening? 0).isSome then return .ok (.channel 0)
    return .error (.unread "Bad file descriptor")
  match channelAt? path with
  | some channel =>
    match ← opening? channel with
    | some (_, ⟨.file place, _, _, _⟩) => return .ok (.content ((← tree).content place))
    | some _ => return .ok (.channel channel)
    | none => return .error (.unopened Errno.noEntry.text)
  | none =>
    match (← tree).find (Octets.toText path) with
    | .error e => return .error (.unopened e.text)
    | .ok .directory => return .error (.unread Errno.isDirectory.text)
    | .ok (.device .null) => return .ok (.content .empty)
    | .ok (.device .terminal) => return .error (.unopened Errno.noDevice.text)
    | .ok (.device _) => return .ok (.content (zeros ()))
    | .ok (.file content _) => return .ok (.content content)

/-- Read what an operand stands for, of which there is no more once `read` has read the channel. -/
def contentsBy (read : Nat → Step ByteArray) (path : String) : Step (Except Refusal ByteArray) := do
  match ← openOperand path with
  | .error r => return .error r
  | .ok (.content content) => return .ok content
  | .ok (.channel channel) => return .ok (← read channel)

def incoming (channel : Nat) : Step ByteArray := return (← readAll channel).getD .empty

def endedLines (content : ByteArray) : ByteArray :=
  content.extract 0 (endOf content.size)
where
  endOf : Nat → Nat
    | 0 => 0
    | n + 1 => if content[n]? = some 10 then n + 1 else endOf n

/-- How a tool that may not need all of its input reads it: in blocks of a size, and whether it
gives back to a file what it has read too much. -/
structure Manner where
  block : Nat
  givesBack : Bool

def settle (m : Manner) (channel : Nat) (content : ByteArray) (isPart : Bool) (stop : Option Nat) :
    Step Unit := do
  match stop, ← opening? channel with
  | some stop, some (_, ⟨.file _, _, _, _⟩) =>
    use channel (if m.givesBack then stop else inBlocks stop)
  | some stop, _ => use channel (inBlocks stop)
  | none, _ =>
    use channel content.size
    if isPart then modifyWorld fun w => { w with isStarving := true }
where
  inBlocks (stop : Nat) : Nat :=
    min content.size ((stop + m.block - 1) / m.block * m.block)

def readNeeded (m : Manner) (stop? : ByteArray → Option Nat) (channel : Nat) : Step ByteArray := do
  match ← peekAll channel with
  | none => return .empty
  | some (content, isPart) =>
    settle m channel content isPart (stop? content)
    return if isPart then endedLines content else content

def flowing (channel : Nat) : Step ByteArray := readNeeded ⟨1, false⟩ (fun _ => none) channel

def contents (path : String) : Step (Except Refusal ByteArray) := contentsBy incoming path

def flow (path : String) : Step (Except Refusal ByteArray) := contentsBy flowing path

def orIncoming (operands : List String) : List String :=
  if operands.isEmpty then ["-"] else operands

def cutFrom (mark : UInt8) (content : ByteArray) : Nat → Nat → List ByteArray → List ByteArray
  | 0, _, cut => cut.reverse
  | fuel + 1, place, cut =>
    if content.size ≤ place then cut.reverse
    else
      let stop := behindNext mark content (content.size - place) place
      cutFrom mark content fuel stop (content.extract place stop :: cut)

def recordsOf (mark : UInt8) (content : ByteArray) : List ByteArray :=
  cutFrom mark content content.size 0 []

def wholeLines (content : ByteArray) : List ByteArray := recordsOf 10 content

def recordText (mark : UInt8) (record : ByteArray) : String :=
  Octets.write (if record[record.size - 1]? = some mark then record.extract 0 (record.size - 1)
    else record)

def lineText (line : ByteArray) : String := recordText 10 line

def recordTexts (mark : UInt8) (content : ByteArray) : List String :=
  (recordsOf mark content).map (recordText mark)

def linesOf (content : ByteArray) : List String := recordTexts 10 content

def Given.mark (g : Given) : UInt8 := if g.has "z" then 0 else 10

def joinRecords (mark : UInt8) (texts : List String) : ByteArray :=
  texts.foldl (fun content text => (content ++ Octets.read text).push mark) .empty

def joinLines (lines : List String) : ByteArray := joinRecords 10 lines

def joinContents (parts : List ByteArray) : ByteArray := parts.foldl (· ++ ·) .empty

/-- What a tool has gathered to say, whether it has gathered anything yet, and its status. -/
structure Account where
  output : ByteArray
  isBegun : Bool
  status : Nat

namespace Account

def empty : Account := ⟨.empty, false, 0⟩

def add (a : Account) (content : ByteArray) : Account :=
  { a with output := a.output ++ content, isBegun := a.isBegun || !content.isEmpty }

def say (a : Account) (text : String) : Account := a.add (Octets.read text)

def settle (a : Account) : Step Account := do
  discard (sayOctets 1 a.output)
  return { a with output := .empty }

def complain (a : Account) (name text : String) : Step Account := do
  let a ← a.settle
  return { a with status := ← Tool.complain name text }

end Account

def gather (operands : List String) (f : Account → String → Step Account) : Step Nat := do
  let a ← operands.foldlM f .empty
  return (← a.settle).status

def filter (name : String) (operands : List String) (f : List ByteArray → ByteArray) :
    Step Nat := do
  let settle (found : List ByteArray) (said : Nat) : Step Nat := do
    let text := f found.reverse
    discard (sayOctets 1 (text.extract said text.size))
    return text.size
  let (found, said, status) ← (orIncoming operands).foldlM (fun (found, said, worst) path => do
    match ← flow path with
    | .ok content => return (content :: found, said, worst)
    | .error r =>
      let said ← settle found said
      return (found, said, ← complain name (shown path ++ ": " ++ r.reason)))
    (([] : List ByteArray), 0, 0)
  discard (settle found said)
  return status

end Cosim.Script.Tool
