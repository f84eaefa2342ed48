import Cosim.Text.Lines
import Cosim.Trace.CommitLine
import Cosim.Trace.EventLine

namespace Cosim.Trace.Log

open Cosim.Text

/-- What is wrong with a line. -/
inductive Cause where
  | commit (f : CommitLine.Fault)
  | event (f : EventLine.Fault)
deriving Repr

inductive Fault where
  | badLine (number : Int) (line : List Char) (cause : Cause)
  | tooLong (digits : Nat)
deriving Repr

def Cause.message : Cause → String
  | .commit f => f.message
  | .event f => "fail parsing boat log: " ++ f.message

def Fault.message : Fault → String
  | .badLine number line cause =>
    "line " ++ String.ofList (Numeral.decimal number) ++ ": " ++ cause.message ++
      ". Original line: " ++ Quoted.quote line
  | .tooLong digits => (Numeral.Integer.Fault.tooLong digits).message

def located {F : Type} (cause : F → Cause) (number : Int) (line : List Char) :
    Refusal F → Fault
  | .fault f => .badLine number line (cause f)
  | .tooLong digits => .tooLong digits

def commitLine (number : Int) (line : List Char) : Except Fault Commit :=
  (CommitLine.read line).mapError (located .commit number line)

def eventLine (number : Int) (line : List Char) : Except Fault Event :=
  (EventLine.read line).mapError (located .event number line)

variable {α : Type}

/-- Read the lines from number `number` on. -/
def readLines (read : Int → List Char → Except Fault α) (number : Nat) :
    List (List Char) → Except Fault (List α)
  | [] => .ok []
  | raw :: rest =>
    let line := Lines.chomp raw
    if line.all Blank.isBlank then readLines read (number + 1) rest
    else do
      let x ← read number line
      let xs ← readLines read (number + 1) rest
      return x :: xs

def readText (read : Int → List Char → Except Fault α) (text : List Char) :
    Except Fault (List α) :=
  readLines read 1 (Lines.lines text)

def commits (text : List Char) : Except Fault (List Commit) := readText commitLine text

def events (text : List Char) : Except Fault (List Event) := readText eventLine text

end Cosim.Trace.Log
