import Cosim.Numeral.Digits

namespace Cosim.Script.Signal

open Cosim.Numeral

def table : List (String × String) :=
  [("HUP", "Hangup"), ("INT", ""), ("QUIT", "Quit"), ("ILL", "Illegal instruction"),
    ("TRAP", "Trace/breakpoint trap"), ("ABRT", "Aborted"), ("BUS", "Bus error"),
    ("FPE", "Floating point exception"), ("KILL", "Killed"), ("USR1", "User defined signal 1"),
    ("SEGV", "Segmentation fault"), ("USR2", "User defined signal 2"), ("PIPE", ""),
    ("ALRM", "Alarm clock"), ("TERM", "Terminated"), ("STKFLT", "Stack fault"),
    ("CHLD", "Child exited"), ("CONT", "Continued"), ("STOP", "Stopped (signal)"),
    ("TSTP", "Stopped"), ("TTIN", "Stopped (tty input)"), ("TTOU", "Stopped (tty output)"),
    ("URG", "Urgent I/O condition"), ("XCPU", "CPU time limit exceeded"),
    ("XFSZ", "File size limit exceeded"), ("VTALRM", "Virtual timer expired"),
    ("PROF", "Profiling timer expired"), ("WINCH", "Window changed"), ("IO", "I/O possible"),
    ("PWR", "Power failure"), ("SYS", "Bad system call")]

def brokenPipe : Nat := 13

def limit : Nat := 65

def name (number : Nat) : String :=
  match number with
  | 0 => "EXIT"
  | n + 1 =>
    match table[n]? with
    | some entry => entry.1
    | none =>
      if number < 34 then toString number
      else if number = 34 then "RTMIN"
      else if number ≤ 49 then "RTMIN+" ++ toString (number - 34)
      else if number < 64 then "RTMAX-" ++ toString (64 - number)
      else "RTMAX"

def ofWord? (least : Nat) (word : String) : Option Nat :=
  if isDecimal word.toList then
    let number := decimalValue word.toList
    if number < limit then some number else none
  else (List.range limit).find? fun number =>
    least ≤ number && (name number).toUpper == word.toUpper

/-- What is said of a program that a signal ended, if anything. -/
def obituary (number : Nat) : String :=
  match table[number - 1]? with
  | some entry => entry.2
  | none => if number < 34 then "Unknown signal " ++ toString number
      else "Real-time signal " ++ toString (number - 34)

def isIdle (number : Nat) : Bool := number == 0 || [17, 18, 23, 28].contains number

end Cosim.Script.Signal
