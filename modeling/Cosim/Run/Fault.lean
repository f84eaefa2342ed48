import Cosim.Align.Compare
import Cosim.Config
import Cosim.Files.Tree
import Cosim.Text.Utf8
import Cosim.Trace.Log

namespace Cosim.Run

open Cosim.Files Cosim.Text Cosim.Trace

inductive MissingText where
  | path
  | directory
  | number
deriving DecidableEq, Repr

def MissingText.message : MissingText → String
  | .path => "expected str, bytes or os.PathLike object, not list"
  | .directory => "unsupported operand type(s) for /: 'list' and 'str'"
  | .number => "unsupported format string passed to list.__format__"

inductive Fault where
  | badLog (f : Log.Fault)
  | notComparable (p : Align.Precondition)
  | badConfig (f : Config.TextFault)
  | unreadableConfig (path : String) (e : Errno)
  | undecodable (e : Utf8.Invalid)
  | unencodable (e : Unencodable)
  | files (e : Errno) (path : String)
  | toolNotRunnable (name variableName path : String)
  | toolNotFound (name variableName : String)
  | spikeFailed (tool : String) (args : List Wide) (elf : Path) (status : Int) (log : Path)
  | boatFailed (args : List Wide) (elf : Path) (status : Int) (log : Path)
  | noEventLog (log : Path)
  | noElf (pattern : Wide)
  | noCommand
  | zeroCharacter
  | badVariableName
  | missingText (m : MissingText)

namespace Fault

/-- Why an operation on files failed. That there is no space is found out once the file is open, and
then its path is not named. -/
def filesMessage (e : Errno) (path : String) : String :=
  "[Errno " ++ toString e.number ++ "] " ++ e.text ++
    if e = .noSpace then "" else ": " ++ Json.Value.describeText path

def failedMessage (elf : Path) (status : Int) (log : Path) : String :=
  " for elf " ++ elf.text ++ " (exit code " ++ String.ofList (Numeral.decimal status) ++
    ", see " ++ log.text ++ ")"

def message : Fault → String
  | .badLog f => f.message
  | .notComparable p => p.message
  | .badConfig f => f.message
  | .unreadableConfig path e =>
    "fail to read sail difftest config " ++ path ++ ": " ++ filesMessage e path
  | .undecodable e => e.message
  | .unencodable e => e.message
  | .files e path => filesMessage e path
  | .toolNotRunnable name variableName path =>
    name ++ " exec not found: $" ++ variableName ++ " is set but " ++ path ++ " is not executable"
  | .toolNotFound name variableName =>
    name ++ " exec not found: set $" ++ variableName ++ " or add " ++ name ++ " to PATH"
  | .spikeFailed tool args elf status log =>
    "fail to execute '" ++ tool ++ "' with args " ++ " ".intercalate (args.map Wide.shown) ++
      failedMessage elf status log
  | .boatFailed args elf status log =>
    "fail to execute boat with args " ++ (Json.Value.list (args.map .text)).describe .braces ++
      failedMessage elf status log
  | .noEventLog log => "boat exited successfully but did not write " ++ log.text
  | .noElf pattern => "No ELF file matches " ++ Json.Value.describeText pattern
  | .noCommand => "list index out of range"
  | .zeroCharacter => "embedded null byte"
  | .badVariableName => "illegal environment variable name"
  | .missingText m => m.message

def isReported : Fault → Bool
  | .badLog (.badLine ..) => true
  | .badLog (.tooLong _) => false
  | .badConfig (.abandoned _) => false
  | .badConfig _ | .unreadableConfig .. => true
  | .notComparable _ => true
  | .toolNotRunnable .. | .toolNotFound .. => true
  | .spikeFailed .. | .boatFailed .. | .noEventLog _ | .noElf _ => true
  | .undecodable _ | .unencodable _ | .files .. | .noCommand => false
  | .zeroCharacter | .badVariableName | .missingText _ => false

end Fault

end Cosim.Run
