import Cosim.Cli.Options
import Cosim.Numeral.Integer
import Cosim.Run.Session
import Cosim.Text.Wrap

namespace Cosim.Cli

open Cosim.Files Cosim.Run Cosim.Text

/-- A command line: the name of its program, what the program does, and its options. -/
structure Form where
  program : String
  purpose : String
  options : List OptionForm

def indent (n : Nat) (s : String) : String := String.ofList (List.replicate n ' ') ++ s

/-- The columns of the screen, 80 if the environment does not tell a number above zero. -/
def screenColumns (told : Option String) : Nat :=
  match told.map fun s => Numeral.Integer.readDecimal s.toList with
  | some (.ok n) => if 0 < n then n.toNat else 80
  | _ => 80

def textWidth (columns : Nat) : Int := columns - 2

def paragraphWidth (width : Int) (used : Nat) : Nat := (max (width - used) 11).toNat

namespace OptionForm

def placeholder (o : OptionForm) : String :=
  String.ofList (o.key.toList.map fun c => if c = '-' then '_' else c.toUpper)

def written (o : OptionForm) (name : String) : String :=
  if o.takesValue then name ++ " " ++ o.placeholder else name

def usageParts (o : OptionForm) : List String :=
  match o.names, o.isRequired with
  | [], _ => []
  | name :: _, false => ["[" ++ o.written name ++ "]"]
  | name :: _, true => if o.takesValue then [name, o.placeholder] else [name]

def heading (o : OptionForm) : String := ", ".intercalate (o.names.map o.written)

end OptionForm

namespace Form

def fillWords (width : Int) (margin : Nat) (line : List String) (length : Int) :
    List String → List String
  | [] => if line.isEmpty then [] else [" ".intercalate line]
  | word :: rest =>
    if width < length + 1 + word.length ∧ ¬ line.isEmpty then
      " ".intercalate line :: fillWords width margin [word] (margin + word.length) rest
    else fillWords width margin (line ++ [word]) (length + word.length + 1) rest

def usageMark : String := "usage: "

/-- The usage: one line if it fits, else lines that hang from the name of the program, or from the
mark if the name is long. -/
def usage (f : Form) (width : Int) : String :=
  let words := f.options.flatMap OptionForm.usageParts
  let line := usageMark ++ " ".intercalate (f.program :: words)
  let start := usageMark.length + f.program.length
  if (line.length : Int) ≤ width then line ++ "\n"
  else if 4 * (start : Int) ≤ 3 * width then
    let lines := fillWords width (start + 1) [] (usageMark.length - 1) (f.program :: words)
    usageMark ++ ("\n" ++ indent (start + 1) "").intercalate lines ++ "\n"
  else
    let lines := fillWords width usageMark.length [] (usageMark.length - 1) words
    usageMark ++ ("\n" ++ indent usageMark.length "").intercalate (f.program :: lines) ++ "\n"

def explanationColumn (f : Form) (width : Int) : Nat :=
  let longest := (f.options.map fun o => o.heading.length).foldl max 0
  min (longest + 4) (min 24 (max (width - 20) 4)).toNat

def entry (width : Int) (column : Nat) (o : OptionForm) : String :=
  let lines := Wrap.lines (paragraphWidth width column) o.explanation
  let heading := indent 2 o.heading
  let following := lines.map fun line => indent column line ++ "\n"
  if heading.length + 2 ≤ column then
    heading ++ indent (column - heading.length) ((lines.headD "") ++ "\n") ++
      String.join (following.drop 1)
  else heading ++ "\n" ++ String.join following

def help (f : Form) (width : Int) : String :=
  f.usage width ++ "\n" ++ "\n".intercalate (Wrap.lines (paragraphWidth width 0) f.purpose) ++
    "\n\noptions:\n" ++ String.join (f.options.map (entry width (f.explanationColumn width)))

end Form

namespace Setting

def asPath : Setting → Except Fault String
  | .text s => .ok s
  | .nothing => .error (.missingText .path)

def asDirectory : Setting → Except Fault Path
  | .text s => .ok (.ofString s)
  | .nothing => .error (.missingText .directory)

end Setting

open Session

def stop (form : Form) (reason : Stop) : Action Nat := do
  let width := textWidth (screenColumns (← getVariable "COLUMNS"))
  match reason with
  | .help => do
    print (form.help width)
    return 0
  | .misuse m => do
    complain (form.usage width ++ form.program ++ ": error: " ++ m.message ++ "\n")
    return 2

def reporting (action : Action Nat) : Action Nat :=
  tryCatch action fun f => do
    if f.isReported then
      complain ("Error: " ++ f.message ++ "\n")
      return 1
    else throw f

/-- The level of records: everything if asked for, else no details. -/
def levelFor (verbose : Bool) : Level := if verbose then .debug else .info

end Cosim.Cli
