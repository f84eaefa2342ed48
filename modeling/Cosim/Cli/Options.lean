import Cosim.Json.Value
import Cosim.Text.DecimalDigit

namespace Cosim.Cli

/-- What an option does. A value is checked, and refused with a complaint. -/
inductive Use where
  | help
  | flag
  | value (complaint? : String → Option String)

/-- An option: its names, by which it is called in messages, the key of what it sets, whether it has
to be given, and what it is for. -/
structure OptionForm where
  names : List String
  key : String
  use : Use
  isRequired : Bool
  explanation : String

def OptionForm.label (o : OptionForm) : String := "/".intercalate o.names

def OptionForm.takesValue (o : OptionForm) : Bool :=
  match o.use with
  | .value _ => true
  | _ => false

inductive Misuse where
  | ambiguous (argument : String) (candidates : List String)
  | missingValue (label : String)
  | unusedValue (label text : String)
  | badValue (label complaint : String)
  | missing (labels : List String)
  | unknown (arguments : List String)
  | halfEndPattern
deriving DecidableEq, Repr

def Misuse.message : Misuse → String
  | .ambiguous argument candidates =>
    "ambiguous option: " ++ argument ++ " could match " ++ ", ".intercalate candidates
  | .missingValue label => "argument " ++ label ++ ": expected one argument"
  | .unusedValue label text =>
    "argument " ++ label ++ ": ignored explicit argument " ++ Json.Value.describeText text
  | .badValue label complaint => "argument " ++ label ++ ": " ++ complaint
  | .missing labels => "the following arguments are required: " ++ ", ".intercalate labels
  | .unknown arguments => "unrecognized arguments: " ++ " ".intercalate arguments
  | .halfEndPattern => "--end-address and --end-data must be given together"

/-- Why reading a command line ends early. -/
inductive Stop where
  | help
  | misuse (m : Misuse)
deriving DecidableEq, Repr

/-- The value of an option: a text, or nothing if two hyphens stood in the place of one. -/
inductive Setting where
  | text (s : String)
  | nothing
deriving DecidableEq, Repr

inductive Kind where
  | word
  | option (form : OptionForm) (name : String) (text : Option String)
  | unknownOption
  | endOfOptions

namespace Options

variable (forms : List OptionForm)

def named (name : String) : Option OptionForm := forms.find? fun o => o.names.contains name

def allNames : List (String × OptionForm) :=
  forms.flatMap fun o => o.names.map fun name => (name, o)

def cutValue (argument : List Char) : List Char × Option String :=
  match argument.dropWhile (· != '=') with
  | [] => (argument, none)
  | _ :: value => (argument.takeWhile (· != '='), some (String.ofList value))

def candidates (argument : List Char) : List (String × OptionForm × Option String) :=
  match argument with
  | '-' :: '-' :: _ =>
    let (stem, text) := cutValue argument
    (allNames forms).filterMap fun (name, o) =>
      if stem.isPrefixOf name.toList then some (name, o, text) else none
  | dash :: letter :: rest =>
    (allNames forms).filterMap fun (name, o) =>
      if name.toList = [dash, letter] then some (name, o, some (String.ofList rest))
      else if argument.isPrefixOf name.toList then some (name, o, none)
      else none
  | _ => []

def isDigit (c : Char) : Bool := (Text.DecimalDigit.value? c).isSome

def isPlainNumber (s : List Char) : Bool :=
  let whole := s.takeWhile isDigit
  match s.dropWhile isDigit with
  | [] => !whole.isEmpty
  | '.' :: decimals => !decimals.isEmpty && decimals.all isDigit
  | _ => false

def isNegativeNumber : List Char → Bool
  | '-' :: rest => isPlainNumber (if rest.getLast? = some '\n' then rest.dropLast else rest)
  | _ => false

def inFull? (argument : String) : Option Kind :=
  match named forms argument with
  | some o => some (.option o argument none)
  | none =>
    match cutValue argument.toList with
    | (_, none) => none
    | (stem, some text) =>
      (named forms (String.ofList stem)).map fun o => .option o (String.ofList stem) (some text)

def kindOf (argument : String) : Except Misuse Kind :=
  match argument.toList with
  | '-' :: rest =>
    if rest.isEmpty then .ok .word
    else match inFull? forms argument with
      | some kind => .ok kind
      | none =>
        match candidates forms argument.toList with
        | [(name, o, text)] => .ok (.option o name text)
        | _ :: _ :: _ =>
          .error (.ambiguous argument ((candidates forms argument.toList).map (·.1)))
        | [] =>
          if isNegativeNumber argument.toList || argument.toList.contains ' ' then .ok .word
          else .ok .unknownOption
  | _ => .ok .word

def kinds : List String → Except Misuse (List (String × Kind))
  | [] => .ok []
  | argument :: rest =>
    if argument = "--" then .ok ((argument, .endOfOptions) :: rest.map fun a => (a, .word))
    else do
      let kind ← kindOf forms argument
      return (argument, kind) :: (← kinds rest)

/-- What an argument asks for: options to be taken in order, and one more that still lacks its
value. -/
structure Demand where
  taken : List (OptionForm × String)
  open? : Option OptionForm

def together (o : OptionForm) : List Char → Except Misuse Demand
  | [] => .ok (if o.takesValue then ⟨[], some o⟩ else ⟨[(o, "")], none⟩)
  | letter :: rest =>
    if o.takesValue then .ok ⟨[(o, String.ofList (letter :: rest))], none⟩
    else match named forms (String.ofList ['-', letter]) with
      | none => .error (.unusedValue o.label (String.ofList (letter :: rest)))
      | some next => do
        let demand ← together next rest
        return ⟨(o, "") :: demand.taken, demand.open?⟩

def isLong (name : String) : Bool := "--".isPrefixOf name

def demandOf (o : OptionForm) (name : String) : Option String → Except Misuse Demand
  | none => .ok (if o.takesValue then ⟨[], some o⟩ else ⟨[(o, "")], none⟩)
  | some text =>
    if o.takesValue then .ok ⟨[(o, text)], none⟩
    else if isLong name || text.isEmpty then .error (.unusedValue o.label text)
    else together forms o text.toList

abbrev Found := List (String × Setting)

def take (found : Found) (o : OptionForm) (text : String) : Except Stop Found :=
  match o.use with
  | .help => .error .help
  | .flag => .ok (found ++ [(o.key, .nothing)])
  | .value complaint? =>
    if text = "--" then .ok (found ++ [(o.key, .nothing)])
    else match complaint? text with
      | some complaint => .error (.misuse (.badValue o.label complaint))
      | none => .ok (found ++ [(o.key, .text text)])

def takeAll (found : Found) : List (OptionForm × String) → Except Stop Found
  | [] => .ok found
  | (o, text) :: rest => do takeAll (← take found o text) rest

/-- What a command line says: what its options set, and the arguments that no option took. -/
structure Reading where
  found : Found
  extras : List String

def readKinds (r : Reading) : List (String × Kind) → Except Stop Reading
  | [] => .ok r
  | (_, .option o name text) :: rest =>
    match demandOf forms o name text with
    | .error m => .error (.misuse m)
    | .ok ⟨taken, none⟩ => do
      readKinds { r with found := ← takeAll r.found taken } rest
    | .ok ⟨taken, some last⟩ =>
      match rest with
      | (value, .word) :: rest => do
        readKinds { r with found := ← takeAll r.found (taken ++ [(last, value)]) } rest
      | _ => .error (.misuse (.missingValue last.label))
  | (argument, _) :: rest => readKinds { r with extras := r.extras ++ [argument] } rest

def read (arguments : List String) : Except Stop Found := do
  let kinds ← (kinds forms arguments).mapError .misuse
  let r ← readKinds forms ⟨[], []⟩ kinds
  let absent := forms.filter fun o => o.isRequired && !r.found.any (·.1 == o.key)
  if !absent.isEmpty then throw (.misuse (.missing (absent.map OptionForm.label)))
  if !r.extras.isEmpty then throw (.misuse (.unknown r.extras))
  return r.found

def setting? (found : Found) (key : String) : Option Setting := found.reverse.lookup key

end Options

end Cosim.Cli
