namespace Cosim.Script.Tool

/-- Whether an option takes a value: none, the next argument at the latest, or only what stands in
its own argument. -/
inductive Takes where
  | nothing
  | value
  | attached
deriving DecidableEq

/-- An option that a tool knows. The key is its letter if it has one, and else its name, which may
be empty for a letter. -/
structure Switch where
  key : String
  name : String
  takes : Takes

def flag (key : String) (name : String := "") : Switch := ⟨key, name, .nothing⟩

def setting (key : String) (name : String := "") : Switch := ⟨key, name, .value⟩

/-- What arguments ask for: options in their order with their values, operands, and what is wrong
with the argument at which reading them ended. -/
structure Given where
  found : List (String × String)
  operands : List String
  fault : Option String

namespace Given

def has (g : Given) (key : String) : Bool := g.found.any (·.1 == key)

def value? (g : Given) (key : String) : Option String := g.found.reverse.lookup key

def last? (g : Given) (keys : List String) : Option String :=
  ((g.found.reverse.map Prod.fst).filter keys.contains).head?

def fail (text : String) : Given := ⟨[], [], some text⟩

def add (key value : String) (g : Given) : Given := { g with found := (key, value) :: g.found }

def letters (switches : List Switch) (args : List String) :
    List Char → List (String × String) × Except String (List String)
  | [] => ([], .ok args)
  | c :: rest =>
    let key := String.singleton c
    match switches.find? (·.key == key) with
    | none => ([], .error ("invalid option -- '" ++ key ++ "'"))
    | some s =>
      match s.takes, rest, args with
      | .nothing, _, _ =>
        let (found, after) := letters switches args rest
        ((key, "") :: found, after)
      | .attached, _, _ => ([(key, String.ofList rest)], .ok args)
      | .value, _ :: _, _ => ([(key, String.ofList rest)], .ok args)
      | .value, [], value :: args => ([(key, value)], .ok args)
      | .value, [], [] => ([], .error ("option requires an argument -- '" ++ key ++ "'"))

def named (switches : List Switch) (args : List String) (word : String) :
    Except String ((String × String) × List String) :=
  let name := String.ofList (word.toList.takeWhile (· != '='))
  let value :=
    if name.length < word.length then some (word.drop (name.length + 1)).toString else none
  let known := switches.filter fun s => !s.name.isEmpty && s.name.startsWith name
  let shown (name : String) : String := "'--" ++ name ++ "'"
  match known.filter (·.name == name), known with
  | s :: _, _ | [], [s] =>
    match s.takes, value, args with
    | .nothing, some _, _ => .error ("option " ++ shown s.name ++ " doesn't allow an argument")
    | .nothing, none, _ | .attached, none, _ => .ok ((s.key, ""), args)
    | _, some value, _ => .ok ((s.key, value), args)
    | .value, none, value :: args => .ok ((s.key, value), args)
    | .value, none, [] => .error ("option " ++ shown s.name ++ " requires an argument")
  | [], [] => .error ("unrecognized option " ++ shown word)
  | [], several =>
    if (several.map Switch.key).eraseDups.length = 1 then
      .ok (((several.map Switch.key).headD "", value.getD ""), args)
    else .error ("option " ++ shown word ++ " is ambiguous; possibilities: " ++
      " ".intercalate (several.map fun s => shown s.name))

def readFrom (switches : List Switch) (isMixed : Bool) : Nat → List String → Given
  | 0, _ | _, [] => ⟨[], [], none⟩
  | fuel + 1, arg :: rest =>
    match arg.toList with
    | ['-', '-'] => ⟨[], rest, none⟩
    | '-' :: '-' :: word =>
      match named switches rest (String.ofList word) with
      | .error text => fail text
      | .ok ((key, value), rest) => (readFrom switches isMixed fuel rest).add key value
    | '-' :: c :: more =>
      let (found, after) := letters switches rest (c :: more)
      let g := match after with
        | .error text => fail text
        | .ok rest => readFrom switches isMixed fuel rest
      { g with found := found ++ g.found }
    | _ =>
      if isMixed then
        let g := readFrom switches isMixed fuel rest
        { g with operands := arg :: g.operands }
      else ⟨[], arg :: rest, none⟩

def read (switches : List Switch) (args : List String) : Given :=
  readFrom switches true args.length args

def readLeading (switches : List Switch) (args : List String) : Given :=
  readFrom switches false args.length args

end Given

end Cosim.Script.Tool
