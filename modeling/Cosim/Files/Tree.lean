import Cosim.Files.Path

namespace Cosim.Files

open Cosim.Text

-- Contents are compared by the core library, whatever other instances are in scope.
instance (priority := high) decEqContent : DecidableEq ByteArray := ByteArray.instDecidableEq

abbrev Location := List String

/-- The devices of a system. The first three swallow what is written to them, but the third takes
none of it; the first gives nothing, the others zeros without end. The last is a terminal that is
not there. -/
inductive Device where
  | null
  | zeros
  | full
  | terminal
deriving DecidableEq, Repr

/-- What can be at a location. -/
inductive Node where
  | directory
  | file (content : ByteArray) (runnable : Bool)
  | device (d : Device)
deriving DecidableEq

def Node.isDevice : Node → Bool
  | .device _ => true
  | .directory | .file .. => false

/-- Why an operation on files fails, by the number that the system gives it. -/
inductive Errno where
  | noEntry
  | noDevice
  | notRunnable
  | denied
  | exists
  | notDirectory
  | isDirectory
  | noSpace
  | nameTooLong
deriving DecidableEq, Repr

def Errno.number : Errno → Nat
  | .noEntry => 2
  | .noDevice => 6
  | .notRunnable => 8
  | .denied => 13
  | .exists => 17
  | .notDirectory => 20
  | .isDirectory => 21
  | .noSpace => 28
  | .nameTooLong => 36

def Errno.text : Errno → String
  | .noEntry => "No such file or directory"
  | .noDevice => "No such device or address"
  | .notRunnable => "Exec format error"
  | .denied => "Permission denied"
  | .exists => "File exists"
  | .notDirectory => "Not a directory"
  | .isDirectory => "Is a directory"
  | .noSpace => "No space left on device"
  | .nameTooLong => "File name too long"

structure Tree where
  entries : List (Location × Node)
  here : Location

namespace Tree

def node? (t : Tree) (place : Location) : Option Node :=
  if place.isEmpty then some .directory else t.entries.lookup place

def set (t : Tree) (place : Location) (node : Node) : Tree :=
  ⟨(place, node) :: t.entries.filter (·.1 != place), t.here⟩

def nameLimit : Nat := 255

def pathLimit : Nat := 4095

def walk (t : Tree) (place : Location) : List String → Except Errno Location
  | [] => .ok place
  | name :: rest =>
    match t.node? place with
    | none => .error .noEntry
    | some (.file ..) | some (.device _) => .error .notDirectory
    | some .directory =>
      if isIdle name then walk t place rest
      else if name = ".." then walk t place.dropLast rest
      else if nameLimit < name.utf8ByteSize then .error .nameTooLong
      else walk t (place ++ [name]) rest

/-- Follow a path. The empty text is no path, and a path that ends in a slash asks for a
directory. -/
def locate (t : Tree) (path : String) : Except Errno Location :=
  if path.isEmpty then .error .noEntry
  else if pathLimit < path.utf8ByteSize then .error .nameTooLong
  else t.walk (if path.startsWith "/" then [] else t.here) (pieces path)

def find (t : Tree) (path : String) : Except Errno Node := do
  let place ← t.locate path
  match t.node? place with
  | none => .error .noEntry
  | some node => .ok node

def has (t : Tree) (path : String) : Bool := (t.find path).toOption.isSome

def isFile (t : Tree) (path : String) : Bool :=
  match t.find path with
  | .ok (.file ..) => true
  | _ => false

def isDirectory (t : Tree) (path : String) : Bool := t.find path matches .ok .directory

/-- Whether what is at a path may be run, or be searched if it is a directory. -/
def isRunnable (t : Tree) (path : String) : Bool :=
  match t.find path with
  | .ok .directory => true
  | .ok (.file _ runnable) => runnable
  | .ok (.device _) | .error _ => false

def read (t : Tree) (path : String) : Except Errno (List UInt8) := do
  match ← t.find path with
  | .file content _ => .ok content.data.toList
  | .device .terminal => .error .noDevice
  | .device _ => .ok []
  | .directory => .error .isDirectory

/-- Where a file is to be written: at the end of the path, which is no directory. -/
def target (t : Tree) (path : String) : Except Errno Location := do
  let stem := String.ofList (Blank.dropEndWhile (· == '/') path.toList)
  let place ← t.locate (if stem.isEmpty then path else stem)
  if path.endsWith "/" then .error .isDirectory
  else match t.node? place, t.node? place.dropLast with
    | some .directory, _ => .error .isDirectory
    | some (.device .terminal), _ => .error .noDevice
    | some (.file ..), _ | some (.device _), _ => .ok place
    | none, some .directory => .ok place
    | none, some (.file ..) | none, some (.device _) => .error .notDirectory
    | none, none => .error .noEntry

def remove (t : Tree) (place : Location) : Tree :=
  ⟨t.entries.filter (·.1 != place), t.here⟩

def moved (old new place : Location) : Location :=
  if old.isPrefixOf place then new ++ place.drop old.length else place

def move (t : Tree) (old new : Location) : Tree :=
  ⟨(t.remove new).entries.map fun (place, node) => (moved old new place, node),
    moved old new t.here⟩

def content (t : Tree) (place : Location) : ByteArray :=
  match t.node? place with
  | some (.file content _) => content
  | _ => .empty

def mode (t : Tree) (place : Location) : Bool :=
  match t.node? place with
  | some (.file _ runnable) => runnable
  | _ => false

def fill (t : Tree) (place : Location) (content : ByteArray) : Tree :=
  if (t.node? place).any Node.isDevice then t else t.set place (.file content (t.mode place))

def write (t : Tree) (path : String) (octets : List UInt8) : Except Errno Tree := do
  let place ← t.target path
  if t.node? place = some (.device .full) && !octets.isEmpty then .error .noSpace
  else return t.fill place ⟨octets.toArray⟩

def makeDirectory (t : Tree) (path : String) : Except Errno Tree := do
  let place ← t.locate path
  match t.node? place, t.node? place.dropLast with
  | some _, _ => .error .exists
  | none, some .directory => .ok (t.set place .directory)
  | none, some (.file ..) | none, some (.device _) => .error .notDirectory
  | none, none => .error .noEntry

/-- Make the directory of a path unless it is there, and those that lead to it. The directories
that have to be made first are at most as many as the path has names. They stay even if one behind
them cannot be made, which is told with its path. -/
def makeDirectories (t : Tree) (p : Path) : Tree × Option (Errno × Path) :=
  go p.names.length p t
where
  make (p : Path) (t : Tree) : Tree × Option (Errno × Path) :=
    match t.makeDirectory p.text with
    | .ok made => (made, none)
    | .error e => (t, if t.isDirectory p.text then none else some (e, p))
  go : Nat → Path → Tree → Tree × Option (Errno × Path)
    | 0, p, t => make p t
    | fuel + 1, p, t =>
      match t.makeDirectory p.text with
      | .error .noEntry =>
        match go fuel p.parent t with
        | (made, none) => make p made
        | stopped => stopped
      | _ => make p t

/-- The names in the directory at a path; there are none where no directory is. -/
def children (t : Tree) (path : String) : List String :=
  match t.locate path with
  | .error _ => []
  | .ok place =>
    match t.node? place with
    | some .directory => t.entries.filterMap fun e =>
        if e.1.length = place.length + 1 && e.1.dropLast = place then e.1.getLast? else none
    | _ => []

def plant (t : Tree) (place : Location) (node : Node) : Tree :=
  let leading := (List.range place.length).map fun n => place.take n
  (leading.foldl (fun t above => if (t.node? above).isNone then t.set above .directory else t)
    t).set place node

def equip (t : Tree) : Tree :=
  [("null", Device.null), ("zero", .zeros), ("full", .full), ("random", .zeros),
    ("urandom", .zeros), ("tty", .terminal)].foldl
    (fun t (name, d) => t.plant ["dev", name] (.device d)) t

def changedFiles (t earlier : Tree) : List (Location × List UInt8) :=
  t.entries.filterMap fun (place, node) =>
    match node, earlier.node? place with
    | .directory, _ | .device _, _ => none
    | .file content _, some (.file old _) =>
      if old = content then none else some (place, content.data.toList)
    | .file content _, _ => some (place, content.data.toList)

def newDirectories (t earlier : Tree) : List Location :=
  t.entries.filterMap fun (place, node) =>
    if node = .directory && (earlier.node? place).isNone then some place else none

theorem node?_set_self (t : Tree) {place : Location} (node : Node) (h : place ≠ []) :
    (t.set place node).node? place = some node := by
  simp [node?, set, h]

theorem lookup_filter_of_ne {place other : Location} (h : other ≠ place) :
    ∀ entries : List (Location × Node),
      (entries.filter (·.1 != place)).lookup other = entries.lookup other
  | [] => rfl
  | (key, node) :: rest => by
    have ih := lookup_filter_of_ne h rest
    by_cases hk : key = place
    · subst hk
      have hb : (other == key) = false := beq_false_of_ne h
      simp [List.lookup_cons, hb, ih]
    · by_cases ho : other = key
      · subst ho
        simp [hk]
      · have hb : (other == key) = false := beq_false_of_ne ho
        simp [hk, List.lookup_cons, hb, ih]

theorem node?_set_of_ne (t : Tree) {place other : Location} (node : Node) (h : other ≠ place) :
    (t.set place node).node? other = t.node? other := by
  have hb : (other == place) = false := beq_false_of_ne h
  simp [node?, set, List.lookup_cons, hb, lookup_filter_of_ne h]

end Tree

end Cosim.Files
