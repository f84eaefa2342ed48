import Cosim.Decimal.Shortest
import Cosim.Text.Quoted

namespace Cosim.Json

open Cosim.Decimal Cosim.Text

inductive Value where
  | null
  | bool (b : Bool)
  | int (n : Int)
  | real (x : Binary64)
  | text (s : Wide)
  | list (items : List Value)
  | record (members : List (Wide × Value))
deriving Repr, Inhabited, BEq

/-- Set a member: in its place if the key is known, else at the end. -/
def put {κ α : Type} [BEq κ] (members : List (κ × α)) (key : κ) (v : α) : List (κ × α) :=
  if members.any (·.1 == key) then
    members.map fun m => if m.1 == key then (key, v) else m
  else members ++ [(key, v)]

def collect {κ α : Type} [BEq κ] (pairs : List (κ × α)) : List (κ × α) :=
  pairs.foldl (fun members p => put members p.1 p.2) []

namespace Value

/-- How messages write records. -/
inductive RecordStyle where
  | braces
  | pairs
deriving DecidableEq, Repr

def commaSeparated (parts : List String) : String := ", ".intercalate parts

def describeReal (x : Binary64) : String := String.ofList (Shortest.text x)

def describeText (s : Wide) : String := Quoted.quote s

def wrapRecord : RecordStyle → List (String × String) → String
  | .braces, parts =>
    "\x7b" ++ commaSeparated (parts.map fun p => p.1 ++ ": " ++ p.2) ++ "\x7d"
  | .pairs, [] => "OrderedDict()"
  | .pairs, parts =>
    "OrderedDict([" ++ commaSeparated (parts.map fun p => "(" ++ p.1 ++ ", " ++ p.2 ++ ")") ++ "])"

mutual

def describe (style : RecordStyle) : Value → String
  | .null => "None"
  | .bool true => "True"
  | .bool false => "False"
  | .int n => String.ofList (Numeral.decimal n)
  | .real x => describeReal x
  | .text s => describeText s
  | .list items => "[" ++ commaSeparated (describeItems style items) ++ "]"
  | .record members => wrapRecord style (describeMembers style members)

def describeItems (style : RecordStyle) : List Value → List String
  | [] => []
  | v :: rest => describe style v :: describeItems style rest

def describeMembers (style : RecordStyle) : List (Wide × Value) → List (String × String)
  | [] => []
  | (key, v) :: rest => (describeText key, describe style v) :: describeMembers style rest

end

end Value

end Cosim.Json
