import Cosim.Script.Arithmetic
import Cosim.Script.Pattern

namespace Cosim.Script

/-- A character with whether it was quoted and whether words split at it, the edge between two
arguments, or the mark of quotes, which are a field even if nothing stands in them. -/
inductive Glyph where
  | char (c : Char) (isQuoted splits : Bool)
  | edge (isKept : Bool)
  | mark
deriving DecidableEq, Repr

namespace Glyph

def ofText (isQuoted splits : Bool) (s : String) : List Glyph :=
  s.toList.map fun c => .char c isQuoted splits

def ofValue (separators : String) (quoted : Bool) (name : String) (values : List String) :
    List Glyph :=
  let texts := values.map (ofText quoted (!quoted))
  match name, quoted with
  | "@", true => if values.isEmpty then [] else .mark :: List.intercalate [.edge true] texts
  | "*", true => ofText true false (((separators.take 1).toString).intercalate values)
  | _, _ => List.intercalate [.edge false] texts

def flat (separators : String) (gs : List Glyph) : List Sign :=
  gs.flatMap fun
    | .char c isQuoted _ => [(c, isQuoted)]
    | .edge _ => ((separators.take 1).toString.toList).map fun c => (c, true)
    | .mark => []

/-- Fields that are being split: those that are complete and the present one, each last sign
first, whether there is a present one, and whether blanks have just ended one, so that another
separator still belongs to that end. -/
structure Splitting where
  fields : List (List Sign)
  current : List Sign
  isOpen : Bool
  isAfterBlank : Bool

namespace Splitting

def finish (s : Splitting) : Splitting :=
  { s with fields := s.current.reverse :: s.fields, current := [], isOpen := false }

def isBlank (c : Char) : Bool := standardSeparators.toList.contains c

def blank (s : Splitting) : Splitting :=
  if s.isOpen then { s.finish with isAfterBlank := true } else s

def step (separators : String) (s : Splitting) : Glyph → Splitting
  | .mark => { s with isOpen := true, isAfterBlank := false }
  | .edge true => { s.finish with isOpen := true, isAfterBlank := false }
  | .edge false => s.blank
  | .char c isQuoted splits =>
    if splits && separators.toList.contains c then
      if isBlank c then s.blank
      else if !s.isOpen && s.isAfterBlank then { s with isAfterBlank := false }
      else { s.finish with isAfterBlank := false }
    else { s with current := (c, isQuoted) :: s.current, isOpen := true, isAfterBlank := false }

end Splitting

def fields (separators : String) (gs : List Glyph) : List (List Sign) :=
  let s := gs.foldl (Splitting.step separators) ⟨[], [], false, false⟩
  (if s.isOpen then s.finish else s).fields.reverse

end Glyph

namespace Expansion

def values? (s : Shell) (name : String) : Option (List String) :=
  match name with
  | "@" | "*" => some s.args
  | "#" => some [toString s.args.length]
  | "?" => some [toString s.status]
  | "$" => some [toString ownNumber]
  | "!" => s.jobs.head?.map fun job => [toString job.1]
  | "-" => some [String.ofList
      (((optionNames.map Prod.fst).filter Char.isAlpha).reverse.filter s.options.contains)]
  | "0" => some [s.program]
  | _ =>
    match name.toNat? with
    | some n => (s.args[n - 1]?).map fun arg => [arg]
    | none => (Step.valueOf? s name).map fun value => [value]

/-- Refuse a parameter without a value, if the shell has been told to. -/
def demand (name : String) (values : Option (List String)) : Step (List String) := do
  match values with
  | some vs => return vs
  | none =>
    if ← Step.hasOption 'u' then Step.raise (name ++ ": parameter not set")
    return []

def withoutLineEnds (s : String) : String :=
  String.ofList (Text.Blank.dropEndWhile (· == '\n') (s.toList.filter (· != '\x00')))

def atHome (s : Shell) (w : Word) : Word :=
  match w, Step.valueOf? s "HOME" with
  | .text false t :: rest, some home =>
    match t.toList with
    | '~' :: after =>
      if after.isEmpty && rest.isEmpty || after.head? == some '/' then
        .text true home :: .text false (String.ofList after) :: rest
      else w
    | _ => w
  | _, _ => w

variable (run : Command → Step String)

def glyphs (fuel : Nat) (splits : Bool) (w : Word) : Step (List Glyph) := do
  match fuel with
  | 0 => return []
  | fuel + 1 =>
    let single (w : Word) : Step (List Sign) := do
      return Glyph.flat (← Step.separators) (← glyphs fuel false w)
    let found ← w.mapM fun p => do
      match p with
      | .text true s => return .mark :: Glyph.ofText true false s
      | .text false s => return Glyph.ofText false splits s
      | .output quoted body =>
        return Glyph.ofText quoted (!quoted) (withoutLineEnds (← run body))
      | .sum quoted expression =>
        let text ← Sum.evaluate (Pattern.text (← single expression))
        return Glyph.ofText quoted (!quoted) text
      | .parameter quoted name use =>
        let separators ← Step.separators
        let present := values? (← Step.shell) name
        let ofValues (vs : List String) := Glyph.ofValue separators quoted name vs
        match use with
        | .malformed => Step.raise "Bad substitution"
        | .value => return ofValues (← demand name present)
        | .length =>
          let vs ← demand name present
          return Glyph.ofText quoted (!quoted) (toString (" ".intercalate vs).length)
        | .trim atEnd longest pattern =>
          let vs ← demand name present
          let pattern ← single pattern
          return ofValues (vs.map (Pattern.trim atEnd longest pattern))
        | .fallback orEmpty kind word =>
          let isSet := match present with
            | none => false
            | some vs => !orEmpty || !(String.join vs).isEmpty
          match kind, isSet with
          | .replace, true => glyphs fuel (!quoted) word
          | .replace, false => return []
          | _, true => return ofValues (present.getD [])
          | .use, false => glyphs fuel (!quoted) word
          | .assign, false =>
            let value := Pattern.text (← single word)
            if !isName name then Step.raise (name ++ ": bad variable name")
            Step.assign name value
            return ofValues [value]
          | .complain, false =>
            let text := Pattern.text (← single word)
            let text := if !text.isEmpty then text
              else if orEmpty then "parameter not set or null" else "parameter not set"
            Step.raise (name ++ ": " ++ text)
    return found.flatten

def pattern (fuel : Nat) (w : Word) : Step (List Sign) := do
  let w := atHome (← Step.shell) w
  return Glyph.flat (← Step.separators) (← glyphs run fuel false w)

def text (fuel : Nat) (w : Word) : Step String := return Pattern.text (← pattern run fuel w)

def fields (fuel : Nat) (w : Word) : Step (List String) := do
  let w := atHome (← Step.shell) w
  let gs ← glyphs run fuel false w
  let found := Glyph.fields (← Step.separators) gs
  if ← Step.hasOption 'f' then return found.map Pattern.text
  let t ← Step.tree
  return found.flatMap (Pattern.paths t)

end Expansion

end Cosim.Script
