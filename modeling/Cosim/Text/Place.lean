namespace Cosim.Text

structure Place where
  offset : Nat
  line : Nat
  column : Nat
deriving DecidableEq, Repr

namespace Place

def after (text : List Char) (offset : Nat) : Place :=
  let before := text.take offset
  ⟨offset, before.count '\n' + 1,
    (before.reverse.takeWhile (· != '\n')).length + (offset - before.length) + 1⟩

/-- The place where `rest`, an end of the text, starts. -/
def ofRest (text rest : List Char) : Place := after text (text.length - rest.length)

def lineColumn (p : Place) : String :=
  "line " ++ toString p.line ++ " column " ++ toString p.column

end Place

end Cosim.Text
