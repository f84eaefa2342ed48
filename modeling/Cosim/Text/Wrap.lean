import Cosim.Text.Blank

namespace Cosim.Text.Wrap

def breaksAt (before after : List Char) : Bool :=
  match before, after with
  | '-' :: a :: b :: _, c :: d :: _ => a.isAlpha && b.isAlpha && c.isAlpha && d.isAlpha
  | _, _ => false

/-- The pieces of a text: blanks one by one, and words or parts of words. `piece` and `before` are
what has been read of the piece and of the text, last character first. -/
def piecesFrom (piece before : List Char) : List Char → List (List Char)
  | [] => if piece.isEmpty then [] else [piece.reverse]
  | c :: rest =>
    let done := if piece.isEmpty then [] else [piece.reverse]
    if c = ' ' then done ++ [' '] :: piecesFrom [] (c :: before) rest
    else if breaksAt before (c :: rest) then done ++ piecesFrom [c] (c :: before) rest
    else piecesFrom (c :: piece) (c :: before) rest

def cutLong (width : Nat) (piece : List Char) : List (List Char) :=
  if piece.length ≤ width ∨ width = 0 then [piece]
  else (List.range ((piece.length + width - 1) / width)).map fun i =>
    (piece.drop (i * width)).take width

def trimEnd (line : List Char) : List Char := Blank.dropEndWhile (· == ' ') line

def fill (width : Nat) (line : List Char) : List (List Char) → List (List Char)
  | [] => if line.isEmpty then [] else [trimEnd line]
  | piece :: rest =>
    if line.isEmpty && piece == [' '] then fill width line rest
    else if line.length + piece.length ≤ width then fill width (line ++ piece) rest
    else trimEnd line :: fill width (if piece == [' '] then [] else piece) rest

def lines (width : Nat) (text : String) : List String :=
  (fill width [] ((piecesFrom [] [] text.toList).flatMap (cutLong width))).map String.ofList

end Cosim.Text.Wrap
