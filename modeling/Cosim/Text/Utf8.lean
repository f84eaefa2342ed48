namespace Cosim.Text.Utf8

/-- A form that has begun: its octets so far, last one first, the number they spell, how many
octets are still to come, and the bounds of the next one. -/
structure Partial where
  seen : List UInt8
  value : Nat
  missing : Nat
  low : Nat
  high : Nat
deriving DecidableEq, Repr

/-- Why a stretch of octets is no character. -/
inductive Damage where
  | badStart
  | badContinuation
  | cutShort
deriving DecidableEq, Repr

inductive Piece where
  | char (c : Char)
  | damaged (octets : List UInt8) (reason : Damage)
deriving DecidableEq, Repr

def start (b : UInt8) : List Piece × Option Partial :=
  let n := b.toNat
  let lead (value missing low high : Nat) : List Piece × Option Partial :=
    ([], some ⟨[b], value, missing, low, high⟩)
  if n < 0x80 then ([.char (Char.ofNat n)], none)
  else if n < 0xC2 then ([.damaged [b] .badStart], none)
  else if n < 0xE0 then lead (n - 0xC0) 1 0x80 0xBF
  else if n = 0xE0 then lead 0 2 0xA0 0xBF
  else if n = 0xED then lead 13 2 0x80 0x9F
  else if n < 0xF0 then lead (n - 0xE0) 2 0x80 0xBF
  else if n = 0xF0 then lead 0 3 0x90 0xBF
  else if n < 0xF4 then lead (n - 0xF0) 3 0x80 0xBF
  else if n = 0xF4 then lead 4 3 0x80 0x8F
  else ([.damaged [b] .badStart], none)

def step (form : Option Partial) (b : UInt8) : List Piece × Option Partial :=
  match form with
  | none => start b
  | some f =>
    if f.low ≤ b.toNat && b.toNat ≤ f.high then
      let value := f.value * 64 + (b.toNat - 0x80)
      if f.missing = 1 then ([.char (Char.ofNat value)], none)
      else ([], some ⟨b :: f.seen, value, f.missing - 1, 0x80, 0xBF⟩)
    else
      let next := start b
      (.damaged f.seen.reverse .badContinuation :: next.1, next.2)

def scanFrom (form : Option Partial) : List UInt8 → List Piece
  | [] => match form with
    | none => []
    | some f => [.damaged f.seen.reverse .cutShort]
  | b :: rest =>
    let next := step form b
    next.1 ++ scanFrom next.2 rest

def scan (octets : List UInt8) : List Piece := scanFrom none octets

def Piece.replaced : Piece → Char
  | .char c => c
  | .damaged _ _ => '\uFFFD'

def decodeLossy (octets : List UInt8) : List Char := (scan octets).map Piece.replaced

/-- The first damaged stretch of a text: where it starts, its octets, and why. -/
structure Invalid where
  offset : Nat
  octets : List UInt8
  reason : Damage
deriving DecidableEq, Repr

def width (c : Char) : Nat := (String.utf8EncodeChar c).length

def collect (offset : Nat) : List Piece → Except Invalid (List Char)
  | [] => .ok []
  | .char c :: rest => (collect (offset + width c) rest).map (c :: ·)
  | .damaged octets reason :: _ => .error ⟨offset, octets, reason⟩

def decode (octets : List UInt8) : Except Invalid (List Char) := collect 0 (scan octets)

def encode (s : List Char) : List UInt8 := s.flatMap String.utf8EncodeChar

def Damage.message : Damage → String
  | .badStart => "invalid start byte"
  | .badContinuation => "invalid continuation byte"
  | .cutShort => "unexpected end of data"

def hexOctet (b : UInt8) : String :=
  String.ofList [Nat.digitChar (b.toNat / 16), Nat.digitChar (b.toNat % 16)]

def Invalid.message (e : Invalid) : String :=
  let place := match e.octets with
    | [b] => "byte 0x" ++ hexOctet b ++ " in position " ++ toString e.offset
    | octets => "bytes in position " ++ toString e.offset ++ "-" ++
        toString (e.offset + octets.length - 1)
  "'utf-8' codec can't decode " ++ place ++ ": " ++ e.reason.message

end Cosim.Text.Utf8
