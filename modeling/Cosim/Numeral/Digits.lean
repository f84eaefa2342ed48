namespace Cosim.Numeral

-- Powers are those of the core library, whatever other instances are in scope.
@[default_instance 20000]
instance (priority := high) corePow {α : Type} [NatPow α] : Pow α Nat := instPowNat

def ofDigits (base : Nat) (digits : List Nat) : Nat :=
  digits.foldl (fun value d => value * base + d) 0

def decimalDigit? (c : Char) : Option Nat :=
  if '0' ≤ c ∧ c ≤ '9' then some (c.toNat - 48) else none

def hexDigit? (c : Char) : Option Nat :=
  if '0' ≤ c ∧ c ≤ '9' then some (c.toNat - 48)
  else if 'a' ≤ c ∧ c ≤ 'f' then some (c.toNat - 87)
  else if 'A' ≤ c ∧ c ≤ 'F' then some (c.toNat - 55)
  else none

def isDecimalDigit (c : Char) : Bool := (decimalDigit? c).isSome

def isHexDigit (c : Char) : Bool := (hexDigit? c).isSome

/-- The value of the characters as digits to a base; a character that is none counts as zero. -/
def valueBy (digit? : Char → Option Nat) (base : Nat) (s : List Char) : Nat :=
  ofDigits base (s.map fun c => (digit? c).getD 0)

def decimalValue (s : List Char) : Nat := valueBy decimalDigit? 10 s

def hexValue (s : List Char) : Nat := valueBy hexDigit? 16 s

def isDecimal (s : List Char) : Bool := !s.isEmpty && s.all isDecimalDigit

def isHex (s : List Char) : Bool := !s.isEmpty && s.all isHexDigit

/-- The digits of a number, in lower case and without leading zeros. -/
def digits (base n : Nat) : List Char := Nat.toDigits base n

def zeroFill (width : Nat) (s : List Char) : List Char :=
  List.replicate (width - s.length) '0' ++ s

/-- At least `width` characters in hexadecimal, the sign of a negative number among them. -/
def hexFilled (width : Nat) : Int → List Char
  | .ofNat n => zeroFill width (digits 16 n)
  | .negSucc n => '-' :: zeroFill (width - 1) (digits 16 (n + 1))

def decimal : Int → List Char
  | .ofNat n => digits 10 n
  | .negSucc n => '-' :: digits 10 (n + 1)

/-- At least `width` characters in decimal, filled up with spaces on the left. -/
def decimalRight (width : Nat) (v : Int) : List Char :=
  let s := decimal v
  List.replicate (width - s.length) ' ' ++ s

def word (v : Int) : String := "0x" ++ String.ofList (hexFilled 16 v)

theorem ofDigits_foldl (base start : Nat) (ds : List Nat) :
    ds.foldl (fun value d => value * base + d) start =
      start * base ^ ds.length + ofDigits base ds := by
  induction ds generalizing start with
  | nil => simp [ofDigits]
  | cons d ds ih =>
    simp only [ofDigits, List.foldl_cons, List.length_cons, Nat.zero_mul, Nat.zero_add]
    rw [ih, ih d, Nat.pow_succ, Nat.add_mul, Nat.mul_assoc, Nat.mul_comm base, Nat.add_assoc]

theorem ofDigits_append (base : Nat) (a b : List Nat) :
    ofDigits base (a ++ b) = ofDigits base a * base ^ b.length + ofDigits base b := by
  rw [ofDigits, List.foldl_append]
  exact ofDigits_foldl base _ b

end Cosim.Numeral
