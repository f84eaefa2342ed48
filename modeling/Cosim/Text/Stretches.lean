namespace Cosim.Text.Stretches

/-- Walk the stretches until `n` falls into one; `inside` tells of which kind the first is. -/
def find : List Nat → Bool → Nat → Bool
  | [], _, _ => false
  | len :: rest, inside, n => if n < len then inside else find rest (!inside) (n - len)

end Cosim.Text.Stretches
