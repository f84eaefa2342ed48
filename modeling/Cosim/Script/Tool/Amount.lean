import Cosim.Numeral.Digits
import Cosim.Script.Tool.Quoting

namespace Cosim.Script.Tool.Amount

open Cosim.Numeral

def letters : List Char := ['K', 'M', 'G', 'T', 'P', 'E', 'Z', 'Y', 'R', 'Q']

def multiplier? (text : List Char) : Option Nat :=
  match text with
  | [] => some 1
  | ['b'] => some 512
  | c :: rest =>
    let c := if c = 'k' || c = 'm' then c.toUpper else c
    match letters.findIdx? (· == c), rest with
    | some n, [] | some n, ['i', 'B'] => some (1024 ^ (n + 1))
    | some n, ['B'] | some n, ['D'] => some (1000 ^ (n + 1))
    | _, _ => none

/-- What is wrong with a text that is no amount. -/
inductive Fault where
  | malformed
  | tooLarge
deriving DecidableEq

def limit : Nat := 2 ^ 64 - 1

def read (text : String) : Except Fault Nat :=
  let isSpace (c : Char) : Bool := c = ' ' || ('\t' ≤ c && c ≤ '\x0d')
  let body := text.toList.dropWhile isSpace
  let body := match body with
    | '+' :: rest => rest
    | rest => rest
  let digits := body.takeWhile isDecimalDigit
  match multiplier? (body.drop digits.length) with
  | none => .error .malformed
  | some factor =>
    if digits.isEmpty && (body.isEmpty || body.length ≠ text.length) then .error .malformed
    else
      let amount := (if digits.isEmpty then 1 else decimalValue digits) * factor
      if limit < amount then .error .tooLarge else .ok amount

def whole (isSigned : Bool) (least most : Int) (text : String) : Except String Int :=
  let isSpace (c : Char) : Bool := c = ' ' || ('\t' ≤ c && c ≤ '\x0d')
  let plain (ds : List Char) : Option Int :=
    if isDecimal ds then some (decimalValue ds : Int) else none
  let number? : Option Int := match text.toList.dropWhile isSpace with
    | '-' :: ds => if isSigned then (plain ds).map (-·) else none
    | '+' :: ds | ds => plain ds
  match number? with
  | none => .error (quoted text)
  | some n =>
    if least ≤ n && n ≤ most then .ok n
    else if 2 ^ 30 ≤ n || n < -(2 ^ 30) then
      .error (quoted text ++ ": Value too large for defined data type")
    else .error (quoted text ++ ": Numerical result out of range")

end Cosim.Script.Tool.Amount
