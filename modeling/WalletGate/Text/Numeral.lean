import WalletGate.Text.Letter
/-!
# Numerals

Reading and writing whole numbers. A decimal numeral may start with a plus sign where a signed or
unsigned integer is expected; blanks and separators are never part of one.
-/

namespace WalletGate.Text

/-- The value of a non-empty run of digits in the given base; `none` if a character is no digit. -/
def digitsValue? (base : Nat) (cs : List Char) : Option Nat :=
  if cs.isEmpty then none
  else cs.foldl step (some 0)
where
  step (acc : Option Nat) (c : Char) : Option Nat :=
    match acc, hexValue? c with
    | some n, some d => if d < base then some (n * base + d) else none
    | _, _ => none

/-- An unsigned integer with an optional plus sign. -/
def unsigned? (cs : List Char) : Option Nat :=
  match cs with
  | '+' :: rest => digitsValue? 10 rest
  | _ => digitsValue? 10 cs

/-- A signed integer with an optional sign. -/
def signed? (cs : List Char) : Option Int :=
  match cs with
  | '-' :: rest => (digitsValue? 10 rest).map fun n => -(n : Int)
  | _ => (unsigned? cs).map Int.ofNat

/-- The digits of a number in a base of at most sixteen, most significant first; zero is `0`. -/
def digits (base n : Nat) : List Char := Nat.toDigits base n

/-- The plain decimal form of a number. -/
def decimal (n : Nat) : String := String.ofList (digits 10 n)

/-- The lower-case hexadecimal form of a number. -/
def hexadecimal (n : Nat) : String := String.ofList (digits 16 n)

/-- The decimal form of an integer, with a minus sign below zero. -/
def integer (i : Int) : String :=
  match i with
  | .ofNat n => decimal n
  | .negSucc n => "-" ++ decimal (n + 1)

/-- The signed integer of sixty-four bits with a value, if there is one. -/
def int64? (i : Int) : Option Int64 :=
  if Int64.minValue.toInt ≤ i ∧ i ≤ Int64.maxValue.toInt then some (Int64.ofInt i) else none

end WalletGate.Text
