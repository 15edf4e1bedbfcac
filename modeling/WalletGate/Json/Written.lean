import WalletGate.Json.Basic
import WalletGate.Decimal.Shortest
/-!
# Written JSON

A value is written without blanks, fields in the order in which they are listed. Of the characters
of a text only the quote, the backslash and the controls below the blank are escaped, the five
controls with a letter of their own by that letter. Doubles always show a point or an exponent.
-/

namespace WalletGate.Json

/-- Doubles are written plainly from `1e-5` up to below `1e16`. -/
def doubles : Decimal.Layout := ⟨-5, 15⟩

/-- A character inside a quoted text. -/
def escaped (c : Char) : List Char :=
  if c = '"' then ['\\', '"']
  else if c = '\\' then ['\\', '\\']
  else if c.toNat < 32 then
    match c.toNat with
    | 8 => ['\\', 'b']
    | 9 => ['\\', 't']
    | 10 => ['\\', 'n']
    | 12 => ['\\', 'f']
    | 13 => ['\\', 'r']
    | n => ['\\', 'u', '0', '0', Text.hexDigit (n / 16), Text.hexDigit (n % 16)]
  else [c]

/-- A text between quotes. -/
def quoted (s : String) : List Char :=
  '"' :: s.toList.flatMap escaped ++ ['"']

def numberChars : Number → List Char
  | .whole i => (Text.integer i).toList
  | .double x => doubles.double x

mutual

/-- The characters of a value. -/
def chars : Json → List Char
  | null => ['n', 'u', 'l', 'l']
  | bool true => ['t', 'r', 'u', 'e']
  | bool false => ['f', 'a', 'l', 's', 'e']
  | number n => numberChars n
  | text s => quoted s
  | array items => '[' :: itemChars items
  | object fields => '{' :: fieldChars fields

/-- The characters of the items of an array, up to its closing bracket. -/
def itemChars : List Json → List Char
  | [] => [']']
  | [v] => chars v ++ [']']
  | v :: w :: rest => chars v ++ ',' :: itemChars (w :: rest)

/-- The characters of the fields of an object, up to its closing brace. -/
def fieldChars : List (String × Json) → List Char
  | [] => ['}']
  | [(k, v)] => quoted k ++ ':' :: chars v ++ ['}']
  | (k, v) :: field :: rest => quoted k ++ ':' :: chars v ++ ',' :: fieldChars (field :: rest)

end

/-- The text of a value. -/
def written (v : Json) : String := String.ofList v.chars

end WalletGate.Json
