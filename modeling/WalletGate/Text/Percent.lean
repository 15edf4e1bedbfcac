import WalletGate.Text.Utf8
/-!
# Percent escapes

A byte of a text may be written as a percent sign and two hexadecimal digits. A percent sign that no
two digits follow stands for itself.
-/

namespace WalletGate.Text

/-- The bytes of a text, escapes replaced by what they stand for. -/
def unescape : List Char → List UInt8
  | [] => []
  | '%' :: a :: b :: rest =>
    match hexValue? a, hexValue? b with
    | some x, some y => UInt8.ofNat (16 * x + y) :: unescape rest
    | _, _ => 0x25 :: unescape (a :: b :: rest)
  | c :: rest => String.utf8EncodeChar c ++ unescape rest

/-- The escape of a byte. -/
def escapeByte (b : UInt8) : List Char :=
  ['%', upperHexDigit (b.toNat / 16), upperHexDigit (b.toNat % 16)]

/-- A text with the characters that satisfy `p` written as escapes. -/
def escape (p : Char → Bool) (cs : List Char) : List Char :=
  cs.flatMap fun c => if p c then (String.utf8EncodeChar c).flatMap escapeByte else [c]

end WalletGate.Text
