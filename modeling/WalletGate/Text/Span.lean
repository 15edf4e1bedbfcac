import WalletGate.Text.Blank
import WalletGate.Text.Numeral
/-!
# Tables of code points

A property of code points is kept as a text of words, one word a span: the first code point in
hexadecimal, a hyphen and the last one if they differ, and a mark that says what the span has.
-/

namespace WalletGate.Text

/-- The code points from `first` to `last` and the mark they share. -/
structure Span where
  first : Nat
  last : Nat
  mark : List Char
deriving Repr

/-- The value of the hexadecimal digits at the start of a word, and the rest. -/
def hexRun (cs : List Char) : Nat × List Char :=
  let isHex (c : Char) := (hexValue? c).isSome
  ((digitsValue? 16 (cs.takeWhile isHex)).getD 0, cs.dropWhile isHex)

/-- The span of a word. -/
def Span.ofWord (word : List Char) : Span :=
  let (first, rest) := hexRun word
  match rest with
  | '-' :: rest =>
    let (last, mark) := hexRun rest
    ⟨first, last, mark⟩
  | mark => ⟨first, first, mark⟩

/-- The spans of a table. -/
def spans (table : String) : List Span :=
  ((pieces isBlank table.toList).filter (· ≠ [])).map Span.ofWord

/-- The span that holds a code point. -/
def spanAt? (table : List Span) (n : Nat) : Option Span :=
  table.find? fun span => span.first ≤ n && n ≤ span.last

/-- Whether some span holds the character. -/
def inSpans (table : List Span) (c : Char) : Bool :=
  (spanAt? table c.toNat).isSome

end WalletGate.Text
