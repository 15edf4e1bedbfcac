/-!
# White space

White space is the Unicode property `White_Space`, so the no-break space and the ideographic space
are blank while the zero-width space and the byte order mark are not. `trim` takes blanks off both
ends of a text, and `items` reads a comma-separated list: every segment is trimmed and the empty
ones are dropped.
-/

namespace WalletGate.Text

/-- The twenty-five characters of the property `White_Space`. -/
def isBlank (c : Char) : Bool :=
  let n := c.toNat
  (0x9 ≤ n && n ≤ 0xD) || n == 0x20 || n == 0x85 || n == 0xA0 || n == 0x1680
    || (0x2000 ≤ n && n ≤ 0x200A) || n == 0x2028 || n == 0x2029 || n == 0x202F
    || n == 0x205F || n == 0x3000

/-- Takes the characters that satisfy `p` off both ends. -/
def strip (p : Char → Bool) (cs : List Char) : List Char :=
  ((cs.dropWhile p).reverse.dropWhile p).reverse

/-- A text without the blanks at its ends. -/
def trim (s : String) : String :=
  String.ofList (strip isBlank s.toList)

/-- The pieces of a text between the characters that satisfy `p`; there is always at least one. -/
def pieces (p : Char → Bool) : List Char → List (List Char)
  | [] => [[]]
  | c :: cs =>
    if p c then [] :: pieces p cs
    else match pieces p cs with
      | [] => [[c]]
      | first :: rest => (c :: first) :: rest

theorem pieces_ne_nil (p : Char → Bool) (cs : List Char) : pieces p cs ≠ [] := by
  cases cs with
  | nil => simp [pieces]
  | cons c cs =>
    unfold pieces
    split
    · simp
    · split <;> simp

/-- The trimmed, non-empty items of a comma-separated list, in order. -/
def items (s : String) : List String :=
  ((pieces (· == ',') s.toList).map fun piece => String.ofList (strip isBlank piece)).filter
    (· ≠ "")

/-- Whether the text consists of blanks alone; the empty text does. -/
def isVacant (s : String) : Bool :=
  s.toList.all isBlank

/-- Whether `part` occurs in `cs` as a contiguous run. -/
def containsRun (part : List Char) : List Char → Bool
  | [] => part.isEmpty
  | c :: cs => part.isPrefixOf (c :: cs) || containsRun part cs

end WalletGate.Text
