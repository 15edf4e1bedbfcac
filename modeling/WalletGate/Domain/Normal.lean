import WalletGate.Domain.CombiningTable
/-!
# Normal form

The canonical composition of a text (form C): characters are taken apart, the marks after each
letter are put in order of their class, and letters are put together again with the marks that
reach them. Hangul syllables are taken apart and put together by arithmetic.
-/

namespace WalletGate.Domain

/-! ## Taking characters apart -/

/-- The letters of a Hangul syllable. -/
def syllableParts? (n : Nat) : Option (List Char) :=
  if 0xAC00 ≤ n ∧ n < 0xAC00 + 11172 then
    let i := n - 0xAC00
    let first := Char.ofNat (0x1100 + i / 588)
    let second := Char.ofNat (0x1161 + i % 588 / 28)
    if i % 28 = 0 then some [first, second]
    else some [first, second, Char.ofNat (0x11A7 + i % 28)]
  else none

/-- The parts of one character, not taken apart further. No character below U+00C0 has parts. -/
def parts? (c : Char) : Option (List Char) :=
  if c.toNat < 0xC0 then none
  else match syllableParts? c.toNat with
    | some parts => some parts
    | none =>
      match Text.spanAt? partSpans c.toNat with
      | some ⟨_, _, _ :: list⟩ => some (listed list)
      | _ => none

/-- A character taken apart as far as it goes; no chain of parts is longer than four. -/
def takeApart : Nat → Char → List Char
  | 0, c => [c]
  | depth + 1, c =>
    match parts? c with
    | none => [c]
    | some parts => parts.flatMap (takeApart depth)

/-! ## Ordering marks -/

/-- Puts a mark before the marks of a greater class that it follows, in a reversed text. -/
def insertMark (c : Char) : List Char → List Char
  | [] => [c]
  | d :: before =>
    if 0 < combiningClass c ∧ combiningClass c < combiningClass d then d :: insertMark c before
    else c :: d :: before

/-- Marks in order of class; marks of one class keep their order. -/
def orderMarks (cs : List Char) : List Char :=
  (cs.foldl (fun done c => insertMark c done) []).reverse

/-! ## Putting characters together -/

/-- The syllable that two Hangul letters, or a syllable and a letter, make. -/
def syllable? (a b : Nat) : Option Char :=
  if 0x1100 ≤ a ∧ a < 0x1113 ∧ 0x1161 ≤ b ∧ b < 0x1176 then
    some (Char.ofNat (0xAC00 + ((a - 0x1100) * 21 + (b - 0x1161)) * 28))
  else if 0xAC00 ≤ a ∧ a < 0xAC00 + 11172 ∧ (a - 0xAC00) % 28 = 0 ∧ 0x11A7 < b ∧ b < 0x11C3 then
    some (Char.ofNat (a + (b - 0x11A7)))
  else none

/-- The character that two characters compose to. Nothing composes with a character below U+0300
behind it. -/
def compose? (a b : Char) : Option Char :=
  if b.toNat < 0x300 then none
  else match syllable? a.toNat b.toNat with
    | some c => some c
    | none => (pairs.find? fun (x, y, _) => x = a.toNat && y = b.toNat).map fun (_, _, c) => c

/-- Composes a starter with the characters after it. `kept` holds, in reverse, those between that
did not compose; a character is blocked if the last of them has no smaller class. -/
def composeFrom (starter : Char) : List Char → List Char → List Char
  | kept, [] => starter :: kept.reverse
  | kept, c :: rest =>
    let blocked := match kept with
      | [] => false
      | d :: _ => combiningClass d == 0 || combiningClass c ≤ combiningClass d
    match if blocked then none else compose? starter c with
    | some s => composeFrom s kept rest
    | none =>
      if combiningClass c = 0 then starter :: (kept.reverse ++ composeFrom c [] rest)
      else composeFrom starter (c :: kept) rest

/-- Composes all starters; marks before the first one are kept. -/
def compose : List Char → List Char
  | [] => []
  | c :: rest => if combiningClass c = 0 then composeFrom c [] rest else c :: compose rest

/-- The normal form of a text. Below U+00C0 there are no marks and nothing to take apart. -/
def normalize (cs : List Char) : List Char :=
  if cs.all (·.toNat < 0xC0) then cs
  else compose (orderMarks (cs.flatMap (takeApart 4)))

end WalletGate.Domain
