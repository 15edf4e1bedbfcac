import WalletGate.Text.Letter
/-!
# Bytes of a text

Texts are encoded in UTF-8. Bytes that encode no text are read with a replacement character for each
longest start of a character that breaks off, or not at all.
-/

namespace WalletGate.Text

/-- The bytes of a text. -/
def bytes (cs : List Char) : List UInt8 := cs.flatMap String.utf8EncodeChar

/-- What a leading byte that is no ASCII character announces: how many bytes follow it, the range of
the first of them, and the bits of the leading byte itself. -/
def announced? (b : Nat) : Option (Nat × Nat × Nat × Nat) :=
  if 0xC2 ≤ b ∧ b ≤ 0xDF then some (1, 0x80, 0xBF, b % 32)
  else if b = 0xE0 then some (2, 0xA0, 0xBF, 0)
  else if b = 0xED then some (2, 0x80, 0x9F, 13)
  else if 0xE1 ≤ b ∧ b ≤ 0xEF then some (2, 0x80, 0xBF, b % 16)
  else if b = 0xF0 then some (3, 0x90, 0xBF, 0)
  else if 0xF1 ≤ b ∧ b ≤ 0xF3 then some (3, 0x80, 0xBF, b % 8)
  else if b = 0xF4 then some (3, 0x80, 0x8F, 4)
  else none

/-- Reads the following bytes of a character, the first of them between `low` and `high`. What is
left starts with the byte that does not belong to it, if one does not. -/
def readFollowing : Nat → Nat → Nat → Nat → List UInt8 → Option Char × List UInt8
  | 0, _, _, n, rest => (some (Char.ofNat n), rest)
  | _ + 1, _, _, _, [] => (none, [])
  | count + 1, low, high, n, b :: rest =>
    if low ≤ b.toNat ∧ b.toNat ≤ high then
      readFollowing count 0x80 0xBF (n * 64 + b.toNat % 64) rest
    else (none, b :: rest)

theorem length_readFollowing_le (count low high n : Nat) (bs : List UInt8) :
    (readFollowing count low high n bs).2.length ≤ bs.length := by
  induction count generalizing low high n bs with
  | zero => simp [readFollowing]
  | succ count ih =>
    cases bs with
    | nil => simp [readFollowing]
    | cons b rest =>
      unfold readFollowing
      split
      · exact Nat.le_succ_of_le (ih _ _ _ _)
      · exact Nat.le_refl _

/-- The characters that bytes encode, and nothing for each start of a character that breaks off. -/
def readBytes : List UInt8 → List (Option Char)
  | [] => []
  | b :: rest =>
    if b.toNat < 0x80 then some (Char.ofNat b.toNat) :: readBytes rest
    else match announced? b.toNat with
      | none => none :: readBytes rest
      | some (count, low, high, n) =>
        let c := (readFollowing count low high n rest).1
        have := length_readFollowing_le count low high n rest
        c :: readBytes (readFollowing count low high n rest).2
termination_by bs => bs.length
decreasing_by all_goals simp_wf <;> omega

/-- The text that bytes encode, if they do. -/
def ofBytes? (bs : List UInt8) : Option (List Char) := (readBytes bs).mapM id

/-- The text that bytes encode, with a replacement character for what encodes none. -/
def ofBytes (bs : List UInt8) : List Char :=
  (readBytes bs).map fun c => c.getD (Char.ofNat 0xFFFD)

end WalletGate.Text
