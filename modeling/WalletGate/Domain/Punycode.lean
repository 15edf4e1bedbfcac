import WalletGate.Text.Letter
/-!
# Punycode

The encoding of a label by letters, digits and hyphens (RFC 3492): the ASCII characters come first,
then the other characters in order of code point, each as the distance to the one before it.
-/

namespace WalletGate.Domain.Punycode

/-- The bias after a distance has been written or read. -/
def adapt (delta count : Nat) (first : Bool) : Nat :=
  let delta := if first then delta / 700 else delta / 2
  go 32 (delta + delta / count) 0
where
  go : Nat → Nat → Nat → Nat
    | 0, _, k => k
    | fuel + 1, delta, k =>
      if 455 < delta then go fuel (delta / 35) (k + 36) else k + 36 * delta / (delta + 38)

/-- How far a digit at place `k` may go before it ends a number. -/
def threshold (k bias : Nat) : Nat :=
  if k ≤ bias then 1 else if bias + 26 ≤ k then 26 else k - bias

/-- The value of a digit: letters of either case, then `0` to `9`. -/
def digitValue? (c : Char) : Option Nat :=
  if 'a' ≤ c ∧ c ≤ 'z' then some (c.toNat - 97)
  else if 'A' ≤ c ∧ c ≤ 'Z' then some (c.toNat - 65)
  else if '0' ≤ c ∧ c ≤ '9' then some (c.toNat - 22)
  else none

/-- The digit of a value below 36. -/
def digit (n : Nat) : Char :=
  if n < 26 then Char.ofNat (97 + n) else Char.ofNat (22 + n)

/-! ## Decoding -/

/-- Reads one number in digits of growing weight, and what follows it. Weights stay below
`2 ^ 32`. -/
def readNumber (bias : Nat) : List Char → Nat → Nat → Nat → Option (Nat × List Char)
  | [], _, _, _ => none
  | c :: cs, k, weight, n =>
    match digitValue? c with
    | none => none
    | some d =>
      let n := n + d * weight
      let t := threshold k bias
      if d < t then some (n, cs)
      else if 4294967296 ≤ weight * (36 - t) then none
      else readNumber bias cs (k + 36) (weight * (36 - t)) n

/-- Puts the characters that the digits name into `done`, from code point `n` and place `i` on. The
place is zero before the first number only. -/
def readAll : Nat → List Char → List Char → Nat → Nat → Nat → Option (List Char)
  | 0, _, _, _, _, _ => none
  | _ + 1, [], done, _, _, _ => some done
  | fuel + 1, cs, done, n, i, bias =>
    match readNumber bias cs 36 1 0 with
    | none => none
    | some (delta, rest) =>
      let count := done.length + 1
      let place := i + delta
      let n := n + place / count
      let place := place % count
      if n < 0xD800 ∨ (0xE000 ≤ n ∧ n < 0x110000) then
        readAll fuel rest (done.insertIdx place (Char.ofNat n)) n (place + 1)
          (adapt delta count (i = 0))
      else none

/-- The characters before the last hyphen, and those behind it; a hyphen in front is a digit. -/
def splitAtLastHyphen (cs : List Char) : List Char × List Char :=
  let tail := cs.reverse.takeWhile (· ≠ '-')
  let head := (cs.reverse.drop (tail.length + 1)).reverse
  if head.isEmpty then ([], cs) else (head, tail.reverse)

/-- The label of an encoding, without the prefix of encoded labels. -/
def decode (cs : List Char) : Option (List Char) :=
  let (plain, rest) := splitAtLastHyphen cs
  readAll (rest.length + 1) rest plain 128 0 72

/-! ## Encoding -/

/-- Writes a number in digits of growing weight. -/
def writeNumber (bias n : Nat) : List Char :=
  go 64 36 n
where
  go : Nat → Nat → Nat → List Char
    | 0, _, _ => []
    | fuel + 1, k, n =>
      let t := threshold k bias
      if n < t then [digit n]
      else digit (t + (n - t) % (36 - t)) :: go fuel (k + 36) ((n - t) / (36 - t))

/-- The distance so far, the bias, and how many characters are written. -/
structure Progress where
  delta : Nat
  bias : Nat
  written : Nat

/-- Passes over the label once, writing the distance to every occurrence of code point `n`. -/
def pass (n plainCount : Nat) : List Char → Progress → List Char × Progress
  | [], p => ([], p)
  | c :: cs, p =>
    if c.toNat < n then pass n plainCount cs { p with delta := p.delta + 1 }
    else if c.toNat = n then
      let bias := adapt p.delta (p.written + 1) (p.written = plainCount)
      let (more, q) := pass n plainCount cs ⟨0, bias, p.written + 1⟩
      (writeNumber p.bias p.delta ++ more, q)
    else pass n plainCount cs p

/-- Passes over the label for each code point in turn; `previous` is the last one passed. -/
def passes (plainCount : Nat) (label : List Char) : List Nat → Nat → Progress → List Char
  | [], _, _ => []
  | n :: rest, previous, p =>
    let p := { p with delta := p.delta + (n - previous) * (p.written + 1) }
    let (out, p) := pass n plainCount label p
    out ++ passes plainCount label rest (n + 1) { p with delta := p.delta + 1 }

/-- The encoding of a label, without the prefix of encoded labels. -/
def encode (label : List Char) : List Char :=
  let plain := label.filter (·.toNat < 128)
  let others := ((label.map (·.toNat)).filter (128 ≤ ·)).eraseDups.mergeSort (· ≤ ·)
  let head := if plain.isEmpty then [] else plain ++ ['-']
  head ++ passes plain.length label others 128 ⟨0, 72, plain.length⟩

end WalletGate.Domain.Punycode
