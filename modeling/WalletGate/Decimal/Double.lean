/-!
# Doubles

A finite double is a sign and a *rank*: the magnitudes are numbered from zero upwards in order of
size, so that rank `r` stands for `significand r * 2 ^ exponent r`. All arithmetic is exact on
ratios of naturals and rounds once, to the nearest magnitude, a tie going to the even one.
-/

namespace WalletGate.Decimal

/-- One more than the highest rank of a finite magnitude. -/
def rankLimit : Nat := 2047 * Nat.pow 2 52

/-- A finite double. -/
structure Double where
  negative : Bool
  /-- The place of the magnitude among all magnitudes in order of size; zero has rank zero. -/
  rank : Nat
  rank_lt : rank < rankLimit
deriving DecidableEq, Repr

namespace Double

def zero : Double := ⟨false, 0, by decide⟩

instance : Inhabited Double := ⟨zero⟩

end Double

/-- The integer part of the magnitude of a rank, below `2 ^ 53`. -/
def significand (rank : Nat) : Nat :=
  if rank < Nat.pow 2 52 then rank else rank % Nat.pow 2 52 + Nat.pow 2 52

/-- The power of two that the significand is multiplied by. -/
def exponent (rank : Nat) : Int :=
  if rank < Nat.pow 2 52 then -1074 else (rank / Nat.pow 2 52 : Nat) - 1075

/-- `n * 2 ^ e` as a ratio. -/
def scaled (n : Nat) (e : Int) : Nat × Nat :=
  (n * Nat.pow 2 e.toNat, Nat.pow 2 (-e).toNat)

/-- The magnitude of a rank as a ratio. -/
def magnitude (rank : Nat) : Nat × Nat := scaled (significand rank) (exponent rank)

/-- The integer nearest to `a / b`, the even one of two. -/
def roundHalfEven (a b : Nat) : Nat :=
  let q := a / b
  let r := a % b
  if 2 * r < b then q
  else if b < 2 * r then q + 1
  else if q % 2 = 0 then q else q + 1

/-- The rank of the magnitude nearest to `a / b`; at least `rankLimit` if the ratio is too big. -/
def nearestRank (a b : Nat) : Nat :=
  if a = 0 then 0
  else
    let guess : Int := (Nat.log2 a : Int) - Nat.log2 b - 52
    let units (e : Int) : Nat × Nat := (a * Nat.pow 2 (-e).toNat, b * Nat.pow 2 e.toNat)
    -- the significand gets fifty-three bits, and fewer with the lowest exponent only
    let low := units guess
    let e := max (-1074) (if low.1 < low.2 * Nat.pow 2 52 then guess - 1 else guess)
    let ratio := units e
    -- rounded up to `2 ^ 53` it gives the first rank of the next exponent, as it should
    (e + 1074).toNat * Nat.pow 2 52 + roundHalfEven ratio.1 ratio.2

/-- The double of a sign and a rank, if the rank is that of a finite magnitude. -/
def Double.ofRank? (negative : Bool) (rank : Nat) : Option Double :=
  if h : rank < rankLimit then some ⟨negative, rank, h⟩ else none

/-- The rounded product of two magnitudes. -/
def timesRank (r s : Nat) : Nat :=
  let a := magnitude r
  let b := magnitude s
  nearestRank (a.1 * b.1) (a.2 * b.2)

/-- The rounded quotient of two magnitudes. -/
def overRank (r s : Nat) : Nat :=
  let a := magnitude r
  let b := magnitude s
  nearestRank (a.1 * b.2) (a.2 * b.1)

/-- The magnitude nearest to a power of ten. -/
def tenRank (e : Nat) : Nat := nearestRank (Nat.pow 10 e) 1

/--
The magnitude of `n * 10 ^ e`, found as a reader of decimals finds it: `n` is rounded, then
multiplied or divided by one rounded power of ten up to `10 ^ 308`, after divisions by `10 ^ 308`
where the exponent is lower still. `none` if the magnitude is too big.
-/
def decimalRank? (n : Nat) (e : Int) : Option Nat :=
  go 8 (nearestRank n 1) e
where
  go : Nat → Nat → Int → Option Nat
    | 0, _, _ => some 0
    | fuel + 1, rank, e =>
      if e.natAbs ≤ 308 then
        let rank := if 0 ≤ e then timesRank rank (tenRank e.natAbs)
          else overRank rank (tenRank e.natAbs)
        if rank < rankLimit then some rank else none
      else if rank = 0 then some 0
      else if 0 ≤ e then none
      else go fuel (overRank rank (tenRank 308)) (e + 308)

end WalletGate.Decimal
