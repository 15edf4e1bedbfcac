import WalletGate.Decimal.Double
import WalletGate.Text.Numeral
/-!
# Shortest decimals

A double is written with the fewest digits that still round to it; of two such decimals the nearer
is taken, and of two equally near ones the even one. `Layout` says where the point and the exponent
go.
-/

namespace WalletGate.Decimal

/-- A decimal `digits * 10 ^ power`. -/
structure Scaled where
  digits : Nat
  power : Int
deriving DecidableEq, Repr

/-- The interval of ratios that round to a magnitude, around the magnitude itself. -/
structure Interval where
  low : Nat
  middle : Nat
  high : Nat
  /-- The common denominator of the three. -/
  unit : Nat
  /-- Whether the ends round to the magnitude too, as they do for an even significand. -/
  closed : Bool

/-- The interval of a rank above zero. The gap below a power of two is half as wide. -/
def interval (rank : Nat) : Interval :=
  let m := significand rank
  let e := exponent rank - 2
  let up := Nat.pow 2 e.toNat
  let below := if m = Nat.pow 2 52 ∧ Nat.pow 2 53 ≤ rank then 1 else 2
  { low := (4 * m - below) * up, middle := 4 * m * up, high := (4 * m + 2) * up,
    unit := Nat.pow 2 (-e).toNat, closed := m % 2 = 0 }

/-- The multiple of `10 ^ power` in the interval that is nearest to the middle. -/
def Interval.pick? (i : Interval) (power : Int) : Option Nat :=
  let up := Nat.pow 10 (-power).toNat
  let step := i.unit * Nat.pow 10 power.toNat
  let middle := i.middle * up
  let inside (d : Nat) : Bool :=
    if i.closed then i.low * up ≤ d * step && d * step ≤ i.high * up
    else i.low * up < d * step && d * step < i.high * up
  let d := middle / step
  let below := inside d
  let above := inside (d + 1)
  let rest := middle % step
  if below && above then
    if 2 * rest < step then some d
    else if step < 2 * rest then some (d + 1)
    else if d % 2 = 0 then some d else some (d + 1)
  else if below then some d
  else if above then some (d + 1)
  else none

/-- The shortest decimal of a magnitude above zero, searched from coarse to fine powers of ten. -/
def shortest (rank : Nat) : Scaled :=
  let top : Int := (Nat.log2 (significand rank) : Int) + exponent rank + 1
  go (interval rank) 24 (top * 30103 / 100000 + 1)
where
  go (i : Interval) : Nat → Int → Scaled
    | 0, power => ⟨0, power⟩
    | fuel + 1, power =>
      match i.pick? power with
      | some d => ⟨d, power⟩
      | none => go i fuel (power - 1)

/-- Where plain notation ends. -/
structure Layout where
  /-- The lowest decimal exponent that is written plainly. -/
  lowest : Int
  /-- The highest decimal exponent that is written plainly. -/
  highest : Int

/-- Writes a decimal with a point or an exponent in it, so that it never reads as an integer. -/
def Layout.chars (layout : Layout) (s : Scaled) : List Char :=
  let ds := Text.digits 10 s.digits
  let e := s.power + ds.length - 1
  if layout.lowest ≤ e ∧ e ≤ layout.highest then
    if e < 0 then '0' :: '.' :: List.replicate ((-e).toNat - 1) '0' ++ ds
    else
      let whole := e.toNat + 1
      let fraction := if ds.length ≤ whole then ['0'] else ds.drop whole
      ds.take whole ++ List.replicate (whole - ds.length) '0' ++ '.' :: fraction
  else
    let mantissa := match ds with
      | d :: rest => if rest.isEmpty then [d] else d :: '.' :: rest
      | [] => []
    mantissa ++ 'e' :: (if e < 0 then '-' else '+') :: Text.digits 10 e.natAbs

/-- The text of a double; zero keeps its sign. -/
def Layout.double (layout : Layout) (x : Double) : List Char :=
  let body := if x.rank = 0 then ['0', '.', '0'] else layout.chars (shortest x.rank)
  if x.negative then '-' :: body else body

end WalletGate.Decimal
