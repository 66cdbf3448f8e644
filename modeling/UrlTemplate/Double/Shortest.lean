import UrlTemplate.Double

/-!
# Shortest decimal digits

`shortest x` is the decimal number with the fewest digits that rounds to the double `x`, and among
those the one nearest to `x`.

The reals that round to `x` form an interval around it: half a unit in the last place to each side,
a quarter of one below a power of two, the ends belonging to it when the significand is even. A
decimal with few digits is a point of a coarse grid `10 ^ g`, so the search walks the grids from
coarse to fine and stops at the first one that has a point in the interval. Only the two points next
to `x` need a test: if any point of a grid lies in the interval, one of them does.
-/

namespace UrlTemplate.Double

/-- The interval of reals that round to a number, over a common denominator, in exact arithmetic. -/
structure Neighbourhood where
  lower : Nat
  centre : Nat
  upper : Nat
  denominator : Nat
  /-- Whether the ends round to the number as well. -/
  closed : Bool

namespace Neighbourhood

/-- Whether `k` times the grid step lies in the interval, which is given in units of that step. -/
def contains (i : Neighbourhood) (k : Nat) : Bool :=
  let point := k * i.denominator
  if i.closed then i.lower ≤ point && point ≤ i.upper else i.lower < point && point < i.upper

/-- The interval measured in units of `10 ^ g`. -/
def onGrid (i : Neighbourhood) (g : Int) : Neighbourhood :=
  if 0 ≤ g then { i with denominator := i.denominator * Nat.pow 10 g.toNat }
  else
    let scale := Nat.pow 10 (-g).toNat
    { i with lower := i.lower * scale, centre := i.centre * scale, upper := i.upper * scale }

/-- The point of the grid of step one that lies in the interval and is nearest to the centre; the
even one of two equally near. -/
def nearest? (i : Neighbourhood) : Option Nat :=
  let below := i.centre / i.denominator
  let rest := 2 * (i.centre % i.denominator)
  match i.contains below, i.contains (below + 1) with
  | false, false => none
  | true, false => some below
  | false, true => some (below + 1)
  | true, true =>
    if rest < i.denominator ∨ (rest = i.denominator ∧ below % 2 = 0) then some below
    else some (below + 1)

/-- The first grid with a point in the interval, from `10 ^ g` downwards, with that point. -/
def search (i : Neighbourhood) (g : Int) : (fuel : Nat) → Nat × Int
  | 0 => (0, g)
  | fuel + 1 =>
    match (i.onGrid g).nearest? with
    | some k => (k, g)
    | none => i.search (g - 1) fuel

end Neighbourhood

/-- The reals that round to a positive finite number. -/
def neighbourhood (x : Double) : Neighbourhood :=
  let m := x.significand
  let e := x.exponent - 2
  let gapBelow := if x.magnitude % Nat.pow 2 52 = 0 ∧ 1 < x.exponentField then 1 else 2
  let (scale, den) := if 0 ≤ e then (Nat.pow 2 e.toNat, 1) else (1, Nat.pow 2 (-e).toNat)
  { lower := (4 * m - gapBelow) * scale
    centre := 4 * m * scale
    upper := (4 * m + 2) * scale
    denominator := den
    closed := m % 2 = 0 }

/-- Decimal digits and the power of ten of the last one. A grid above the number has no point near
it, and seventeen digits always suffice, so the fuel covers every grid that can be the first. -/
def shortest (x : Double) : Nat × Int :=
  if x.isZero then (0, 0)
  else
    let bits : Int := x.significand.log2 + x.exponent
    x.neighbourhood.search (bits * 3 / 10 + 2) 40

end UrlTemplate.Double
