namespace ExchangeGrid
namespace Shortest

/-!
# The fewest digits that read back

A finite binary number stands for every real in an interval around it, the reals that round to
it.  Its shortest writing is the point of the coarsest decimal grid that meets this interval,
of two such points the nearer one, and of two equally near the one whose last digit is even.  All
arithmetic is on natural numbers: a magnitude is
`numerator / denominator`, and the interval is given in quarters of its last place.
-/

/-- A positive binary number as a fraction, with the reals that round to it. -/
structure Magnitude where
  numerator : Nat
  denominator : Nat
  low : Nat
  high : Nat
  endsIncluded : Bool

/-- The magnitude `significand * 2 ^ exponent`.  Below a power of two the neighbour is only
half as far away, unless the exponent is the least one. -/
def Magnitude.ofBinary (significand : Nat) (exponent : Int) (least : Bool) : Magnitude :=
  let scale := exponent - 2
  let up := Nat.pow 2 scale.toNat
  let below := if significand = Nat.pow 2 52 ∧ ¬ least then 1 else 2
  { numerator := 4 * significand * up
    denominator := Nat.pow 2 (-scale).toNat
    low := (4 * significand - below) * up
    high := (4 * significand + 2) * up
    endsIncluded := significand % 2 = 0 }

/-- A decimal point on a grid: `digits * 10 ^ exponent`. -/
structure Point where
  digits : Nat
  exponent : Int
  deriving DecidableEq, Repr

/-- A point as a fraction over the denominator of a magnitude, multiplied by a common factor
that makes both whole. -/
def Point.scaled (point : Point) (m : Magnitude) : Nat :=
  point.digits * Nat.pow 10 point.exponent.toNat * m.denominator

/-- The factor by which the numbers of a magnitude are multiplied to compare with `scaled`. -/
def Point.factor (point : Point) : Nat :=
  Nat.pow 10 (-point.exponent).toNat

/-- Whether a point rounds to the magnitude. -/
def Point.readsBack (point : Point) (m : Magnitude) : Bool :=
  let x := point.scaled m
  let low := m.low * point.factor
  let high := m.high * point.factor
  if m.endsIncluded then low ≤ x && x ≤ high else low < x && x < high

/-- How far a point is from the magnitude, on the common scale. -/
def Point.distance (point : Point) (m : Magnitude) : Nat :=
  let x := point.scaled m
  let v := m.numerator * point.factor
  if x < v then v - x else x - v

/-- The position of the first decimal digit of a magnitude below one, searched downwards. -/
def leadBelowOne (m : Magnitude) : Nat → Nat → Int
  | 0, place => -place
  | fuel + 1, place =>
    if m.denominator ≤ m.numerator * Nat.pow 10 place then -place
    else leadBelowOne m fuel (place + 1)

/-- The exponent of the first decimal digit of a magnitude. -/
def lead (m : Magnitude) : Int :=
  if m.denominator ≤ m.numerator then
    (Nat.toDigits 10 (m.numerator / m.denominator)).length - 1
  else leadBelowOne m 400 1

/-- The grid point at or below a magnitude. -/
def floorPoint (m : Magnitude) (exponent : Int) : Point :=
  let num := m.numerator * Nat.pow 10 (-exponent).toNat
  let den := m.denominator * Nat.pow 10 exponent.toNat
  ⟨num / den, exponent⟩

/-- The better of the two neighbours of a magnitude on a grid, when one reads back. -/
def onGrid? (m : Magnitude) (exponent : Int) : Option Point :=
  let below := floorPoint m exponent
  let above : Point := ⟨below.digits + 1, exponent⟩
  match below.readsBack m, above.readsBack m with
  | true, true =>
    let belowWins := below.distance m < above.distance m
      || (below.distance m == above.distance m && below.digits % 2 == 0)
    if belowWins then some below else some above
  | true, false => some below
  | false, true => some above
  | false, false => none

/-- Try grids of more and more digits. -/
def search (m : Magnitude) (first : Int) : Nat → Nat → Point
  | 0, places => floorPoint m (first - places)
  | fuel + 1, places =>
    match onGrid? m (first - places) with
    | some point => point
    | none => search m first fuel (places + 1)

/-- The shortest point that reads back as the magnitude. -/
def shortest (m : Magnitude) : Point :=
  search m (lead m) 17 0

structure Parts where
  negative : Bool
  exponent : Nat
  fraction : Nat

def Parts.ofBits (bits : UInt64) : Parts :=
  let n := bits.toNat
  { negative := n / Nat.pow 2 63 = 1
    exponent := n / Nat.pow 2 52 % Nat.pow 2 11
    fraction := n % Nat.pow 2 52 }

def Parts.magnitude (parts : Parts) : Magnitude :=
  if parts.exponent = 0 then Magnitude.ofBinary parts.fraction (-1074) true
  else Magnitude.ofBinary (Nat.pow 2 52 + parts.fraction) ((parts.exponent : Int) - 1075)
    (parts.exponent == 1)

end Shortest
end ExchangeGrid
