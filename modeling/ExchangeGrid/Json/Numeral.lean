import ExchangeGrid.Json.Value

namespace ExchangeGrid
namespace Json

/-!
# The value of a written number

A whole number that fits a signed or an unsigned machine word keeps its value, except for minus
zero.  Every other number becomes binary by a short rule: as many leading digits as fit a word
are one binary number, which is multiplied or divided once by a power of ten.  The rule rounds
at each of its steps, so its last bit is part of what a reader answers.
-/

/-- A number as it stands in a text. -/
structure Numeral where
  negative : Bool
  whole : List Char
  fraction : List Char
  /-- The sign of the exponent, true for minus, and its digits. -/
  exponent : Option (Bool × List Char)
  deriving DecidableEq, Repr

/-- The value of a digit, zero for anything else. -/
def digitValue (c : Char) : Nat :=
  (Decimal.digit? c).getD 0

/-- The leading digits that fit a word, and how many digits follow them. -/
def leadingWord : Nat → List Char → Nat × Nat
  | value, [] => (value, 0)
  | value, c :: rest =>
    if value * 10 + digitValue c < Decimal.wordBound then
      leadingWord (value * 10 + digitValue c) rest
    else (value, rest.length + 1)

/-- Ten to a power that a binary number can hold. -/
def powerOfTen (exponent : Nat) : Float :=
  Float.ofScientific 1 false exponent

/-- Multiply a binary number by a power of ten, in steps when the power is very small.  Nothing
is returned when the result is too large. -/
def scale? : Nat → Float → Int → Option Float
  | 0, value, _ => some value
  | fuel + 1, value, exponent =>
    if exponent.natAbs ≤ 308 then
      if 0 ≤ exponent then
        let scaled := value * powerOfTen exponent.natAbs
        if scaled.isInf then none else some scaled
      else some (value / powerOfTen exponent.natAbs)
    else if value == 0.0 then some value
    else if 0 ≤ exponent then none
    else scale? fuel (value / powerOfTen 308) (exponent + 308)

/-- The largest exponent that is still computed with. -/
def exponentBound : Nat := Nat.pow 2 31

/-- Force an exponent into the range of a signed machine integer. -/
def clampExponent (exponent : Int) : Int :=
  max (-(exponentBound : Int)) (min exponent ((exponentBound : Int) - 1))

/-- The value of the digits of an exponent, when it is below the bound. -/
def exponentValue? : Nat → List Char → Option Nat
  | value, [] => some value
  | value, c :: rest =>
    if value * 10 + digitValue c < exponentBound then
      exponentValue? (value * 10 + digitValue c) rest
    else none

def Numeral.scaled? (numeral : Numeral) (leading : Nat) (shift : Int) : Option Float :=
  let value := leading.toUInt64.toFloat
  match numeral.exponent with
  | none => scale? 8 value shift
  | some (down, digits) =>
    match exponentValue? 0 digits with
    | none => if leading ≠ 0 ∧ ¬ down then none else some 0.0
    | some e =>
      let e : Int := e
      scale? 8 value (clampExponent (if down then shift - e else shift + e))

/-- A numeral as binary number, when it is not too large. -/
def Numeral.binary? (numeral : Numeral) : Option Float :=
  let (leading, dropped) := leadingWord 0 numeral.whole
  let (leading, used) :=
    match numeral.fraction with
    | [] => (leading, 0)
    | fraction =>
      let (leading, behind) := leadingWord leading fraction
      (leading, fraction.length - behind)
  let shift : Int := (dropped : Int) - used
  (numeral.scaled? leading shift).map fun value => if numeral.negative then -value else value

/-- The value of a numeral.  Nothing is returned when it is too large for a binary number. -/
def Numeral.value? (numeral : Numeral) : Option Number :=
  let plain := numeral.fraction.isEmpty && numeral.exponent.isNone
  let (leading, dropped) := leadingWord 0 numeral.whole
  if plain && dropped == 0 then
    if ¬ numeral.negative then some (.whole leading)
    else if leading = 0 ∨ Nat.pow 2 63 < leading then
      some (.binary (-(leading.toUInt64.toFloat)).toBits)
    else some (.whole (-(leading : Int)))
  else numeral.binary?.map fun value => .binary value.toBits

def Number.toBinary : Number → UInt64
  | .whole value =>
    if 0 ≤ value then value.toNat.toUInt64.toFloat.toBits
    else (-(value.natAbs.toUInt64.toFloat)).toBits
  | .binary bits => bits

end Json
end ExchangeGrid
