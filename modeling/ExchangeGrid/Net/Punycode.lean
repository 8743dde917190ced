import ExchangeGrid.Text.Decimal

namespace ExchangeGrid
namespace Net

/-!
# Punycode

Writes the characters of a domain label that are not ASCII as letters and digits, and reads them
back.  The characters are taken in order of their code points; a number tells how far it is, in
steps of code point and place, from each one to the next, and the weight of its digits adapts to
the numbers before it.
-/

namespace Punycode

/-- The letter or digit of a value below 36. -/
def digitOf (value : Nat) : Char :=
  Char.ofNat (if value < 26 then 97 + value else 22 + value)

def valueOf? (c : Char) : Option Nat :=
  if 'a' ≤ c ∧ c ≤ 'z' then some (c.toNat - 97)
  else if 'A' ≤ c ∧ c ≤ 'Z' then some (c.toNat - 65)
  else if '0' ≤ c ∧ c ≤ '9' then some (c.toNat - 22)
  else none

/-- How large the digit at a position may be before the number ends. -/
def threshold (bias position : Nat) : Nat :=
  if position ≤ bias then 1 else if bias + 26 ≤ position then 26 else position - bias

theorem threshold_pos (bias position : Nat) : 1 ≤ threshold bias position := by
  unfold threshold
  split
  · exact Nat.le_refl 1
  · split <;> omega

theorem threshold_le (bias position : Nat) : threshold bias position ≤ 26 := by
  unfold threshold
  split
  · omega
  · split <;> omega

/-- Divide by 35 until a step is small, and count what the divisions add to the bias. -/
def reduce (step weight : Nat) : Nat × Nat :=
  if 455 < step then reduce (step / 35) (weight + 36) else (step, weight)
termination_by step
decreasing_by exact Nat.div_lt_self (by omega) (by omega)

/-- The bias after a step. -/
def adapt (step count : Nat) (first : Bool) : Nat :=
  let step := if first then step / 700 else step / 2
  let (step, weight) := reduce (step + step / count) 0
  weight + 36 * step / (step + 38)

/-- The digits of a step, least first. -/
def writeStep (bias position step : Nat) : List Char :=
  let bound := threshold bias position
  if step < bound then [digitOf step]
  else
    digitOf (bound + (step - bound) % (36 - bound)) ::
      writeStep bias (position + 36) ((step - bound) / (36 - bound))
termination_by step
decreasing_by
  have lower := threshold_pos bias position
  have upper := threshold_le bias position
  have := Nat.div_le_self (step - threshold bias position) (36 - threshold bias position)
  omega

/-- What writing has reached. -/
structure Progress where
  step : Nat
  bias : Nat
  handled : Nat
  first : Bool
  written : List Char

/-- Go past one character while the characters of one code point are written. -/
def Progress.pass (point : Nat) (state : Progress) (c : Char) : Progress :=
  if c.toNat < point then { state with step := state.step + 1 }
  else if c.toNat = point then
    { step := 0
      bias := adapt state.step (state.handled + 1) state.first
      handled := state.handled + 1
      first := false
      written := state.written ++ writeStep state.bias 36 state.step }
  else state

/-- Write the characters of each of some ascending code points. -/
def writePoints (label : List Char) : List Nat → Nat → Progress → Progress
  | [], _, state => state
  | point :: rest, least, state =>
    let state := { state with step := state.step + (point - least) * (state.handled + 1) }
    let state := label.foldl (Progress.pass point) state
    writePoints label rest (point + 1) { state with step := state.step + 1 }

def write (label : List Char) : List Char :=
  let plain := label.filter fun c => c.toNat < 128
  let points := ((label.map Char.toNat).filter (128 ≤ ·)).mergeSort.eraseDups
  let start : Progress := ⟨0, 72, plain.length, true, []⟩
  let front := if plain.isEmpty then [] else plain ++ ['-']
  front ++ (writePoints label points 128 start).written

/-- Read the digits of one step: its value and the text behind it. -/
def readStep (bias : Nat) : Nat → Nat → Nat → List Char → Option (Nat × List Char)
  | _, _, _, [] => none
  | position, weight, value, c :: rest =>
    match valueOf? c with
    | none => none
    | some digit =>
      let value := value + digit * weight
      let bound := threshold bias position
      if digit < bound then some (value, rest)
      else readStep bias (position + 36) (weight * (36 - bound)) value rest

theorem length_of_readStep {bias : Nat} {text rest : List Char} :
    ∀ {position weight value result : Nat},
      readStep bias position weight value text = some (result, rest) →
      rest.length < text.length := by
  induction text with
  | nil => intro _ _ _ _ read; simp [readStep] at read
  | cons c tail hypothesis =>
    intro position weight value result read
    unfold readStep at read
    split at read
    · contradiction
    · simp only at read
      split at read
      · simp only [Option.some.injEq, Prod.mk.injEq] at read
        simp [read.2]
      · have := hypothesis read
        simp only [List.length_cons]
        omega

/-- Read steps until the text ends, and put each character at its place. -/
def readPoints (text : List Char) (point place bias : Nat) (first : Bool) (label : List Char) :
    Option (List Char) :=
  if text = [] then some label
  else
    match read : readStep bias 36 1 0 text with
    | none => none
    | some (step, rest) =>
      let count := label.length + 1
      let place := place + step
      let point := point + place / count
      if 0x10FFFF < point ∨ (0xD800 ≤ point ∧ point ≤ 0xDFFF) then none
      else
        let place := place % count
        have := length_of_readStep read
        readPoints rest point (place + 1) (adapt step count first) false
          (label.take place ++ Char.ofNat point :: label.drop place)
termination_by text.length

def read? (text : List Char) : Option (List Char) :=
  let back := text.reverse.takeWhile (· != '-')
  let front := (text.reverse.drop (back.length + 1)).reverse
  if front.any fun c => 128 ≤ c.toNat then none
  else readPoints back.reverse 128 0 72 true front

end Punycode
end Net
end ExchangeGrid
