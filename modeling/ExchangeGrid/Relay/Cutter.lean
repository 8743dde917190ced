import ExchangeGrid.Stomp.Wire

namespace ExchangeGrid
namespace Relay

/-!
# Cutting frames out of bytes

A socket carries one frame a message, but a session writes bytes.  The cutter holds bytes back
until a frame is whole: a frame ends behind as many bytes as its head declares, or else at the
first NUL.  A line end between frames is a message of its own.  Nothing is lost, and no message is
empty.
-/

/-- How a line of a head begins that declares the length of the body. -/
def lengthMark : List Char := "content-length:".toList

def declaredLength? (head : List UInt8) : Option Nat :=
  match Utf8.text? head with
  | none => none
  | some text =>
    match (splitOn '\n' text.toList).findSome? (after? lengthMark) with
    | none => none
    | some value => Decimal.natural? Decimal.wordBound (Blank.strip value)

/-- The length up to the first NUL, which counts. -/
def terminatedLength? (buffer : List UInt8) : Option Nat :=
  (buffer.findIdx? (· == 0)).map (· + 1)

/-- The length of the first frame in a buffer, when it is whole. -/
def frameLength? (buffer : List UInt8) : Option Nat :=
  match Stomp.split? buffer with
  | none => terminatedLength? buffer
  | some cut =>
    match declaredLength? cut.head with
    | none => terminatedLength? buffer
    | some length =>
      let last := cut.head.length + cut.blank.length + length
      if last < buffer.length then some (last + 1) else none

def messageLength? : List UInt8 → Option Nat
  | [] => none
  | 10 :: _ => some 1
  | 13 :: 10 :: _ => some 2
  | buffer => frameLength? buffer

theorem terminatedLength?_bounds {buffer : List UInt8} {length : Nat}
    (found : terminatedLength? buffer = some length) : 0 < length ∧ length ≤ buffer.length := by
  unfold terminatedLength? at found
  cases place : buffer.findIdx? (· == 0) with
  | none =>
    rw [place] at found
    cases found
  | some index =>
    rw [place, Option.map_some] at found
    injection found with found
    obtain ⟨bound, _⟩ := List.findIdx?_eq_some_iff_getElem.mp place
    omega

theorem frameLength?_bounds {buffer : List UInt8} {length : Nat}
    (found : frameLength? buffer = some length) : 0 < length ∧ length ≤ buffer.length := by
  unfold frameLength? at found
  split at found
  · exact terminatedLength?_bounds found
  · split at found
    · exact terminatedLength?_bounds found
    · dsimp only at found
      split at found
      · cases found
        omega
      · cases found

/-- A message that is whole is not empty and lies in the buffer. -/
theorem messageLength?_bounds {buffer : List UInt8} {length : Nat}
    (found : messageLength? buffer = some length) : 0 < length ∧ length ≤ buffer.length := by
  unfold messageLength? at found
  split at found
  · cases found
  · cases found
    simp
  · cases found
    simp
  · exact frameLength?_bounds found

/-- Messages that were cut, and the bytes that are held back. -/
structure Cut where
  messages : List (List UInt8)
  pending : List UInt8
  deriving DecidableEq, Repr

/-- Cut whole messages off the front of a buffer until none is left. -/
def cutAll (buffer : List UInt8) : Cut :=
  match _found : messageLength? buffer with
  | none => ⟨[], buffer⟩
  | some length =>
    let later := cutAll (buffer.drop length)
    { later with messages := buffer.take length :: later.messages }
termination_by buffer.length
decreasing_by
  have bounds := messageLength?_bounds _found
  simp only [List.length_drop]
  omega

theorem cutAll_eq (buffer : List UInt8) :
    cutAll buffer =
      match messageLength? buffer with
      | none => ⟨[], buffer⟩
      | some length =>
        { cutAll (buffer.drop length) with
          messages := buffer.take length :: (cutAll (buffer.drop length)).messages } := by
  rw [cutAll]
  split <;> rename_i found <;> rw [found]

/-- Bytes that are held back. -/
structure Cutter where
  pending : List UInt8 := []
  deriving DecidableEq, Repr

/-- Add bytes and cut what is whole by now. -/
def Cutter.push (cutter : Cutter) (bytes : List UInt8) : Cut :=
  cutAll (cutter.pending ++ bytes)

end Relay
end ExchangeGrid
