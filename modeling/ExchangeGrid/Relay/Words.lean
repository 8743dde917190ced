import ExchangeGrid.Relay.Cutter
import ExchangeGrid.Stomp.Words

namespace ExchangeGrid
namespace Relay

open Stomp

/-!
# Cutting in machine words

The cutter adds a declared length to the place where the body starts, as a reader of frames does,
and a machine adds words.  Nothing is read at the place it arrives at: a sum that wraps around only
moves the end of the message.
-/

/-- Where the body starts and how long it is, if the head has come and declares a length. -/
def declared? : List UInt8 → Option (Nat × Nat)
  | [] => none
  | 10 :: _ => none
  | 13 :: 10 :: _ => none
  | buffer =>
    match split? buffer with
    | none => none
    | some cut =>
      (declaredLength? cut.head).map fun length => (cut.head.length + cut.blank.length, length)

def messageLengthWords (overflow : Overflow) (buffer : List UInt8) : Option (Option Nat) :=
  match declared? buffer with
  | none => some (messageLength? buffer)
  | some (start, length) => do
    let last ← overflow.sum? start length
    if last < buffer.length then
      let total ← overflow.sum? last 1
      some (some total)
    else some none

/-- Cut whole messages off the front of a buffer until none is left.  A message of no length would
be cut off for ever. -/
def cutAllWords (overflow : Overflow) (buffer : List UInt8) : Option Cut :=
  match messageLengthWords overflow buffer with
  | none => none
  | some none => some ⟨[], buffer⟩
  | some (some length) =>
    if _shorter : (buffer.drop length).length < buffer.length then
      (cutAllWords overflow (buffer.drop length)).map fun later =>
        { later with messages := buffer.take length :: later.messages }
    else none
termination_by buffer.length
decreasing_by exact _shorter

def Cutter.pushWords (overflow : Overflow) (cutter : Cutter) (bytes : List UInt8) : Option Cut :=
  cutAllWords overflow (cutter.pending ++ bytes)

end Relay
end ExchangeGrid
