namespace ExchangeGrid
namespace Hex

/-!
# Bytes in hexadecimal

Two lower-case digits write one byte.  `read` takes back what `write` gives.
-/

def pair (byte : UInt8) : List Char :=
  [Nat.digitChar (byte.toNat / 16), Nat.digitChar (byte.toNat % 16)]

def write (bytes : List UInt8) : String :=
  String.ofList (bytes.flatMap pair)

def digit? (c : Char) : Option Nat :=
  if '0' ≤ c ∧ c ≤ '9' then some (c.toNat - '0'.toNat)
  else if 'a' ≤ c ∧ c ≤ 'f' then some (c.toNat - 'a'.toNat + 10)
  else if 'A' ≤ c ∧ c ≤ 'F' then some (c.toNat - 'A'.toNat + 10)
  else none

/-- The bytes that digits write, when they write whole bytes. -/
def read : List Char → Option (List UInt8)
  | [] => some []
  | high :: low :: rest => do
    let high ← digit? high
    let low ← digit? low
    let bytes ← read rest
    some (UInt8.ofNat (high * 16 + low) :: bytes)
  | [_] => none

/-- The bytes of a machine word, the most significant first. -/
def wordBytes (word : UInt64) : List UInt8 :=
  (List.range 8).map fun index => (word >>> UInt64.ofNat (8 * (7 - index))).toUInt8

end Hex
end ExchangeGrid
