import ExchangeGrid.Text.Decimal
import ExchangeGrid.Text.Split

namespace ExchangeGrid
namespace Net

/-!
# Internet addresses

Addresses of both families, read from their texts and written in the one form that is
canonical: four decimal numbers, or eight hexadecimal groups whose first longest run of two or
more zero groups is left out.
-/

/-- An internet address: four octets, or eight groups of sixteen bits. -/
inductive Address
  | v4 (octets : List Nat)
  | v6 (groups : List Nat)
  deriving DecidableEq, Repr

def Address.isV4 : Address → Bool
  | .v4 _ => true
  | .v6 _ => false

/-- Read a decimal octet of at most three digits.  A zero in front stands alone. -/
def readOctet (text : List Char) : Option (Nat × List Char) :=
  let digits := (text.take 4).takeWhile fun c => (Decimal.digit? c).isSome
  if digits.isEmpty || digits.length > 3 then none
  else if digits.head? = some '0' ∧ digits.length ≠ 1 then none
  else
    match Decimal.natural? 256 digits with
    | none => none
    | some value => some (value, text.drop digits.length)

def readDotOctet : List Char → Option (Nat × List Char)
  | '.' :: rest => readOctet rest
  | _ => none

def readV4 (text : List Char) : Option (List Nat × List Char) := do
  let (a, rest) ← readOctet text
  let (b, rest) ← readDotOctet rest
  let (c, rest) ← readDotOctet rest
  let (d, rest) ← readDotOctet rest
  some ([a, b, c, d], rest)

def hexDigit? (c : Char) : Option Nat :=
  if '0' ≤ c ∧ c ≤ '9' then some (c.toNat - 48)
  else if 'a' ≤ c ∧ c ≤ 'f' then some (c.toNat - 87)
  else if 'A' ≤ c ∧ c ≤ 'F' then some (c.toNat - 55)
  else none

/-- Read a group of one to four hexadecimal digits. -/
def readGroup (text : List Char) : Option (Nat × List Char) :=
  let digits := (text.take 5).takeWhile fun c => (hexDigit? c).isSome
  if digits.isEmpty || digits.length > 4 then none
  else
    some (digits.foldl (fun value c => value * 16 + (hexDigit? c).getD 0) 0,
      text.drop digits.length)

/-- The colon in front of every group but the first. -/
def readSeparator (first : Bool) (text : List Char) : Option (List Char) :=
  if first then some text
  else
    match text with
    | ':' :: rest => some rest
    | _ => none

/-- Groups that were read, whether they end in four octets, and the text behind them. -/
structure Groups where
  values : List Nat
  endsInV4 : Bool
  rest : List Char

/-- Read up to `room` groups; the last two of them may be four octets. -/
def readGroups : Nat → Bool → List Char → Groups
  | 0, _, text => ⟨[], false, text⟩
  | room + 1, first, text =>
    match readSeparator first text with
    | none => ⟨[], false, text⟩
    | some inner =>
      match if room = 0 then none else readV4 inner with
      | some ([a, b, c, d], rest) => ⟨[a * 256 + b, c * 256 + d], true, rest⟩
      | _ =>
        match readGroup inner with
        | none => ⟨[], false, text⟩
        | some (value, rest) =>
          let later := readGroups room false rest
          { later with values := value :: later.values }

/-- Read eight groups, of which a run may be left out between two colons. -/
def readV6 (text : List Char) : Option (List Nat × List Char) :=
  let front := readGroups 8 true text
  if front.values.length = 8 then some (front.values, front.rest)
  else if front.endsInV4 then none
  else
    match front.rest with
    | ':' :: ':' :: rest =>
      let back := readGroups (7 - front.values.length) true rest
      let zeros := List.replicate (8 - front.values.length - back.values.length) 0
      some (front.values ++ zeros ++ back.values, back.rest)
    | _ => none

def Address.parse? (text : List Char) : Option Address :=
  match readV4 text with
  | some (octets, []) => some (.v4 octets)
  | _ =>
    match readV6 text with
    | some (groups, []) => some (.v6 groups)
    | _ => none

def octetsText (octets : List Nat) : List Char :=
  (octets.map Decimal.digits).intersperse ['.'] |>.flatten

def groupsText (groups : List Nat) : List Char :=
  (groups.map (Nat.toDigits 16 ·)).intersperse [':'] |>.flatten

/-- A run of zero groups: where it starts and how long it is. -/
structure Run where
  start : Nat
  length : Nat

/-- Pass one more group.  What is known of those before it is their first longest run of zeros, the
run that they end in, and how many they are. -/
def longestZerosStep : Run × Run × Nat → Nat → Run × Run × Nat
  | (best, current, index), group =>
    let current : Run :=
      if group = 0 then ⟨if current.length = 0 then index else current.start, current.length + 1⟩
      else ⟨0, 0⟩
    (if best.length < current.length then current else best, current, index + 1)

/-- The first longest run of zero groups. -/
def longestZeros (groups : List Nat) : Run :=
  (groups.foldl longestZerosStep (⟨0, 0⟩, ⟨0, 0⟩, 0)).1

/-- Eight groups with the first longest run of zeros left out. -/
def shortGroupsText (groups : List Nat) : List Char :=
  let run := longestZeros groups
  if run.length ≤ 1 then groupsText groups
  else groupsText (groups.take run.start) ++ ':' :: ':' ::
    groupsText (groups.drop (run.start + run.length))

/-- The canonical text of eight groups.  An address of the older family that is mapped into the
newer one shows its octets. -/
def v6Text (groups : List Nat) : List Char :=
  match groups with
  | [0, 0, 0, 0, 0, 0xFFFF, a, b] =>
    "::ffff:".toList ++ octetsText [a / 256, a % 256, b / 256, b % 256]
  | _ => shortGroupsText groups

def Address.chars : Address → List Char
  | .v4 octets => octetsText octets
  | .v6 groups => v6Text groups

def Address.text (address : Address) : String :=
  String.ofList address.chars

/-- An address with a port, and for the newer family the zone it is meant in. -/
structure Endpoint where
  address : Address
  port : Nat
  zone : Nat := 0
  deriving DecidableEq, Repr

/-- Read a colon and a port, when nothing follows. -/
def readPort? : List Char → Option Nat
  | ':' :: '+' :: _ => none
  | ':' :: rest => Decimal.natural? Decimal.portBound rest
  | _ => none

/-- Read a percent sign and the number of a zone, when there is one. -/
def readZone : List Char → Option (Nat × List Char)
  | '%' :: rest =>
    let digits := rest.takeWhile fun c => (Decimal.digit? c).isSome
    match Decimal.natural? (Nat.pow 2 32) digits with
    | none => none
    | some zone => some (zone, rest.drop digits.length)
  | rest => some (0, rest)

/-- Read an address in brackets behind the opening one, with its zone and its port. -/
def readBracketed (text : List Char) : Option Endpoint :=
  match readV6 text with
  | none => none
  | some (groups, rest) =>
    match readZone rest with
    | some (zone, ']' :: rest) =>
      match readPort? rest with
      | none => none
      | some port => some ⟨.v6 groups, port, zone⟩
    | _ => none

def Endpoint.parse? (text : List Char) : Option Endpoint :=
  match text with
  | '[' :: rest => readBracketed rest
  | _ =>
    match readV4 text with
    | none => none
    | some (octets, rest) =>
      match readPort? rest with
      | none => none
      | some port => some ⟨.v4 octets, port, 0⟩

def Endpoint.text (endpoint : Endpoint) : String :=
  let port := ':' :: Decimal.digits endpoint.port
  match endpoint.address with
  | .v4 octets => String.ofList (octetsText octets ++ port)
  | .v6 groups =>
    let zone := if endpoint.zone = 0 then [] else '%' :: Decimal.digits endpoint.zone
    String.ofList ('[' :: v6Text groups ++ zone ++ ']' :: port)

end Net
end ExchangeGrid
