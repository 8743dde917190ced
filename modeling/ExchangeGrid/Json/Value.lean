import ExchangeGrid.Text.Shortest
import ExchangeGrid.Text.Decimal

namespace ExchangeGrid
namespace Json

/-!
# JSON values

Whole numbers are kept exactly and all other numbers as the sixty-four bits of a binary number.
An object keeps the order in which its members were given; a value that was read without a
schema has them sorted by name, each name once.
-/

/-- A number: whole, or binary floating point given by its bits. -/
inductive Number
  | whole (value : Int)
  | binary (bits : UInt64)
  deriving DecidableEq, Repr

inductive Value
  | null
  | bool (value : Bool)
  | number (value : Number)
  | string (value : String)
  | array (items : List Value)
  | object (members : List (String × Value))
  deriving Repr, Inhabited

def Value.nat (n : Nat) : Value := .number (.whole n)

def Value.ofString? : Option String → Value
  | none => .null
  | some text => .string text

def Value.get? (value : Value) (name : String) : Option Value :=
  match value with
  | .object members => (members.find? (·.1 == name)).map (·.2)
  | _ => none

def Value.string? : Value → Option String
  | .string text => some text
  | _ => none

/-- Put a member into a list sorted by name, in place of one of that name. -/
def insertMember (name : String) (value : Value) :
    List (String × Value) → List (String × Value)
  | [] => [(name, value)]
  | (other, old) :: rest =>
    if name = other then (name, value) :: rest
    else if name < other then (name, value) :: (other, old) :: rest
    else (other, old) :: insertMember name value rest

/-- The object with some members sorted by name; of two with one name the later stays. -/
def Value.sorted (members : List (String × Value)) : Value :=
  .object (members.foldl (fun done (name, value) => insertMember name value done) [])

/-! ## Writing -/

def escapedChar (c : Char) : List Char :=
  if c = '"' then ['\\', '"']
  else if c = '\\' then ['\\', '\\']
  else if c = '\n' then ['\\', 'n']
  else if c = '\r' then ['\\', 'r']
  else if c = '\t' then ['\\', 't']
  else if c.toNat = 8 then ['\\', 'b']
  else if c.toNat = 12 then ['\\', 'f']
  else if c.toNat < 0x20 then
    ['\\', 'u', '0', '0', Nat.digitChar (c.toNat / 16), Nat.digitChar (c.toNat % 16)]
  else [c]

def quote (text : String) : List Char :=
  '"' :: text.toList.flatMap escapedChar ++ ['"']

/-- An exponent behind the digits of a number, always with its sign. -/
def exponentText (exponent : Int) : List Char :=
  'e' :: (if exponent < 0 then '-' else '+') :: Nat.toDigits 10 exponent.natAbs

/-- The decimal point set into the shortest digits of a binary number.  From `1e-5` up to
`1e+16` it stands among the digits, and elsewhere the exponent is written. -/
def pointed (point : Shortest.Point) : List Char :=
  let digits := Nat.toDigits 10 point.digits
  let trimmed := (digits.reverse.dropWhile (· == '0')).reverse
  let shift : Int := point.exponent + (digits.length - trimmed.length : Nat)
  let lead : Int := trimmed.length + shift
  if 0 ≤ shift ∧ lead ≤ 16 then
    trimmed ++ List.replicate shift.toNat '0' ++ ['.', '0']
  else if 0 < lead ∧ lead ≤ 16 then
    trimmed.take lead.toNat ++ '.' :: trimmed.drop lead.toNat
  else if -5 < lead ∧ lead ≤ 0 then
    ['0', '.'] ++ List.replicate (-lead).toNat '0' ++ trimmed
  else
    match trimmed with
    | [d] => d :: exponentText (lead - 1)
    | d :: rest => d :: '.' :: rest ++ exponentText (lead - 1)
    | [] => ['0', '.', '0']

/-- A binary number in the fewest digits that read back.  What is not finite has no number and
is written as null. -/
def binaryText (bits : UInt64) : List Char :=
  let parts := Shortest.Parts.ofBits bits
  let sign := if parts.negative then ['-'] else []
  if parts.exponent = 2047 then ['n', 'u', 'l', 'l']
  else if parts.exponent = 0 ∧ parts.fraction = 0 then sign ++ ['0', '.', '0']
  else sign ++ pointed (Shortest.shortest parts.magnitude)

def Number.chars : Number → List Char
  | .whole value => (toString value).toList
  | .binary bits => binaryText bits

mutual

/-- A value as compact text, put in front of more text. -/
def Value.writeTo (tail : List Char) : Value → List Char
  | .null => 'n' :: 'u' :: 'l' :: 'l' :: tail
  | .bool true => 't' :: 'r' :: 'u' :: 'e' :: tail
  | .bool false => 'f' :: 'a' :: 'l' :: 's' :: 'e' :: tail
  | .number value => value.chars ++ tail
  | .string value => quote value ++ tail
  | .array [] => '[' :: ']' :: tail
  | .array (item :: items) => '[' :: item.writeTo (writeItems (']' :: tail) items)
  | .object [] => '\x7b' :: '\x7d' :: tail
  | .object ((name, value) :: members) =>
    '\x7b' :: quote name ++ ':' :: value.writeTo (writeMembers ('\x7d' :: tail) members)

/-- The items after the first, each behind a comma. -/
def writeItems (tail : List Char) : List Value → List Char
  | [] => tail
  | item :: items => ',' :: item.writeTo (writeItems tail items)

/-- The members after the first, each behind a comma. -/
def writeMembers (tail : List Char) : List (String × Value) → List Char
  | [] => tail
  | (name, value) :: members =>
    ',' :: quote name ++ ':' :: value.writeTo (writeMembers tail members)

end

def Value.compact (value : Value) : String :=
  String.ofList (value.writeTo [])

end Json
end ExchangeGrid
