import ExchangeGrid.Json.Token

namespace ExchangeGrid
namespace Json

/-!
# JSON documents

A document is what a text says before anyone asks for a type: objects keep every member in
order, also of one name.  Strings that are no text, numbers that are too large, and arrays and
objects below a fixed depth are still there, to be refused by whoever reads them; nobody minds
them where they are passed over.
-/

/-- The structure of a JSON text. -/
inductive Document
  | null
  | bool (value : Bool)
  | number (value : Option Number)
  | string (text : Option String)
  | array (items : List Document)
  | object (members : List (Option String × Document))
  | tooDeep
  deriving Repr, Inhabited

/-- How deep arrays and objects may nest where they are read. -/
def depthLimit : Nat := 127

/-- An array or an object with so many levels left for it. -/
def within (depth : Nat) (document : Document) : Document :=
  if depth = 0 then .tooDeep else document

mutual

def readValue : Nat → Nat → List Token → Option (Document × List Token)
  | 0, _, _ => none
  | fuel + 1, depth, input =>
    match input with
    | .null :: rest => some (.null, rest)
    | .bool value :: rest => some (.bool value, rest)
    | .number numeral :: rest => some (.number numeral.value?, rest)
    | .string text :: rest => some (.string text, rest)
    | .openArray :: .closeArray :: rest => some (within depth (.array []), rest)
    | .openArray :: rest =>
      match readItems fuel (depth - 1) [] rest with
      | some (items, rest) => some (within depth (.array items), rest)
      | none => none
    | .openObject :: .closeObject :: rest => some (within depth (.object []), rest)
    | .openObject :: rest =>
      match readMembers fuel (depth - 1) [] rest with
      | some (members, rest) => some (within depth (.object members), rest)
      | none => none
    | _ => none

/-- Read the items of an array up to its end, with those already read in reverse order. -/
def readItems : Nat → Nat → List Document → List Token → Option (List Document × List Token)
  | 0, _, _, _ => none
  | fuel + 1, depth, done, input =>
    match readValue fuel depth input with
    | some (item, .comma :: rest) => readItems fuel depth (item :: done) rest
    | some (item, .closeArray :: rest) => some ((item :: done).reverse, rest)
    | _ => none

/-- Read the members of an object up to its end, with those already read in reverse order. -/
def readMembers : Nat → Nat → List (Option String × Document) → List Token →
    Option (List (Option String × Document) × List Token)
  | 0, _, _, _ => none
  | fuel + 1, depth, done, input =>
    match input with
    | .string name :: .colon :: rest =>
      match readValue fuel depth rest with
      | some (value, .comma :: rest) => readMembers fuel depth ((name, value) :: done) rest
      | some (value, .closeObject :: rest) => some (((name, value) :: done).reverse, rest)
      | _ => none
    | _ => none

end

/-- The document that a text writes, when it writes exactly one. -/
def Document.parse? (input : List UInt8) : Option Document :=
  match tokens input with
  | none => none
  | some words =>
    match readValue (2 * words.length + 2) depthLimit words with
    | some (document, []) => some document
    | _ => none

mutual

/-- The value of a document read without a schema: members sorted by name, the last of one
name kept. -/
def Document.value? : Document → Option Value
  | .null => some .null
  | .bool value => some (.bool value)
  | .number value => value.map .number
  | .string text => text.map .string
  | .array items => (valueItems? items).map .array
  | .object members => (valueMembers? members).map Value.sorted
  | .tooDeep => none

def valueItems? : List Document → Option (List Value)
  | [] => some []
  | item :: items => do
    let value ← item.value?
    let values ← valueItems? items
    some (value :: values)

def valueMembers? : List (Option String × Document) → Option (List (String × Value))
  | [] => some []
  | (name, document) :: members => do
    let name ← name
    let value ← document.value?
    let values ← valueMembers? members
    some ((name, value) :: values)

end

mutual

def Document.ofValue : Value → Document
  | .null => .null
  | .bool value => .bool value
  | .number value => .number (some value)
  | .string value => .string (some value)
  | .array items => .array (documentItems items)
  | .object members => .object (documentMembers members)

def documentItems : List Value → List Document
  | [] => []
  | item :: items => .ofValue item :: documentItems items

def documentMembers : List (String × Value) → List (Option String × Document)
  | [] => []
  | (name, value) :: members => (some name, .ofValue value) :: documentMembers members

end

/-- The value that a text writes, read without a schema. -/
def Value.parse? (input : List UInt8) : Option Value :=
  match Document.parse? input with
  | none => none
  | some document => document.value?

end Json
end ExchangeGrid
