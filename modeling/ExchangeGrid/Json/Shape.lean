import ExchangeGrid.Json.Document

namespace ExchangeGrid
namespace Json

/-!
# Shapes of messages

A shape says which documents are accepted where a message expects something, and which value
each of them means.  The value is complete: fields that were left out have their defaults, and
members that the shape does not name are gone.
-/

/-- The two forms of text that documents are read from.  They differ in what an array that stands
for a record may hold behind the last field, and in what stands beside the name of a choice. -/
inductive Dialect
  | json
  | toml
  deriving DecidableEq, Repr

/-- A reader of documents.  `absent` is the value of a field of this shape that is left out,
when leaving it out is a way of writing it. -/
structure Shape where
  read : Dialect → Document → Option Value
  absent : Option Value := none

namespace Shape

def any : Shape where
  read _ := Document.value?

def string : Shape where
  read
    | _, .string text => text.map .string
    | _, _ => none

def bool : Shape where
  read
    | _, .bool value => some (.bool value)
    | _, _ => none

/-- A whole number between two bounds, both included. -/
def whole (least greatest : Int) : Shape where
  read
    | _, .number (some (.whole value)) =>
      if least ≤ value ∧ value ≤ greatest then some (.number (.whole value)) else none
    | _, _ => none

/-- A signed machine word. -/
def signed : Shape := whole (-9223372036854775808) 9223372036854775807

/-- An unsigned machine word. -/
def unsigned : Shape := whole 0 18446744073709551615

def port : Shape := whole 0 65535

/-- A binary number; a whole number is taken for the binary number next to it. -/
def binary : Shape where
  read
    | _, .number (some value) => some (.number (.binary value.toBinary))
    | _, _ => none

/-- Something that may be null or left out. -/
def optional (inner : Shape) : Shape where
  read
    | _, .null => some .null
    | dialect, document => inner.read dialect document
  absent := some .null

def list (item : Shape) : Shape where
  read
    | dialect, .array items => (items.mapM (item.read dialect)).map .array
    | _, _ => none

/-- An object with any names; of two members with one name the later counts. -/
def table (value : Shape) : Shape where
  read
    | dialect, .object members =>
      (members.mapM fun (member : Option String × Document) => do
        let name ← member.1
        let value ← value.read dialect member.2
        some (name, value)).map Value.sorted
    | _, _ => none

/-- Whether a document beside the name of a choice says nothing: it is null, or where there is no
null it is empty. -/
def isNothing : Dialect → Document → Bool
  | .json, .null | .toml, .array [] | .toml, .object [] => true
  | _, _ => false

/-- One of some names, given alone or as the only member of an object, with nothing beside it.
A name that is not among them stands for `other`, when there is such a name. -/
def choice (names : List String) (other : Option String := none) : Shape where
  read dialect document :=
    let pick (name : String) : Option Value :=
      if names.contains name then some (.string name) else other.map .string
    match document with
    | .string (some name) => pick name
    | .object [(some name, beside)] => if isNothing dialect beside then pick name else none
    | _ => none

end Shape

/-- A field of a record.  `default` is its value when it is left out, and `shown` says which of
its values are written. -/
structure Field where
  name : String
  shape : Shape
  default : Option Value := none
  shown : Value → Bool := fun _ => true

namespace Field

/-- A text that must be given. -/
def text (name : String) : Field := { name, shape := .string }

def textOrEmpty (name : String) : Field :=
  { name, shape := .string, default := some (.string "") }

/-- A truth value that is false when left out. -/
def flag (name : String) : Field :=
  { name, shape := .bool, default := some (.bool false) }

def listOrEmpty (name : String) (item : Shape) : Field :=
  { name, shape := .list item, default := some (.array []) }

/-- A text that is not written when it is absent. -/
def textIfAny (name : String) : Field :=
  { name, shape := .optional .string, default := some .null
    shown := fun value => match value with | .null => false | _ => true }

def countOrZero (name : String) : Field :=
  { name, shape := .unsigned, default := some (.nat 0) }

end Field

/-- What is known of a field while the members of an object are read. -/
structure Slot where
  field : Field
  value : Option Value := none

/-- Put a member into the slot of its field.  A second member of one field is refused. -/
def fillSlot (dialect : Dialect) (name : String) (document : Document) :
    List Slot → Option (List Slot)
  | [] => some []
  | slot :: slots =>
    if slot.field.name = name then
      match slot.value, slot.field.shape.read dialect document with
      | none, some value => some ({ slot with value := some value } :: slots)
      | _, _ => none
    else (fillSlot dialect name document slots).map (slot :: ·)

def fillSlots (dialect : Dialect) (slots : List Slot) :
    List (Option String × Document) → Option (List Slot)
  | [] => some slots
  | (none, _) :: _ => none
  | (some name, document) :: members =>
    match fillSlot dialect name document slots with
    | none => none
    | some slots => fillSlots dialect slots members

def Slot.member (slot : Slot) : Option (String × Value) :=
  let value := slot.value <|> slot.field.default <|> slot.field.shape.absent
  value.map fun value => (slot.field.name, value)

/-- Read the items of an array as the fields in their order.  Only fields with a default may be
missing at the end.  What follows the last field is an error in JSON, and passed over in TOML. -/
def readPositions (dialect : Dialect) :
    List Field → List Document → Option (List (String × Value))
  | [], [] => some []
  | [], _ :: _ => if dialect = .toml then some [] else none
  | field :: fields, [] => do
    let value ← field.default
    let values ← readPositions dialect fields []
    some ((field.name, value) :: values)
  | field :: fields, item :: items => do
    let value ← field.shape.read dialect item
    let values ← readPositions dialect fields items
    some ((field.name, value) :: values)

/-- A record: an object with some fields, or an array of their values. -/
def Shape.record (fields : List Field) : Shape where
  read dialect document :=
    let shown (members : List (String × Value)) : Value :=
      .object ((members.zip fields).filterMap fun (member, field) =>
        if field.shown member.2 then some member else none)
    match document with
    | .object members =>
      match fillSlots dialect (fields.map fun field => { field }) members with
      | none => none
      | some slots => (slots.mapM Slot.member).map shown
    | .array items => (readPositions dialect fields items).map shown
    | _ => none

/-- The value of a shape when nothing is said: every field has its default. -/
def Shape.empty (shape : Shape) : Value :=
  (shape.read .json (.object [])).getD .null

def Shape.parse? (shape : Shape) (input : List UInt8) : Option Value :=
  match Document.parse? input with
  | none => none
  | some document => shape.read .json document

/-- A value read once more, as a shape. -/
def Shape.ofValue? (shape : Shape) (value : Value) : Option Value :=
  shape.read .json (.ofValue value)

end Json
end ExchangeGrid
