import ExchangeGrid.Error
import ExchangeGrid.Json.Shape
import ExchangeGrid.Text.Blank

namespace ExchangeGrid

/-!
# Replies

What a server answers to a request, and the readings of it that calls are made with.  Any status
is a reply; only a reading turns one into an error.
-/

/-- The status and the body of an answer. -/
structure Reply where
  status : Nat
  body : List UInt8
  deriving DecidableEq, Repr

namespace Reply

def isSuccess (reply : Reply) : Bool :=
  200 ≤ reply.status && reply.status < 300

def decode (shape : Json.Shape) (reply : Reply) : Except Error Json.Value :=
  match shape.parse? reply.body with
  | some value => .ok value
  | none => .error (.decode ("status " ++ toString reply.status ++ ": " ++ Error.misshapen))

/-- Refuse a status that is beyond success. -/
def requireSuccess (reply : Reply) : Except Error Unit :=
  if reply.status > 299 then .error (.unexpectedStatus reply.status) else .ok ()

/-- Whether a reply says nothing. -/
def isBlank (reply : Reply) : Bool :=
  reply.status == 204 || reply.body.all Blank.isPlainBlank

abbrev Reading (α : Type) := Reply → Except Error α

/-- Read a value; a reply that says nothing stands for `empty`. -/
def valueOr (empty : Json.Value) (shape : Json.Shape) : Reading Json.Value := fun reply => do
  reply.requireSuccess
  if reply.isBlank then .ok empty else reply.decode shape

/-- Read a value that may be absent: a reply that says nothing has none. -/
def optionalValue (shape : Json.Shape) : Reading (Option Json.Value) := fun reply => do
  reply.requireSuccess
  if reply.isBlank then .ok none
  else (reply.decode shape).map some

def statusOnly : Reading Unit := requireSuccess

/-- Read the list under a name of an object; a missing or null one is empty. -/
def listAt (name : String) (item : Json.Shape) : Reading Json.Value := fun reply => do
  reply.requireSuccess
  if reply.isBlank then .ok (.array [])
  else
    let object ← reply.decode (.table .any)
    match object.get? name with
    | none | some .null => .ok (.array [])
    | some list =>
      match (Json.Shape.list item).ofValue? list with
      | some items => .ok items
      | none => .error (.decode Error.misshapen)

end Reply
end ExchangeGrid
