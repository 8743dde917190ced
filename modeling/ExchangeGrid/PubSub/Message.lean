import ExchangeGrid.Error
import ExchangeGrid.Json.Shape
import ExchangeGrid.Stomp.Session

namespace ExchangeGrid
namespace PubSub

/-!
# Messages of a topic

What a subscription hands to its reader: one message for each delivery of the session below, in
the same order.  A body that cannot be decoded spoils its own message only; a fault of the session
is handed on as it is, and since the session delivers nothing after one, it is the last message.
-/

/-- A way to read bodies; it says what is wrong with those that it does not take. -/
abbrev Decoder (Body : Type) := List UInt8 → Except String Body

def Decoder.ofShape (shape : Json.Shape) : Decoder Json.Value := fun bytes =>
  match shape.parse? bytes with
  | some value => .ok value
  | none => .error Error.misshapen

/-- One message of a topic. -/
inductive Message (Body : Type)
  | body (value : Body) (headers : List Stomp.Header)
  | undecodable (error : Error) (raw : List UInt8)
  | failed (error : Error)
  deriving Repr

namespace Message

variable {Body : Type}

def ofFrame (decode : Decoder Body) (frame : Stomp.Frame) : Message Body :=
  match decode frame.body with
  | .ok value => .body value frame.headers
  | .error detail => .undecodable (.decode detail) frame.body

def ofDelivery (decode : Decoder Body) : Stomp.Delivery → Message Body
  | .ok frame => ofFrame decode frame
  | .error fault => .failed (.stomp fault.message)

/-- A message as a result: its body, or what is wrong with it. -/
def result : Message Body → Except Error Body
  | body value _ => .ok value
  | undecodable error _ | failed error => .error error

end Message
end PubSub
end ExchangeGrid
