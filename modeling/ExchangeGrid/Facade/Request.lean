import ExchangeGrid.Service.Call

namespace ExchangeGrid
namespace Facade

/-!
# Putting calls together

What the services of a grid have in common: payloads that leave out what is empty, arguments that
must not be empty, and calls that are read as a list, as a value that may be absent, or as a
status.
-/

/-- A topic of a service: the property that names it, and the shape of its messages. -/
structure Topic where
  property : String
  shape : Json.Shape

/-- Refuse an empty argument, by the name of the first one. -/
def require (fields : List (String × String)) : Except Error Unit :=
  match fields.find? (·.2.isEmpty) with
  | some (name, _) => .error (.invalidInput (name ++ " must not be empty"))
  | none => .ok ()

/-- A call whose arguments must not be empty. -/
def requiring {α : Type} (fields : List (String × String)) (call : Deferred α) : Deferred α :=
  match require fields with
  | .error error => .error error
  | .ok () => call

/-- An object of texts. -/
def texts (fields : List (String × String)) : Json.Value :=
  .sorted (fields.map fun (name, text) => (name, .string text))

/-- An object of the texts that are not empty. -/
def sparse (fields : List (String × String)) : Json.Value :=
  texts (fields.filter fun field => !field.2.isEmpty)

def withFilter (payload : Json.Value) (filter : Option Json.Value) : Json.Value :=
  match payload, filter with
  | .object members, some filter => .sorted (members ++ [("filter", filter)])
  | _, _ => payload

/-- A call that is read as the list under a name. -/
def listCall (service : Dispatcher) (name : String) (payload : Json.Value) (member : String)
    (item : Json.Shape) : Deferred Json.Value :=
  .ok ⟨service, name, payload, Reply.listAt member item⟩

/-- A call that is read as a value, which is empty when the reply says nothing. -/
def valueCall (service : Dispatcher) (name : String) (payload : Json.Value) (shape : Json.Shape) :
    Deferred Json.Value :=
  .ok ⟨service, name, payload, Reply.valueOr shape.empty shape⟩

/-- A call that is read as a value that may be absent, with arguments that must not be empty. -/
def optionalCall (service : Dispatcher) (name : String) (arguments : List (String × String))
    (shape : Json.Shape) : Deferred (Option Json.Value) :=
  requiring arguments (.ok ⟨service, name, texts arguments, Reply.optionalValue shape⟩)

end Facade
end ExchangeGrid
