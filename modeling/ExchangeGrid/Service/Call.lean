import ExchangeGrid.Service.Dispatch

namespace ExchangeGrid

/-!
# Deferred calls

A call is put together first and made later, over the nodes that its caller then chooses.  What is
wrong with the arguments is found when the call is put together, and comes back from every way of
making it before anything is sent.
-/

/-- A call that was put together: to whom, what, and how the reply is read. -/
structure PendingCall (α : Type) where
  service : Dispatcher
  name : String
  payload : Json.Value
  reading : Reply.Reading α

/-- A reply and what was read from it. -/
structure Outcome (α : Type) where
  reply : Reply
  result : α

/-- Over which nodes a call is made. -/
inductive CallMode
  | everywhere
  | onNode (index : Nat)
  | onNodeNamed (name : String)
  | onNodes (indices : List Nat)
  | under (policy : Policy)

/-- A call, or what is wrong with its arguments. -/
abbrev Deferred (α : Type) := Except Error (PendingCall α)

namespace PendingCall

/-- Make a call over the nodes that a policy picks. -/
def executeWith {α : Type} (call : PendingCall α) (policy : Policy) (draws : List Nat) :
    Action (Outcome α) := do
  let reply ← call.service.call call.name call.payload policy draws
  let result ← Action.ofExcept (call.reading reply)
  pure ⟨reply, result⟩

/-- Make a call on the first node of a name, which must be known. -/
def executeNamed {α : Type} (call : PendingCall α) (name : String) : Action (Outcome α) := do
  let _ ← call.service.checkNodes
  let index ← call.service.indexOf name
  call.executeWith (.positions [index]) []

end PendingCall

def Deferred.execute {α : Type} (deferred : Deferred α) (mode : CallMode) (draws : List Nat) :
    Action (Outcome α) := do
  let call ← Action.ofExcept deferred
  match mode with
  | .everywhere => call.executeWith .ordered draws
  | .onNode index => call.executeWith (.positions [index]) draws
  | .onNodeNamed name => call.executeNamed name
  | .onNodes indices => call.executeWith (.positions indices) draws
  | .under policy => call.executeWith policy draws

end ExchangeGrid
