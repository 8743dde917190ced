import ExchangeGrid.Proofs.Dispatch.Crew
import ExchangeGrid.Proofs.Dispatch.Subscribing

namespace ExchangeGrid

/-!
# Operations at work

What a dispatcher can be asked to do, and any number of such operations at work on one dispatcher
that nobody has used before.
-/

/-- What a dispatcher can be asked to do. -/
inductive Operation : Type 1
  | lookUp
  | checkNodes
  | updateSecret (index : Nat)
  | updateSecretByName (name : String)
  | updateSecrets
  | call (name : String) (payload : Json.Value) (policy : Policy) (draws : List Nat)
  | callNamed {α : Type} (name : String) (payload : Json.Value) (reading : Reply.Reading α)
    (node : String)
  | subscribe (policy : Policy) (draws : List Nat) (topic : String)

namespace Operation

def Result : Operation → Type
  | lookUp | checkNodes => List ServiceNode
  | updateSecret _ | updateSecretByName _ => String
  | updateSecrets => Unit
  | call _ _ _ _ => Reply
  | @callNamed α _ _ _ _ => Outcome α
  | subscribe _ _ _ => PubSub.Subscribed

def action (service : Dispatcher) : (operation : Operation) → Action operation.Result
  | lookUp => service.lookUp
  | checkNodes => service.checkNodes
  | updateSecret index => service.updateSecret index
  | updateSecretByName name => service.updateSecretByName name
  | updateSecrets => service.updateSecrets
  | call name payload policy draws => service.call name payload policy draws
  | callNamed name payload reading node =>
    PendingCall.executeNamed ⟨service, name, payload, reading⟩ node
  | subscribe policy draws topic => (PubSub.Carrier.mk service).subscribe policy draws topic

/-- The name by which an operation chooses a node, if it does so. -/
def node? : Operation → Option String
  | updateSecretByName name => some name
  | callNamed _ _ _ node => some node
  | _ => none

/-- The positions that an operation may choose after what it was answered. -/
def Aims (service : Dispatcher) (operation : Operation) (past : List Answered) (index : Nat) :
    Prop :=
  ∀ name, operation.node? = some name → service.Resolved name past index

/-- What an operation returns fits what it has done. -/
def Returns (service : Dispatcher) : (operation : Operation) → List Answered →
    Except Error operation.Result → Prop
  | lookUp, past, result => ∀ nodes : List ServiceNode,
    ⟨.replaceNodes service.id nodes, ()⟩ ∈ past ↔ result = .ok nodes
  | updateSecret _, past, result => Dispatcher.ReturnsStored past result
  | updateSecretByName _, past, result => Dispatcher.ReturnsStored past result
  | _, _, _ => True

theorem aims_of_unnamed {service : Dispatcher} {operation : Operation}
    (unnamed : operation.node? = none) (past : List Answered) (index : Nat) :
    operation.Aims service past index := by
  intro name named
  rw [unnamed] at named
  cases named

/-- Every operation keeps to the rule. -/
theorem proper_action (service : Dispatcher) (operation : Operation) :
    Action.Complies (service.Proper (operation.Aims service)) [] (operation.action service)
      (operation.Returns service) := by
  have named : ∀ name, operation.node? = some name →
      operation.Aims service = service.Resolved name := by
    intro name isNamed
    funext past index
    apply propext
    constructor
    · intro aims
      exact aims name isNamed
    · intro resolved other same
      cases isNamed.symm.trans same
      exact resolved
  cases operation with
  | lookUp => exact Dispatcher.proper_lookUp
  | checkNodes => exact Dispatcher.proper_checkNodes
  | updateSecret index => exact Dispatcher.proper_updateSecret (aims_of_unnamed rfl _ _)
  | updateSecretByName name =>
      rw [named name rfl]
      exact Dispatcher.proper_updateSecretByName
  | updateSecrets => exact Dispatcher.proper_updateSecrets (aims_of_unnamed rfl)
  | call name payload policy draws =>
      exact Dispatcher.proper_call fun _ _ _ _ => aims_of_unnamed rfl _ _
  | callNamed name payload reading node =>
      rw [named node rfl]
      exact PendingCall.proper_executeNamed ⟨service, name, payload, reading⟩ node
  | subscribe policy draws topic =>
      exact PubSub.Carrier.proper_subscribe (aims_of_unnamed rfl)

end Operation

namespace Dispatcher

variable {ι : Type} [DecidableEq ι]

/-- Operations on a dispatcher whose nodes nobody has looked up yet. -/
def atWork (service : Dispatcher) (operations : ι → Operation) :
    Crew fun who => Except Error (operations who).Result :=
  Crew.start (fun _ => {}) fun who => ((operations who).action service).run

theorem follows_atWork (service : Dispatcher) (operations : ι → Operation)
    (moves : List (Move ι)) :
    Crew.Follows (fun who => service.Proper ((operations who).Aims service))
      (fun who => (operations who).Returns service) ((service.atWork operations).run moves) :=
  Crew.follows_of_run _ (fun who => (operations who).proper_action service) moves

theorem truthful_atWork (service : Dispatcher) (operations : ι → Operation)
    (moves : List (Move ι)) :
    Crew.Truthful (fun _ => {}) ((service.atWork operations).run moves) :=
  Crew.truthful_of_run _ _ moves

end Dispatcher
end ExchangeGrid
