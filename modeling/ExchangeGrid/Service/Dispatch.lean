import ExchangeGrid.Service.Control
import ExchangeGrid.Service.Pick

namespace ExchangeGrid

/-!
# Calling services

A dispatcher keeps the nodes of one service.  They are looked up when they are first needed, by
one caller at a time; every lookup replaces all of them and drops the secrets of the old ones.  A
call goes to the nodes that a policy picks, one after the other, up to the first that answers.
-/

/-- The nodes of a service, as kept for a client: the number of the instance and the name. -/
structure Dispatcher where
  control : Controller
  id : Nat
  name : String

namespace Dispatcher

def get (control : Controller) (name : String) : Action Dispatcher := do
  let id ← Action.instanceOf .services name
  pure ⟨control, id, name⟩

/-! ## Discovery -/

def nodes (service : Dispatcher) : Action (List ServiceNode) := do
  pure (← Action.ask (.readNodes service.id)).nodes

/-- Look the nodes up and replace those that are known. -/
def lookUp (service : Dispatcher) : Action (List ServiceNode) := do
  let found ← service.control.lookUp service.name
  Action.ask (.replaceNodes service.id found)
  Action.emit (.serviceLookup service.name found.length)
  pure found

/-- Look the nodes up while the turn is held: another caller may have found them meanwhile. -/
def lookUpOnce (service : Dispatcher) : Action (List ServiceNode) := do
  let known ← service.nodes
  if !known.isEmpty then pure known
  else
    let found ← service.lookUp
    if found.isEmpty then throw (.serviceUnavailable service.name) else pure found

/-- The nodes of a service, looked up if none is known. -/
def checkNodes (service : Dispatcher) : Action (List ServiceNode) := do
  let known ← service.nodes
  if !known.isEmpty then pure known
  else
    Action.attempt (Program.question (.enterLookup service.id))
    let result ← service.lookUpOnce.outcome
    Action.ask (.leaveLookup service.id)
    Action.ofExcept result

/-- The nodes of a service with their generation, looked up if none is known. -/
def checkedSet (service : Dispatcher) : Action NodeSet := do
  let _ ← service.checkNodes
  Action.ask (.readNodes service.id)

def indexOf (service : Dispatcher) (name : String) : Action Nat := do
  let known ← service.nodes
  match known.findIdx? (·.name == name) with
  | some index => pure index
  | none => throw (.nodeNotFound name)

/-- The property of the first candidate that has it. -/
def firstProperty (property : String) (picker : Picker) : Except Error Json.Value :=
  match found : picker.pick with
  | (.error error, _) => .error error
  | (.ok picked, rest) =>
    match picked.node.property? property with
    | some value => .ok value
    | none =>
      if picked.hasMore then
        have := Picker.length_pick found
        firstProperty property rest
      else .error (.propertyNotFound property)
termination_by picker.left.length

/-- A property of the first node, in the order of a policy, that has it. -/
def findProperty (service : Dispatcher) (property : String) (policy : Policy)
    (draws : List Nat) : Action Json.Value := do
  let known ← service.checkNodes
  Action.ofExcept (firstProperty property (.among policy draws known))

/-- A property that must be a text. -/
def findText (service : Dispatcher) (property : String) (policy : Policy)
    (draws : List Nat) : Action String := do
  match ← service.findProperty property policy draws with
  | .string text => pure text
  | _ => throw (.propertyNotText property)

/-! ## Secrets -/

/-- Exchange a secret with a node and keep it, unless the nodes were replaced meanwhile. -/
def provision (service : Dispatcher) (generation index : Nat) (name : String) :
    Action String := do
  match ← (service.control.exchangeSecret name).outcome with
  | .error .cancelled => throw .cancelled
  | .error error => throw (.secret name error.message)
  | .ok secret =>
    Action.ask (.storeSecret service.id generation index name secret)
    Action.emit (.secretProvisioned service.name name)
    pure secret

def updateSecret (service : Dispatcher) (index : Nat) : Action String := do
  let set ← Action.ask (.readNodes service.id)
  match set.nodes[index]? with
  | none => throw (.invalidNodeIndex index)
  | some node => service.provision set.generation index node.name

def updateSecretByName (service : Dispatcher) (name : String) : Action String := do
  let index ← service.indexOf name
  service.updateSecret index

def provisionAll (service : Dispatcher) (generation : Nat) :
    List (ServiceNode × Nat) → Action Unit
  | [] => pure ()
  | (node, index) :: rest => do
    let _ ← service.provision generation index node.name
    provisionAll service generation rest

def updateSecrets (service : Dispatcher) : Action Unit := do
  let set ← service.checkedSet
  service.provisionAll set.generation set.nodes.zipIdx

/-- The secret of a node that was picked: the one it has, or a new one. -/
def secretOf (service : Dispatcher) (generation index : Nat) (node : ServiceNode) :
    Action String :=
  if node.hasSecret then pure node.secret else service.provision generation index node.name

/-! ## Calls -/

/-- The address of a call below a base address. -/
def callUrl (base call : String) : String :=
  (if base.toList.getLast? = some '/' then base else base ++ "/") ++ call

/-- Try candidates in turn: those without a base address are passed over, and a failure of
transport goes on to the next as long as there is one. -/
def callNodes (service : Dispatcher) (generation : Nat) (call : String) (payload : Json.Value)
    (picker : Picker) : Action Reply := do
  Action.checkCancelled
  match found : picker.pick with
  | (.error error, _) => throw error
  | (.ok picked, rest) =>
    have := Picker.length_pick found
    match picked.node.propertyText? restBaseUrlKey with
    | none =>
      if picked.hasMore then callNodes service generation call payload rest
      else throw (.allNodesFailed call)
    | some base =>
      let secret ← service.secretOf generation picked.index picked.node
      let auth := Auth.basic service.control.nodeName secret
      match ← (Action.post (callUrl base call) payload auth).outcome with
      | .ok reply => pure reply
      | .error error =>
        if error.isTransport && picked.hasMore then
          callNodes service generation call payload rest
        else throw error
termination_by picker.left.length

/-- Send a payload to the nodes that a policy picks, up to the first that answers. -/
def call (service : Dispatcher) (call : String) (payload : Json.Value) (policy : Policy)
    (draws : List Nat) : Action Reply := do
  let set ← service.checkedSet
  service.callNodes set.generation call payload (.among policy draws set.nodes)

end Dispatcher
end ExchangeGrid
