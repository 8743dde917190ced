import ExchangeGrid.PubSub.Endpoint
import ExchangeGrid.Service.Dispatch

namespace ExchangeGrid
namespace PubSub

/-!
# Subscribing to topics

The messages of a service are carried by another service, whose nodes say where they take
connections.  A subscription is made on the first of these nodes, in the order of a policy, that
can be connected to.
-/

/-- A service that carries messages: it is looked up like any other. -/
structure Carrier where
  dispatcher : Dispatcher

/-- A subscription that was made: the session, its number there, and the topic. -/
structure Subscribed where
  session : Nat
  id : String
  topic : String
  deriving DecidableEq, Repr

namespace Carrier

def get (control : Controller) (name : String) : Action Carrier := do
  let id ← Action.instanceOf .carriers name
  pure ⟨⟨control, id, name⟩⟩

/-- Where the first node that says so takes connections. -/
def url (carrier : Carrier) : Action String :=
  carrier.dispatcher.findText wsUrlKey .ordered []

def endpoint (carrier : Carrier) (url : String) : Action Endpoint := do
  let id ← Action.instanceOf (.endpoints carrier.dispatcher.id) url
  pure ⟨id, url⟩

def endpointCount (carrier : Carrier) : Action Nat := do
  pure (← Action.ask (.instances (.endpoints carrier.dispatcher.id))).length

def disconnect (carrier : Carrier) : Action Unit := do
  for (url, id) in ← Action.ask (.instances (.endpoints carrier.dispatcher.id)) do
    (Endpoint.mk id url).disconnect

def disconnectAll (control : Controller) : Action Unit := do
  for (name, id) in ← Action.ask (.instances .carriers) do
    (Carrier.mk ⟨control, id, name⟩).disconnect

/-- Where a node takes connections. -/
def urlOf (node : ServiceNode) : Except Error String :=
  match node.property? wsUrlKey with
  | none => .error (.propertyNotFound wsUrlKey)
  | some (.string "") => .error (.propertyNotFound wsUrlKey)
  | some (.string url) => .ok url
  | some _ => .error (.propertyNotText wsUrlKey)

def subscribeOn (carrier : Carrier) (generation : Nat) (picked : Picked) (topic : String) :
    Action Subscribed := do
  let url ← Action.ofExcept (urlOf picked.node)
  let endpoint ← carrier.endpoint url
  let secret ← carrier.dispatcher.secretOf generation picked.index picked.node
  let session ← endpoint.connect carrier.dispatcher.control.nodeName secret
  match ← Action.ask (.subscribe session topic) with
  | .ok id => pure ⟨session, id, topic⟩
  | .error fault => throw (.stomp ("subscribe " ++ topic ++ ": " ++ fault))

/-- Try candidates in turn, whatever goes wrong, as long as there is another one. -/
def subscribeNodes (carrier : Carrier) (generation : Nat) (topic : String) (picker : Picker) :
    Action Subscribed := do
  match found : picker.pick with
  | (.error error, _) => throw error
  | (.ok picked, rest) =>
    have := Picker.length_pick found
    match ← (carrier.subscribeOn generation picked topic).outcome with
    | .ok subscribed => pure subscribed
    | .error .cancelled => throw .cancelled
    | .error error =>
      if picked.hasMore then subscribeNodes carrier generation topic rest else throw error
termination_by picker.left.length

/-- Subscribe to a topic on the first node, in the order of a policy, that can be connected to. -/
def subscribe (carrier : Carrier) (policy : Policy) (draws : List Nat) (topic : String) :
    Action Subscribed := do
  let set ← carrier.dispatcher.checkedSet
  carrier.subscribeNodes set.generation topic (.among policy draws set.nodes)

end Carrier

/-- A topic of a service: the property that names it, and its carrier, when that is not the one
the service names. -/
structure Subscriber where
  service : Dispatcher
  property : String
  carrier : Option Carrier := none

namespace Subscriber

def findCarrier (subscriber : Subscriber) : Action Carrier := do
  match subscriber.carrier with
  | some carrier => pure carrier
  | none =>
    let name ← subscriber.service.findText wsPubsubServiceKey .ordered []
    Carrier.get subscriber.service.control name

/-- Subscribe; the policy chooses among the nodes of the carrier. -/
def subscribe (subscriber : Subscriber) (policy : Policy) (draws : List Nat) :
    Action Subscribed := do
  let carrier ← subscriber.findCarrier
  let topic ← subscriber.service.findText subscriber.property .ordered []
  carrier.subscribe policy draws topic

end Subscriber
end PubSub
end ExchangeGrid
