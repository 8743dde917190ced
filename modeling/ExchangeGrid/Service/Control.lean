import ExchangeGrid.Service.Program

namespace ExchangeGrid

/-!
# The control plane

Every operation goes to the control hosts in the order in which they are listed, up to the first
that answers at all.  Only a failure of transport moves on to the next host; what an answer means
is up to the operation.
-/

/-- What a client sends operations with: the hosts, its name, and a description of itself. -/
structure Controller where
  hosts : List ControlHost
  nodeName : String
  description : Option String

def accountState : Json.Shape :=
  .choice ["PENDING", "ENABLED", "DISABLED"]

def accountCreation : Json.Shape :=
  .record [.textOrEmpty "nodeName", .textOrEmpty "password"]

def accountActivation : Json.Shape :=
  .record [{ name := "accountState", shape := accountState }, .textOrEmpty "version"]

def isEnabled (activation : Json.Value) : Bool :=
  (activation.get? "accountState").bind Json.Value.string? == some "ENABLED"

def serviceListing : Json.Shape :=
  .record [.listOrEmpty "services" ServiceNode.shape]

def secretAnswer : Json.Shape :=
  .record [.textOrEmpty "secret"]

namespace Controller

/-- The controller of some settings.  An empty description is none. -/
def ofConfig (config : Config) : Controller :=
  ⟨config.hosts, config.nodeName, config.description.filter fun text => !text.isEmpty⟩

/-- Send an operation to hosts in order, until one answers. -/
def tryHosts (operation : String) (payload : Json.Value) (auth : Auth) :
    List ControlHost → Action Reply
  | [] => throw .noHosts
  | host :: hosts => do
    match ← (Action.post (host.url operation) payload auth).outcome with
    | .ok reply => pure reply
    | .error error =>
      if error.isTransport then tryHosts operation payload auth hosts else throw error

def request (control : Controller) (operation : String) (payload : Json.Value) (auth : Auth) :
    Action Reply :=
  tryHosts operation payload auth control.hosts

/-- Ask for an account, without credentials. -/
def createAccount (control : Controller) : Action Json.Value := do
  let reply ← control.request "AccountCreate"
    (.object [("nodeName", .string control.nodeName)]) .anonymous
  if reply.status = 403 ∨ reply.status = 503 then throw .createForbidden
  else if reply.status = 409 then throw .createConflict
  else if reply.status > 299 then throw (.unexpectedStatus reply.status)
  else Action.ofExcept (reply.decode accountCreation)

def activateAccount (control : Controller) : Action Json.Value := do
  let payload : Json.Value := match control.description with
    | none => .object []
    | some text => .object [("description", .string text)]
  let reply ← control.request "AccountActivate" payload .configured
  if reply.status = 401 then throw .activateUnauthorized
  else if reply.status > 299 then throw (.unexpectedStatus reply.status)
  else Action.ofExcept (reply.decode accountActivation)

def lookUp (control : Controller) (service : String) : Action (List ServiceNode) := do
  let reply ← control.request "ServiceLookup" (.object [("name", .string service)]) .configured
  if reply.status > 299 then throw (.unexpectedStatus reply.status)
  let listing ← Action.ofExcept (reply.decode serviceListing)
  match listing.get? "services" with
  | some (.array items) => pure (items.map ServiceNode.ofValue)
  | _ => pure []

def exchangeSecret (control : Controller) (node : String) : Action String := do
  let reply ← control.request "AccessSecret" (.object [("peerNodeName", .string node)])
    .configured
  if reply.status > 299 then throw (.unexpectedStatus reply.status)
  let answer ← Action.ofExcept (reply.decode secretAnswer)
  pure (((answer.get? "secret").bind Json.Value.string?).getD "")

end Controller
end ExchangeGrid
