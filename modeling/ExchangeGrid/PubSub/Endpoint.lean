import ExchangeGrid.Service.Program
import ExchangeGrid.Net.Url

namespace ExchangeGrid
namespace PubSub

/-!
# Endpoints for messages

An endpoint is a place that takes connections for messages.  It keeps at most one session, which
all subscriptions there share: a session that still answers is used again, and any other is let go
before a new one is opened.  Whoever uses the endpoint waits for its turn.
-/

/-- An endpoint, as kept for a client: the number of the instance and the address. -/
structure Endpoint where
  id : Nat
  url : String
  deriving DecidableEq, Repr

namespace Endpoint

/-- What a failed handshake is reported as, with what went wrong in closing the socket. -/
def handshakeError (url fault : String) (closing : Option String) : Error :=
  match closing with
  | none => .stomp (url ++ ": " ++ fault)
  | some closing => .stomp (url ++ ": " ++ fault ++ "; closing websocket: " ++ closing)

/-- Open a new session while the turn is held. -/
def openSession (endpoint : Endpoint) (user secret : String) : Action Nat := do
  let session ← Action.attempt (Program.question (.dial endpoint.url user secret))
  match ← Action.ask (.handshake session (Net.brokerName endpoint.url)) with
  | .ok () =>
    Action.ask (.keepSession endpoint.id (some session))
    Action.emit (.pubSubConnected endpoint.url false)
    pure session
  | .error .cancelled =>
    Action.ask (.release session)
    throw .cancelled
  | .error (.fault fault) =>
    let closing ← Action.ask (.close session)
    throw (handshakeError endpoint.url fault closing)

/-- Whether a session can be used again: it has not ended, and it answers. -/
def answers (session : Nat) : Action Bool := do
  if ← Action.ask (.isClosed session) then pure false
  else Action.ask (.probe session)

/-- A usable session while the turn is held: the one that is kept, or a new one. -/
def usableSession (endpoint : Endpoint) (user secret : String) : Action Nat := do
  match ← Action.ask (.readSession endpoint.id) with
  | none => endpoint.openSession user secret
  | some session =>
    if ← answers session then
      Action.emit (.pubSubConnected endpoint.url true)
      pure session
    else
      Action.ask (.keepSession endpoint.id none)
      Action.ask (.release session)
      endpoint.openSession user secret

def connect (endpoint : Endpoint) (user secret : String) : Action Nat := do
  Action.attempt (Program.question (.enterEndpoint endpoint.id true))
  let result ← (endpoint.usableSession user secret).outcome
  Action.ask (.leaveEndpoint endpoint.id)
  Action.ofExcept result

/-- End the session of an endpoint.  The turn is only held while the session is taken out. -/
def disconnect (endpoint : Endpoint) : Action Unit := do
  Action.attempt (Program.question (.enterEndpoint endpoint.id false))
  let session ← Action.ask (.readSession endpoint.id)
  Action.ask (.keepSession endpoint.id none)
  Action.ask (.leaveEndpoint endpoint.id)
  match session with
  | none => pure ()
  | some session =>
    if ← Action.ask (.farewell session) then Action.ask (.awaitEnd session)
    Action.ask (.release session)

end Endpoint
end PubSub
end ExchangeGrid
