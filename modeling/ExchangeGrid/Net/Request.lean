import ExchangeGrid.Net.Target
import ExchangeGrid.Net.Trust
import ExchangeGrid.Service.Event
import ExchangeGrid.Service.Program

namespace ExchangeGrid
namespace Net

/-!
# Requests over a network

A request goes to exactly one address of the host that its URL names, with the client's own
credentials unless others are set.  What the network itself does, from the lookup of names to the
answers of servers, is given from outside; this module decides what is asked of it, and refuses
what must not be sent.
-/

/-- Where a connection goes, and what it trusts and shows. -/
structure Route where
  raw : String
  url : Url
  endpoint : Endpoint
  trust : Trust
  deriving Repr

/-- A machine on a network: its certificate files, how names are looked up, how servers answer,
and which connections for messages come about. -/
structure Network where
  files : PemFiles
  lookUp : Lookup
  exchange : Route → Option (String × String) → Json.Value → Except Error Reply
  connect : Route → String → String → Except Error Unit

/-- A network on which no name is known and nobody answers. -/
def Network.unreachable (files : PemFiles) : Network where
  files
  lookUp _ host :=
    .error (.resolve (host ++ ": failed to lookup address information: " ++
      "Temporary failure in name resolution"))
  exchange route _ _ := .error (.http ("error sending request for url (" ++ route.raw ++ ")"))
  connect route _ _ := .error (.webSocket ("connect " ++ route.endpoint.text))

/-- What a client sends requests with. -/
structure Transport where
  resolver : Resolver
  trust : Trust
  credentials : Option (String × String)
  allowPlaintext : Bool
  deriving Repr

def Transport.make (files : PemFiles) (config : Config) : Except Error Transport := do
  let resolver ← Resolver.make config.dns.family config.dns.server
  let trust ← Trust.load files config
  .ok ⟨resolver, trust, config.credentials, config.http.allowPlaintext⟩

/-- A transport for settings without errors. -/
def Transport.makeChecked (files : PemFiles) (config : Config) : Except Error Transport := do
  config.check
  Transport.make files config

/-- A request: its credentials may differ from those of the transport. -/
structure Request where
  transport : Transport
  credentials : Option (String × String)
  deriving Repr

def Transport.request (transport : Transport) : Request :=
  ⟨transport, transport.credentials⟩

namespace Request

def anonymous (request : Request) : Request :=
  { request with credentials := none }

/-- Set the user and keep the password. -/
def withUser (request : Request) (user : String) : Request :=
  { request with credentials := some (user, (request.credentials.map Prod.snd).getD "") }

/-- Set the password and keep the user. -/
def withPassword (request : Request) (password : String) : Request :=
  { request with credentials := some ((request.credentials.map Prod.fst).getD "", password) }

def withAuth (request : Request) : Auth → Request
  | .configured => request
  | .anonymous => request.anonymous
  | .basic user password => (request.withUser user).withPassword password

/-- The host and the port that a URL names: only encrypted connections are made, unless the
settings say otherwise. -/
def target (request : Request) (raw : String) : Except Error (Url × UrlHost × Nat) := do
  let url ← Url.read raw
  if url.scheme = "https" ∨ (url.scheme = "http" ∧ request.transport.allowPlaintext) then
    match url.host with
    | none => .error (.url (raw ++ ": missing host"))
    | some host =>
      let port ← targetPort raw url
      .ok (url, host, port)
  else .error (.url (raw ++ ": unsupported scheme " ++ Quoted.text url.scheme))

/-- Send a payload.  Nothing is looked up or sent for a request that has been called off. -/
def post (request : Request) (network : Network) (cancelled : Bool) (raw : String)
    (payload : Json.Value) : Except Error Reply := do
  let (url, host, port) ← request.target raw
  if cancelled then .error .cancelled
  else
    let address ← request.transport.resolver.resolve network.lookUp host.lookupText
    request.transport.trust.check
    network.exchange ⟨raw, url, ⟨address, port, 0⟩, request.transport.trust⟩ request.credentials
      payload

end Request

/-- Open a connection for messages.  Only the schemes of such connections are taken. -/
def Transport.dial (transport : Transport) (network : Network) (cancelled : Bool)
    (raw user secret : String) : Except Error Unit := do
  let url ← Url.read raw
  if url.scheme = "wss" then transport.trust.check
  else if url.scheme ≠ "ws" then
    .error (.url (raw ++ ": unsupported scheme " ++ url.scheme))
  match url.host, url.port.or (defaultPort? url.scheme) with
  | none, _ => .error (.url (raw ++ ": missing host"))
  | _, none | _, some 0 => .error (.port raw)
  | some host, some port =>
    if !isTarget raw then .error (.webSocket (raw ++ ": invalid target"))
    else if cancelled then .error .cancelled
    else
      let address ← transport.resolver.resolve network.lookUp host.text
      network.connect ⟨raw, url, ⟨address, port, 0⟩, transport.trust⟩ user secret

end Net
end ExchangeGrid
