import ExchangeGrid.Json.Shape
import ExchangeGrid.Net.Resolve
import ExchangeGrid.Net.Url
import ExchangeGrid.Toml.Document

namespace ExchangeGrid

/-!
# Settings of a client

What a client is told: the hosts of the control plane in the order in which they are tried, its
own name on the grid, its credentials, and how it connects.  `Config.issues` lists what is wrong
with settings; a client is built only from settings without errors.
-/

/-- A host of the control plane. -/
structure ControlHost where
  host : String
  port : Nat := Net.controlPort
  deriving DecidableEq, Repr

/-- Whom a client claims to be. -/
structure AuthSettings where
  username : Option String := none
  password : Option String := none
  deriving DecidableEq, Repr

/-- Which certificates are trusted and shown, as paths of files. -/
structure TlsSettings where
  insecure : Bool := false
  authorities : List String := []
  certificate : Option String := none
  key : Option String := none
  deriving DecidableEq, Repr

/-- How host names are looked up. -/
structure DnsSettings where
  server : Option String := none
  family : Net.Family := .preferV4
  deriving DecidableEq, Repr

/-- How long a request may take, and whether it may go out unencrypted. -/
structure HttpSettings where
  timeout : Nat := 30000
  allowPlaintext : Bool := false
  deriving DecidableEq, Repr

/-- The clocks of a connection for messages, in milliseconds. -/
structure PubSubSettings where
  pongWait : Nat := 60000
  probeTimeout : Nat := 5000
  handshakeTimeout : Nat := 10000
  deriving DecidableEq, Repr

/-- The settings of a client. -/
structure Config where
  hosts : List ControlHost := []
  nodeName : String := ""
  description : Option String := none
  auth : AuthSettings := {}
  tls : TlsSettings := {}
  dns : DnsSettings := {}
  http : HttpSettings := {}
  pubsub : PubSubSettings := {}
  deriving DecidableEq, Repr

/-! ## Reading and writing -/

namespace ControlHost

def shape : Json.Shape :=
  .record [
    .text "host",
    { name := "control_port", shape := .port, default := some (.nat Net.controlPort) }]

/-- The operation's address on a host.  An address of groups stands in brackets. -/
def url (host : ControlHost) (operation : String) : String :=
  let name :=
    if host.host.toList.contains ':' ∧ host.host.toList.head? ≠ some '[' then
      "[" ++ host.host ++ "]"
    else host.host
  "https://" ++ name ++ ":" ++ toString host.port ++ "/pxgrid/control/" ++ operation

end ControlHost

namespace Config

def optionalText (name : String) : Json.Field :=
  { name, shape := .optional .string, default := some .null }

def milliseconds (name : String) (default : Nat) : Json.Field :=
  { name, shape := .unsigned, default := some (.nat default) }

/-- A group of settings that may be left out as a whole. -/
def group (name : String) (fields : List Json.Field) : Json.Field :=
  { name, shape := .record fields
    default := some (.object (fields.filterMap fun field =>
      field.default.map fun value => (field.name, value))) }

def authFields : List Json.Field :=
  [optionalText "username", optionalText "password"]

def tlsFields : List Json.Field :=
  [.flag "insecure", .listOrEmpty "ca_files" .string, optionalText "client_cert",
    optionalText "client_key"]

def dnsFields : List Json.Field :=
  [optionalText "server",
    { name := "family"
      shape := .choice (Net.Family.all.map Net.Family.name)
      default := some (.string Net.Family.preferV4.name) }]

def httpFields : List Json.Field :=
  [milliseconds "timeout_ms" 30000, .flag "allow_plaintext"]

def pubsubFields : List Json.Field :=
  [milliseconds "pong_wait_ms" 60000, milliseconds "probe_timeout_ms" 5000,
    milliseconds "handshake_timeout_ms" 10000]

def shape : Json.Shape :=
  .record [
    .listOrEmpty "hosts" ControlHost.shape,
    .textOrEmpty "node_name",
    optionalText "description",
    group "auth" authFields,
    group "tls" tlsFields,
    group "dns" dnsFields,
    group "http" httpFields,
    group "pubsub" pubsubFields]

/-- A member of a value, or null. -/
def member (value : Json.Value) (name : String) : Json.Value :=
  (value.get? name).getD .null

def textAt (value : Json.Value) (name : String) : String :=
  ((member value name).string?).getD ""

def textAt? (value : Json.Value) (name : String) : Option String :=
  (member value name).string?

def natAt (value : Json.Value) (name : String) : Nat :=
  match member value name with
  | .number (.whole n) => n.toNat
  | _ => 0

def flagAt (value : Json.Value) (name : String) : Bool :=
  match member value name with
  | .bool b => b
  | _ => false

def itemsAt (value : Json.Value) (name : String) : List Json.Value :=
  match member value name with
  | .array items => items
  | _ => []

/-- The settings that a value of their shape says. -/
def ofValue (value : Json.Value) : Config :=
  let tls := member value "tls"
  let dns := member value "dns"
  let http := member value "http"
  let pubsub := member value "pubsub"
  { hosts := (itemsAt value "hosts").map fun host =>
      ⟨textAt host "host", natAt host "control_port"⟩
    nodeName := textAt value "node_name"
    description := textAt? value "description"
    auth := ⟨textAt? (member value "auth") "username", textAt? (member value "auth") "password"⟩
    tls := ⟨flagAt tls "insecure", (itemsAt tls "ca_files").filterMap Json.Value.string?,
      textAt? tls "client_cert", textAt? tls "client_key"⟩
    dns := ⟨textAt? dns "server", (Net.Family.ofName? (textAt dns "family")).getD .preferV4⟩
    http := ⟨natAt http "timeout_ms", flagAt http "allow_plaintext"⟩
    pubsub := ⟨natAt pubsub "pong_wait_ms", natAt pubsub "probe_timeout_ms",
      natAt pubsub "handshake_timeout_ms"⟩ }

def toValue (config : Config) : Json.Value :=
  .object [
    ("hosts", .array (config.hosts.map fun host =>
      .object [("host", .string host.host), ("control_port", .nat host.port)])),
    ("node_name", .string config.nodeName),
    ("description", .ofString? config.description),
    ("auth", .object [("username", .ofString? config.auth.username),
      ("password", .ofString? config.auth.password)]),
    ("tls", .object [("insecure", .bool config.tls.insecure),
      ("ca_files", .array (config.tls.authorities.map .string)),
      ("client_cert", .ofString? config.tls.certificate),
      ("client_key", .ofString? config.tls.key)]),
    ("dns", .object [("server", .ofString? config.dns.server),
      ("family", .string config.dns.family.name)]),
    ("http", .object [("timeout_ms", .nat config.http.timeout),
      ("allow_plaintext", .bool config.http.allowPlaintext)]),
    ("pubsub", .object [("pong_wait_ms", .nat config.pubsub.pongWait),
      ("probe_timeout_ms", .nat config.pubsub.probeTimeout),
      ("handshake_timeout_ms", .nat config.pubsub.handshakeTimeout)])]

def ofJson? (value : Json.Value) : Option Config :=
  (shape.ofValue? value).map ofValue

/-- Read settings in JSON. -/
def parse? (text : String) : Option Config :=
  (shape.parse? (Utf8.bytes text)).map ofValue

def parseFile? (text : String) : Option Config :=
  (Toml.parse? text).bind fun document => (shape.read .toml document).map ofValue

/-! ## What settings mean -/

/-- Add a control host at the end.  Port zero stands for the port of the control plane. -/
def addHost (config : Config) (host : String) (port : Nat) : Config :=
  { config with hosts := config.hosts ++ [⟨host, if port = 0 then Net.controlPort else port⟩] }

/-- The name that calls are made under: the node's own, unless another is set. -/
def username (config : Config) : String :=
  match config.auth.username with
  | some name => if name.isEmpty then config.nodeName else name
  | none => config.nodeName

/-- The credentials that calls are made with, when there is a password. -/
def credentials (config : Config) : Option (String × String) :=
  config.auth.password.map fun password => (config.username, password)

/-- Whether there is a password, and not an empty one. -/
def hasPassword (config : Config) : Bool :=
  match config.auth.password with
  | some password => !password.isEmpty
  | none => false

/-- Which certificates a connection trusts. -/
inductive TrustPolicy
  | system
  | authorities
  | anything
  deriving DecidableEq, Repr

/-- The policy of some settings: to trust anything goes first. -/
def trustPolicy (config : Config) : TrustPolicy :=
  if config.tls.insecure then .anything
  else if config.tls.authorities.isEmpty then .system
  else .authorities

/-- The time between two pings: nine tenths of the wait for a pong, and never nothing. -/
def pingPeriod (settings : PubSubSettings) : Nat :=
  max 1 (min (settings.pongWait * 9) (Nat.pow 2 64 - 1) / 10)

/-! ## Checking -/

/-- What is wrong with one setting, and whether a client can work all the same. -/
structure Issue where
  isError : Bool
  field : String
  message : String
  deriving DecidableEq, Repr

def Issue.text (issue : Issue) : String :=
  (if issue.isError then "[ERROR] " else "[WARN] ") ++ issue.field ++ ": " ++ issue.message

def errorWhen (condition : Bool) (field message : String) : List Issue :=
  if condition then [⟨true, field, message⟩] else []

def warnWhen (condition : Bool) (field message : String) : List Issue :=
  if condition then [⟨false, field, message⟩] else []

def hostIssues (host : ControlHost) (index : Nat) : List Issue :=
  let place := "hosts[" ++ toString index ++ "]"
  errorWhen host.host.isEmpty (place ++ ".host") "host must not be empty" ++
    errorWhen (host.port == 0) (place ++ ".control_port") "port must be greater than 0"

def issues (config : Config) : List Issue :=
  errorWhen config.hosts.isEmpty "hosts" "at least one control host is required" ++
    (config.hosts.zipIdx.flatMap fun (host, index) => hostIssues host index) ++
    errorWhen config.nodeName.isEmpty "node_name" "node_name must not be empty" ++
    errorWhen (!config.hasPassword && config.tls.certificate.isNone) "auth.password"
      "either a password or a client certificate is required" ++
    errorWhen (config.tls.certificate.isSome != config.tls.key.isSome) "tls.client_key"
      "client_cert and client_key must be set together" ++
    warnWhen config.tls.insecure "tls.insecure" "certificate verification is disabled" ++
    warnWhen config.http.allowPlaintext "http.allow_plaintext"
      "plain HTTP is accepted, credentials may be sent unencrypted" ++
    errorWhen (config.pubsub.pongWait == 0) "pubsub.pong_wait_ms"
      "pong_wait_ms must be greater than 0"

/-- The issues that no client can work with. -/
def errors (config : Config) : List Issue :=
  config.issues.filter Issue.isError

/-- Refuse settings with errors, and name all of them. -/
def check (config : Config) : Except Error Unit :=
  if config.errors.isEmpty then .ok ()
  else .error (.config (String.intercalate "; " (config.errors.map Issue.text)))

end Config
end ExchangeGrid
