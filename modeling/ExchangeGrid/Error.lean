import ExchangeGrid.Text.Quoted

namespace ExchangeGrid

/-!
# Errors of a grid client

An error names its cause.  `Error.kind` sorts the causes into a few kinds, because callers act
on the kind alone: only a failure of transport makes a client go on to the next candidate.
-/

/-- What callers tell errors apart by. -/
inductive ErrorKind
  | configuration
  | discovery
  | transport
  | application
  | decode
  | secret
  | cancelled
  deriving DecidableEq, Repr

/-- Why an operation failed. -/
inductive Error
  | config (detail : String)
  | invalidInput (detail : String)
  | noHosts
  | noNodes
  | nodeNotFound (name : String)
  | invalidNodeIndex (index : Nat)
  | serviceUnavailable (service : String)
  | propertyNotFound (key : String)
  | propertyNotText (key : String)
  | allNodesFailed (call : String)
  | url (detail : String)
  | resolve (detail : String)
  | port (detail : String)
  | tls (detail : String)
  | http (detail : String)
  | timeout (detail : String)
  | webSocket (detail : String)
  | stomp (detail : String)
  | unexpectedStatus (status : Nat)
  | createForbidden
  | createConflict
  | activateUnauthorized
  | decode (detail : String)
  | secret (node : String) (message : String)
  | cancelled
  deriving DecidableEq, Repr

namespace Error

/-- What is said of content that cannot be read as what was expected. -/
def misshapen : String := "not of the expected shape"

def kind : Error → ErrorKind
  | config _ | invalidInput _ => .configuration
  | noHosts | noNodes | nodeNotFound _ | invalidNodeIndex _ | serviceUnavailable _
  | propertyNotFound _ | propertyNotText _ | allNodesFailed _ => .discovery
  | url _ | resolve _ | port _ | tls _ | http _ | timeout _ | webSocket _ | stomp _ => .transport
  | unexpectedStatus _ | createForbidden | createConflict | activateUnauthorized => .application
  | decode _ => .decode
  | secret _ _ => .secret
  | cancelled => .cancelled

/-- Whether an error makes a client try the next candidate. -/
def isTransport (error : Error) : Bool :=
  error.kind == .transport

def message : Error → String
  | config detail => "config: " ++ detail
  | invalidInput detail => "invalid input: " ++ detail
  | noHosts => "no hosts available"
  | noNodes => "no nodes available"
  | nodeNotFound name => "node not found: " ++ name
  | invalidNodeIndex index => "invalid node index " ++ toString index
  | serviceUnavailable service => "service unavailable: " ++ service
  | propertyNotFound key => "property " ++ key ++ " not found"
  | propertyNotText key => "property " ++ key ++ " is not a string"
  | allNodesFailed call => "all nodes failed to " ++ call
  | url detail => "failed to parse URL: " ++ detail
  | resolve detail => "failed to resolve host: " ++ detail
  | port detail => "invalid port: " ++ detail
  | tls detail => "TLS: " ++ detail
  | http detail => "HTTP: " ++ detail
  | timeout detail => "timeout: " ++ detail
  | webSocket detail => "websocket: " ++ detail
  | stomp detail => "STOMP: " ++ detail
  | unexpectedStatus status => "unexpected status code: " ++ toString status
  | createForbidden => "create account forbidden"
  | createConflict => "create account conflict"
  | activateUnauthorized => "activate account unauthorized"
  | decode detail => "decode: " ++ detail
  | secret node message => "failed to get secret for node " ++ node ++ ": " ++ message
  | cancelled => "cancelled"

end Error
end ExchangeGrid
