import ExchangeGrid.Catalog.NetworkControl
import ExchangeGrid.Facade.Request

namespace ExchangeGrid
namespace Facade
namespace NetworkControl

/-!
# Adaptive network control

Calls and topics of the service that restricts endpoints.
-/

def name : String := "com.cisco.ise.config.anc"

def textOf (request : Json.Value) (member : String) : String :=
  ((request.get? member).bind Json.Value.string?).getD ""

def policies (service : Dispatcher) : Deferred Json.Value :=
  listCall service "getPolicies" (.object []) "policies" Catalog.policy

def policyByName (service : Dispatcher) (policy : String) : Deferred (Option Json.Value) :=
  optionalCall service "getPolicyByName" [("name", policy)] Catalog.policy

/-- Make a policy, which needs a name and something to do. -/
def createPolicy (service : Dispatcher) (policy : Json.Value) : Deferred Unit :=
  match textOf policy "name", policy.get? "actions" with
  | "", _ | _, none | _, some (.array []) =>
    .error (.invalidInput "policy needs a name and at least one action")
  | policyName, some actions =>
    .ok ⟨service, "createPolicy", .sorted [("name", .string policyName), ("actions", actions)],
      Reply.statusOnly⟩

def deletePolicyByName (service : Dispatcher) (policy : String) : Deferred Unit :=
  requiring [("name", policy)]
    (.ok ⟨service, "deletePolicyByName", texts [("name", policy)], Reply.statusOnly⟩)

/-- All endpoints under a policy. -/
def endpoints (service : Dispatcher) : Deferred Json.Value :=
  listCall service "getEndpoints" (.object []) "endpoints" Catalog.endpoint

def endpointPolicies (service : Dispatcher) : Deferred Json.Value :=
  listCall service "getEndpointPolicies" (.object []) "endpoints" Catalog.endpoint

def endpointByMac (service : Dispatcher) (address : String) : Deferred (Option Json.Value) :=
  optionalCall service "getEndpointByMAC" [("macAddress", address)] Catalog.endpoint

def endpointByNasIpAddress (service : Dispatcher) (address device : String) :
    Deferred (Option Json.Value) :=
  optionalCall service "getEndpointByNasIpAddress"
    [("macAddress", address), ("nasIpAddress", device)] Catalog.endpoint

def applyByIpAddress (service : Dispatcher) (address policy : String) :
    Deferred (Option Json.Value) :=
  optionalCall service "applyEndpointByIpAddress"
    [("ipAddress", address), ("policyName", policy)] Catalog.operationStatus

def applyByMacAddress (service : Dispatcher) (address policy : String) :
    Deferred (Option Json.Value) :=
  optionalCall service "applyEndpointByMacAddress"
    [("macAddress", address), ("policyName", policy)] Catalog.operationStatus

def clearByIpAddress (service : Dispatcher) (address policy : String) :
    Deferred (Option Json.Value) :=
  optionalCall service "clearEndpointByIpAddress"
    [("ipAddress", address), ("policyName", policy)] Catalog.operationStatus

def clearByMacAddress (service : Dispatcher) (address policy : String) :
    Deferred (Option Json.Value) :=
  optionalCall service "clearEndpointByMacAddress"
    [("macAddress", address), ("policyName", policy)] Catalog.operationStatus

/-- Send a whole request, some of whose members must not be empty. -/
def sendRequest (service : Dispatcher) (name : String) (required : List String)
    (request : Json.Value) : Deferred (Option Json.Value) :=
  let members := match request with
    | .object members => members
    | _ => []
  requiring (required.map fun member => (member, textOf request member))
    (.ok ⟨service, name, .sorted members, Reply.optionalValue Catalog.operationStatus⟩)

def applyPolicy (service : Dispatcher) (request : Json.Value) : Deferred (Option Json.Value) :=
  sendRequest service "applyEndpointPolicy" ["policy", "macAddress", "nasIpAddress"] request

def clearPolicy (service : Dispatcher) (request : Json.Value) : Deferred (Option Json.Value) :=
  sendRequest service "clearEndpointPolicy" ["macAddress", "nasIpAddress"] request

def operationStatus (service : Dispatcher) (operation : String) :
    Deferred (Option Json.Value) :=
  optionalCall service "getOperationStatus" [("operationId", operation)] Catalog.operationStatus

def statusTopic : Topic := ⟨"statusTopic", Catalog.operationStatus⟩

end NetworkControl
end Facade
end ExchangeGrid
