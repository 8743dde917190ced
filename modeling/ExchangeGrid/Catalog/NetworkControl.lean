import ExchangeGrid.Json.Shape

namespace ExchangeGrid
namespace Catalog

open Json

/-!
# Messages of adaptive network control

Policies that restrict endpoints, the endpoints they apply to, and the outcome of applying or
clearing one.
-/

def policyAction : Shape :=
  .choice ["QUARANTINE", "SHUT_DOWN", "PORT_BOUNCE", "RE_AUTHENTICATE"]

/-- A policy; an empty identifier is not written. -/
def policy : Shape :=
  .record [
    .textOrEmpty "name",
    .listOrEmpty "actions" policyAction,
    { name := "id", shape := .string, default := some (.string "")
      shown := fun value => match value with | .string "" => false | _ => true }]

/-- How far an operation has come. -/
def operationState : Shape :=
  .choice ["SUCCESS", "FAILURE", "RUNNING"]

/-- The outcome of applying or clearing a policy. -/
def operationStatus : Shape :=
  .record [
    .text "operationId",
    { name := "status", shape := operationState },
    .textIfAny "macAddress",
    .textIfAny "nasIpAddress",
    .textIfAny "failureReason"]

def endpoint : Shape :=
  .record [.textOrEmpty "macAddress", .textOrEmpty "policyName", .textOrEmpty "id"]

def applyPolicyRequest : Shape :=
  .record [
    .text "policy",
    .text "macAddress",
    .text "nasIpAddress",
    .textIfAny "sessionId",
    .textIfAny "nasPortId",
    .textIfAny "ipAddress",
    .textIfAny "userName"]

def clearPolicyRequest : Shape :=
  .record [.text "macAddress", .text "nasIpAddress"]

end Catalog
end ExchangeGrid
