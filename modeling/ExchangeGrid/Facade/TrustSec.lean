import ExchangeGrid.Catalog.TrustSec
import ExchangeGrid.Facade.Request

namespace ExchangeGrid
namespace Facade
namespace TrustSec

/-!
# Security groups

Calls and topics of the service that keeps security groups, their access lists, virtual networks
and the policies between groups.
-/

def name : String := "com.cisco.ise.config.trustsec"

/-- What narrows a listing; what is not set is not sent. -/
structure Filter where
  id : Option String := none
  startIndex : Option Nat := none
  recordCount : Option Nat := none
  startTimestamp : Option String := none
  endTimestamp : Option String := none

def setText (name : String) (value : Option String) : List (String × Json.Value) :=
  value.toList.map fun text => (name, .string text)

def setCount (name : String) (value : Option Nat) : List (String × Json.Value) :=
  value.toList.map fun count => (name, .nat count)

def Filter.members (filter : Filter) : List (String × Json.Value) :=
  setText "id" filter.id ++ setCount "startIndex" filter.startIndex ++
    setCount "recordCount" filter.recordCount ++ setText "startTimestamp" filter.startTimestamp ++
    setText "endTimestamp" filter.endTimestamp

def Filter.payload (filter : Filter) : Json.Value :=
  .sorted filter.members

def securityGroups (service : Dispatcher) (filter : Filter) : Deferred Json.Value :=
  valueCall service "getSecurityGroups" filter.payload Catalog.securityGroups

def securityGroupAcls (service : Dispatcher) (filter : Filter) : Deferred Json.Value :=
  valueCall service "getSecurityGroupAcls" filter.payload Catalog.securityGroupAcls

def virtualNetworks (service : Dispatcher) (filter : Filter) : Deferred Json.Value :=
  valueCall service "getVirtualNetwork" filter.payload Catalog.virtualNetworks

/-- Policies between security groups, of one matrix when one is set. -/
def egressPolicies (service : Dispatcher) (filter : Filter) (matrix : Option String) :
    Deferred Json.Value :=
  valueCall service "getEgressPolicies" (.sorted (filter.members ++ setText "matrixId" matrix))
    Catalog.egressPolicies

def egressMatrices (service : Dispatcher) : Deferred Json.Value :=
  listCall service "getEgressMatrices" (.object []) "egressMatrices" Catalog.egressMatrix

def securityGroupTopic : Topic := ⟨"securityGroupTopic", Catalog.securityGroupMessage⟩

def securityGroupAclTopic : Topic := ⟨"securityGroupAclTopic", Catalog.securityGroupAclMessage⟩

/-- Networks of security groups as they change; these messages have no fixed shape. -/
def securityGroupVnVlanTopic : Topic := ⟨"securityGroupVnVlanTopic", .any⟩

def virtualNetworkTopic : Topic := ⟨"virtualnetworkTopic", Catalog.virtualNetworkMessage⟩

def egressPolicyTopic : Topic := ⟨"egressPolicyTopic", Catalog.egressPolicyMessage⟩

end TrustSec
end Facade
end ExchangeGrid
