import ExchangeGrid.Catalog.NetworkControl
import ExchangeGrid.Catalog.Sessions
import ExchangeGrid.Catalog.TrustSec

namespace ExchangeGrid
namespace Catalog

/-!
# The messages by name

Every message of the catalog under the name that it has in descriptions of the services.
-/

/-- The shapes of all messages and their parts, by name. -/
def index : List (String × Json.Shape) :=
  [("SessionState", sessionState),
    ("Session", session),
    ("GroupType", groupType),
    ("Group", group),
    ("SessionTopicMessage", sessionMessage),
    ("GroupTopicMessage", groupMessage),
    ("PolicyAction", policyAction),
    ("Policy", policy),
    ("OperationState", operationState),
    ("OperationStatus", operationStatus),
    ("Endpoint", endpoint),
    ("ApplyPolicyRequest", applyPolicyRequest),
    ("ClearPolicyRequest", clearPolicyRequest),
    ("OperationType", operationType),
    ("KeyValue", keyValue),
    ("Asset", asset),
    ("AssetTopicMessage", assetMessage),
    ("Health", health),
    ("Performance", performance),
    ("SecurityGroup", securityGroup),
    ("SecurityGroupAcl", securityGroupAcl),
    ("VirtualNetwork", virtualNetwork),
    ("EgressPolicy", egressPolicy),
    ("EgressMatrix", egressMatrix),
    ("SecurityGroups", securityGroups),
    ("SecurityGroupAcls", securityGroupAcls),
    ("VirtualNetworks", virtualNetworks),
    ("EgressPolicies", egressPolicies),
    ("SecurityGroupTopicMessage", securityGroupMessage),
    ("SecurityGroupAclTopicMessage", securityGroupAclMessage),
    ("VirtualNetworkTopicMessage", virtualNetworkMessage),
    ("EgressPolicyTopicMessage", egressPolicyMessage)]

def shape? (name : String) : Option Json.Shape :=
  (index.find? (·.1 == name)).map (·.2)

end Catalog
end ExchangeGrid
