import ExchangeGrid.Facade.Health
import ExchangeGrid.Facade.NetworkControl
import ExchangeGrid.Facade.Sessions
import ExchangeGrid.Facade.TrustSec

namespace ExchangeGrid
namespace Facade

/-!
# All topics

The topics of all services in one list.
-/

def topics : List Topic :=
  [Sessions.sessionTopic, Sessions.sessionTopicAll, Sessions.groupTopic,
    NetworkControl.statusTopic, Assets.assetTopic, TrustSec.securityGroupTopic,
    TrustSec.securityGroupAclTopic, TrustSec.securityGroupVnVlanTopic,
    TrustSec.virtualNetworkTopic, TrustSec.egressPolicyTopic]

end Facade
end ExchangeGrid
