import ExchangeGrid.Catalog.Assets
import ExchangeGrid.Facade.Request

namespace ExchangeGrid
namespace Facade

/-!
# Assets and the health of nodes

The topic of the asset inventory, and the calls of the service that watches over nodes.
-/

namespace Assets

def name : String := "com.cisco.endpoint.asset"

def assetTopic : Topic := ⟨"assetTopic", Catalog.assetMessage⟩

end Assets

namespace Health

def name : String := "com.cisco.ise.system"

/-- The load of a node, or of all, since some time. -/
def healths (service : Dispatcher) (node since : String) : Deferred Json.Value :=
  listCall service "getHealths" (sparse [("nodeName", node), ("startTimestamp", since)])
    "healths" Catalog.health

/-- The work of a node, or of all, since some time. -/
def performances (service : Dispatcher) (node since : String) : Deferred Json.Value :=
  listCall service "getPerformances" (sparse [("nodeName", node), ("startTimestamp", since)])
    "performances" Catalog.performance

end Health
end Facade
end ExchangeGrid
