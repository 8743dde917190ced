import ExchangeGrid.Catalog.Sessions
import ExchangeGrid.Facade.Request

namespace ExchangeGrid
namespace Facade
namespace Sessions

/-!
# The session directory

Calls and topics of the service that knows who is on the network.
-/

def name : String := "com.cisco.ise.session"

/-- The sessions that have changed since some time, or all; a filter is left to the server. -/
def sessions (service : Dispatcher) (since : String) (filter : Option Json.Value) :
    Deferred Json.Value :=
  listCall service "getSessions" (withFilter (sparse [("startTimestamp", since)]) filter)
    "sessions" Catalog.session

/-- The sessions of a span of time, after an outage. -/
def sessionsForRecovery (service : Dispatcher) (since untilTime : String) :
    Deferred Json.Value :=
  listCall service "getSessionsForRecovery"
    (sparse [("startTimestamp", since), ("endTimestamp", untilTime)]) "sessions" Catalog.session

def sessionByIpAddress (service : Dispatcher) (address : String) :
    Deferred (Option Json.Value) :=
  optionalCall service "getSessionByIpAddress" [("ipAddress", address)] Catalog.session

def sessionByMacAddress (service : Dispatcher) (address : String) :
    Deferred (Option Json.Value) :=
  optionalCall service "getSessionByMacAddress" [("macAddress", address)] Catalog.session

def userGroups (service : Dispatcher) (filter : Option Json.Value) : Deferred Json.Value :=
  listCall service "getUserGroups" (withFilter (.object []) filter) "userGroups" Catalog.group

def userGroupByUserName (service : Dispatcher) (user : String) : Deferred Json.Value :=
  requiring [("userName", user)]
    (listCall service "getUserGroupByUserName" (texts [("userName", user)]) "groups" Catalog.group)

def sessionTopic : Topic := ⟨"sessionTopic", Catalog.sessionMessage⟩

/-- Sessions as they change, of all states. -/
def sessionTopicAll : Topic := ⟨"sessionTopicAll", Catalog.sessionMessage⟩

def groupTopic : Topic := ⟨"groupTopic", Catalog.groupMessage⟩

end Sessions
end Facade
end ExchangeGrid
