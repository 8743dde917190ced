import ExchangeGrid.Json.Shape

namespace ExchangeGrid
namespace Catalog

open Json

/-!
# Messages of the session directory

Sessions of users and endpoints, and the groups that users belong to.  A session tolerates
missing fields and states it does not know.
-/

def sessionState : Shape :=
  .choice ["AUTHENTICATING", "AUTHENTICATED", "POSTURED", "STARTED", "DISCONNECTED", "UNKNOWN"]
    (some "UNKNOWN")

def session : Shape :=
  .record [
    .textOrEmpty "timestamp",
    { name := "state", shape := .optional sessionState, default := some .null },
    .textOrEmpty "macAddress",
    .listOrEmpty "ipAddresses" .string,
    .textOrEmpty "callingStationId",
    .textOrEmpty "calledStationId",
    .textOrEmpty "auditSessionId",
    .textOrEmpty "userName",
    .textOrEmpty "nasIpAddress",
    .textOrEmpty "nasPortId",
    .textOrEmpty "nasPortType",
    .textOrEmpty "nasIdentifier",
    .listOrEmpty "selectedAuthzProfiles" .string,
    .textOrEmpty "postureStatus",
    .textOrEmpty "endpointProfile",
    .textOrEmpty "endpointOperatingSystem",
    .textOrEmpty "ctsSecurityGroup",
    .textOrEmpty "adNormalizedUser",
    .textOrEmpty "adUserDomainName",
    .textOrEmpty "adHostDomainName",
    .textOrEmpty "adUserNetBiosName",
    .textOrEmpty "adHostNetBiosName",
    .listOrEmpty "providers" .string,
    .textOrEmpty "endpointCheckResult",
    .textOrEmpty "endpointCheckTime",
    .textOrEmpty "serviceType",
    .textOrEmpty "networkDeviceProfileName",
    .textOrEmpty "radiusFlowType",
    .textOrEmpty "ssid",
    .textOrEmpty "ancPolicy",
    .flag "mdmRegistered",
    .flag "mdmCompliant",
    .textOrEmpty "virtualNetwork"]

def groupType : Shape :=
  .choice ["ACTIVE_DIRECTORY", "IDENTITY", "EXTERNAL", "INTERESTING_ACTIVE_DIRECTORY", "UNKNOWN"]
    (some "UNKNOWN")

def group : Shape :=
  .record [.text "name", { name := "type", shape := groupType }]

def sessionMessage : Shape :=
  .record [
    { name := "sequence", shape := .signed, default := some (.nat 0) },
    .listOrEmpty "sessions" session]

def groupMessage : Shape :=
  .record [.listOrEmpty "userGroups" group]

end Catalog
end ExchangeGrid
