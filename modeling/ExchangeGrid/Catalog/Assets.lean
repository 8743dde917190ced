import ExchangeGrid.Json.Shape

namespace ExchangeGrid
namespace Catalog

open Json

/-!
# Messages of the asset inventory and the health service

Assets are announced on a topic as they are created, updated and deleted.  Health and
performance are samples of single nodes.
-/

/-- What happened to the subject of a message. -/
def operationType : Shape :=
  .choice ["CREATE", "UPDATE", "DELETE"]

/-- A named attribute of an asset. -/
def keyValue : Shape :=
  .record [.text "key", .text "value"]

def asset : Shape :=
  .record [
    .textOrEmpty "assetId",
    .textOrEmpty "assetName",
    .textOrEmpty "assetIpAddress",
    .textOrEmpty "assetMacAddress",
    .textOrEmpty "assetVendor",
    .textOrEmpty "assetProductId",
    .textOrEmpty "assetSerialNumber",
    .textOrEmpty "assetDeviceType",
    .textOrEmpty "assetSwRevision",
    .textOrEmpty "assetHwRevision",
    .textOrEmpty "assetProtocol",
    .listOrEmpty "assetCustomAttributes" keyValue,
    .listOrEmpty "assetConnectedLinks" keyValue]

def assetMessage : Shape :=
  .record [
    { name := "opType", shape := operationType },
    { name := "asset", shape := asset }]

/-- A measurement that is zero when left out. -/
def measurement (name : String) : Field :=
  { name, shape := .binary, default := some (.number (.binary 0)) }

/-- The load of a node at some time. -/
def health : Shape :=
  .record [
    .textOrEmpty "timestamp",
    .textOrEmpty "serverName",
    measurement "ioWait",
    measurement "cpuUsage",
    measurement "memoryUsage",
    measurement "diskUsageRoot",
    measurement "diskUsageOpt",
    measurement "loadAverage",
    measurement "networkSent",
    measurement "networkReceived"]

/-- The work of a node at some time. -/
def performance : Shape :=
  .record [
    .textOrEmpty "timestamp",
    .textOrEmpty "serverName",
    measurement "radiusRate",
    measurement "radiusCount",
    measurement "radiusLatency"]

end Catalog
end ExchangeGrid
