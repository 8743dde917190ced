import ExchangeGrid.Catalog.Assets

namespace ExchangeGrid
namespace Catalog

open Json

/-!
# Messages of the security group service

Security groups, their access lists, virtual networks and the matrix of egress policies, as
lists that queries answer and as messages on topics.
-/

/-- A value of any shape that is null when left out. -/
def anyOrNull (name : String) : Field :=
  { name, shape := .any, default := some .null }

def securityGroup : Shape :=
  .record [
    .textOrEmpty "id",
    .textOrEmpty "name",
    .textOrEmpty "description",
    { name := "tag", shape := .signed, default := some (.nat 0) },
    .textOrEmpty "timestamp"]

def securityGroupAcl : Shape :=
  .record [
    .textOrEmpty "id",
    .flag "isDeleted",
    .textOrEmpty "name",
    .textOrEmpty "description",
    .textOrEmpty "ipVersion",
    .textOrEmpty "acl",
    anyOrNull "modelledContent",
    .textOrEmpty "generationId",
    .textOrEmpty "timestamp"]

def virtualNetwork : Shape :=
  .record [
    .textOrEmpty "id",
    .textOrEmpty "name",
    .textOrEmpty "additionalAttributes",
    .textOrEmpty "timestamp"]

/-- A cell of an egress matrix. -/
def egressPolicy : Shape :=
  .record [
    .textOrEmpty "id",
    .textOrEmpty "name",
    .textOrEmpty "matrixId",
    .textOrEmpty "status",
    .textOrEmpty "description",
    .textOrEmpty "sourceSecurityGroupId",
    .textOrEmpty "destinationSecurityGroupId",
    .listOrEmpty "sgaclIds" .string,
    .textOrEmpty "timestamp"]

def egressMatrix : Shape :=
  .record [
    .textOrEmpty "id",
    .textOrEmpty "name",
    .textOrEmpty "description",
    .flag "monitorAll"]

/-- The answer to a list query: how many there are, those that exist and those deleted. -/
def listing (present deleted : String) (item : Shape) : Shape :=
  .record [.countOrZero "totalCount", .listOrEmpty present item, .listOrEmpty deleted item]

def securityGroups : Shape :=
  listing "securityGroups" "deletedSecurityGroups" securityGroup

def securityGroupAcls : Shape :=
  listing "securityGroupAcls" "deletedSecurityGroupAcls" securityGroupAcl

def virtualNetworks : Shape :=
  listing "virtualNetworks" "deletedVirtualNetworks" virtualNetwork

def egressPolicies : Shape :=
  listing "egressPolicies" "deletedEgressPolicies" egressPolicy

def securityGroupMessage : Shape :=
  .record [
    .countOrZero "sequence",
    { name := "operation", shape := operationType },
    { name := "securityGroup", shape := securityGroup }]

def securityGroupAclMessage : Shape :=
  .record [
    .textOrEmpty "id",
    .textOrEmpty "name",
    .textOrEmpty "description",
    .textOrEmpty "ipVersion",
    .textOrEmpty "acl",
    anyOrNull "modelledContent",
    .textOrEmpty "generationId",
    .flag "isReadOnly",
    .countOrZero "sequence",
    .flag "deleted",
    .textOrEmpty "timestamp"]

def virtualNetworkMessage : Shape :=
  .record [
    .textOrEmpty "id",
    .textOrEmpty "name",
    .textOrEmpty "additionalAttributes",
    .countOrZero "sequence",
    .flag "deleted",
    .textOrEmpty "timestamp"]

def egressPolicyMessage : Shape :=
  .record [
    .textOrEmpty "id",
    .textOrEmpty "name",
    .textOrEmpty "description",
    .textOrEmpty "sourceSgtId",
    .textOrEmpty "sourceSgtName",
    .textOrEmpty "destinationSgtId",
    .textOrEmpty "destinationSgtName",
    .textOrEmpty "matrixCellStatus",
    .listOrEmpty "sgaclIds" .string,
    .textOrEmpty "defaultRule",
    .countOrZero "sequence",
    .flag "deleted",
    .textOrEmpty "timestamp"]

end Catalog
end ExchangeGrid
