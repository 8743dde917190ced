import ExchangeGrid.Json.Shape

namespace ExchangeGrid

/-!
# Nodes of a service

A node is one advertised instance of a service: its name, and properties that say where and how
it is reached.  The secret that a client shares with a node is kept beside these and is never
written.
-/

/-- One advertised instance of a service. -/
structure ServiceNode where
  service : String := ""
  name : String := ""
  properties : List (String × Json.Value) := []
  secret : String := ""
  deriving Repr, Inhabited

/-- Properties that a client itself looks at. -/
def restBaseUrlKey : String := "restBaseUrl"

/-- Where a node takes connections for messages. -/
def wsUrlKey : String := "wsUrl"

/-- Which service carries the messages of a service. -/
def wsPubsubServiceKey : String := "wsPubsubService"

namespace ServiceNode

def shape : Json.Shape :=
  .record [
    .textOrEmpty "name",
    .textOrEmpty "nodeName",
    { name := "properties", shape := .table .any, default := some (.object []) }]

def ofValue (value : Json.Value) : ServiceNode :=
  { service := ((value.get? "name").bind Json.Value.string?).getD ""
    name := ((value.get? "nodeName").bind Json.Value.string?).getD ""
    properties := match value.get? "properties" with
      | some (.object members) => members
      | _ => [] }

/-- A node as a value, without its secret. -/
def toValue (node : ServiceNode) : Json.Value :=
  .object [("name", .string node.service), ("nodeName", .string node.name),
    ("properties", .object node.properties)]

def property? (node : ServiceNode) (key : String) : Option Json.Value :=
  (node.properties.find? (·.1 == key)).map (·.2)

/-- A property of a node, when it is a text. -/
def propertyText? (node : ServiceNode) (key : String) : Option String :=
  (node.property? key).bind Json.Value.string?

def hasSecret (node : ServiceNode) : Bool :=
  !node.secret.isEmpty

end ServiceNode
end ExchangeGrid
