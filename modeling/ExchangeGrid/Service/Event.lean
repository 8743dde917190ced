import ExchangeGrid.Json.Value

namespace ExchangeGrid

/-!
# Trace events

What a client tells an observer of its work.
-/

/-- Something that happened. -/
inductive Event
  | restCall (url : String) (status : Nat) (milliseconds : Nat)
  | serviceLookup (service : String) (nodes : Nat)
  | secretProvisioned (service : String) (node : String)
  | pubSubConnected (url : String) (reused : Bool)
  deriving DecidableEq, Repr

/-- An event as a value: its name first, then what belongs to it. -/
def Event.toValue : Event → Json.Value
  | restCall url status milliseconds =>
    .object [("event", .string "RestCall"), ("url", .string url), ("status", .nat status),
      ("duration_ms", .nat milliseconds)]
  | serviceLookup service nodes =>
    .object [("event", .string "ServiceLookup"), ("service", .string service),
      ("nodes", .nat nodes)]
  | secretProvisioned service node =>
    .object [("event", .string "SecretProvisioned"), ("service", .string service),
      ("node", .string node)]
  | pubSubConnected url reused =>
    .object [("event", .string "PubSubConnected"), ("ws_url", .string url),
      ("reused", .bool reused)]

end ExchangeGrid
