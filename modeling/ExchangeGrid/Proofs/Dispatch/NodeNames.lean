import ExchangeGrid.Proofs.Dispatch.StaleWrites

namespace ExchangeGrid
namespace Dispatcher

/-!
# Nodes by name

An operation that is given the name of a node finds its position in one list of nodes, and then picks
the node at that position of the list it reads next.  These two are the same list, but for secrets,
unless a lookup has written in between.  If one has, the request goes to whatever node the new list has
at the old position.
-/

variable {ι : Type} [DecidableEq ι]

/-- To deal with a node: to have a secret exchanged for it, or to call below its base address. -/
def Addresses (service : Dispatcher) (node : ServiceNode) (question : Question) : Prop :=
  service.control.Posts "AccessSecret" (Controller.exchangePayload node.name) .configured question ∨
    ∃ base name payload secret, node.propertyText? restBaseUrlKey = some base ∧
      question = .post (callUrl base name) payload (.basic service.control.nodeName secret)

/-- To deal with a node of a name, from a list that was read, or to look the nodes up. -/
def Reaches (service : Dispatcher) (past : List Answered) (name : String)
    (question : Question) : Prop :=
  service.control.Posts "ServiceLookup" (Controller.lookupPayload service.name) .configured
    question ∨
  ∃ (set : NodeSet) (index : Nat) (node : ServiceNode), ⟨.readNodes service.id, set⟩ ∈ past ∧
    set.nodes[index]? = some node ∧ node.name = name ∧ service.Addresses node question

/-- To deal with a node of another name, because a lookup has written after the position of the name
was found and before the node was picked. -/
def Misses (service : Dispatcher) (log : List (ι × Answered)) (who : ι) (name : String)
    (question : Question) : Prop :=
  ∃ front found middle picked back index node, log =
      front ++ (who, ⟨.readNodes service.id, found⟩) :: middle ++
        (who, ⟨.readNodes service.id, picked⟩) :: back ∧
    found.nodes.findIdx? (·.name == name) = some index ∧
    (∃ entry ∈ middle, entry.2.Replaces service.id) ∧
    picked.nodes[index]? = some node ∧ node.name ≠ name ∧ service.Addresses node question

/-- A position that was found for a name is that of a node of the name in any list read later, as long
as no lookup writes. -/
theorem Lawful.name_of_position {service : Dispatcher} {aims : ι → List Answered → Nat → Prop}
    {log front middle back : List (ι × Answered)} {who : ι} {found picked : NodeSet} {name : String}
    {index : Nat} {node : ServiceNode} (lawful : service.Lawful aims log)
    (split : log = front ++ (who, ⟨.readNodes service.id, found⟩) :: middle ++
      (who, ⟨.readNodes service.id, picked⟩) :: back)
    (position : found.nodes.findIdx? (·.name == name) = some index)
    (keep : ∀ entry ∈ middle, ¬entry.2.Replaces service.id)
    (there : picked.nodes[index]? = some node) : node.name = name := by
  have wholeSplit : log = front ++ (who, ⟨.readNodes service.id, found⟩) ::
      (middle ++ (who, ⟨.readNodes service.id, picked⟩) :: back) := by
    rw [split, List.append_assoc]
    rfl
  have afterFound : picked = setAfter service.id found middle := by
    rw [lawful.told _ who picked back split, setAfter_append,
      ← lawful.told front who found _ wholeSplit]
    rfl
  apply name_of_findIdx? position keep
  rw [← afterFound]
  exact there

/-- Whatever is posted for an operation that was given a name is for a node of that name, unless the
nodes were replaced at the wrong moment. -/
theorem reaches_or_misses (service : Dispatcher) (operations : ι → Operation)
    (moves : List (Move ι)) {who : ι} {name : String}
    (named : (operations who).node? = some name) {url : String} {payload : Json.Value} {auth : Auth}
    (asks : ((service.atWork operations).run moves).Asks who (.post url payload auth)) :
    service.Reaches (((service.atWork operations).run moves).past who) name
        (.post url payload auth) ∨
      service.Misses ((service.atWork operations).run moves).log who name
        (.post url payload auth) := by
  have lawful := service.lawful_atWork operations moves
  rcases ((service.follows_atWork operations moves).may_of_asks asks).posted with
    lookUp | ⟨later, set, index, node, chose, request⟩
  · exact Or.inl (Or.inl lookUp)
  have addresses : service.Addresses node (.post url payload auth) := by
    rcases request with exchange | ⟨base, name, secret, -, based, rfl, rfl⟩
    · exact Or.inl exchange
    · exact Or.inr ⟨base, name, payload, secret, based, rfl⟩
  by_cases same : node.name = name
  · exact Or.inl (Or.inr ⟨set, index, node, chose.mem_past.1, chose.there, same, addresses⟩)
  rcases chose.seen with ⟨before, past, aims⟩
  rcases aims name named with ⟨first, found, between, rfl, position⟩
  rcases pastOf_eq_append_cons past with ⟨earlier, back, split, isBefore, -⟩
  rcases pastOf_eq_append_cons isBefore with ⟨front, middle, rfl, -, -⟩
  refine Or.inr ⟨front, found, middle, set, back, index, node, split, position, ?_, chose.there,
    same, addresses⟩
  -- Had no lookup written in between, the position would still be that of the name.
  by_contra none
  have keep : ∀ entry ∈ middle, ¬entry.2.Replaces service.id := by
    intro entry member replaces
    exact none ⟨entry, member, replaces⟩
  exact same (lawful.name_of_position split position keep chose.there)

/-! ## A list that is replaced at the wrong moment -/

namespace Relisted

/-- Two operations that are given the name of a node, among any number of lookups. -/
def operations : Nat → Operation
  | 1 => .updateSecretByName "b"
  | 2 => .callNamed "echo" .null Reply.statusOnly "b"
  | _ => .lookUp

def listed (node : String) : String :=
  "\x7b\"nodeName\":\"" ++ node ++ "\",\"properties\":\x7b\"restBaseUrl\":\"https://" ++ node ++
    "\"\x7d\x7d"

def listing (first second : String) : String :=
  "\x7b\"services\":[" ++ listed first ++ "," ++ listed second ++ "]\x7d"

/-- Two nodes are listed, and the two operations find the position of the second. -/
def before : List (Move Nat) :=
  [.told 0 (listing "a" "b"), .told 0 "", .told 1 "", .told 2 "", .told 2 ""]

/-- Now the nodes are listed the other way round, and the two operations read them again. -/
def after : List (Move Nat) :=
  [.told 3 (listing "b" "a"), .told 3 "", .told 1 "", .told 2 "", .told 2 "", .told 2 "",
    .told 2 "\x7b\"secret\":\"x\"\x7d", .told 2 "", .told 2 ""]

def exchange (node : String) : Question :=
  .post "https://ctl:8910/pxgrid/control/AccessSecret" (Controller.exchangePayload node) .configured

theorem not_reaches (past : List Answered) {name other : String} (different : other ≠ name) :
    ¬sample.Reaches past name (exchange other) := by
  have payloads : ∀ host operation payload, exchange other =
      .post (ControlHost.url host operation) payload .configured →
        payload = Controller.exchangePayload other := by
    intro host operation payload same
    injection same with _ isPayload _
    exact isPayload.symm
  rintro (⟨host, -, same⟩ | ⟨set, index, node, -, -, rfl, ⟨host, -, same⟩ | ⟨_, _, _, _, -, same⟩⟩)
  · have asLookup := payloads host _ _ same
    simp only [Controller.lookupPayload, Controller.exchangePayload, Json.Value.object.injEq,
      List.cons.injEq, Prod.mk.injEq, String.reduceEq, false_and] at asLookup
  · have asExchange := payloads host _ _ same
    simp only [Controller.exchangePayload, Json.Value.object.injEq, List.cons.injEq, Prod.mk.injEq,
      Json.Value.string.injEq, true_and, and_true] at asExchange
    exact different asExchange.symm
  · injection same with _ _ sameAuth
    cases sameAuth

end Relisted

open Relisted in
set_option maxRecDepth 4000 in
/-- With the list replaced in between, an exchange and a call for one node go to the other. -/
theorem misses_relisted :
    (operations 1).node? = some "b" ∧ (operations 2).node? = some "b" ∧
      ((sample.atWork operations).run (before ++ after)).Asks 1 (exchange "a") ∧
      ((sample.atWork operations).run (before ++ after)).Asks 2
        (.post "https://a/echo" .null (.basic "me" "x")) ∧
      ∀ past, ¬sample.Reaches past "b" (exchange "a") := by
  have exchanges : ((sample.atWork operations).run (before ++ after)).Asks 1 (exchange "a") :=
    ⟨_, by with_unfolding_all rfl⟩
  have calls : ((sample.atWork operations).run (before ++ after)).Asks 2
      (.post "https://a/echo" .null (.basic "me" "x")) := ⟨_, by with_unfolding_all rfl⟩
  refine ⟨rfl, rfl, exchanges, calls, ?_⟩
  intro past
  exact not_reaches past (by decide)

open Relisted in
set_option maxRecDepth 4000 in
/-- Without a lookup in between, the exchange is for the node of the name. -/
theorem reaches_undisturbed :
    (operations 1).node? = some "b" ∧
      ((sample.atWork operations).run (before ++ [.told 1 ""])).Asks 1 (exchange "b") ∧
      (sample.Reaches (((sample.atWork operations).run (before ++ [.told 1 ""])).past 1) "b"
          (exchange "b") ∨
        sample.Misses ((sample.atWork operations).run (before ++ [.told 1 ""])).log 1 "b"
          (exchange "b")) := by
  have asks : ((sample.atWork operations).run (before ++ [.told 1 ""])).Asks 1 (exchange "b") :=
    ⟨_, rfl⟩
  exact ⟨rfl, asks, reaches_or_misses sample operations _ rfl asks⟩

end Dispatcher
end ExchangeGrid
