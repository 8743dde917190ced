import ExchangeGrid.Proofs.Dispatch.StaleWrites

namespace ExchangeGrid
namespace Dispatcher

/-!
# Secrets in use

A secret is shown to a node in a request or a dial.  It comes from the list that was read, where it
is kept with the node, or from an exchange of one's own; either way it was exchanged for the name of
that node.  Lists of any age are in use at the same time, but what is kept in each of them is traced.
-/

variable {ι : Type} [DecidableEq ι]

/-- A member has a node from a list it has read, and the secret was exchanged for the name of this
node, by whomever. -/
structure Entitled (service : Dispatcher) {Result : ι → Type} (crew : Crew Result) (who : ι)
    (node : ServiceNode) (secret : String) : Prop where
  read : ∃ (set : NodeSet) (index : Nat), ⟨.readNodes service.id, set⟩ ∈ crew.past who ∧
    set.nodes[index]? = some node
  exchanged : ∃ other, service.Shared node.name secret (crew.past other)

/-- What is posted goes to the control plane with the credentials of the client, or to a node with the
name of the client and a secret of this node; and so does every dial. -/
structure SecretsStay (service : Dispatcher) {Result : ι → Type} (crew : Crew Result) : Prop where
  post : ∀ who url payload auth, crew.Asks who (.post url payload auth) →
    (∃ operation body, service.control.Posts operation body .configured
      (.post url payload auth)) ∨
    ∃ node base name secret, service.Entitled crew who node secret ∧
      node.propertyText? restBaseUrlKey = some base ∧ url = callUrl base name ∧
      auth = .basic service.control.nodeName secret
  dial : ∀ who url user secret, crew.Asks who (.dial url user secret) →
    user = service.control.nodeName ∧ ∃ node, service.Entitled crew who node secret ∧
      PubSub.Carrier.urlOf node = .ok url

section
variable {service : Dispatcher} {aims : ι → List Answered → Nat → Prop}
  {log : List (ι × Answered)} {who : ι}

/-- A secret that is kept with a node was exchanged for its name. -/
theorem Traced.shared {set : NodeSet} (traced : service.Traced log set) {index : Nat}
    {node : ServiceNode} (there : set.nodes[index]? = some node) (has : node.hasSecret) :
    ∃ other, service.Shared node.name node.secret (pastOf other log) := by
  have nonempty : node.secret ≠ "" := by
    intro empty
    rw [ServiceNode.hasSecret, empty] at has
    cases has
  rcases traced with ⟨unknown, -⟩ | ⟨writer, listing, front, back, since⟩
  · rw [unknown, List.getElem?_nil] at there
    cases there
  · rcases since.kept index node there nonempty with
      ⟨before, other, read, between, after, isBack, shared⟩
    refine ⟨other, shared.mono ?_⟩
    apply pastOf_subset
    have inBack : between.Sublist back := by
      rw [isBack, List.append_assoc]
      apply List.Sublist.trans _ (List.sublist_append_right _ _)
      apply List.Sublist.cons
      exact List.sublist_append_left _ _
    rw [since.split]
    exact (inBack.cons _).trans (List.sublist_append_right _ _)

theorem Lawful.exchanged (lawful : service.Lawful aims log) {later : List Answered}
    {set : NodeSet} {index : Nat} {node : ServiceNode} {secret : String}
    (chose : service.Chose (aims who) (pastOf who log) later set index node)
    (credential : service.Credential node secret later) :
    ∃ other, service.Shared node.name secret (pastOf other log) := by
  rcases chose.seen with ⟨earlier, past, -⟩
  rcases credential with ⟨has, rfl⟩ | shared
  -- The secret was kept in the list when that was read: what was written before tells whence.
  · rcases pastOf_eq_append_cons past with ⟨before, between, rfl, -, -⟩
    have traced := traced_of_lawful lawful.front
    rw [← lawful.told before who set between rfl] at traced
    rcases traced.shared chose.there has with ⟨other, shared⟩
    exact ⟨other, shared.mono (pastOf_subset other (List.sublist_append_left _ _))⟩
  · exact ⟨who, shared.mono chose.mem_past.2⟩

end

theorem secrets_stay (service : Dispatcher) (operations : ι → Operation) (moves : List (Move ι)) :
    SecretsStay service ((service.atWork operations).run moves) := by
  have follows := service.follows_atWork operations moves
  have lawful := service.lawful_atWork operations moves
  constructor
  · intro who url payload auth asks
    rcases (follows.may_of_asks asks).posted with
      lookUp | ⟨later, set, index, node, chose, exchange | request⟩
    · exact Or.inl ⟨_, _, lookUp⟩
    · exact Or.inl ⟨_, _, exchange⟩
    · rcases request with ⟨base, name, secret, credential, based, isUrl, isAuth⟩
      refine Or.inr ⟨node, base, name, secret, ?_, based, isUrl, isAuth⟩
      exact ⟨⟨set, index, chose.mem_past.1, chose.there⟩, lawful.exchanged chose credential⟩
  · intro who url user secret asks
    rcases (follows.may_of_asks asks).dialled with
      ⟨isUser, later, set, index, node, chose, credential, located⟩
    refine ⟨isUser, node, ?_, located⟩
    exact ⟨⟨set, index, chose.mem_past.1, chose.there⟩, lawful.exchanged chose credential⟩

end Dispatcher
end ExchangeGrid
