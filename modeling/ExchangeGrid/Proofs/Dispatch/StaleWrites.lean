import ExchangeGrid.Proofs.Dispatch.Operations
import ExchangeGrid.Proofs.Dispatch.Replay

namespace ExchangeGrid
namespace Dispatcher

/-!
# Stale secrets

An exchange of a secret may end under any later list of nodes.  The generation tells whether the
list is still the one that was read before the exchange; so a secret that is kept was exchanged since
the last lookup, for the node it is kept with.
-/

variable {ι : Type} [DecidableEq ι]

/-- A log in which all members keep to their rules and are told what the nodes are. -/
structure Lawful (service : Dispatcher) (aims : ι → List Answered → Nat → Prop)
    (log : List (ι × Answered)) : Prop where
  proper : ∀ front who said back, log = front ++ (who, said) :: back →
    service.Proper (aims who) (pastOf who front) said.question
  told : ∀ front who set back, log = front ++ (who, ⟨.readNodes service.id, set⟩) :: back →
    set = setAfter service.id {} front

/-- The secret of a node was exchanged for it, and kept with it, by one who had read the nodes
before, all of this within the log. -/
def KeptIn (service : Dispatcher) (log : List (ι × Answered)) (index : Nat)
    (node : ServiceNode) : Prop :=
  ∃ before who set between after, log =
      before ++ (who, ⟨.readNodes service.id, set⟩) :: between ++
        (who, ⟨.storeSecret service.id set.generation index node.name node.secret, ()⟩) :: after ∧
    service.Shared node.name node.secret (pastOf who between)

/-- The nodes are those that the last lookup has listed, but for secrets that were kept since. -/
structure Since (service : Dispatcher) (log : List (ι × Answered)) (set : NodeSet)
    (writer : ι) (listing : List ServiceNode) (front back : List (ι × Answered)) : Prop where
  split : log = front ++ (writer, ⟨.replaceNodes service.id listing, ()⟩) :: back
  last : ∀ entry ∈ back, ¬entry.2.Replaces service.id
  listed : ∃ reply, service.control.Posted "ServiceLookup"
    (Controller.lookupPayload service.name) .configured (.ok reply) (pastOf writer front) ∧
      reply.listing = .ok listing
  blank : set.nodes.map ServiceNode.blank = listing
  kept : ∀ index node, set.nodes[index]? = some node → node.secret ≠ "" →
    service.KeptIn back index node

/-- What is known of the nodes after a log: none, as long as no lookup has written, and after that
what the last lookup and later exchanges have made of them. -/
def Traced (service : Dispatcher) (log : List (ι × Answered)) (set : NodeSet) : Prop :=
  (set.nodes = [] ∧ ∀ entry ∈ log, ¬entry.2.Replaces service.id) ∨
    ∃ writer listing front back, service.Since log set writer listing front back

section
variable {service : Dispatcher} {aims : ι → List Answered → Nat → Prop}
  {log : List (ι × Answered)}

theorem Lawful.front {front back : List (ι × Answered)}
    (lawful : service.Lawful aims (front ++ back)) : service.Lawful aims front := by
  constructor
  · intro before who said after split
    apply lawful.proper before who said (after ++ back)
    rw [split, List.append_assoc, List.cons_append]
  · intro before who set after split
    apply lawful.told before who set (after ++ back)
    rw [split, List.append_assoc, List.cons_append]

theorem KeptIn.append {index : Nat} {node : ServiceNode} (kept : service.KeptIn log index node)
    (more : List (ι × Answered)) : service.KeptIn (log ++ more) index node := by
  rcases kept with ⟨before, who, set, between, after, rfl, shared⟩
  refine ⟨before, who, set, between, after ++ more, ?_, shared⟩
  simp only [List.append_assoc, List.cons_append]

theorem Since.concat {set : NodeSet} {writer : ι} {listing : List ServiceNode}
    {front back : List (ι × Answered)} (since : service.Since log set writer listing front back)
    (entry : ι × Answered) (keeps : ¬entry.2.Replaces service.id) :
    service.Since (log ++ [entry]) set writer listing front (back ++ [entry]) := by
  refine ⟨?_, ?_, since.listed, since.blank, ?_⟩
  · rw [since.split, List.append_assoc, List.cons_append]
  · rw [List.forall_mem_append, List.forall_mem_singleton]
    exact ⟨since.last, keeps⟩
  · intro index node there has
    exact (since.kept index node there has).append [entry]

/-- Nothing new is known of the nodes after an answer that leaves them as they are. -/
theorem Traced.concat {set : NodeSet} (traced : service.Traced log set) (entry : ι × Answered)
    (keeps : ¬entry.2.Replaces service.id) : service.Traced (log ++ [entry]) set := by
  rcases traced with ⟨unknown, keep⟩ | ⟨writer, listing, front, back, since⟩
  · refine Or.inl ⟨unknown, ?_⟩
    rw [List.forall_mem_append, List.forall_mem_singleton]
    exact ⟨keep, keeps⟩
  · exact Or.inr ⟨writer, listing, front, back ++ [entry], since.concat entry keeps⟩

/-- What stands after the last lookup stands in what was answered since. -/
theorem Since.split_back {set : NodeSet} {writer : ι} {listing : List ServiceNode}
    {front back before after : List (ι × Answered)}
    (since : service.Since log set writer listing front back) (split : log = before ++ after)
    (keep : ∀ entry ∈ after, ¬entry.2.Replaces service.id) :
    ∃ between, back = between ++ after := by
  rw [since.split] at split
  rcases List.append_eq_append_iff.mp split with ⟨more, -, rest⟩ | ⟨more, -, rest⟩
  · cases more with
    | nil =>
        have lookup := keep (writer, ⟨.replaceNodes service.id listing, ()⟩)
        rw [List.nil_append] at rest
        rw [← rest] at lookup
        exact (lookup List.mem_cons_self ⟨listing, rfl⟩).elim
    | cons entry between =>
        cases rest
        exact ⟨between, rfl⟩
  · have lookup := keep (writer, ⟨.replaceNodes service.id listing, ()⟩)
    rw [rest] at lookup
    exact (lookup (List.mem_append_right _ List.mem_cons_self) ⟨listing, rfl⟩).elim

/-- Where an operation that keeps a secret has read the nodes. -/
theorem Lawful.read_of_stored (lawful : service.Lawful aims log) {who : ι}
    {id generation index : Nat} {name secret : String}
    (proper : service.Proper (aims who) (pastOf who log)
      (.storeSecret id generation index name secret)) :
    ∃ before set between, log = before ++ (who, ⟨.readNodes service.id, set⟩) :: between ∧
      set = setAfter service.id {} before ∧ set.generation = generation ∧
        service.Shared name secret (pastOf who between) := by
  rcases proper.stored with ⟨later, set, node, chose, isGeneration, -, shared⟩
  rcases chose.seen with ⟨earlier, past, -⟩
  rcases pastOf_eq_append_cons past with ⟨before, between, split, -, isLater⟩
  refine ⟨before, set, between, split, lawful.told before who set between split, isGeneration, ?_⟩
  rw [isLater]
  exact shared

/-- A secret that lands was exchanged since the last lookup. -/
theorem Traced.store (traced : service.Traced log (setAfter service.id {} log))
    (lawful : service.Lawful aims log) {who : ι} {generation index : Nat} {name secret : String}
    {node : ServiceNode} (answer : Unit)
    (proper : service.Proper (aims who) (pastOf who log)
      (.storeSecret service.id generation index name secret))
    (current : (setAfter service.id {} log).IsCurrent generation index name node) :
    service.Traced (log ++ [(who, ⟨.storeSecret service.id generation index name secret, answer⟩)])
      { setAfter service.id {} log with
        nodes := (setAfter service.id {} log).nodes.set index { node with secret } } := by
  rcases lawful.read_of_stored proper with
    ⟨before, set, between, split, isRead, isGeneration, shared⟩
  -- The secret lands only under the generation that was read, so nothing was looked up since.
  have sameGeneration : (setAfter service.id set between).generation = set.generation := by
    rw [isGeneration, ← current.sameList, split, setAfter_append, ← isRead]
    rfl
  have keep := not_replaces_of_generation_eq sameGeneration
  rcases traced with ⟨unknown, -⟩ | ⟨writer, listing, front, back, since⟩
  · have there := current.there
    rw [unknown, List.getElem?_nil] at there
    cases there
  · have within : ∀ entry ∈ (who, ⟨.readNodes service.id, set⟩) :: between,
        ¬entry.2.Replaces service.id := by
      rw [List.forall_mem_cons]
      exact ⟨nofun, keep⟩
    rcases since.split_back split within with ⟨earlier, rfl⟩
    have grown := since.concat
      (who, ⟨.storeSecret service.id generation index name secret, answer⟩) nofun
    refine Or.inr ⟨writer, listing, front, _, grown.split, grown.last, grown.listed, ?_, ?_⟩
    · rw [← since.blank]
      exact ServiceNode.map_blank_set current.there secret
    · intro position other there has
      by_cases same : position = index
      · subst same
        have bound := (List.getElem?_eq_some_iff.mp current.there).1
        rw [List.getElem?_set_self bound] at there
        cases there
        refine ⟨earlier, who, set, between, [], ?_, ?_⟩
        · rw [isGeneration, current.sameName]
        · rw [current.sameName]
          exact shared
      · apply grown.kept position other _ has
        rw [List.getElem?_set_ne (Ne.symm same)] at there
        exact there

theorem traced_of_lawful (lawful : service.Lawful aims log) :
    service.Traced log (setAfter service.id {} log) := by
  induction log using List.reverseRecOn with
  | nil => exact Or.inl ⟨rfl, List.forall_mem_nil _⟩
  | append_singleton log entry inductionHypothesis =>
      have traced := inductionHypothesis lawful.front
      have proper := lawful.proper log entry.1 entry.2 [] rfl
      rw [setAfter_append]
      change service.Traced (log ++ [entry]) (entry.2.alter service.id (setAfter service.id {} log))
      by_cases replaces : entry.2.Replaces service.id
      -- A lookup starts anew: its listing has no secrets.
      · rcases entry with ⟨writer, question, answer⟩
        rcases replaces with ⟨listing, rfl⟩
        rcases proper.replaced with ⟨reply, posted, listed⟩
        have wrote : Answered.alter service.id (setAfter service.id {} log)
            ⟨.replaceNodes service.id listing, answer⟩ =
              (setAfter service.id {} log).replace listing := if_pos rfl
        rw [wrote]
        refine Or.inr ⟨writer, listing, log, [], rfl, List.forall_mem_nil _, ⟨reply, posted, listed⟩,
          ?_, ?_⟩
        · apply ServiceNode.map_blank_eq_self
          intro node member
          exact Reply.secret_of_mem_listing listed member
        · intro index node there has
          exact (has (Reply.secret_of_mem_listing listed (List.mem_of_getElem? there))).elim
      · rcases alter_of_not_replaces replaces with
          same | ⟨generation, index, name, secret, asked, stored⟩
        · rw [same]
          exact traced.concat entry replaces
        · rcases NodeSet.store_cases (setAfter service.id {} log) generation index name secret with
            ⟨node, current, landed⟩ | ⟨-, same⟩
          · rcases entry with ⟨who, question, answer⟩
            cases asked
            rw [stored, landed]
            exact traced.store lawful.front answer proper current
          · rw [stored, same]
            exact traced.concat entry replaces

end

theorem lawful_atWork (service : Dispatcher) (operations : ι → Operation) (moves : List (Move ι)) :
    service.Lawful (fun who => (operations who).Aims service)
      ((service.atWork operations).run moves).log :=
  ⟨(service.follows_atWork operations moves).noted,
    fun front who set back => (service.truthful_atWork operations moves).told front who service.id
      set back⟩

/-! ## No stale secret is kept -/

/-- What operations can rely on that are at work on one dispatcher. -/
structure NothingStale (service : Dispatcher) (operations : ι → Operation)
    (crew : Crew fun who => Except Error (operations who).Result) : Prop where
  traced : service.Traced crew.log (crew.sets service.id)
  /-- To keep a secret changes the one secret that it is for.  If the list was replaced, or the node
  there has another name, it changes nothing. -/
  stored : ∀ who generation index name secret,
    crew.Asks who (.storeSecret service.id generation index name secret) → ∀ wish,
      (∃ node, (crew.sets service.id).IsCurrent generation index name node ∧
        (crew.after (.answer who wish)).sets service.id =
          { crew.sets service.id with
            nodes := (crew.sets service.id).nodes.set index { node with secret } }) ∨
      (¬∃ node, (crew.sets service.id).IsCurrent generation index name node) ∧
        (crew.after (.answer who wish)).sets service.id = crew.sets service.id
  /-- Whoever exchanges a secret is given it, whether it was kept or not. -/
  given : ∀ past generation index name, Action.Complies (fun _ _ => True) past
    (service.provision generation index name) ReturnsStored
  returned : ∀ who result, crew.Returned who result →
    (operations who).Returns service (crew.past who) result

theorem sets_after_store {Result : ι → Type} {crew : Crew Result} {who : ι}
    {id generation index : Nat} {name secret : String}
    (asks : crew.Asks who (.storeSecret id generation index name secret))
    (wish : (question : Question) → question.Answer) :
    (crew.after (.answer who wish)).sets id =
      (crew.sets id).store generation index name secret := by
  rcases asks with ⟨next, running⟩
  simp only [Crew.after, running]
  exact if_pos rfl

theorem no_stale_secret (service : Dispatcher) (operations : ι → Operation)
    (moves : List (Move ι)) :
    NothingStale service operations ((service.atWork operations).run moves) := by
  have truthful := service.truthful_atWork operations moves
  refine ⟨?_, ?_, ?_, ?_⟩
  · rw [truthful.sets_eq]
    exact traced_of_lawful (service.lawful_atWork operations moves)
  · intro who generation index name secret asks wish
    rw [sets_after_store asks wish]
    exact NodeSet.store_cases _ generation index name secret
  · intro past generation index name
    have provisions : Action.Complies (fun _ _ => True) past
        (service.provision generation index name) (service.Provisioned name) :=
      complies_provision (fun _ _ _ => trivial) (fun _ _ _ => trivial) fun _ _ => trivial
    apply provisions.imp
    intro later result provisioned
    exact provisioned.returned
  · intro who result returned
    exact (service.follows_atWork operations moves).ends_of_returned returned

/-- A secret that was exchanged across a lookup is returned and not kept. -/
example :
    let service : Dispatcher := ⟨⟨[⟨"ctl", 8910⟩], "me", none⟩, 0, "s"⟩
    let operations : Nat → Operation := fun who => if who = 1 then .updateSecret 0 else .lookUp
    let listing := "\x7b\"services\":[\x7b\"nodeName\":\"a\"\x7d]\x7d"
    let crew := (service.atWork operations).run
      [.told 0 listing, .told 0 "", .told 1 "", .told 2 listing, .told 2 "",
        .told 1 "\x7b\"secret\":\"x\"\x7d", .told 1 "", .told 1 ""]
    crew.Returned 1 (.ok "x") ∧ crew.sets 0 = ⟨2, [{ name := "a" }]⟩ := by
  refine ⟨rfl, rfl⟩

end Dispatcher
end ExchangeGrid
