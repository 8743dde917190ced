import ExchangeGrid.Proofs.Dispatch.Control
import ExchangeGrid.Proofs.Dispatch.Picking
import ExchangeGrid.PubSub.Subscribe
import ExchangeGrid.Service.Call

namespace ExchangeGrid

/-!
# What operations ask

Every operation of a dispatcher first reads the nodes and then deals with nodes of the list it has
read: it exchanges secrets for them, keeps these under the generation of that list, and sends them to
these nodes.  The rule of conduct below says so; it is the same for all operations, but for the
positions an operation may choose.
-/

/-- To do nothing that a rule for nodes and their secrets has to speak of. -/
def Question.IsNeutral : Question → Prop
  | .post _ _ _ | .dial _ _ _ | .readNodes _ | .replaceNodes _ _ | .storeSecret _ _ _ _ _ => False
  | _ => True

namespace Dispatcher

open ExchangeGrid.Action

/-- The control plane has told a secret for a node. -/
def Shared (service : Dispatcher) (name secret : String) (past : List Answered) : Prop :=
  ∃ reply, service.control.Posted "AccessSecret" (Controller.exchangePayload name) .configured
    (.ok reply) past ∧ reply.sharedSecret = .ok secret

/-- The secret to show to a node: the one that is kept with it, or one told for it. -/
def Credential (service : Dispatcher) (node : ServiceNode) (secret : String)
    (past : List Answered) : Prop :=
  (node.hasSecret ∧ secret = node.secret) ∨ service.Shared node.name secret past

/-- A node was chosen from a list that was read, at a position that there were reasons for before;
`later` is what was answered since the list was read. -/
structure Chose (service : Dispatcher) (aims : List Answered → Nat → Prop)
    (past later : List Answered) (set : NodeSet) (index : Nat) (node : ServiceNode) : Prop where
  seen : ∃ before, past = before ++ ⟨.readNodes service.id, set⟩ :: later ∧ aims before index
  there : set.nodes[index]? = some node

/-- What an operation may ask of which positions are chosen for good reasons. -/
inductive Proper (service : Dispatcher) (aims : List Answered → Nat → Prop)
    (past : List Answered) : Question → Prop
  | read : Proper service aims past (.readNodes service.id)
  | lookUp {question : Question} (posts : service.control.Posts "ServiceLookup"
      (Controller.lookupPayload service.name) .configured question) :
      Proper service aims past question
  | replace {reply : Reply} {nodes : List ServiceNode}
      (posted : service.control.Posted "ServiceLookup" (Controller.lookupPayload service.name)
        .configured (.ok reply) past) (listed : reply.listing = .ok nodes) :
      Proper service aims past (.replaceNodes service.id nodes)
  | exchange {later : List Answered} {set : NodeSet} {index : Nat} {node : ServiceNode}
      {question : Question} (chose : service.Chose aims past later set index node)
      (posts : service.control.Posts "AccessSecret" (Controller.exchangePayload node.name)
        .configured question) : Proper service aims past question
  | store {later : List Answered} {set : NodeSet} {index : Nat} {node : ServiceNode}
      {secret : String} (chose : service.Chose aims past later set index node)
      (shared : service.Shared node.name secret later) :
      Proper service aims past (.storeSecret service.id set.generation index node.name secret)
  | call {later : List Answered} {set : NodeSet} {index : Nat} {node : ServiceNode}
      {secret base : String} (chose : service.Chose aims past later set index node)
      (credential : service.Credential node secret later)
      (based : node.propertyText? restBaseUrlKey = some base) (name : String)
      (payload : Json.Value) : Proper service aims past
        (.post (callUrl base name) payload (.basic service.control.nodeName secret))
  | dial {later : List Answered} {set : NodeSet} {index : Nat} {node : ServiceNode}
      {secret url : String} (chose : service.Chose aims past later set index node)
      (credential : service.Credential node secret later)
      (located : PubSub.Carrier.urlOf node = .ok url) :
      Proper service aims past (.dial url service.control.nodeName secret)
  | neutral {question : Question} (isNeutral : question.IsNeutral) : Proper service aims past question

section
variable {service : Dispatcher} {aims : List Answered → Nat → Prop} {past later : List Answered}
  {set : NodeSet} {index : Nat} {node : ServiceNode} {secret : String}

theorem Shared.mono {name : String} (shared : service.Shared name secret past)
    (within : past ⊆ later) : service.Shared name secret later := by
  rcases shared with ⟨reply, posted, tells⟩
  exact ⟨reply, posted.mono within, tells⟩

theorem Credential.mono (credential : service.Credential node secret past) (within : past ⊆ later) :
    service.Credential node secret later :=
  credential.imp_right fun shared => shared.mono within

theorem Chose.append (chose : service.Chose aims past later set index node)
    (more : List Answered) :
    service.Chose aims (past ++ more) (later ++ more) set index node := by
  rcases chose with ⟨⟨before, split, aim⟩, there⟩
  refine ⟨⟨before, ?_, aim⟩, there⟩
  rw [split, List.append_assoc, List.cons_append]

theorem Chose.mem_past (chose : service.Chose aims past later set index node) :
    ⟨.readNodes service.id, set⟩ ∈ past ∧ later ⊆ past := by
  rcases chose.seen with ⟨before, rfl, -⟩
  refine ⟨List.mem_append_right _ List.mem_cons_self, ?_⟩
  intro said member
  exact List.mem_append_right _ (List.mem_cons_of_mem _ member)

/-! ## What a question tells -/

theorem Proper.replaced {id : Nat} {nodes : List ServiceNode}
    (proper : service.Proper aims past (.replaceNodes id nodes)) : ∃ reply,
      service.control.Posted "ServiceLookup" (Controller.lookupPayload service.name) .configured
        (.ok reply) past ∧ reply.listing = .ok nodes := by
  cases proper with
  | replace posted listed => exact ⟨_, posted, listed⟩
  | lookUp posts => exact posts.isPost.elim
  | exchange chose posts => exact posts.isPost.elim
  | neutral isNeutral => exact isNeutral.elim

theorem Proper.stored {id generation index : Nat} {name secret : String}
    (proper : service.Proper aims past (.storeSecret id generation index name secret)) :
    ∃ later set node, service.Chose aims past later set index node ∧
      set.generation = generation ∧ node.name = name ∧ service.Shared name secret later := by
  cases proper with
  | store chose shared => exact ⟨_, _, _, chose, rfl, rfl, shared⟩
  | lookUp posts => exact posts.isPost.elim
  | exchange chose posts => exact posts.isPost.elim
  | neutral isNeutral => exact isNeutral.elim

theorem Proper.dialled {url user secret : String}
    (proper : service.Proper aims past (.dial url user secret)) :
    user = service.control.nodeName ∧ ∃ later set index node,
      service.Chose aims past later set index node ∧ service.Credential node secret later ∧
        PubSub.Carrier.urlOf node = .ok url := by
  cases proper with
  | dial chose credential located => exact ⟨rfl, _, _, _, _, chose, credential, located⟩
  | lookUp posts => exact posts.isPost.elim
  | exchange chose posts => exact posts.isPost.elim
  | neutral isNeutral => exact isNeutral.elim

theorem Proper.posted {url : String} {payload : Json.Value} {auth : Auth}
    (proper : service.Proper aims past (.post url payload auth)) :
    service.control.Posts "ServiceLookup" (Controller.lookupPayload service.name) .configured
      (.post url payload auth) ∨
    ∃ later set index node, service.Chose aims past later set index node ∧
      (service.control.Posts "AccessSecret" (Controller.exchangePayload node.name) .configured
        (.post url payload auth) ∨
      ∃ base name secret, service.Credential node secret later ∧
        node.propertyText? restBaseUrlKey = some base ∧ url = callUrl base name ∧
        auth = .basic service.control.nodeName secret) := by
  cases proper with
  | lookUp posts => exact Or.inl posts
  | exchange chose posts => exact Or.inr ⟨_, _, _, _, chose, Or.inl posts⟩
  | call chose credential based =>
      exact Or.inr ⟨_, _, _, _, chose, Or.inr ⟨_, _, _, credential, based, rfl, rfl⟩⟩
  | neutral isNeutral => exact isNeutral.elim

/-! ## Discovery -/

/-- A lookup returns what it has written. -/
theorem proper_lookUp : Complies (service.Proper aims) past service.lookUp fun more result =>
    ∀ nodes, ⟨.replaceNodes service.id nodes, ()⟩ ∈ more ↔ result = .ok nodes := by
  unfold lookUp
  have asked : Complies (service.Proper aims) past (service.control.lookUp service.name)
      (service.control.LookedUp service.name) :=
    Controller.complies_lookUp fun _ _ _ posts => .lookUp posts
  have unwritten : ∀ later result, service.control.LookedUp service.name later result →
      ∀ nodes, ⟨.replaceNodes service.id nodes, ()⟩ ∉ later := by
    intro later result lookedUp nodes member
    exact (lookedUp.posts _ member).isPost
  apply asked.bind
  · intro posts found lookedUp
    rcases lookedUp.listed found rfl with ⟨reply, posted, listed⟩
    rw [complies_bind, complies_ask]
    refine ⟨.replace (posted.mono (List.subset_append_right _ _)) listed, ?_⟩
    intro replaced
    dsimp only
    rw [complies_bind, complies_emit]
    refine ⟨.neutral trivial, ?_⟩
    intro told
    dsimp only
    rw [complies_pure]
    intro nodes
    simp only [List.mem_append, unwritten posts _ lookedUp nodes, false_or, List.mem_cons,
      Answered.mk.injEq, Question.replaceNodes.injEq, true_and, reduceCtorEq, false_and,
      List.not_mem_nil, or_false, Except.ok.injEq]
    constructor
    · rintro ⟨rfl, -⟩
      rfl
    · rintro rfl
      exact ⟨rfl, HEq.rfl⟩
  · intro later error lookedUp nodes
    simp only [unwritten later _ lookedUp nodes, reduceCtorEq]

theorem proper_lookUpOnce :
    Complies (service.Proper aims) past service.lookUpOnce fun _ _ => True := by
  unfold lookUpOnce
  rw [complies_bind, complies_nodes]
  refine ⟨.read, ?_⟩
  intro set
  dsimp only
  split
  · trivial
  · apply proper_lookUp.bind
    · intro more found listed
      split <;> trivial
    · intros
      trivial

theorem proper_checkNodes :
    Complies (service.Proper aims) past service.checkNodes fun _ _ => True := by
  unfold checkNodes
  rw [complies_bind, complies_nodes]
  refine ⟨.read, ?_⟩
  intro set
  dsimp only
  split
  · trivial
  · rw [complies_bind, complies_enterLookup]
    refine ⟨.neutral trivial, ?_⟩
    intro answer
    cases answer with
    | error error => trivial
    | ok entered =>
        dsimp only
        rw [complies_bind, complies_outcome]
        apply proper_lookUpOnce.imp
        intro more result _
        dsimp only
        rw [complies_bind, complies_ask]
        exact ⟨.neutral trivial, fun _ => trivial⟩

/-- The list that an operation goes on with is the one it read last. -/
theorem proper_checkedSet : Complies (service.Proper aims) past service.checkedSet fun more result =>
    ∀ set, result = .ok set → ∃ before, more = before ++ [⟨.readNodes service.id, set⟩] := by
  unfold checkedSet
  apply proper_checkNodes.bind
  · intro more known _
    rw [complies_ask]
    refine ⟨.read, ?_⟩
    intro set other same
    cases same
    exact ⟨more, rfl⟩
  · exact nofun

theorem proper_indexOf {name : String} :
    Complies (service.Proper aims) past (service.indexOf name) fun more result =>
      ∃ set : NodeSet, more = [⟨.readNodes service.id, set⟩] ∧ ∀ index, result = .ok index →
        set.nodes.findIdx? (·.name == name) = some index := by
  unfold indexOf
  rw [complies_bind, complies_nodes]
  refine ⟨.read, ?_⟩
  intro set
  dsimp only
  cases found : set.nodes.findIdx? (·.name == name) with
  | none =>
      rw [complies_throw]
      exact ⟨set, rfl, nofun⟩
  | some position =>
      rw [complies_pure]
      refine ⟨set, rfl, ?_⟩
      intro index same
      cases same
      exact found

/-! ## Secrets -/

/-- A secret that was to be kept, whether it was or not, is returned. -/
def ReturnsStored (past : List Answered) (result : Except Error String) : Prop :=
  ∀ id generation index name secret,
    ⟨.storeSecret id generation index name secret, ()⟩ ∈ past → result = .ok secret

theorem returnsStored_cons_read {id : Nat} {more : List Answered} {result : Except Error String} :
    ReturnsStored (⟨.readNodes id, set⟩ :: more) result ↔ ReturnsStored more result := by
  simp only [ReturnsStored, List.mem_cons, Answered.mk.injEq, reduceCtorEq, false_and, false_or]

theorem returnsStored_nil (result : Except Error String) : ReturnsStored [] result :=
  nofun

/-- What an exchange of a secret comes to. -/
structure Provisioned (service : Dispatcher) (name : String) (more : List Answered)
    (result : Except Error String) : Prop where
  shared : ∀ secret, result = .ok secret → service.Shared name secret more
  returned : ReturnsStored more result

theorem complies_provision {may : List Answered → Question → Prop} {generation : Nat} {name : String}
    (mayPost : ∀ more question, service.control.Posts "AccessSecret"
      (Controller.exchangePayload name) .configured question → may (past ++ more) question)
    (mayStore : ∀ more secret, service.Shared name secret more →
      may (past ++ more) (.storeSecret service.id generation index name secret))
    (mayTell : ∀ more event, may (past ++ more) (.emit event)) :
    Complies may past (service.provision generation index name) (service.Provisioned name) := by
  unfold provision
  rw [complies_bind, complies_outcome]
  have asked : Complies may past (service.control.exchangeSecret name)
      (service.control.Exchanged name) :=
    Controller.complies_exchangeSecret fun more question _ => mayPost more question
  apply asked.imp
  intro posts result exchanged
  have unstored : ∀ id generation index name secret,
      ⟨.storeSecret id generation index name secret, ()⟩ ∉ posts := by
    intro id generation index name secret member
    exact (exchanged.posts _ member).isPost
  have failed : ∀ error, service.Provisioned name posts (.error error) := by
    intro error
    refine ⟨nofun, ?_⟩
    intro id generation index name secret member
    exact (unstored id generation index name secret member).elim
  dsimp only
  split
  · rw [complies_throw, List.append_nil]
    exact failed _
  · rw [complies_throw, List.append_nil]
    exact failed _
  · rename_i secret
    rcases exchanged.shared secret rfl with ⟨reply, posted, tells⟩
    have shared : service.Shared name secret posts := ⟨reply, posted, tells⟩
    rw [complies_bind, complies_ask]
    refine ⟨mayStore posts secret shared, ?_⟩
    intro stored
    dsimp only
    rw [complies_bind, complies_emit, List.append_assoc]
    refine ⟨mayTell _ _, ?_⟩
    intro told
    dsimp only
    rw [complies_pure, List.append_nil]
    refine ⟨?_, ?_⟩
    · intro other same
      cases same
      exact shared.mono (List.subset_append_left _ _)
    · intro id generation index name other member
      rcases List.mem_append.mp member with posted | written
      · exact (unstored id generation index name other posted).elim
      · simp only [List.mem_append, List.mem_singleton, Answered.mk.injEq, reduceCtorEq, false_and,
          or_false] at written
        cases written.1
        rfl

theorem proper_provision (chose : service.Chose aims past later set index node) :
    Complies (service.Proper aims) past (service.provision set.generation index node.name)
      (service.Provisioned node.name) := by
  apply complies_provision
  · intro more question posts
    exact .exchange (chose.append more) posts
  · intro more secret shared
    exact .store (chose.append more) (shared.mono (List.subset_append_right _ _))
  · intro more event
    exact .neutral trivial

theorem proper_updateSecret (aim : aims past index) :
    Complies (service.Proper aims) past (service.updateSecret index) ReturnsStored := by
  unfold updateSecret
  rw [complies_bind, complies_ask]
  refine ⟨.read, ?_⟩
  intro set
  dsimp only
  cases there : set.nodes[index]? with
  | none => exact returnsStored_cons_read.mpr (returnsStored_nil _)
  | some node =>
      have chose : service.Chose aims (past ++ [⟨.readNodes service.id, set⟩]) [] set index node :=
        ⟨⟨past, rfl, aim⟩, there⟩
      apply (proper_provision chose).imp
      intro more result provisioned
      exact returnsStored_cons_read.mpr provisioned.returned

/-- A position was found in a list that was read: that of the first node of a name. -/
def Resolved (service : Dispatcher) (name : String) (past : List Answered) (index : Nat) : Prop :=
  ∃ before set later, past = before ++ ⟨.readNodes service.id, set⟩ :: later ∧
    set.nodes.findIdx? (·.name == name) = some index

theorem proper_updateSecretByName {name : String} :
    Complies (service.Proper (service.Resolved name)) past (service.updateSecretByName name)
      ReturnsStored := by
  unfold updateSecretByName
  apply proper_indexOf.bind
  · rintro more index ⟨set, rfl, found⟩
    apply (proper_updateSecret ⟨past, set, [], rfl, found index rfl⟩).imp
    intro later result returned
    exact returnsStored_cons_read.mpr returned
  · rintro more error ⟨set, rfl, -⟩
    exact returnsStored_cons_read.mpr (returnsStored_nil _)

theorem proper_provisionAll {nodes : List (ServiceNode × Nat)}
    (chose : ∀ entry ∈ nodes, service.Chose aims past later set entry.2 entry.1) :
    Complies (service.Proper aims) past (service.provisionAll set.generation nodes)
      fun _ _ => True := by
  induction nodes generalizing past later with
  | nil => trivial
  | cons entry nodes inductionHypothesis =>
      rcases entry with ⟨node, index⟩
      rw [provisionAll]
      apply (proper_provision (chose _ List.mem_cons_self)).bind
      · intro more secret _
        apply inductionHypothesis
        intro other member
        exact (chose other (List.mem_cons_of_mem _ member)).append more
      · intros
        trivial

theorem proper_updateSecrets (aim : ∀ before index, aims before index) :
    Complies (service.Proper aims) past service.updateSecrets fun _ _ => True := by
  unfold updateSecrets
  apply proper_checkedSet.bind
  · intro more set read
    rcases read set rfl with ⟨before, rfl⟩
    have chose : ∀ entry ∈ set.nodes.zipIdx, service.Chose aims
        (past ++ (before ++ [⟨.readNodes service.id, set⟩])) [] set entry.2 entry.1 := by
      intro entry member
      refine ⟨⟨past ++ before, ?_, aim _ _⟩, List.mem_zipIdx_iff_getElem?.mp member⟩
      rw [List.append_assoc]
    exact proper_provisionAll chose
  · intros
    trivial

theorem proper_secretOf (chose : service.Chose aims past later set index node) :
    Complies (service.Proper aims) past (service.secretOf set.generation index node)
      fun more result => ∀ secret, result = .ok secret → service.Credential node secret more := by
  unfold secretOf
  by_cases has : node.hasSecret
  · rw [if_pos has, complies_pure]
    intro secret same
    cases same
    exact Or.inl ⟨has, rfl⟩
  · rw [if_neg has]
    apply (proper_provision chose).imp
    intro more result provisioned secret same
    exact Or.inr (provisioned.shared secret same)

/-! ## Calls -/

theorem proper_callNodes {name : String} {payload : Json.Value} {picker : Picker}
    (chose : ∀ entry ∈ picker.left, service.Chose aims past later set entry.1 entry.2) :
    Complies (service.Proper aims) past (service.callNodes set.generation name payload picker)
      fun _ _ => True := by
  -- On the number of candidates left, which every pick makes smaller.
  induction counted : picker.left.length using Nat.strongRecOn generalizing picker past later with
  | ind size inductionHypothesis =>
      rw [callNodes]
      have mayCheck : Complies (service.Proper aims) past checkCancelled fun _ _ => True :=
        complies_checkCancelled.mpr ⟨.neutral trivial, fun _ => trivial⟩
      apply mayCheck.bind
      · intro checked _ _
        split
        · trivial
        · rename_i picked rest found
          have mine := (chose _ (Picker.subset_of_pick found List.mem_cons_self)).append checked
          have left : ∀ entry ∈ rest.left, service.Chose aims (past ++ checked) (later ++ checked)
              set entry.1 entry.2 := by
            intro entry member
            apply Chose.append
            exact chose entry (Picker.subset_of_pick found (List.mem_cons_of_mem _ member))
          have fewer : rest.left.length < size := counted ▸ Picker.length_pick found
          split
          · split
            · exact inductionHypothesis _ fewer left rfl
            · trivial
          · rename_i base based
            apply (proper_secretOf mine).bind
            · intro more secret credential
              rw [complies_bind, complies_outcome, complies_post]
              refine ⟨?_, ?_⟩
              · exact .call (mine.append more)
                  ((credential secret rfl).mono (List.subset_append_right _ _)) based name payload
              · intro answer
                cases answer with
                | ok reply => trivial
                | error error =>
                    dsimp only
                    split
                    · apply inductionHypothesis _ fewer _ rfl
                      · exact later ++ checked ++ more ++ [⟨.post (callUrl base name) payload
                          (.basic service.control.nodeName secret), .error error⟩]
                      · intro entry member
                        exact ((left entry member).append more).append _
                    · trivial
            · intros
              trivial
      · intros
        trivial

theorem proper_call {name : String} {payload : Json.Value} {policy : Policy} {draws : List Nat}
    (aim : ∀ more index node, policy.admits index node → aims (past ++ more) index) :
    Complies (service.Proper aims) past (service.call name payload policy draws)
      fun _ _ => True := by
  unfold call
  apply proper_checkedSet.bind
  · intro more set read
    rcases read set rfl with ⟨before, rfl⟩
    have chose : ∀ entry ∈ (Picker.among policy draws set.nodes).left, service.Chose aims
        (past ++ (before ++ [⟨.readNodes service.id, set⟩])) [] set entry.1 entry.2 := by
      intro entry member
      rcases Picker.mem_among member with ⟨there, admitted⟩
      refine ⟨⟨past ++ before, ?_, aim before entry.1 entry.2 admitted⟩, there⟩
      rw [List.append_assoc]
    exact proper_callNodes chose
  · intros
    trivial

end
end Dispatcher

namespace PendingCall

open ExchangeGrid.Action Dispatcher

theorem proper_executeNamed {α : Type} (call : PendingCall α) (name : String)
    {past : List Answered} :
    Complies (call.service.Proper (call.service.Resolved name)) past (call.executeNamed name)
      fun _ _ => True := by
  unfold executeNamed
  apply proper_checkNodes.bind
  · intro known _ _
    apply proper_indexOf.bind
    · rintro more index ⟨set, rfl, found⟩
      unfold executeWith
      have mayCall : Complies (call.service.Proper (call.service.Resolved name))
          (past ++ known ++ [⟨.readNodes call.service.id, set⟩])
          (call.service.call call.name call.payload (.positions [index]) []) fun _ _ => True := by
        apply proper_call
        intro later position node admitted
        have same : position = index := by
          simpa only [Policy.admits, List.contains_cons, List.contains_nil, Bool.or_false,
            beq_iff_eq] using admitted
        refine ⟨past ++ known, set, later, ?_, ?_⟩
        · rw [List.append_assoc]
          rfl
        · rw [same]
          exact found index rfl
      apply mayCall.bind
      · intro later reply _
        cases call.reading reply <;> trivial
      · intros
        trivial
    · intros
      trivial
  · intros
    trivial

end PendingCall

end ExchangeGrid
