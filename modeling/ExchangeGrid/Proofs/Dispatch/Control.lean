import ExchangeGrid.Proofs.Dispatch.Compliance
import ExchangeGrid.Service.Control

namespace ExchangeGrid

/-!
# What the control plane is asked

A request to the control plane is one post after the other, to hosts in their order, and its outcome
is told by the answers to these posts.  A lookup and an exchange of a secret are such requests; what
they come to is read from the one reply that ended them.
-/

def Question.IsPost : Question → Prop
  | .post _ _ _ => True
  | _ => False

namespace Reply

def listing (reply : Reply) : Except Error (List ServiceNode) :=
  if reply.status > 299 then .error (.unexpectedStatus reply.status)
  else (reply.decode serviceListing).map fun listing =>
    match listing.get? "services" with
    | some (.array items) => items.map ServiceNode.ofValue
    | _ => []

def sharedSecret (reply : Reply) : Except Error String :=
  if reply.status > 299 then .error (.unexpectedStatus reply.status)
  else (reply.decode secretAnswer).map fun answer =>
    ((answer.get? "secret").bind Json.Value.string?).getD ""

/-- A listing brings no secrets. -/
theorem secret_of_mem_listing {reply : Reply} {nodes : List ServiceNode}
    (listed : reply.listing = .ok nodes) {node : ServiceNode} (member : node ∈ nodes) :
    node.secret = "" := by
  unfold listing at listed
  split at listed
  · cases listed
  · cases decoded : reply.decode serviceListing with
    | error error =>
        rw [decoded] at listed
        cases listed
    | ok value =>
        rw [decoded] at listed
        cases listed
        dsimp only at member
        split at member
        · rcases List.mem_map.mp member with ⟨item, -, rfl⟩
          rfl
        · cases member

/-- A reply does not say that a service is unavailable. -/
theorem listing_ne_unavailable (reply : Reply) (text : String) :
    reply.listing ≠ .error (.serviceUnavailable text) := by
  intro failed
  unfold listing decode at failed
  split at failed
  · cases failed
  · split at failed <;> cases failed

end Reply

namespace Controller

def lookupPayload (service : String) : Json.Value :=
  .object [("name", .string service)]

def exchangePayload (node : String) : Json.Value :=
  .object [("peerNodeName", .string node)]

/-- To post an operation to one of the hosts. -/
def Posts (control : Controller) (operation : String) (payload : Json.Value) (auth : Auth)
    (question : Question) : Prop :=
  ∃ host ∈ control.hosts, question = .post (host.url operation) payload auth

/-- One of the hosts, or the way to it, has answered an operation. -/
def Posted (control : Controller) (operation : String) (payload : Json.Value) (auth : Auth)
    (answer : Except Error Reply) (past : List Answered) : Prop :=
  ∃ host ∈ control.hosts, ⟨.post (host.url operation) payload auth, answer⟩ ∈ past

/-- What a request comes to: it ends with the answer to one of its posts, unless there is no host
left to try. -/
structure Requested (control : Controller) (operation : String) (payload : Json.Value)
    (auth : Auth) (later : List Answered) (result : Except Error Reply) : Prop where
  posts : ∀ said ∈ later, control.Posts operation payload auth said.question
  told : control.Posted operation payload auth result later ∨ result = .error .noHosts

section
variable {control : Controller} {operation : String} {payload : Json.Value} {auth : Auth}
  {question : Question} {may : List Answered → Question → Prop} {past : List Answered}

theorem Posts.isPost (posts : control.Posts operation payload auth question) :
    question.IsPost := by
  rcases posts with ⟨host, -, rfl⟩
  trivial

theorem Posted.mono {answer : Except Error Reply} {later : List Answered}
    (posted : control.Posted operation payload auth answer past) (within : past ⊆ later) :
    control.Posted operation payload auth answer later := by
  rcases posted with ⟨host, known, member⟩
  exact ⟨host, known, within member⟩

theorem complies_tryHosts {hosts : List ControlHost} (known : hosts ⊆ control.hosts)
    (mayPost : ∀ later question,
      (∀ said ∈ later, control.Posts operation payload auth said.question) →
        control.Posts operation payload auth question → may (past ++ later) question) :
    Action.Complies may past (tryHosts operation payload auth hosts)
      (control.Requested operation payload auth) := by
  induction hosts generalizing past with
  | nil =>
      rw [tryHosts, Action.complies_throw]
      exact ⟨List.forall_mem_nil _, Or.inr rfl⟩
  | cons host hosts inductionHypothesis =>
      have listed : host ∈ control.hosts := known List.mem_cons_self
      have posts : control.Posts operation payload auth
          (.post (host.url operation) payload auth) := ⟨host, listed, rfl⟩
      have mayNow := mayPost [] _ (List.forall_mem_nil _) posts
      rw [List.append_nil] at mayNow
      rw [tryHosts, Action.complies_bind, Action.complies_outcome, Action.complies_post]
      refine ⟨mayNow, ?_⟩
      intro answer
      have ended : control.Requested operation payload auth
          [⟨.post (host.url operation) payload auth, answer⟩] answer := by
        refine ⟨?_, Or.inl ⟨host, listed, List.mem_singleton_self _⟩⟩
        intro said member
        rw [List.mem_singleton.mp member]
        exact posts
      cases answer with
      | ok reply => exact ended
      | error error =>
          by_cases goesOn : error.isTransport = true
          · simp only [goesOn, if_true]
            have rest : Action.Complies may
                (past ++ [⟨.post (host.url operation) payload auth, .error error⟩])
                (tryHosts operation payload auth hosts)
                (control.Requested operation payload auth) := by
              apply inductionHypothesis fun _ member => known (List.mem_cons_of_mem host member)
              intro later question before after
              rw [List.append_assoc]
              apply mayPost _ question _ after
              intro said member
              rcases List.mem_cons.mp member with rfl | member
              · exact posts
              · exact before said member
            apply rest.imp
            intro later result requested
            refine ⟨?_, requested.told.imp_left fun posted => ?_⟩
            · intro said member
              rcases List.mem_cons.mp member with rfl | member
              · exact posts
              · exact requested.posts said member
            · exact posted.mono (List.subset_cons_self _ _)
          · simp only [goesOn]
            exact ended

theorem complies_request (mayPost : ∀ later question,
      (∀ said ∈ later, control.Posts operation payload auth said.question) →
        control.Posts operation payload auth question → may (past ++ later) question) :
    Action.Complies may past (control.request operation payload auth)
      (control.Requested operation payload auth) :=
  complies_tryHosts (List.Subset.refl _) mayPost

end

theorem lookUp_eq (control : Controller) (service : String) :
    control.lookUp service = (do
      let reply ← control.request "ServiceLookup" (lookupPayload service) .configured
      Action.ofExcept reply.listing) := by
  unfold lookUp
  congr 1
  funext reply
  unfold Reply.listing
  split
  · rfl
  · cases reply.decode serviceListing with
    | error error => rfl
    | ok value =>
        simp only [Except.map]
        change (match value.get? "services" with
          | some (.array items) => pure (items.map ServiceNode.ofValue)
          | _ => pure [] : Action (List ServiceNode)) = _
        split <;> rfl

theorem exchangeSecret_eq (control : Controller) (node : String) :
    control.exchangeSecret node = (do
      let reply ← control.request "AccessSecret" (exchangePayload node) .configured
      Action.ofExcept reply.sharedSecret) := by
  unfold exchangeSecret
  congr 1
  funext reply
  unfold Reply.sharedSecret
  split
  · rfl
  · cases reply.decode secretAnswer <;> rfl

structure LookedUp (control : Controller) (service : String) (later : List Answered)
    (result : Except Error (List ServiceNode)) : Prop where
  posts : ∀ said ∈ later,
    control.Posts "ServiceLookup" (lookupPayload service) .configured said.question
  listed : ∀ nodes, result = .ok nodes → ∃ reply,
    control.Posted "ServiceLookup" (lookupPayload service) .configured (.ok reply) later ∧
      reply.listing = .ok nodes
  failed : ∀ text, result = .error (.serviceUnavailable text) →
    control.Posted "ServiceLookup" (lookupPayload service) .configured
      (.error (.serviceUnavailable text)) later

structure Exchanged (control : Controller) (node : String) (later : List Answered)
    (result : Except Error String) : Prop where
  posts : ∀ said ∈ later,
    control.Posts "AccessSecret" (exchangePayload node) .configured said.question
  shared : ∀ secret, result = .ok secret → ∃ reply,
    control.Posted "AccessSecret" (exchangePayload node) .configured (.ok reply) later ∧
      reply.sharedSecret = .ok secret

section
variable {control : Controller} {may : List Answered → Question → Prop} {past : List Answered}

theorem complies_lookUp {service : String} (mayPost : ∀ later question,
      (∀ said ∈ later,
        control.Posts "ServiceLookup" (lookupPayload service) .configured said.question) →
      control.Posts "ServiceLookup" (lookupPayload service) .configured question →
        may (past ++ later) question) :
    Action.Complies may past (control.lookUp service) (control.LookedUp service) := by
  rw [lookUp_eq]
  apply (complies_request mayPost).bind
  · intro later reply requested
    have posted := requested.told.resolve_right nofun
    rw [Action.complies_ofExcept, List.append_nil]
    refine ⟨requested.posts, fun nodes listed => ⟨reply, posted, listed⟩, ?_⟩
    intro text failed
    exact (reply.listing_ne_unavailable text failed).elim
  · intro later error requested
    refine ⟨requested.posts, nofun, ?_⟩
    intro text failed
    cases failed
    exact requested.told.resolve_right nofun

theorem complies_exchangeSecret {node : String} (mayPost : ∀ later question,
      (∀ said ∈ later,
        control.Posts "AccessSecret" (exchangePayload node) .configured said.question) →
      control.Posts "AccessSecret" (exchangePayload node) .configured question →
        may (past ++ later) question) :
    Action.Complies may past (control.exchangeSecret node) (control.Exchanged node) := by
  rw [exchangeSecret_eq]
  apply (complies_request mayPost).bind
  · intro later reply requested
    have posted := requested.told.resolve_right nofun
    rw [Action.complies_ofExcept, List.append_nil]
    exact ⟨requested.posts, fun secret shared => ⟨reply, posted, shared⟩⟩
  · intro later error requested
    exact ⟨requested.posts, nofun⟩

end

end Controller
end ExchangeGrid
