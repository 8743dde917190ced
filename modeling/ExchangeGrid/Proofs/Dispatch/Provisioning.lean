import ExchangeGrid.Proofs.Dispatch.Failover
import ExchangeGrid.Proofs.Dispatch.Replay

namespace ExchangeGrid

/-!
# New secrets for all nodes

A dispatcher exchanges a secret with each node that it knows, one after the other, and keeps it with
the node.  It goes by a list that it read before, and writes by position, generation and name.

As long as nobody else is at work, all of these fit.  `renews_secrets` says what a dispatcher that
knows some nodes asks then, what it comes to and what is kept in the end: either every node has its
new secret, or there is a first node whose secret cannot be had, and it is as if the work had been
done for the nodes before it and never begun for the others.
-/

/-! ## Nobody else at work -/

/-- An answer tells what is kept of a service, if it tells anything of it. -/
def Answered.Reflects (service : Nat) (set : NodeSet) : Answered → Prop
  | ⟨.readNodes other, answer⟩ => other = service → answer = set
  | _ => True

/-- What is said while nobody else is at work on a service: whoever asks is told what is kept, and
what is kept changes by what is said. -/
def Alone (service : Nat) : NodeSet → List Answered → NodeSet → Prop
  | set, [], final => final = set
  | set, said :: told, final =>
    said.Reflects service set ∧ Alone service (said.alter service set) told final

section
variable {service : Nat} {set final : NodeSet} {front back told : List Answered}

theorem alone_append : Alone service set (front ++ back) final ↔
    ∃ between, Alone service set front between ∧ Alone service between back final := by
  induction front generalizing set with
  | nil =>
      constructor
      · intro alone
        exact ⟨set, rfl, alone⟩
      · rintro ⟨between, rfl, alone⟩
        exact alone
  | cons said front inductionHypothesis =>
      constructor
      · rintro ⟨reflects, alone⟩
        rcases inductionHypothesis.mp alone with ⟨between, first, second⟩
        exact ⟨between, ⟨reflects, first⟩, second⟩
      · rintro ⟨between, ⟨reflects, first⟩, second⟩
        exact ⟨reflects, inductionHypothesis.mpr ⟨between, first, second⟩⟩

/-- Posts have nothing to do with what is kept. -/
theorem alone_iff_of_posts (posts : ∀ said ∈ told, said.question.IsPost) :
    Alone service set told final ↔ final = set := by
  induction told with
  | nil => exact Iff.rfl
  | cons said told inductionHypothesis =>
      rcases List.forall_mem_cons.mp posts with ⟨here, behind⟩
      rcases said with ⟨question, answer⟩
      cases question with
      | post url payload auth => exact (and_iff_right trivial).trans (inductionHypothesis behind)
      | _ => exact here.elim

end

namespace Crew

variable {ι : Type} [DecidableEq ι] {Result : ι → Type} {sets : Nat → NodeSet}

/-- Where only one member has said anything, it was alone with every service. -/
theorem Truthful.alone {crew : Crew Result} (truthful : Truthful sets crew) {who : ι}
    (single : ∀ entry ∈ crew.log, entry.1 = who) (service : Nat) :
    Alone service (sets service) (crew.past who) (crew.sets service) := by
  have later (front back : List (ι × Answered)) (log : crew.log = front ++ back) :
      Alone service (setAfter service (sets service) front) (pastOf who back)
        (crew.sets service) := by
    induction back generalizing front with
    | nil =>
        rw [List.append_nil] at log
        rw [← log]
        exact truthful.sets_eq service
    | cons entry back inductionHypothesis =>
        rcases entry with ⟨other, question, answer⟩
        have same : other = who := by
          apply single (other, ⟨question, answer⟩)
          rw [log]
          exact List.mem_append_right front List.mem_cons_self
        subst same
        have told : pastOf other ((other, ⟨question, answer⟩) :: back) =
            ⟨question, answer⟩ :: pastOf other back := by
          rw [pastOf, List.filterMap_cons, if_pos rfl]
          rfl
        rw [told]
        have behind := inductionHypothesis (front ++ [(other, ⟨question, answer⟩)])
          (log.trans (List.append_cons front _ back))
        rw [setAfter_append] at behind
        refine ⟨?_, behind⟩
        cases question with
        | readNodes asked =>
            rintro rfl
            exact truthful.told front other asked answer back log
        | _ => trivial
  exact later [] crew.log rfl

/-- A member that is done has yielded what it was answered. -/
theorem yields_of_returned {programs : (who : ι) → Program (Result who)} {moves : List (Move ι)}
    {who : ι} {result : Result who}
    (returned : ((start sets programs).run moves).Returned who result) :
    (programs who).Yields (((start sets programs).run moves).past who) result := by
  have follows := follows_of_run sets (fun who => (programs who).complies_yields []) moves
  exact follows.ends_of_returned returned

end Crew

/-! ## Exchanges -/

/-- An exchange that came to a secret: with whom, what was said on it, and the secret. -/
structure Exchange where
  node : ServiceNode
  posts : List Answered
  secret : String

namespace Exchange

def kept (exchange : Exchange) : ServiceNode :=
  { exchange.node with secret := exchange.secret }

/-- The secret was exchanged as the control plane does it, under the name of the node itself. -/
def IsMade (service : Dispatcher) (exchange : Exchange) : Prop :=
  (service.control.exchangeSecret exchange.node.name).Yields exchange.posts (.ok exchange.secret)

/-- What is said on exchanges one after the other, counted from some position. -/
def told (service : Dispatcher) (generation : Nat) : Nat → List Exchange → List Answered
  | _, [] => []
  | index, exchange :: rest =>
    exchange.posts ++ keptTold service generation index exchange.node.name (.ok exchange.secret) ++
      told service generation (index + 1) rest

end Exchange

/-- What an exchange that failed is told as: that the work was called off, or for which node there
is no secret. -/
def refusal (name : String) : Error → Error
  | .cancelled => .cancelled
  | error => .secret name error.message

theorem provided_error (name : String) (error : Error) :
    provided name (.error error) = .error (refusal name error) := by
  cases error <;> rfl

namespace Dispatcher

open ExchangeGrid.Action

/-- How exchanges end before the nodes that are left: there are none, or no secret can be had for the
first of them. -/
def Ends (service : Dispatcher) : List ServiceNode → List Answered → Except Error Unit → Prop
  | [], last, result => last = [] ∧ result = .ok ()
  | node :: _, last, result => ∃ error,
    (service.control.exchangeSecret node.name).Yields last (.error error) ∧
      result = .error (refusal node.name error)

/-- The nodes behind some others get new secrets, in the order of the list, up to those that are
left; nothing else changes, and nothing is asked for a node behind the first that is left. -/
structure Renews (service : Dispatcher) (generation : Nat) (before nodes : List ServiceNode)
    (made : List Exchange) (left : List ServiceNode) (told : List Answered)
    (result : Except Error Unit) (final : NodeSet) : Prop where
  nodes_eq : nodes = made.map Exchange.node ++ left
  all_made : ∀ exchange ∈ made, exchange.IsMade service
  told_eq : ∃ last, told = Exchange.told service generation before.length made ++ last ∧
    service.Ends left last result
  final_eq : final = ⟨generation, before ++ (made.map Exchange.kept ++ left)⟩

section
variable {service : Dispatcher} {generation index : Nat} {before nodes left : List ServiceNode}
  {node : ServiceNode} {made : List Exchange} {told : List Answered}
  {result : Except Error Unit} {set start final : NodeSet}

/-! ## One exchange -/

theorem yields_provisionAll_cons {rest : List (ServiceNode × Nat)} :
    (service.provisionAll generation ((node, index) :: rest)).Yields told result ↔
      ∃ posts secret later, (service.control.exchangeSecret node.name).Yields posts secret ∧
        told = posts ++ keptTold service generation index node.name secret ++ later ∧
        match secret with
        | .ok _ => (service.provisionAll generation rest).Yields later result
        | .error error => later = [] ∧ result = .error (refusal node.name error) := by
  rw [provisionAll, yields_bind]
  constructor
  · rintro ⟨front, later, first, rfl, provisioned, onward⟩
    rcases yields_provision.mp provisioned with ⟨posts, secret, exchanges, rfl, rfl⟩
    refine ⟨posts, secret, later, exchanges, rfl, ?_⟩
    cases secret with
    | ok secret => exact onward
    | error error =>
        rw [provided_error] at onward
        exact onward
  · rintro ⟨posts, secret, later, exchanges, rfl, onward⟩
    refine ⟨_, later, _, rfl, yields_provision.mpr ⟨posts, secret, exchanges, rfl, rfl⟩, ?_⟩
    cases secret with
    | ok secret => exact onward
    | error error =>
        rw [provided_error]
        exact onward

/-- What an exchange leaves, as long as nobody else is at work. -/
theorem alone_exchange {name : String} {posts : List Answered} {secret : Except Error String}
    (exchanges : (service.control.exchangeSecret name).Yields posts secret) :
    Alone service.id set (posts ++ keptTold service generation index name secret) final ↔
      match secret with
      | .ok secret => final = set.store generation index name secret
      | .error _ => final = set := by
  have posted := isPost_of_exchange exchanges
  rw [alone_append]
  simp only [alone_iff_of_posts posted, exists_eq_left]
  cases secret with
  | error error => exact Iff.rfl
  | ok secret =>
      have stored : Answered.alter service.id set
          ⟨.storeSecret service.id generation index name secret, ()⟩ =
            set.store generation index name secret := if_pos rfl
      constructor
      · rintro ⟨-, -, left⟩
        exact left.trans stored
      · intro left
        exact ⟨trivial, trivial, left.trans stored.symm⟩

/-- A secret is kept with the node at its position, and with no other of the same name. -/
theorem store_append (secret : String) :
    NodeSet.store ⟨generation, before ++ node :: nodes⟩ generation before.length node.name secret =
      ⟨generation, before ++ { node with secret } :: nodes⟩ := by
  unfold NodeSet.store
  simp

/-! ## Node by node -/

theorem renews_nil : service.Renews generation before [] made left told result final ↔
    made = [] ∧ left = [] ∧ told = [] ∧ result = .ok () ∧ final = ⟨generation, before⟩ := by
  constructor
  · rintro ⟨nodes_eq, all_made, ⟨last, rfl, ends⟩, rfl⟩
    rcases List.append_eq_nil_iff.mp nodes_eq.symm with ⟨noneMade, rfl⟩
    rw [List.map_eq_nil_iff] at noneMade
    subst noneMade
    rcases ends with ⟨rfl, rfl⟩
    refine ⟨rfl, rfl, rfl, rfl, ?_⟩
    rw [List.map_nil, List.append_nil, List.append_nil]
  · rintro ⟨rfl, rfl, rfl, rfl, rfl⟩
    refine ⟨rfl, List.forall_mem_nil _, ⟨[], rfl, rfl, rfl⟩, ?_⟩
    rw [List.map_nil, List.append_nil, List.append_nil]

/-- Where no secret can be had for the first node, nothing is done. -/
theorem renews_cons_nil : service.Renews generation before (node :: nodes) [] left told result final ↔
    left = node :: nodes ∧ service.Ends (node :: nodes) told result ∧
      final = ⟨generation, before ++ node :: nodes⟩ := by
  constructor
  · rintro ⟨nodes_eq, -, ⟨last, rfl, ends⟩, rfl⟩
    rw [List.map_nil, List.nil_append] at nodes_eq
    subst nodes_eq
    exact ⟨rfl, ends, rfl⟩
  · rintro ⟨rfl, ends, rfl⟩
    exact ⟨rfl, List.forall_mem_nil _, ⟨told, rfl, ends⟩, rfl⟩

/-- Where there is one, the others follow. -/
theorem renews_cons_cons {exchange : Exchange} :
    service.Renews generation before (node :: nodes) (exchange :: made) left told result final ↔
      exchange.node = node ∧ exchange.IsMade service ∧ ∃ later,
        told = exchange.posts ++
          keptTold service generation before.length node.name (.ok exchange.secret) ++ later ∧
        service.Renews generation (before ++ [exchange.kept]) nodes made left later result
          final := by
  have long : (before ++ [exchange.kept]).length = before.length + 1 := by simp
  constructor
  · rintro ⟨nodes_eq, all_made, ⟨last, rfl, ends⟩, rfl⟩
    rw [List.map_cons, List.cons_append, List.cons.injEq] at nodes_eq
    rcases nodes_eq with ⟨rfl, rfl⟩
    rcases List.forall_mem_cons.mp all_made with ⟨first, others⟩
    refine ⟨rfl, first, _, List.append_assoc _ _ last, rfl, others, ⟨last, ?_, ends⟩, ?_⟩
    · rw [long]
    · simp
  · rintro ⟨rfl, first, later, rfl, rfl, others, ⟨last, rfl, ends⟩, rfl⟩
    rw [long]
    refine ⟨rfl, List.forall_mem_cons.mpr ⟨first, others⟩, ⟨last, ?_, ends⟩, ?_⟩
    · exact (List.append_assoc _ _ last).symm
    · simp

/-- Nodes get new secrets in order, as long as nobody else is at work. -/
theorem yields_provisionAll (before : List ServiceNode) :
    (service.provisionAll generation (nodes.zipIdx before.length)).Yields told result ∧
        Alone service.id ⟨generation, before ++ nodes⟩ told final ↔
      ∃ made left, service.Renews generation before nodes made left told result final := by
  induction nodes generalizing before told with
  | nil =>
      rw [List.append_nil]
      constructor
      · rintro ⟨⟨rfl, rfl⟩, rfl⟩
        exact ⟨[], [], renews_nil.mpr ⟨rfl, rfl, rfl, rfl, rfl⟩⟩
      · rintro ⟨made, left, renews⟩
        rcases renews_nil.mp renews with ⟨-, -, rfl, rfl, rfl⟩
        exact ⟨⟨rfl, rfl⟩, rfl⟩
  | cons node nodes inductionHypothesis =>
      have behind (secret : String) (later : List Answered) :
          (service.provisionAll generation (nodes.zipIdx (before.length + 1))).Yields later result ∧
              Alone service.id ⟨generation, before ++ { node with secret } :: nodes⟩ later final ↔
            ∃ made left, service.Renews generation (before ++ [{ node with secret }]) nodes made
              left later result final := by
        rw [← inductionHypothesis, List.append_assoc, List.length_append]
        rfl
      rw [List.zipIdx_cons, yields_provisionAll_cons]
      constructor
      · rintro ⟨⟨posts, secret, later, exchanges, rfl, onward⟩, alone⟩
        rcases alone_append.mp alone with ⟨between, first, second⟩
        have kept := (alone_exchange exchanges).mp first
        cases secret with
        | error error =>
            rcases onward with ⟨rfl, rfl⟩
            refine ⟨[], node :: nodes, renews_cons_nil.mpr ⟨rfl, ⟨error, ?_, rfl⟩, ?_⟩⟩
            · rw [keptTold, List.append_nil, List.append_nil]
              exact exchanges
            · exact second.trans kept
        | ok secret =>
            dsimp only at kept
            rw [kept, store_append] at second
            rcases (behind secret later).mp ⟨onward, second⟩ with ⟨made, left, renews⟩
            refine ⟨⟨node, posts, secret⟩ :: made, left, renews_cons_cons.mpr ?_⟩
            exact ⟨rfl, exchanges, later, rfl, renews⟩
      · rintro ⟨made, left, renews⟩
        cases made with
        | nil =>
            rcases renews_cons_nil.mp renews with ⟨-, ⟨error, exchanges, rfl⟩, rfl⟩
            refine ⟨⟨told, .error error, [], exchanges, ?_, rfl, rfl⟩, ?_⟩
            · rw [keptTold, List.append_nil, List.append_nil]
            · exact (alone_iff_of_posts (isPost_of_exchange exchanges)).mpr rfl
        | cons exchange made =>
            rcases exchange with ⟨other, posts, secret⟩
            rcases renews_cons_cons.mp renews with ⟨rfl, first, later, rfl, onward⟩
            rcases (behind secret later).mpr ⟨made, left, onward⟩ with ⟨yields, alone⟩
            refine ⟨⟨posts, .ok secret, later, first, rfl, yields⟩, ?_⟩
            refine alone_append.mpr ⟨_, (alone_exchange first).mpr rfl, ?_⟩
            rw [store_append]
            exact alone

/-! ## All nodes -/

def readTold (service : Dispatcher) (set : NodeSet) : Answered :=
  ⟨.readNodes service.id, set⟩

theorem yields_nodes {known : Except Error (List ServiceNode)} :
    service.nodes.Yields told known ↔
      ∃ set, told = [service.readTold set] ∧ known = .ok set.nodes := by
  unfold Dispatcher.nodes
  rw [yields_bind]
  constructor
  · rintro ⟨_, _, _, rfl, asked, rest⟩
    rcases yields_ask.mp asked with ⟨set, rfl, rfl⟩
    rcases rest with ⟨rfl, rfl⟩
    exact ⟨set, rfl, rfl⟩
  · rintro ⟨set, rfl, rfl⟩
    exact ⟨_, [], _, rfl, yields_ask.mpr ⟨set, rfl, rfl⟩, rfl, rfl⟩

theorem alone_readTold {answer : NodeSet} :
    Alone service.id set (service.readTold answer :: told) final ↔
      answer = set ∧ Alone service.id set told final :=
  and_congr_left' ⟨fun reflects => reflects rfl, fun same _ => same⟩

/-- Nobody looks for nodes that are known. -/
theorem yields_checkedSet_of_known {checked : Except Error NodeSet} (known : start.nodes ≠ []) :
    service.checkedSet.Yields told checked ∧ Alone service.id start told final ↔
      told = [service.readTold start, service.readTold start] ∧ checked = .ok start ∧
        final = start := by
  have filled : (!start.nodes.isEmpty) = true := by simp [known]
  unfold checkedSet checkNodes
  constructor
  · rintro ⟨yields, alone⟩
    rcases yields_bind.mp yields with ⟨_, after, _, rfl, looked, asked⟩
    rcases yields_bind.mp looked with ⟨_, more, _, rfl, read, rest⟩
    rcases yields_nodes.mp read with ⟨set, rfl, rfl⟩
    rcases alone_readTold.mp alone with ⟨rfl, alone⟩
    dsimp only at rest
    rw [if_pos filled] at rest
    rcases rest with ⟨rfl, rfl⟩
    rcases yields_ask.mp asked with ⟨again, rfl, rfl⟩
    rcases alone_readTold.mp alone with ⟨rfl, rfl⟩
    exact ⟨rfl, rfl, rfl⟩
  · rintro ⟨rfl, rfl, rfl⟩
    refine ⟨yields_bind.mpr ⟨[service.readTold final], _, .ok final.nodes, rfl, ?_, ?_⟩, ?_⟩
    · refine yields_bind.mpr ⟨_, [], _, rfl, yields_nodes.mpr ⟨final, rfl, rfl⟩, ?_⟩
      dsimp only
      rw [if_pos filled]
      exact ⟨rfl, rfl⟩
    · exact yields_ask.mpr ⟨final, rfl, rfl⟩
    · exact alone_readTold.mpr ⟨rfl, alone_readTold.mpr ⟨rfl, rfl⟩⟩

theorem yields_updateSecrets (known : start.nodes ≠ []) :
    service.updateSecrets.Yields told result ∧ Alone service.id start told final ↔
      ∃ later made left, told = service.readTold start :: service.readTold start :: later ∧
        service.Renews start.generation [] start.nodes made left later result final := by
  have exchanges (later : List Answered) :
      (service.provisionAll start.generation start.nodes.zipIdx).Yields later result ∧
          Alone service.id start later final ↔
        ∃ made left, service.Renews start.generation [] start.nodes made left later result final :=
    yields_provisionAll []
  unfold updateSecrets
  constructor
  · rintro ⟨yields, alone⟩
    rcases yields_bind.mp yields with ⟨front, later, checked, rfl, looked, onward⟩
    rcases alone_append.mp alone with ⟨between, first, second⟩
    rcases (yields_checkedSet_of_known known).mp ⟨looked, first⟩ with ⟨rfl, rfl, same⟩
    rw [same] at second
    rcases (exchanges later).mp ⟨onward, second⟩ with ⟨made, left, renews⟩
    exact ⟨later, made, left, rfl, renews⟩
  · rintro ⟨later, made, left, rfl, renews⟩
    rcases (exchanges later).mpr ⟨made, left, renews⟩ with ⟨yields, second⟩
    rcases (yields_checkedSet_of_known known).mpr ⟨rfl, rfl, rfl⟩ with ⟨looked, first⟩
    refine ⟨yields_bind.mpr ⟨_, later, .ok start, ?_, looked, yields⟩, ?_⟩
    · rfl
    · exact alone_append.mpr ⟨start, first, second⟩

/-- Where all went well, no node is left without a new secret. -/
theorem Renews.of_ok
    (renews : service.Renews generation before nodes made left told (.ok ()) final) :
    nodes = made.map Exchange.node ∧
      told = Exchange.told service generation before.length made ∧
      final = ⟨generation, before ++ made.map Exchange.kept⟩ := by
  rcases renews with ⟨nodes_eq, -, ⟨last, told_eq, ends⟩, final_eq⟩
  cases left with
  | nil =>
      rw [ends.1] at told_eq
      rw [List.append_nil] at nodes_eq told_eq final_eq
      exact ⟨nodes_eq, told_eq, final_eq⟩
  | cons node rest =>
      rcases ends with ⟨error, -, impossible⟩
      cases impossible

/-- Where something went wrong, it was the exchange for the first node that is left. -/
theorem Renews.of_error {error : Error}
    (renews : service.Renews generation before nodes made left told (.error error) final) :
    ∃ node rest posts cause, nodes = made.map Exchange.node ++ node :: rest ∧
      told = Exchange.told service generation before.length made ++ posts ∧
      (service.control.exchangeSecret node.name).Yields posts (.error cause) ∧
      error = refusal node.name cause ∧
      final = ⟨generation, before ++ (made.map Exchange.kept ++ node :: rest)⟩ := by
  rcases renews with ⟨nodes_eq, -, ⟨posts, told_eq, ends⟩, final_eq⟩
  cases left with
  | nil =>
      rcases ends with ⟨-, impossible⟩
      cases impossible
  | cons node rest =>
      rcases ends with ⟨cause, exchanges, same⟩
      exact ⟨node, rest, posts, cause, nodes_eq, told_eq, exchanges, Except.error.inj same, final_eq⟩

end

/-- All nodes get new secrets, or those before the first for which there is none. -/
structure RenewsSecrets (service : Dispatcher) (start : NodeSet) : Prop where
  /-- What is asked, what it comes to and what is kept in the end, while nobody else is at work. -/
  dialogue_iff : ∀ told result final,
    service.updateSecrets.Yields told result ∧ Alone service.id start told final ↔
      ∃ later made left, told = service.readTold start :: service.readTold start :: later ∧
        service.Renews start.generation [] start.nodes made left later result final
  /-- After a success every node holds the secret that was exchanged under its name. -/
  completes : ∀ told final, service.updateSecrets.Yields told (.ok ()) →
    Alone service.id start told final →
      ∃ made : List Exchange, start.nodes = made.map Exchange.node ∧
        (∀ exchange ∈ made, exchange.IsMade service) ∧
        told = service.readTold start :: service.readTold start ::
          Exchange.told service start.generation 0 made ∧
        final = { start with nodes := made.map Exchange.kept }
  /-- After a failure the nodes before some node hold new secrets, and nothing was exchanged for the
  nodes behind it. -/
  stops : ∀ told error final, service.updateSecrets.Yields told (.error error) →
    Alone service.id start told final →
      ∃ (made : List Exchange) (node : ServiceNode) (rest : List ServiceNode)
          (posts : List Answered) (cause : Error),
        start.nodes = made.map Exchange.node ++ node :: rest ∧
        (∀ exchange ∈ made, exchange.IsMade service) ∧
        (service.control.exchangeSecret node.name).Yields posts (.error cause) ∧
        told = service.readTold start :: service.readTold start ::
          (Exchange.told service start.generation 0 made ++ posts) ∧
        error = refusal node.name cause ∧
        final = { start with nodes := made.map Exchange.kept ++ node :: rest }
  /-- A crew of one is alone with its service. -/
  runs : ∀ (sets : Nat → NodeSet) (moves : List (Move Unit)) result, sets service.id = start →
    let crew := (Crew.start sets fun _ => service.updateSecrets.run).run moves
    crew.Returned () result →
      service.updateSecrets.Yields (crew.past ()) result ∧
        Alone service.id start (crew.past ()) (crew.sets service.id)

/-- Whatever secrets are kept before, new ones come in order and up to the first failure. -/
theorem renews_secrets (service : Dispatcher) {start : NodeSet} (known : start.nodes ≠ []) :
    service.RenewsSecrets start where
  dialogue_iff _ _ _ := yields_updateSecrets known
  completes told final yields alone := by
    rcases (yields_updateSecrets known).mp ⟨yields, alone⟩ with ⟨later, made, left, rfl, renews⟩
    rcases renews.of_ok with ⟨nodes_eq, rfl, rfl⟩
    exact ⟨made, nodes_eq, renews.all_made, rfl, rfl⟩
  stops told error final yields alone := by
    rcases (yields_updateSecrets known).mp ⟨yields, alone⟩ with ⟨later, made, left, rfl, renews⟩
    rcases renews.of_error with ⟨node, rest, posts, cause, nodes_eq, rfl, exchanges, rfl, rfl⟩
    exact ⟨made, node, rest, posts, cause, nodes_eq, renews.all_made, exchanges, rfl, rfl, rfl⟩
  runs sets moves result same := by
    intro crew returned
    refine ⟨Crew.yields_of_returned returned, ?_⟩
    rw [← same]
    have truthful := Crew.truthful_of_run sets (fun _ : Unit => service.updateSecrets.run) moves
    exact truthful.alone (fun _ _ => rfl) service.id

namespace Renewed

/-- Two nodes of one name.  The first already has a secret. -/
def start : NodeSet :=
  ⟨3, [{ name := "a", secret := "old" }, { name := "a" }]⟩

def posted (answer : Except Error Reply) : Answered :=
  ⟨.post "https://ctl:8910/pxgrid/control/AccessSecret" (Controller.exchangePayload "a")
    .configured, answer⟩

def first : Exchange where
  node := { name := "a", secret := "old" }
  posts := [posted (.ok ⟨200, Utf8.bytes "\x7b\"secret\":\"new\"\x7d"⟩)]
  secret := "new"

/-- All that is said when the exchange for the second is called off. -/
def told : List Answered :=
  sample.readTold start :: sample.readTold start ::
    (Exchange.told sample 3 0 [first] ++ [posted (.error .cancelled)])

end Renewed

open Renewed in
theorem renews_secrets_cancelled :
    start.nodes ≠ [] ∧ sample.updateSecrets.Yields told (.error .cancelled) ∧
      Alone sample.id start told ⟨3, [{ name := "a", secret := "new" }, { name := "a" }]⟩ := by
  have known : start.nodes ≠ [] := List.cons_ne_nil _ _
  have made : first.IsMade sample := ⟨_, [], rfl, rfl, by with_unfolding_all rfl⟩
  have refused : (sample.control.exchangeSecret "a").Yields [posted (.error .cancelled)]
      (.error .cancelled) := ⟨_, [], rfl, rfl, rfl⟩
  refine ⟨known, ((renews_secrets sample known).dialogue_iff _ _ _).mpr ?_⟩
  refine ⟨_, [first], [{ name := "a" }], rfl, rfl, ?_, ⟨_, rfl, .cancelled, refused, rfl⟩, rfl⟩
  exact List.forall_mem_singleton.mpr made

end Dispatcher
end ExchangeGrid
