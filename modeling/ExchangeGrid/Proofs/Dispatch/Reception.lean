import ExchangeGrid.Proofs.Dispatch.Dialogue
import Mathlib.Data.List.Basic
import Mathlib.Logic.Function.Basic

namespace ExchangeGrid

/-!
# What becomes of candidates

A candidate of a call is passed over where it has no base address.  Any other is given a secret
where it has none, and then one request.  The call goes on where that was lost in transport, and its
round ends at any other candidate: where no secret can be had, where it is answered, and where the
request fails in another way.

`Reception` says what becomes of each candidate if it is visited, and from it alone `Reception.told`
and `Reception.result` say what a call asks and what it comes to.  Nothing here is said of how a
call goes about that.
-/

/-! ## Up to the first -/

/-- The items of a list up to the first that passes a test, which counts. -/
def upTo {α : Type} (passes : α → Bool) (items : List α) : List α :=
  items.take (items.findIdx passes + 1)

section
variable {α : Type} {passes : α → Bool} {item : α} {items : List α}

theorem upTo_cons (passes : α → Bool) (item : α) (items : List α) :
    upTo passes (item :: items) =
      if passes item then [item] else item :: upTo passes items := by
  unfold upTo
  rw [List.findIdx_cons]
  cases passes item <;> rfl

theorem upTo_eq_nil_iff : upTo passes items = [] ↔ items = [] := by
  unfold upTo
  rw [List.take_eq_nil_iff]
  exact or_iff_right (Nat.succ_ne_zero _)

theorem upTo_of_first {front rest : List α} (onward : ∀ earlier ∈ front, passes earlier = false)
    (last : passes item) : upTo passes (front ++ item :: rest) = front ++ [item] := by
  induction front with
  | nil => exact (upTo_cons passes item rest).trans (if_pos last)
  | cons first front inductionHypothesis =>
      rcases List.forall_mem_cons.mp onward with ⟨here, behind⟩
      rw [List.cons_append, upTo_cons, here, inductionHypothesis behind]
      rfl

theorem upTo_of_none (onward : ∀ item ∈ items, passes item = false) :
    upTo passes items = items := by
  induction items with
  | nil => rfl
  | cons first items inductionHypothesis =>
      rcases List.forall_mem_cons.mp onward with ⟨here, behind⟩
      rw [upTo_cons, here, inductionHypothesis behind]
      rfl

/-- Either no item passes, or there is a first that does. -/
theorem exists_first_or (passes : α → Bool) (items : List α) :
    (∀ item ∈ items, passes item = false) ∨
      ∃ front item rest, items = front ++ item :: rest ∧
        (∀ earlier ∈ front, passes earlier = false) ∧ passes item := by
  cases found : items.find? passes with
  | none =>
      rw [List.find?_eq_none] at found
      exact .inl fun item member => Bool.eq_false_iff.mpr (found item member)
  | some item =>
      rcases List.find?_eq_some_iff_append.mp found with ⟨last, front, rest, rfl, onward⟩
      refine .inr ⟨front, item, rest, rfl, fun earlier member => ?_, last⟩
      exact Bool.not_eq_true' _ ▸ onward earlier member

/-- An item that passes is the last, and the first that passes. -/
theorem exists_of_upTo_eq {front rest : List α} (cut : upTo passes items = front ++ item :: rest)
    (last : passes item) :
    rest = [] ∧ (∀ earlier ∈ front, passes earlier = false) ∧
      ∃ others, items = front ++ item :: others := by
  induction items generalizing front with
  | nil => exact (List.append_ne_nil_of_right_ne_nil front (List.cons_ne_nil item rest) cut.symm).elim
  | cons first items inductionHypothesis =>
      rw [upTo_cons] at cut
      by_cases passed : passes first
      · rw [if_pos passed] at cut
        rcases List.singleton_eq_append_iff.mp cut with ⟨rfl, equal⟩ | ⟨_, impossible⟩
        · cases equal
          exact ⟨rfl, List.forall_mem_nil _, items, rfl⟩
        · cases impossible
      · rw [if_neg passed] at cut
        cases front with
        | nil =>
            cases cut
            exact (passed last).elim
        | cons other front =>
            rw [List.cons_append, List.cons.injEq] at cut
            rcases cut with ⟨rfl, cut⟩
            rcases inductionHypothesis cut with ⟨none, onward, others, rfl⟩
            exact ⟨none, List.forall_mem_cons.mpr ⟨Bool.eq_false_iff.mpr passed, onward⟩,
              others, rfl⟩

end

/-! ## One candidate -/

/-- What becomes of a candidate that is visited: what is said when a secret is exchanged, and what
comes of that, and how the call is answered. -/
structure Welcome where
  posts : List Answered
  secret : Except Error String
  reply : Except Error Reply

/-- How a visit to a candidate comes out. -/
inductive Visit
  | passedOver
  | lost (error : Error)
  | final (result : Except Error Reply)

namespace Visit

/-- Whether no other candidate is visited then. -/
def isFinal : Visit → Bool
  | final _ => true
  | _ => false

/-- How a visit comes out when a request is answered so: only what is lost in transport is not the
end of it. -/
def ofReply : Except Error Reply → Visit
  | .ok reply => final (.ok reply)
  | .error error => if error.isTransport then lost error else final (.error error)

def result (call : String) : Visit → Except Error Reply
  | passedOver => .error (.allNodesFailed call)
  | lost error => .error error
  | final result => result

theorem result_ofReply (call : String) (reply : Except Error Reply) :
    (ofReply reply).result call = reply := by
  unfold ofReply
  split
  · rfl
  · split <;> rfl

end Visit

/-- What comes of an exchange for those who need the secret of a node. -/
def provided (name : String) : Except Error String → Except Error String
  | .ok secret => .ok secret
  | .error .cancelled => .error .cancelled
  | .error error => .error (.secret name error.message)

/-- What is said after an exchange: only a secret is kept. -/
def keptTold (service : Dispatcher) (generation index : Nat) (name : String) :
    Except Error String → List Answered
  | .ok secret => [⟨.storeSecret service.id generation index name secret, ()⟩,
      ⟨.emit (.secretProvisioned service.name name), ()⟩]
  | .error _ => []

namespace Welcome

/-- The secret that is shown to a node: the one that is kept with it, or a new one. -/
def credential (welcome : Welcome) (node : ServiceNode) : Except Error String :=
  if node.hasSecret then .ok node.secret else provided node.name welcome.secret

/-- How it comes out with a node that has a base address. -/
def served (welcome : Welcome) (node : ServiceNode) : Visit :=
  match welcome.credential node with
  | .error error => .final (.error error)
  | .ok _ => .ofReply welcome.reply

def visit (welcome : Welcome) (node : ServiceNode) : Visit :=
  match node.propertyText? restBaseUrlKey with
  | none => .passedOver
  | some _ => welcome.served node

def secretTold (welcome : Welcome) (service : Dispatcher) (generation : Nat) (picked : Picked) :
    List Answered :=
  if picked.node.hasSecret then []
  else welcome.posts ++ keptTold service generation picked.index picked.node.name welcome.secret

/-- The request that is sent to a node at a base address, once there is a secret to show. -/
def requestTold (welcome : Welcome) (service : Dispatcher) (call : String) (payload : Json.Value)
    (base : String) (node : ServiceNode) : List Answered :=
  match welcome.credential node with
  | .error _ => []
  | .ok secret =>
    [⟨.post (Dispatcher.callUrl base call) payload (.basic service.control.nodeName secret),
      welcome.reply⟩]

def told (welcome : Welcome) (service : Dispatcher) (generation : Nat) (call : String)
    (payload : Json.Value) (picked : Picked) : List Answered :=
  ⟨.isCancelled, false⟩ ::
    match picked.node.propertyText? restBaseUrlKey with
    | none => []
    | some base =>
      welcome.secretTold service generation picked ++
        welcome.requestTold service call payload base picked.node

/-- A secret is exchanged as the control plane does it, where a node needs one. -/
def Suits (welcome : Welcome) (service : Dispatcher) (node : ServiceNode) : Prop :=
  (node.propertyText? restBaseUrlKey).isSome → node.hasSecret = false →
    (service.control.exchangeSecret node.name).Yields welcome.posts welcome.secret

end Welcome

/-- What becomes of the candidates of a call, each known by its position. -/
abbrev Reception := Nat → Welcome

namespace Reception

def visit (reception : Reception) (picked : Picked) : Visit :=
  (reception picked.index).visit picked.node

/-- The candidates that are visited: all up to the first visit that is final. -/
def visited (reception : Reception) : List Picked → List Picked
  | [] => []
  | picked :: rest =>
    if (reception.visit picked).isFinal then [picked] else picked :: reception.visited rest

/-- What a call comes to: what came of the last visit. -/
def result (reception : Reception) (call : String) (order : List Picked) (nobody : Error) :
    Except Error Reply :=
  match (reception.visited order).getLast? with
  | none => .error nobody
  | some picked => (reception.visit picked).result call

/-- What is said on all visits.  Where there is no candidate, the call still looks once whether it
was called off. -/
def told (reception : Reception) (service : Dispatcher) (generation : Nat) (call : String)
    (payload : Json.Value) (order : List Picked) : List Answered :=
  if order = [] then [⟨.isCancelled, false⟩]
  else (reception.visited order).flatMap fun picked =>
    (reception picked.index).told service generation call payload picked

/-- With this reception a call that goes through candidates in this order asks just these questions
and comes to this result. -/
structure Tells (reception : Reception) (service : Dispatcher) (generation : Nat) (call : String)
    (payload : Json.Value) (order : List Picked) (nobody : Error) (told : List Answered)
    (result : Except Error Reply) : Prop where
  suits : ∀ picked ∈ reception.visited order, (reception picked.index).Suits service picked.node
  told_eq : told = reception.told service generation call payload order
  result_eq : result = reception.result call order nobody

/-! ## Candidate by candidate -/

variable {reception other : Reception} {service : Dispatcher} {generation : Nat} {call : String}
  {payload : Json.Value} {picked : Picked} {order : List Picked} {nobody : Error}
  {told : List Answered} {result : Except Error Reply}

theorem visited_eq_upTo (reception : Reception) (order : List Picked) :
    reception.visited order = upTo (fun picked => (reception.visit picked).isFinal) order := by
  induction order with
  | nil => rfl
  | cons picked order inductionHypothesis =>
      rw [visited, inductionHypothesis, upTo_cons]

theorem visited_eq_nil_iff : reception.visited order = [] ↔ order = [] := by
  rw [visited_eq_upTo]
  exact upTo_eq_nil_iff

theorem visited_subset : reception.visited order ⊆ order := by
  rw [visited_eq_upTo]
  exact List.take_subset _ order

theorem visited_congr (same : ∀ picked ∈ order, reception picked.index = other picked.index) :
    reception.visited order = other.visited order := by
  induction order with
  | nil => rfl
  | cons picked order inductionHypothesis =>
      rcases List.forall_mem_cons.mp same with ⟨here, behind⟩
      rw [visited, visited, inductionHypothesis behind, visit, visit, here]

/-- Only what becomes of the candidates themselves counts. -/
theorem Tells.congr
    (tells : reception.Tells service generation call payload order nobody told result)
    (same : ∀ picked ∈ order, reception picked.index = other picked.index) :
    other.Tells service generation call payload order nobody told result := by
  have visits := visited_congr same
  have known : ∀ picked ∈ other.visited order, reception picked.index = other picked.index :=
    fun picked member => same picked (visited_subset member)
  refine ⟨?_, ?_, ?_⟩
  · intro picked member
    exact known picked member ▸ tells.suits picked (visits ▸ member)
  · rw [tells.told_eq, Reception.told, Reception.told, visits]
    congr 1
    exact List.flatMap_congr fun picked member => by rw [known picked member]
  · rw [tells.result_eq, Reception.result, Reception.result, visits]
    cases last : (other.visited order).getLast? with
    | none => rfl
    | some picked =>
        have member := List.mem_of_getLast? last
        dsimp only
        rw [visit, visit, known picked member]

theorem tells_nil : reception.Tells service generation call payload [] nobody told result ↔
    told = [⟨.isCancelled, false⟩] ∧ result = .error nobody :=
  ⟨fun tells => ⟨tells.told_eq, tells.result_eq⟩, fun ⟨told, result⟩ => ⟨nofun, told, result⟩⟩

/-- Where the first visit is the last, all is told by it. -/
theorem tells_cons_of_ends (ends : (reception.visit picked).isFinal = false → order = []) :
    reception.Tells service generation call payload (picked :: order) nobody told result ↔
      (reception picked.index).Suits service picked.node ∧
        told = (reception picked.index).told service generation call payload picked ∧
        result = (reception.visit picked).result call := by
  have visits : reception.visited (picked :: order) = [picked] := by
    rw [visited]
    split
    · rfl
    · rw [ends (Bool.eq_false_iff.mpr ‹_›), visited]
  have whole : reception.told service generation call payload (picked :: order) =
      (reception picked.index).told service generation call payload picked := by
    rw [Reception.told, visits, if_neg (List.cons_ne_nil picked order), List.flatMap_singleton]
  have last : reception.result call (picked :: order) nobody =
      (reception.visit picked).result call := by
    rw [Reception.result, visits]
    rfl
  constructor
  · intro tells
    have suits := tells.suits picked (visits ▸ List.mem_singleton_self picked)
    exact ⟨suits, whole ▸ tells.told_eq, last ▸ tells.result_eq⟩
  · rintro ⟨suits, rfl, rfl⟩
    refine ⟨?_, whole.symm, last.symm⟩
    intro other member
    rw [visits, List.mem_singleton] at member
    exact member ▸ suits

/-- Where the call goes on, the others tell the rest. -/
theorem tells_cons_of_onward (onward : (reception.visit picked).isFinal = false)
    (more : order ≠ []) :
    reception.Tells service generation call payload (picked :: order) nobody told result ↔
      (reception picked.index).Suits service picked.node ∧ ∃ later,
        told = (reception picked.index).told service generation call payload picked ++ later ∧
        reception.Tells service generation call payload order nobody later result := by
  have visits : reception.visited (picked :: order) = picked :: reception.visited order := by
    rw [visited, onward]
    rfl
  have whole : reception.told service generation call payload (picked :: order) =
      (reception picked.index).told service generation call payload picked ++
        reception.told service generation call payload order := by
    rw [Reception.told, visits, if_neg (List.cons_ne_nil picked order), List.flatMap_cons,
      Reception.told, if_neg more]
  have last : reception.result call (picked :: order) nobody =
      reception.result call order nobody := by
    rw [Reception.result, visits, List.getLast?_cons_of_ne_nil (visited_eq_nil_iff.not.mpr more),
      Reception.result]
  constructor
  · intro tells
    rcases List.forall_mem_cons.mp (visits ▸ tells.suits) with ⟨suits, others⟩
    exact ⟨suits, _, whole ▸ tells.told_eq, others, rfl, last ▸ tells.result_eq⟩
  · rintro ⟨suits, later, rfl, tells⟩
    refine ⟨?_, ?_, ?_⟩
    · rw [visits]
      exact List.forall_mem_cons.mpr ⟨suits, tells.suits⟩
    · rw [tells.told_eq, whole]
    · rw [tells.result_eq, last]

/-- What becomes of one candidate more comes before what became of the others. -/
theorem Tells.update {welcome : Welcome}
    (tells : reception.Tells service generation call payload order nobody told result)
    (fresh : picked.index ∉ order.map Picked.index) (suits : welcome.Suits service picked.node)
    (onward : (welcome.visit picked.node).isFinal = false) (more : order ≠ []) :
    Tells (Function.update reception picked.index welcome) service generation call payload
      (picked :: order) nobody (welcome.told service generation call payload picked ++ told)
      result := by
  have here : Function.update reception picked.index welcome picked.index = welcome :=
    Function.update_self ..
  refine (tells_cons_of_onward ?_ more).mpr ⟨here.symm ▸ suits, told, ?_, ?_⟩
  · rw [visit, here, onward]
  · rw [here]
  · refine tells.congr fun other member => (Function.update_of_ne ?_ ..).symm
    exact fun same => fresh (same ▸ List.mem_map_of_mem member)

/-! ## Whole rounds -/

/-- A round stops at the first visit that is final. -/
theorem visited_of_final {front rest : List Picked}
    (onward : ∀ earlier ∈ front, (reception.visit earlier).isFinal = false)
    (final : (reception.visit picked).isFinal) :
    reception.visited (front ++ picked :: rest) = front ++ [picked] := by
  rw [visited_eq_upTo]
  exact upTo_of_first onward final

/-- Where none is final, all candidates are visited. -/
theorem visited_of_onward
    (onward : ∀ picked ∈ order, (reception.visit picked).isFinal = false) :
    reception.visited order = order := by
  rw [visited_eq_upTo]
  exact upTo_of_none onward

end Reception

theorem Welcome.credential_ne {welcome : Welcome} {node : ServiceNode} {call : String} :
    welcome.credential node ≠ .error (.allNodesFailed call) := by
  unfold credential provided
  split
  · exact nofun
  · split <;> exact nofun

/-- Only a candidate without a base address makes it seem that all nodes have failed. -/
theorem Welcome.result_visit_eq_iff {welcome : Welcome} {node : ServiceNode} {call : String}
    (answers : welcome.reply ≠ .error (.allNodesFailed call)) :
    (welcome.visit node).result call = .error (.allNodesFailed call) ↔
      node.propertyText? restBaseUrlKey = none := by
  unfold visit
  cases node.propertyText? restBaseUrlKey with
  | none => exact ⟨fun _ => rfl, fun _ => rfl⟩
  | some base =>
      refine ⟨fun failed => ?_, nofun⟩
      change (welcome.served node).result call = _ at failed
      unfold served at failed
      split at failed
      next error shown =>
          cases failed
          exact (credential_ne shown).elim
      next secret shown =>
          rw [Visit.result_ofReply] at failed
          exact (answers failed).elim

theorem Welcome.isFinal_visit_of_none {welcome : Welcome} {node : ServiceNode}
    (unbased : node.propertyText? restBaseUrlKey = none) :
    (welcome.visit node).isFinal = false := by
  rw [visit, unbased]
  rfl

namespace Reception

variable {reception : Reception} {call : String} {picked : Picked} {front order : List Picked}
  {nobody : Error}

theorem result_of_final {rest : List Picked}
    (onward : ∀ earlier ∈ front, (reception.visit earlier).isFinal = false)
    (final : (reception.visit picked).isFinal) :
    reception.result call (front ++ picked :: rest) nobody =
      (reception.visit picked).result call := by
  rw [result, visited_of_final onward final, List.getLast?_concat]

theorem result_of_onward
    (onward : ∀ candidate ∈ front ++ [picked], (reception.visit candidate).isFinal = false) :
    reception.result call (front ++ [picked]) nobody = (reception.visit picked).result call := by
  rw [result, visited_of_onward onward, List.getLast?_concat]

/-- All nodes have failed exactly when the round comes to a last candidate without a base
address. -/
theorem result_eq_iff (answers : ∀ index, (reception index).reply ≠ .error (.allNodesFailed call))
    (known : nobody ≠ .allNodesFailed call) :
    reception.result call order nobody = .error (.allNodesFailed call) ↔
      ∃ front last, order = front ++ [last] ∧
        (∀ earlier ∈ front, (reception.visit earlier).isFinal = false) ∧
        last.node.propertyText? restBaseUrlKey = none := by
  have seems : ∀ picked, (reception.visit picked).result call = .error (.allNodesFailed call) ↔
      picked.node.propertyText? restBaseUrlKey = none :=
    fun picked => Welcome.result_visit_eq_iff (answers picked.index)
  constructor
  · intro failed
    rcases exists_first_or (fun picked => (reception.visit picked).isFinal) order with
      onward | ⟨front, picked, rest, rfl, onward, final⟩
    · rcases List.eq_nil_or_concat order with rfl | ⟨front, last, rfl⟩
      · cases failed
        exact (known rfl).elim
      · rw [List.concat_eq_append] at onward failed ⊢
        rw [result_of_onward onward, seems] at failed
        exact ⟨front, last, rfl, (List.forall_mem_append.mp onward).1, failed⟩
    · rw [result_of_final onward final, seems] at failed
      exact (ne_true_of_eq_false (Welcome.isFinal_visit_of_none failed) final).elim
  · rintro ⟨front, last, rfl, onward, unbased⟩
    rw [result_of_onward, seems]
    · exact unbased
    · have passed : (reception.visit last).isFinal = false :=
        Welcome.isFinal_visit_of_none unbased
      exact List.forall_mem_append.mpr ⟨onward, List.forall_mem_singleton.mpr passed⟩

end Reception

end ExchangeGrid
