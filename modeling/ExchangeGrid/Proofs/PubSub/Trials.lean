import ExchangeGrid.Proofs.Dispatch.Failover
import ExchangeGrid.Proofs.PubSub.Courses
import ExchangeGrid.PubSub.Subscribe

namespace ExchangeGrid
namespace PubSub

open ExchangeGrid.Action

/-!
# Subscribing on one node

To subscribe on a node takes four steps, and each of them can fail: the node has to say where it
takes connections, a secret is exchanged with it unless one is kept, a session with it is got, and
on that the topic is subscribed to.

A `Trial` says how each of these steps comes out, and from it alone `Trial.told` and `Trial.outcome`
say what is asked and what comes of it.  `yields_subscribeOn` states that these are all the ways in
which it can go.
-/

/-! ## Step by step -/

/-- Whether an endpoint is known, or made because none is. -/
inductive Place
  | known (id : Nat)
  | made (id : Nat)

namespace Place

def endpoint (url : String) : Place → Endpoint
  | known id | made id => ⟨id, url⟩

/-- What is said until there is an endpoint. -/
def told (carrier : Carrier) (url : String) : Place → List Answered
  | known id => [⟨.find (.endpoints carrier.dispatcher.id) url, some id⟩]
  | made id => [⟨.find (.endpoints carrier.dispatcher.id) url, none⟩,
      ⟨.findOrMake (.endpoints carrier.dispatcher.id) url, id⟩]

end Place

/-- How it comes out to subscribe with a secret to show: the course of the connection, and how the
session answers if there is one. -/
structure Joining where
  course : Course
  reply : Except String String

namespace Joining

def subscribed (session : Nat) (topic : String) : Except String String → Except Error Subscribed
  | .ok id => .ok ⟨session, id, topic⟩
  | .error fault => .error (.stomp ("subscribe " ++ topic ++ ": " ++ fault))

def result (joining : Joining) (endpoint : Endpoint) (topic : String) : Except Error Subscribed :=
  match joining.course.result endpoint with
  | .error error => .error error
  | .ok session => subscribed session topic joining.reply

def told (joining : Joining) (endpoint : Endpoint) (topic user secret : String) : List Answered :=
  joining.course.told endpoint user secret ++
    match joining.course.result endpoint with
    | .error _ => []
    | .ok session => [⟨.subscribe session topic, joining.reply⟩]

end Joining

/-- A candidate and what becomes of it.  Steps that are not reached do not count. -/
structure Trial where
  picked : Picked
  place : Place
  posts : List Answered
  secret : Except Error String
  joining : Joining

namespace Trial

/-- A secret is got as for a call. -/
def welcome (trial : Trial) : Welcome :=
  ⟨trial.posts, trial.secret, .error .noNodes⟩

def credential (trial : Trial) : Except Error String :=
  trial.welcome.credential trial.picked.node

def outcome (trial : Trial) (topic : String) : Except Error Subscribed :=
  match Carrier.urlOf trial.picked.node with
  | .error error => .error error
  | .ok url =>
    match trial.credential with
    | .error error => .error error
    | .ok _ => trial.joining.result (trial.place.endpoint url) topic

def told (trial : Trial) (carrier : Carrier) (generation : Nat) (topic : String) :
    List Answered :=
  match Carrier.urlOf trial.picked.node with
  | .error _ => []
  | .ok url =>
    trial.place.told carrier url ++
      (trial.welcome.secretTold carrier.dispatcher generation trial.picked ++
        match trial.credential with
        | .error _ => []
        | .ok secret =>
          trial.joining.told (trial.place.endpoint url) topic carrier.dispatcher.control.nodeName
            secret)

/-- A secret is exchanged as the control plane does it, where a node that says where it takes
connections needs one. -/
def Suits (trial : Trial) (carrier : Carrier) : Prop :=
  ∀ url, Carrier.urlOf trial.picked.node = .ok url → trial.picked.node.hasSecret = false →
    (carrier.dispatcher.control.exchangeSecret trial.picked.node.name).Yields trial.posts
      trial.secret

end Trial

namespace Carrier

/-! ## All ways -/

variable {carrier : Carrier} {generation : Nat} {picked : Picked} {topic url secret : String}
  {told : List Answered} {result : Except Error Subscribed}

theorem yields_endpoint {result : Except Error Endpoint} :
    (carrier.endpoint url).Yields told result ↔
      ∃ place : Place, told = place.told carrier url ∧ result = .ok (place.endpoint url) := by
  constructor
  · rintro ⟨found, _, rfl, yields⟩
    cases found with
    | some id =>
        rcases yields with ⟨rfl, rfl⟩
        exact ⟨.known id, rfl, rfl⟩
    | none =>
        rcases yields with ⟨id, _, rfl, rfl, rfl⟩
        exact ⟨.made id, rfl, rfl⟩
  · rintro ⟨place, rfl, rfl⟩
    cases place with
    | known id => exact ⟨some id, [], rfl, rfl, rfl⟩
    | made id => exact ⟨none, _, rfl, id, [], rfl, rfl, rfl⟩

def ask (topic : String) (session : Nat) : Action Subscribed := do
  match ← Action.ask (.subscribe session topic) with
  | .ok id => pure ⟨session, id, topic⟩
  | .error fault => throw (.stomp ("subscribe " ++ topic ++ ": " ++ fault))

/-- Subscribe with a secret to show. -/
def join (carrier : Carrier) (endpoint : Endpoint) (topic secret : String) : Action Subscribed := do
  ask topic (← endpoint.connect carrier.dispatcher.control.nodeName secret)

/-- Subscribe on a node that says where it takes connections. -/
def meet (carrier : Carrier) (generation : Nat) (picked : Picked) (topic url : String) :
    Action Subscribed := do
  let endpoint ← carrier.endpoint url
  let secret ← carrier.dispatcher.secretOf generation picked.index picked.node
  carrier.join endpoint topic secret

theorem yields_ask {session : Nat} : (ask topic session).Yields told result ↔
    ∃ reply, told = [⟨.subscribe session topic, reply⟩] ∧
      result = Joining.subscribed session topic reply := by
  constructor
  · rintro ⟨reply, later, rfl, yields⟩
    cases reply <;> rcases yields with ⟨rfl, rfl⟩ <;> exact ⟨_, rfl, rfl⟩
  · rintro ⟨reply, rfl, rfl⟩
    cases reply <;> exact ⟨_, [], rfl, rfl, rfl⟩

theorem yields_join {endpoint : Endpoint} :
    (carrier.join endpoint topic secret).Yields told result ↔
      ∃ joining : Joining,
        told = joining.told endpoint topic carrier.dispatcher.control.nodeName secret ∧
        result = joining.result endpoint topic := by
  unfold join Joining.told Joining.result
  rw [yields_bind]
  constructor
  · rintro ⟨_, back, _, rfl, connects, rest⟩
    rcases Endpoint.yields_connect.mp connects with ⟨course, rfl, rfl⟩
    cases got : course.result endpoint with
    | error error =>
        rw [got] at rest
        rcases rest with ⟨rfl, rfl⟩
        refine ⟨⟨course, .error ""⟩, ?_, ?_⟩ <;> rw [got]
    | ok session =>
        rw [got] at rest
        rcases yields_ask.mp rest with ⟨reply, rfl, rfl⟩
        refine ⟨⟨course, reply⟩, ?_, ?_⟩ <;> rw [got]
  · rintro ⟨⟨course, reply⟩, rfl, rfl⟩
    refine ⟨_, _, _, rfl, Endpoint.yields_connect.mpr ⟨course, rfl, rfl⟩, ?_⟩
    cases course.result endpoint with
    | error error => exact ⟨rfl, rfl⟩
    | ok session => exact yields_ask.mpr ⟨reply, rfl, rfl⟩

/-- A node that says where it takes connections is met. -/
theorem yields_meet (usable : urlOf picked.node = .ok url) :
    (carrier.meet generation picked topic url).Yields told result ↔
      ∃ trial : Trial, trial.picked = picked ∧ trial.Suits carrier ∧
        told = trial.told carrier generation topic ∧ result = trial.outcome topic := by
  unfold meet
  constructor
  · intro yields
    rcases yields_bind.mp yields with ⟨_, _, _, rfl, looked, yields⟩
    rcases yields_endpoint.mp looked with ⟨place, rfl, rfl⟩
    rcases yields_bind.mp yields with ⟨_, later, _, rfl, given, rest⟩
    rcases Dispatcher.yields_secretOf.mp given with ⟨posts, secret, exchanges, rfl, rfl⟩
    let before : Joining → Trial := fun joining => ⟨picked, place, posts, secret, joining⟩
    have suits (joining : Joining) : (before joining).Suits carrier := fun _ _ => exchanges
    cases shown : Welcome.credential ⟨posts, secret, .error .noNodes⟩ picked.node with
    | error error =>
        rw [shown] at rest
        rcases rest with ⟨rfl, rfl⟩
        have refused (joining : Joining) : (before joining).credential = .error error := shown
        refine ⟨before ⟨.turnedAway error, .error ""⟩, rfl, suits _, ?_, ?_⟩
        · simp only [Trial.told, before, usable, refused]
          rfl
        · simp only [Trial.outcome, before, usable, refused]
    | ok credential =>
        rw [shown] at rest
        rcases yields_join.mp rest with ⟨joining, rfl, rfl⟩
        have granted : (before joining).credential = .ok credential := shown
        refine ⟨before joining, rfl, suits _, ?_, ?_⟩
        · simp only [Trial.told, before, usable, granted]
          rfl
        · simp only [Trial.outcome, before, usable, granted]
  · rintro ⟨trial, rfl, suits, rfl, rfl⟩
    rw [Trial.told, Trial.outcome, usable]
    dsimp only
    refine yields_bind.mpr ⟨_, _, _, rfl, yields_endpoint.mpr ⟨trial.place, rfl, rfl⟩, ?_⟩
    have given : (carrier.dispatcher.secretOf generation trial.picked.index
        trial.picked.node).Yields
          (trial.welcome.secretTold carrier.dispatcher generation trial.picked)
          trial.credential :=
      Dispatcher.yields_secretOf.mpr ⟨trial.posts, trial.secret, suits url usable, rfl, rfl⟩
    refine yields_bind.mpr ⟨_, _, _, rfl, given, ?_⟩
    cases trial.credential with
    | error error => exact ⟨rfl, rfl⟩
    | ok secret => exact yields_join.mpr ⟨trial.joining, rfl, rfl⟩

/-- To subscribe on a node goes in one of the ways that there are, and each is one in which it can
go. -/
theorem yields_subscribeOn :
    (carrier.subscribeOn generation picked topic).Yields told result ↔
      ∃ trial : Trial, trial.picked = picked ∧ trial.Suits carrier ∧
        told = trial.told carrier generation topic ∧ result = trial.outcome topic := by
  have steps : carrier.subscribeOn generation picked topic =
      Action.ofExcept (urlOf picked.node) >>= carrier.meet generation picked topic := rfl
  rw [steps]
  cases usable : urlOf picked.node with
  | ok url => exact yields_meet usable
  | error error =>
      constructor
      · rintro ⟨rfl, rfl⟩
        refine ⟨⟨picked, .known 0, [], .error error, ⟨.turnedAway error, .error ""⟩⟩, rfl, ?_, ?_, ?_⟩
        · intro url other
          rw [usable] at other
          cases other
        · rw [Trial.told, usable]
        · rw [Trial.outcome, usable]
      · rintro ⟨trial, rfl, -, rfl, rfl⟩
        rw [Trial.told, Trial.outcome, usable]
        exact ⟨rfl, rfl⟩

end Carrier
end PubSub
end ExchangeGrid
