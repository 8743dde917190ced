import ExchangeGrid.Config
import ExchangeGrid.Service.Event
import ExchangeGrid.Service.Node
import ExchangeGrid.Service.Reply

namespace ExchangeGrid

/-!
# Programs of a client

What a client does is described as a program: it asks one question of its surroundings, goes on
with the answer, and so forth until it is done.  Every question is one step that nothing comes
between.  The surroundings may be a network, a list of prepared answers, or other programs of the
same client that share its state; what a program does in each of them is told by one definition.
-/

/-- Whose credentials a request carries. -/
inductive Auth
  | configured
  | anonymous
  | basic (user password : String)
  deriving DecidableEq, Repr

/-- The nodes of a service together with a number that every replacement of them raises. -/
structure NodeSet where
  generation : Nat := 0
  nodes : List ServiceNode := []
  deriving Repr

namespace NodeSet

def replace (set : NodeSet) (nodes : List ServiceNode) : NodeSet :=
  ⟨set.generation + 1, nodes⟩

/-- Keep a secret for the node at a position, if the list is still the one the secret was
exchanged under and the node there still has the name. -/
def store (set : NodeSet) (generation index : Nat) (name secret : String) : NodeSet :=
  match set.nodes[index]? with
  | some node =>
    if set.generation = generation ∧ node.name = name then
      { set with nodes := set.nodes.set index { node with secret } }
    else set
  | none => set

end NodeSet

/-- A collection in which a client keeps one instance per key. -/
inductive Registry
  | services
  | carriers
  | endpoints (carrier : Nat)
  deriving DecidableEq, Repr

/-- How a handshake with a message broker fails. -/
inductive HandshakeFailure
  | cancelled
  | fault (text : String)
  deriving DecidableEq, Repr

/-- One step of a program. -/
inductive Question
  /-- Send a payload to a server. -/
  | post (url : String) (payload : Json.Value) (auth : Auth)
  /-- Send later requests as some settings say. -/
  | equip (config : Config)
  /-- Whether the work has been called off. -/
  | isCancelled
  /-- Tell an observer. -/
  | emit (event : Event)
  /-- Let some time pass; the answer says whether the work was called off meanwhile. -/
  | pause (milliseconds : Nat)
  /-- The instance of a key, if there is one. -/
  | find (registry : Registry) (key : String)
  /-- The instance of a key, made if there is none. -/
  | findOrMake (registry : Registry) (key : String)
  /-- All keys with their instances, in the order in which they were made. -/
  | instances (registry : Registry)
  /-- The nodes of a service. -/
  | readNodes (service : Nat)
  /-- Replace the nodes of a service. -/
  | replaceNodes (service : Nat) (nodes : List ServiceNode)
  /-- Keep a secret, if the nodes are still the same. -/
  | storeSecret (service generation index : Nat) (name secret : String)
  /-- Wait for the turn to look up the nodes of a service. -/
  | enterLookup (service : Nat)
  /-- Give the turn to the next. -/
  | leaveLookup (service : Nat)
  /-- Wait for the turn to use an endpoint for messages. -/
  | enterEndpoint (endpoint : Nat) (patient : Bool)
  /-- Give the turn to the next. -/
  | leaveEndpoint (endpoint : Nat)
  /-- The session that an endpoint keeps. -/
  | readSession (endpoint : Nat)
  /-- Keep a session, or none. -/
  | keepSession (endpoint : Nat) (session : Option Nat)
  /-- Open a socket and start to relay between it and a new session. -/
  | dial (url user secret : String)
  /-- Whether a session has ended. -/
  | isClosed (session : Nat)
  /-- Whether the far end of a session answers in time. -/
  | probe (session : Nat)
  /-- Exchange the first frames of a session. -/
  | handshake (session : Nat) (host : String)
  /-- Stop to relay, and say what went wrong in that. -/
  | close (session : Nat)
  /-- Let a session go without waiting for it. -/
  | release (session : Nat)
  /-- Say farewell on a session; the answer says whether that went out. -/
  | farewell (session : Nat)
  /-- Wait a little for a session to end. -/
  | awaitEnd (session : Nat)
  /-- Subscribe to a topic on a session. -/
  | subscribe (session : Nat) (topic : String)
  /-- Take a subscription back. -/
  | unsubscribe (session : Nat) (subscription : String)

@[reducible] def Question.Answer : Question → Type
  | post _ _ _ => Except Error Reply
  | isCancelled | pause _ | isClosed _ | probe _ | farewell _ => Bool
  | find _ _ | readSession _ => Option Nat
  | findOrMake _ _ => Nat
  | instances _ => List (String × Nat)
  | readNodes _ => NodeSet
  | equip _ | enterLookup _ | enterEndpoint _ _ => Except Error Unit
  | dial _ _ _ => Except Error Nat
  | handshake _ _ => Except HandshakeFailure Unit
  | close _ => Option String
  | subscribe _ _ => Except String String
  | unsubscribe _ _ => Except String Unit
  | emit _ | replaceNodes _ _ | storeSecret _ _ _ _ _ | leaveLookup _ | leaveEndpoint _
  | keepSession _ _ | release _ | awaitEnd _ => Unit

/-- A program: done, or a question with what follows each answer. -/
inductive Program (α : Type) : Type
  | done (value : α)
  | ask (question : Question) (next : question.Answer → Program α)

namespace Program

/-- Go on with another program once the first is done. -/
def andThen {α β : Type} : Program α → (α → Program β) → Program β
  | done value, next => next value
  | ask question rest, next => ask question fun answer => (rest answer).andThen next

instance : Monad Program where
  pure := done
  bind := andThen

def question (q : Question) : Program q.Answer :=
  ask q done

end Program

/-- A program that may fail. -/
abbrev Action := ExceptT Error Program

namespace Action

/-- Ask a question that cannot fail. -/
def ask (q : Question) : Action q.Answer :=
  ExceptT.lift (Program.question q)

/-- A program that answers success or failure, as one that may fail. -/
def attempt {α : Type} (program : Program (Except Error α)) : Action α :=
  ExceptT.mk program

def ofExcept {α : Type} (result : Except Error α) : Action α :=
  ExceptT.mk (pure result)

/-- What an action comes to, failure included. -/
def outcome {α : Type} (action : Action α) : Action (Except Error α) :=
  ExceptT.lift action.run

/-- Tell an observer. -/
def emit (event : Event) : Action Unit :=
  ask (.emit event)

def checkCancelled : Action Unit := do
  if ← ask .isCancelled then throw .cancelled

def post (url : String) (payload : Json.Value) (auth : Auth) : Action Reply :=
  attempt (Program.question (.post url payload auth))

/-- The one instance of a key: looked for first, and made only if there is none. -/
def instanceOf (registry : Registry) (key : String) : Action Nat := do
  match ← ask (.find registry key) with
  | some found => pure found
  | none => ask (.findOrMake registry key)

end Action
end ExchangeGrid
