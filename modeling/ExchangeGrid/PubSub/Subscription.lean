import ExchangeGrid.PubSub.Message

namespace ExchangeGrid
namespace PubSub

/-!
# Subscriptions

A subscription takes what the session below delivers, makes a message of each delivery and puts it
into a queue of its own, from which its user receives.  The session's channel has no limit; the
queue has one, and while it is full the translator holds on to the message that it has made.

The steps of the translator, of the user and of the session can come in any order.  The user asks
for messages as long as there are any: to drop a subscription, or to unsubscribe from it, is the end
of what is described here.
-/

/-- How many messages may wait for the user. -/
def messageLimit : Nat := 64

/-- What the translator does.  It holds on to a message between making it and putting it into the
queue. -/
inductive Translator (Body : Type)
  | waiting
  | handing (message : Message Body)
  | finished

/-- A subscription over a session.  `received` has the messages that the user has received, and
`ended` says whether the user was told that there will be no more. -/
structure Subscription (Body : Type) where
  id : String
  scene : Stomp.Session.Scene
  translator : Translator Body := .waiting
  queue : List (Message Body) := []
  received : List (Message Body) := []
  ended : Bool := false

namespace Subscription

variable {Body : Type}

def start (id : String) (scene : Stomp.Session.Scene) : Subscription Body :=
  { id, scene }

/-- Whether an event is one that only the owner of the channel brings about: to receive from it, or
to stop to receive. -/
def IsOwn (id : String) (event : Stomp.Session.Event) : Prop :=
  event = .receive id ∨ event = .dropReceiver id

instance (id : String) (event : Stomp.Session.Event) : Decidable (IsOwn id event) :=
  inferInstanceAs (Decidable (_ ∨ _))

/-- What happens next: an event of the session below, a step of the translator or one of the
user. -/
inductive Move
  | below (event : Stomp.Session.Event)
  | translate
  | hand
  | finish
  | receive
  | seeEnd
  deriving DecidableEq, Repr

/-- Something happens to the session.  Its channel is left to the translator. -/
def below? (subscription : Subscription Body) (event : Stomp.Session.Event) :
    Option (Subscription Body) :=
  if IsOwn subscription.id event then none
  else (subscription.scene.after? event).map fun scene => { subscription with scene }

/-- The translator receives the next delivery and makes a message of it. -/
def translate? (decode : Decoder Body) (subscription : Subscription Body) :
    Option (Subscription Body) :=
  match subscription.translator with
  | .waiting =>
    (subscription.scene.session.receive? subscription.id).map fun (item, session) =>
      { subscription with
        scene := { subscription.scene with session }
        translator := .handing (.ofDelivery decode item) }
  | _ => none

/-- The translator puts its message into the queue, where there is room. -/
def hand? (subscription : Subscription Body) : Option (Subscription Body) :=
  match subscription.translator with
  | .handing message =>
    if subscription.queue.length < messageLimit then
      some { subscription with
        queue := subscription.queue ++ [message]
        translator := .waiting }
    else none
  | _ => none

def pending (subscription : Subscription Body) : List Stomp.Delivery :=
  ((subscription.scene.session.channel? subscription.id).map Stomp.Channel.waiting).getD []

/-- The translator sees that nothing more can come. -/
def finish? (subscription : Subscription Body) : Option (Subscription Body) :=
  match subscription.translator with
  | .waiting =>
    if subscription.pending.isEmpty && subscription.scene.session.hasEnded subscription.id then
      some { subscription with translator := .finished }
    else none
  | _ => none

def receive? (subscription : Subscription Body) : Option (Subscription Body) :=
  match subscription.queue with
  | message :: queue =>
    some { subscription with queue, received := subscription.received ++ [message] }
  | [] => none

/-- The user is told that there are no more messages. -/
def seeEnd? (subscription : Subscription Body) : Option (Subscription Body) :=
  match subscription.translator, subscription.queue with
  | .finished, [] => some { subscription with ended := true }
  | _, _ => none

def after? (decode : Decoder Body) (subscription : Subscription Body) :
    Move → Option (Subscription Body)
  | .below event => subscription.below? event
  | .translate => subscription.translate? decode
  | .hand => subscription.hand?
  | .finish => subscription.finish?
  | .receive => subscription.receive?
  | .seeEnd => subscription.seeEnd?

def run? (decode : Decoder Body) (subscription : Subscription Body) (moves : List Move) :
    Option (Subscription Body) :=
  moves.foldlM (after? decode) subscription

end Subscription
end PubSub
end ExchangeGrid
