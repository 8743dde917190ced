import ExchangeGrid.Stomp.Session

namespace ExchangeGrid
namespace Rehearsal

/-!
# A broker for rehearsals

A session with a broker at its other end that does nothing by itself.  After everything that
happens, reader and writer of the session work until both wait, and what has come out on the wire
can be looked at.  Subscriptions are numbered as they are made, and known by their numbers.
-/

def subscriptionId (number : Nat) : String :=
  "<sub" ++ toString number ++ ">"

/-- The mark on a farewell. -/
def receiptId : String := "<uuid>"

/-- What happens in a rehearsal. -/
inductive Cue
  | subscribe (destination : String)
  | unsubscribe (id : String)
  | disconnect
  | dropSession
  | send (bytes : List UInt8)
  | leave
  | close
  | receive (number : Nat)
  | receiveAll (number : Nat)
  | dropReceiver (number : Nat)
  | nothing

/-- What comes of it. -/
inductive Finding
  | done
  | refused
  | gone
  | fault (fault : Stomp.Fault)
  | subscribed (number : Nat) (destination : String)
  | heard (heard : Bool)
  | delivery (item : Stomp.Delivery)
  | deliveries (items : List Stomp.Delivery)
  | pending
  | ended

/-- A session and the broker at its other end.  For each subscription that was made, `receivers`
says whether it is still there. -/
structure Broker where
  session : Stomp.Session
  receivers : List Bool := []
  isPresent : Bool := true
  hasClosed : Bool := false
  seen : Nat := 0
  hasSeenEnd : Bool := false

/-- What came out on the wire since the last look. -/
structure Wire where
  bytes : List UInt8
  ended : Bool

namespace Broker

/-- A broker that has accepted a session, with the bytes it sent behind its first frame. -/
def accepted (rest : List UInt8) (ended : Bool) : Broker :=
  let session := Stomp.Session.opened rest
  { session := (if ended then session.endInput else session).settle
    hasClosed := ended }

/-- Change the session and let it come to rest. -/
def alter (broker : Broker) (change : Stomp.Session → Stomp.Session) : Broker :=
  { broker with session := (change broker.session).settle }

/-- Whether the other side takes what the broker sends. -/
def isHeard (broker : Broker) : Bool :=
  broker.isPresent && !broker.hasClosed &&
    !(broker.session.writer == .ended && broker.session.reader == .ended)

def call (broker : Broker) (call : Stomp.Session.Call) (finding : Finding) : Finding × Broker :=
  let (session, result) := broker.session.perform call
  let broker := { broker with session := session.settle }
  match result with
  | some (.ok ()) => (finding, broker)
  | some (.error fault) => (.fault fault, broker)
  | none => (.pending, broker)

/-- Subscribe under the next number. -/
def subscribe (broker : Broker) (destination : String) : Finding × Broker :=
  let number := broker.receivers.length
  match broker.call (.subscribe (subscriptionId number) destination) .done with
  | (.done, broker) =>
    (.subscribed number destination, { broker with receivers := broker.receivers ++ [true] })
  | failed => failed

def hasReceiver (broker : Broker) (number : Nat) : Bool :=
  (broker.receivers[number]?).getD false

def dropReceiver (broker : Broker) (number : Nat) : Broker :=
  { broker with
    session := broker.session.dropReceiver (subscriptionId number)
    receivers := broker.receivers.set number false }

def receive (broker : Broker) (number : Nat) : Finding × Broker :=
  let id := subscriptionId number
  match broker.session.receive? id with
  | some (item, session) => (.delivery item, { broker with session })
  | none => (if broker.session.hasEnded id then .ended else .pending, broker)

def waiting (broker : Broker) (number : Nat) : List Stomp.Delivery :=
  ((broker.session.channel? (subscriptionId number)).map Stomp.Channel.waiting).getD []

def play (broker : Broker) : Cue → Finding × Broker
  | .subscribe destination =>
    if broker.session.dropped then (.refused, broker) else broker.subscribe destination
  | .unsubscribe id =>
    if broker.session.dropped then (.refused, broker) else broker.call (.unsubscribe id) .done
  | .disconnect =>
    if broker.session.dropped then (.refused, broker) else broker.call (.disconnect receiptId) .done
  | .dropSession =>
    if broker.session.dropped then (.refused, broker)
    else (.done, broker.alter Stomp.Session.drop)
  | .send bytes =>
    if broker.isHeard then (.heard true, broker.alter (·.arrive bytes)) else (.heard false, broker)
  | .leave => (.done, { broker.alter Stomp.Session.endInput with isPresent := false })
  | .close => (.done, { broker.alter Stomp.Session.endInput with hasClosed := true })
  | .receive number =>
    if broker.hasReceiver number then broker.receive number else (.gone, broker)
  | .receiveAll number =>
    if broker.hasReceiver number then
      (.deliveries (broker.waiting number), broker.dropReceiver number)
    else (.gone, broker)
  | .dropReceiver number => (.done, broker.dropReceiver number)
  | .nothing => (.done, broker)

def look (broker : Broker) : Wire × Broker :=
  let ended := broker.session.writer == .ended
  if broker.isPresent then
    (⟨(broker.session.written.drop broker.seen).flatMap Stomp.encode, ended && !broker.hasSeenEnd⟩,
      { broker with seen := broker.session.written.length, hasSeenEnd := ended })
  else (⟨[], false⟩, broker)

end Broker
end Rehearsal
end ExchangeGrid
