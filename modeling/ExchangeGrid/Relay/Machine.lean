import ExchangeGrid.Relay.Cutter
import ExchangeGrid.Relay.Message

namespace ExchangeGrid

/-!
# A byte stream over a socket of messages

A relay joins a socket that carries messages to a pipe that carries bytes.  Its reader passes the
data of every message into the pipe; its writer cuts what comes out of the pipe into frames, sends
each as one message, and sends a ping from time to time.  A pong moves the reader's deadline, and
when the deadline comes the relay gives up.

Each definition below is one step that nothing comes between.  While the reader passes data into a
full pipe it does nothing else: it looks neither at its deadline nor at the sign to stop.

The writer's cutter is the one that adds whole numbers, as times and counts are whole numbers here.
`Cutter.pushWords` is the one that adds words; what a lost sum does to a relay is said where its
runs are accounted for.
-/

namespace Relay

def pipeCapacity : Nat := 64 * 1024

/-- How many bytes the writer takes out of the pipe at once. -/
def chunkLimit : Nat := 8 * 1024

/-- How many requests for a ping may wait. -/
def requestLimit : Nat := 4

/-- What the reader does. -/
inductive Reader
  | reading
  | passing (rest : List UInt8)
  | stopped
  deriving DecidableEq, Repr

/-- What the writer does; in the end it knows how closing the socket went. -/
inductive Writer
  | running
  | closing
  | stopped (failure : Option String)
  deriving DecidableEq, Repr

/-- How the messages of the other side come to an end. -/
inductive InboxEnd
  | lost
  | broken
  deriving DecidableEq, Repr

end Relay

/-- The state of a relay.  `arrived`, `offered` and `written` keep everything that ever came in
from the socket, was put into the pipe for the client, and was written by the client; the counters
beside them say how much of it was taken out again. -/
structure Relay where
  pongWait : Nat
  pingPeriod : Nat
  now : Nat := 0
  cancelled : Bool := false
  arrived : List Relay.Message := []
  taken : Nat := 0
  inboxEnd : Option Relay.InboxEnd := none
  sent : List Relay.Message := []
  hasSentClose : Bool := false
  hasSeenLoss : Bool := false
  peerIsGone : Bool := false
  reader : Relay.Reader := .reading
  deadline : Nat
  pongs : Nat := 0
  writer : Relay.Writer := .running
  cutter : Relay.Cutter := {}
  nextPing : Nat
  requests : Nat := 0
  offered : List UInt8 := []
  received : Nat := 0
  written : List UInt8 := []
  drained : Nat := 0
  clientIsGone : Bool := false

namespace Relay

/-- A new relay, for a time to wait for pongs and a time between pings. -/
def start (pongWait pingPeriod : Nat) : Relay where
  pongWait
  pingPeriod
  deadline := pongWait
  nextPing := pingPeriod

/-- The messages that have arrived and were not read. -/
def inbox (relay : Relay) : List Message :=
  relay.arrived.drop relay.taken

def available (relay : Relay) : List UInt8 :=
  relay.offered.drop relay.received

/-- The bytes that the client has written and the writer has not taken. -/
def outgoing (relay : Relay) : List UInt8 :=
  relay.written.drop relay.drained

/-- Whether both halves have stopped, so that pipe and socket are gone. -/
def isDown (relay : Relay) : Bool :=
  match relay.reader, relay.writer with
  | .stopped, .stopped _ => true
  | _, _ => false

/-- Send messages, which nobody sees when the other side is gone. -/
def post (relay : Relay) (messages : List Message) : Relay :=
  if relay.peerIsGone then relay else { relay with sent := relay.sent ++ messages }

/-! ## What comes from outside -/

def arrive (relay : Relay) (message : Message) : Relay :=
  { relay with arrived := relay.arrived ++ [message] }

/-- Something arrives that is no message. -/
def breakInbox (relay : Relay) : Relay :=
  { relay with inboxEnd := relay.inboxEnd.or (some .broken) }

def losePeer (relay : Relay) : Relay :=
  { relay with inboxEnd := relay.inboxEnd.or (some .lost), peerIsGone := true }

def write (relay : Relay) (bytes : List UInt8) : Relay :=
  { relay with written := relay.written ++ bytes }

def receive (relay : Relay) (count : Nat) : Relay :=
  { relay with received := relay.received + min count relay.available.length }

def loseClient (relay : Relay) : Relay :=
  { relay with clientIsGone := true }

/-- Someone asks for a ping, which has to wait while too many others do. -/
def request? (relay : Relay) : Option Relay :=
  if relay.writer = .running ∧ relay.requests < requestLimit then
    some { relay with requests := relay.requests + 1 }
  else none

def cancel (relay : Relay) : Relay :=
  { relay with cancelled := true }

def pass (relay : Relay) (milliseconds : Nat) : Relay :=
  { relay with now := relay.now + milliseconds }

/-! ## The reader -/

/-- The reader stops, and with it the relay. -/
def stopReader (relay : Relay) : Relay :=
  { relay with reader := .stopped, cancelled := true }

/-- What a message makes the reader do. -/
def take (relay : Relay) : Message → Relay
  | .binary data | .text data => { relay with reader := .passing data }
  | .ping data => if relay.hasSentClose then relay else relay.post [.pong data]
  | .pong _ => { relay with deadline := relay.now + relay.pongWait, pongs := relay.pongs + 1 }
  | .close data =>
    if relay.hasSentClose then relay.stopReader
    else { (relay.post [.close (closeReply data)]).stopReader with hasSentClose := true }

/-- The reader reads the next message, or learns that there is none any more. -/
def read? (relay : Relay) : Option Relay :=
  match relay.reader, relay.inbox, relay.inboxEnd with
  | .reading, message :: _, _ => some ({ relay with taken := relay.taken + 1 }.take message)
  | .reading, [], some kind => some { relay.stopReader with hasSeenLoss := kind == .lost }
  | _, _, _ => none

/-- The reader puts as much data into the pipe as fits. -/
def fill? (relay : Relay) : Option Relay :=
  match relay.reader with
  | .passing [] => some { relay with reader := .reading }
  | .passing rest =>
    if relay.clientIsGone then some relay.stopReader
    else
      let room := pipeCapacity - relay.available.length
      if room = 0 then none
      else some { relay with
        offered := relay.offered ++ rest.take room
        reader := .passing (rest.drop room) }
  | _ => none

/-- The reader's deadline has come. -/
def giveUp? (relay : Relay) : Option Relay :=
  if relay.reader = .reading ∧ relay.deadline ≤ relay.now then some relay.stopReader else none

def obeyReader? (relay : Relay) : Option Relay :=
  if relay.reader = .reading ∧ relay.cancelled then some relay.stopReader else none

/-! ## The writer -/

def stopWriter (relay : Relay) : Relay :=
  { relay with writer := .closing, cancelled := true }

/-- The writer sends messages, or stops when that fails. -/
def send (relay : Relay) (messages : List Message) : Relay :=
  if relay.peerIsGone && !messages.isEmpty then relay.stopWriter else relay.post messages

/-- The writer takes some bytes out of the pipe and sends the frames that are whole by now. -/
def takeBytes? (relay : Relay) (count : Nat) : Option Relay :=
  let bytes := relay.outgoing.take (min count chunkLimit)
  if relay.writer = .running ∧ bytes ≠ [] then
    let cut := relay.cutter.push bytes
    some ({ relay with
      drained := relay.drained + bytes.length
      cutter := ⟨cut.pending⟩ }.send (cut.messages.map .binary))
  else none

/-- The writer learns that the client is gone. -/
def endOutgoing? (relay : Relay) : Option Relay :=
  if relay.writer = .running ∧ relay.clientIsGone ∧ relay.outgoing = [] then
    some relay.stopWriter
  else none

def ping? (relay : Relay) : Option Relay :=
  if relay.writer = .running ∧ relay.nextPing ≤ relay.now then
    some ({ relay with nextPing := relay.nextPing + relay.pingPeriod }.send [.ping []])
  else none

def answerRequest? (relay : Relay) : Option Relay :=
  if relay.writer = .running ∧ 0 < relay.requests then
    some ({ relay with requests := relay.requests - 1 }.send [.ping []])
  else none

def obeyWriter? (relay : Relay) : Option Relay :=
  if relay.writer = .running ∧ relay.cancelled then some relay.stopWriter else none

/-- What is reported when a socket cannot be closed. -/
def closingFailure : String := "IO error: broken pipe"

/-- The writer closes the socket, unless that has been done. -/
def close? (relay : Relay) : Option Relay :=
  match relay.writer with
  | .closing =>
    if relay.hasSentClose || relay.hasSeenLoss then some { relay with writer := .stopped none }
    else if relay.peerIsGone then some { relay with writer := .stopped (some closingFailure) }
    else
      some { relay.post [.close []] with hasSentClose := true, writer := .stopped none }
  | _ => none

/-! ## Any order of steps -/

inductive ReaderMove
  | read
  | fill
  | giveUp
  | obey
  deriving DecidableEq, Repr

inductive WriterMove
  | takeBytes (count : Nat)
  | endOutgoing
  | ping
  | answerRequest
  | obey
  | close
  deriving DecidableEq, Repr

def moveReader? (relay : Relay) : ReaderMove → Option Relay
  | .read => relay.read?
  | .fill => relay.fill?
  | .giveUp => relay.giveUp?
  | .obey => relay.obeyReader?

def moveWriter? (relay : Relay) : WriterMove → Option Relay
  | .takeBytes count => relay.takeBytes? count
  | .endOutgoing => relay.endOutgoing?
  | .ping => relay.ping?
  | .answerRequest => relay.answerRequest?
  | .obey => relay.obeyWriter?
  | .close => relay.close?

/-- What happens next: a move of the reader or of the writer, or something from outside. -/
inductive Event
  | reader (move : ReaderMove)
  | writer (move : WriterMove)
  | arrive (message : Message)
  | breakInbox
  | losePeer
  | write (bytes : List UInt8)
  | receive (count : Nat)
  | loseClient
  | request
  | cancel
  | pass (milliseconds : Nat)
  deriving DecidableEq, Repr

def after? (relay : Relay) : Event → Option Relay
  | .reader move => relay.moveReader? move
  | .writer move => relay.moveWriter? move
  | .arrive message => if relay.inboxEnd.isSome then none else some (relay.arrive message)
  | .breakInbox => some relay.breakInbox
  | .losePeer => some relay.losePeer
  | .write bytes => if relay.clientIsGone then none else some (relay.write bytes)
  | .receive count => some (relay.receive count)
  | .loseClient => some relay.loseClient
  | .request => relay.request?
  | .cancel => some relay.cancel
  | .pass milliseconds => some (relay.pass milliseconds)

def run? (relay : Relay) (events : List Event) : Option Relay :=
  events.foldlM after? relay

/-! ## One order of steps -/

/-- A step of the reader or the writer, when there is one. -/
def background? (relay : Relay) : Option Relay :=
  relay.fill? <|> relay.read? <|> relay.giveUp? <|> relay.obeyReader? <|>
    relay.takeBytes? chunkLimit <|> relay.endOutgoing? <|> relay.ping? <|> relay.answerRequest? <|>
    relay.obeyWriter? <|> relay.close?

/-- Whether reader and writer have nothing to do until something comes from outside. -/
def isIdle (relay : Relay) : Bool :=
  relay.background?.isNone

/-- Let reader and writer work until both wait, or for so many steps. -/
def settleWithin : Nat → Relay → Relay
  | 0, relay => relay
  | fuel + 1, relay =>
    match relay.background? with
    | some next => settleWithin fuel next
    | none => relay

/-- How many steps reader and writer make at most until both wait. -/
def patience (relay : Relay) : Nat :=
  3 * relay.inbox.length + relay.outgoing.length + relay.requests +
    (relay.now - relay.nextPing) + 16

def settle (relay : Relay) : Relay :=
  relay.settleWithin relay.patience

/-- The next time at which something happens by itself. -/
def nextAlarm? (relay : Relay) : Option Nat :=
  let deadline := if relay.reader = .reading then some relay.deadline else none
  let ping := if relay.writer = .running then some relay.nextPing else none
  match deadline, ping with
  | some deadline, some ping => some (min deadline ping)
  | alarm, none | none, alarm => alarm

/-- Let time pass up to some moment, from alarm to alarm, as long as something goes on. -/
def waitWithin : Nat → (until_ : Nat) → (stop : Relay → Bool) → Relay → Relay
  | 0, _, _, relay => relay
  | fuel + 1, until_, stop, relay =>
    if stop relay then relay
    else
      match relay.nextAlarm? with
      | some alarm =>
        if alarm ≤ until_ then
          waitWithin fuel until_ stop (relay.pass (alarm - relay.now)).settle
        else (relay.pass (until_ - relay.now)).settle
      | none => (relay.pass (until_ - relay.now)).settle

/-- Let time pass, from alarm to alarm, or until something is the case. -/
def wait (relay : Relay) (milliseconds : Nat) (stop : Relay → Bool) : Relay :=
  relay.waitWithin (milliseconds + 2) (relay.now + milliseconds) stop

end Relay
end ExchangeGrid
