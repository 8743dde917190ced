import ExchangeGrid.Stomp.Handshake

namespace ExchangeGrid
namespace Stomp

/-!
# Sessions

After the opening exchange a session has a reader and a writer of its own, and any number of calls
may be made on it at once.  They share a table of routes, a queue of outbound frames and the sign
that the session is over.  Each definition below is one step that nothing comes between, so that
steps of different calls can be put in any order.

The reader announces the end before it takes the routes out, and a call to subscribe looks for
that sign after it has put its route in: whichever comes last sees the other, and no subscription
is left behind without an end.
-/

/-- What a session delivers to a subscription. -/
abbrev Delivery := Except Fault Frame

/-- What was delivered to a subscription, how much of it was received, and whether anyone is left
to receive. -/
structure Channel where
  items : List Delivery := []
  received : Nat := 0
  hasReceiver : Bool := true

namespace Channel

def waiting (channel : Channel) : List Delivery :=
  channel.items.drop channel.received

/-- Deliver an item, if anyone is left to receive it. -/
def deliver (channel : Channel) (item : Delivery) : Channel :=
  if channel.hasReceiver then { channel with items := channel.items ++ [item] } else channel

def receive? (channel : Channel) : Option (Delivery × Channel) :=
  match channel.waiting with
  | [] => none
  | item :: _ => some (item, { channel with received := channel.received + 1 })

def drop (channel : Channel) : Channel :=
  { channel with hasReceiver := false }

end Channel

/-- What the writer does.  It holds on to a frame between taking it out of the queue and writing
it, and after a farewell it has yet to announce the end. -/
inductive Writer
  | running
  | writing (frame : Frame)
  | parting
  | closing
  | ended
  deriving DecidableEq, Repr

/-- What the reader does.  It holds on to a route between looking it up and delivering. -/
inductive Reader
  | reading
  | delivering (id : String) (frame : Frame)
  | pruning (id : String)
  | stopping (failure : Option Fault)
  | draining (failure : Option Fault)
  | ended
  deriving DecidableEq, Repr

/-- How many outbound frames may wait. -/
def outboundLimit : Nat := 64

/-- The state of a session.  `enqueued` keeps every frame ever put into the outbound queue, and
`taken` counts those that the writer has taken out.  `written` has the frames that have reached the
wire as a whole. -/
structure Session where
  routes : List String := []
  channels : List (String × Channel) := []
  enqueued : List Frame := []
  taken : Nat := 0
  written : List Frame := []
  cancelled : Bool := false
  dropped : Bool := false
  writer : Writer := .running
  reader : Reader := .reading
  buffer : List UInt8 := []
  inputEnded : Bool := false
  limit : Nat := defaultLimit

namespace Session

/-- A session that was opened with some bytes already read. -/
def opened (rest : List UInt8) : Session :=
  { buffer := rest }

def outbound (session : Session) : List Frame :=
  session.enqueued.drop session.taken

/-- Whether a session is over for its user. -/
def isClosed (session : Session) : Bool :=
  session.cancelled || session.writer == .ended

def channel? (session : Session) (id : String) : Option Channel :=
  (session.channels.find? (·.1 == id)).map (·.2)

def alterChannel (session : Session) (id : String) (change : Channel → Channel) : Session :=
  { session with channels := session.channels.map fun entry =>
      if entry.1 = id then (id, change entry.2) else entry }

def removeRoute (session : Session) (id : String) : Session :=
  { session with routes := session.routes.filter (· != id) }

def isHeld (session : Session) (id : String) : Bool :=
  match session.reader with
  | .delivering held _ => held == id
  | _ => false

/-- Whether nothing more can come to a subscription. -/
def hasEnded (session : Session) (id : String) : Bool :=
  !session.routes.contains id && !session.isHeld id

/-! ## What comes from outside -/

def arrive (session : Session) (bytes : List UInt8) : Session :=
  { session with buffer := session.buffer ++ bytes }

def endInput (session : Session) : Session :=
  { session with inputEnded := true }

/-- The user lets the session go. -/
def drop (session : Session) : Session :=
  { session with dropped := true, cancelled := true }

def receive? (session : Session) (id : String) : Option (Delivery × Session) :=
  match (session.channel? id).bind Channel.receive? with
  | some (item, channel) => some (item, session.alterChannel id fun _ => channel)
  | none => none

def dropReceiver (session : Session) (id : String) : Session :=
  session.alterChannel id Channel.drop

/-! ## The writer -/

def take? (session : Session) : Option Session :=
  match session.writer, session.outbound with
  | .running, frame :: _ =>
    some { session with taken := session.taken + 1, writer := .writing frame }
  | _, _ => none

/-- The writer writes the frame it has taken.  After a DISCONNECT frame it is done. -/
def write? (session : Session) : Option Session :=
  match session.writer with
  | .writing frame =>
    some { session with
      written := session.written ++ [frame]
      writer := if frame.command = .disconnect then .parting else .running }
  | _ => none

/-- Writing the frame fails, with all of it on the wire already or not. -/
def failToWrite? (session : Session) (reached : Bool) : Option Session :=
  match session.writer with
  | .writing frame =>
    some { session with
      written := if reached then session.written ++ [frame] else session.written
      writer := .closing }
  | _ => none

/-- The writer announces the end after a farewell. -/
def part? (session : Session) : Option Session :=
  match session.writer with
  | .parting => some { session with cancelled := true, writer := .closing }
  | _ => none

def stopWriter? (session : Session) : Option Session :=
  if session.writer = .running ∧ session.cancelled then some { session with writer := .closing }
  else none

def closeWriter? (session : Session) : Option Session :=
  match session.writer with
  | .closing => some { session with writer := .ended }
  | _ => none

/-! ## The reader -/

/-- What the reader does with a frame. -/
def route (session : Session) (frame : Frame) : Reader :=
  match frame.command with
  | .message =>
    match frame.header? "subscription" with
    | none => .reading
    | some id => if session.routes.contains id then .delivering id frame else .reading
  | .error => .stopping (some (.refused frame.complaint))
  | _ => .reading

/-- The reader reads the next frame, or meets a fault, or the end of its input. -/
def read? (session : Session) : Option Session :=
  match session.reader with
  | .reading =>
    match decode session.limit session.buffer with
    | .frame frame rest => some { session with buffer := rest, reader := session.route frame }
    | .fault fault rest => some { session with buffer := rest, reader := .stopping (some fault) }
    | .waiting rest =>
      if session.inputEnded then
        some { session with
          buffer := rest
          reader := .stopping (some (Handshake.endFault rest)) }
      else none
  | _ => none

/-- Reading the input fails, with no whole frame left to read. -/
def failToRead? (session : Session) (detail : String) : Option Session :=
  match session.reader with
  | .reading =>
    match decode session.limit session.buffer with
    | .waiting rest =>
      some { session with
        buffer := rest
        reader := .stopping (some (.transport (.readFailed detail))) }
    | _ => none
  | _ => none

/-- The reader delivers the frame it has looked up a route for. -/
def deliver? (session : Session) : Option Session :=
  match session.reader with
  | .delivering id frame =>
    let isHeard := ((session.channel? id).map Channel.hasReceiver).getD false
    some { session.alterChannel id (·.deliver (.ok frame)) with
      reader := if isHeard then .reading else .pruning id }
  | _ => none

/-- The reader takes out a route that nobody listens on. -/
def prune? (session : Session) : Option Session :=
  match session.reader with
  | .pruning id => some { session.removeRoute id with reader := .reading }
  | _ => none

def stopReader? (session : Session) : Option Session :=
  if session.reader = .reading ∧ session.cancelled then
    some { session with reader := .stopping none }
  else none

/-- The reader announces the end. -/
def cancel? (session : Session) : Option Session :=
  match session.reader with
  | .stopping failure => some { session with cancelled := true, reader := .draining failure }
  | _ => none

def deliverAll (session : Session) (item : Delivery) : Session :=
  { session with channels := session.channels.map fun (id, channel) =>
      (id, if session.routes.contains id then channel.deliver item else channel) }

/-- The reader takes all routes out, and delivers the failure on them if there was one. -/
def drain? (session : Session) : Option Session :=
  match session.reader with
  | .draining failure =>
    let told := match failure with
      | some fault => session.deliverAll (.error fault)
      | none => session
    some { told with routes := [], reader := .ended }
  | _ => none

/-! ## Calls -/

/-- A call on a session.  Identifiers are drawn by the caller. -/
inductive Call
  | subscribe (id destination : String)
  | unsubscribe (id : String)
  | disconnect (receipt : String)
  deriving DecidableEq, Repr

def Call.frame : Call → Frame
  | subscribe id destination =>
    { command := .subscribe
      headers := [⟨"id", id⟩, ⟨"destination", destination⟩, ⟨"ack", "auto"⟩] }
  | unsubscribe id => { command := .unsubscribe, headers := [⟨"id", id⟩] }
  | disconnect receipt => { command := .disconnect, headers := [⟨"receipt", receipt⟩] }

/-- How far a call has come: what its next step is. -/
inductive Stage
  | insertRoute
  | checkEnd
  | removeRoute
  | checkSend
  | enqueue
  | finish (result : Except Fault Unit)
  | done (result : Except Fault Unit)

def Call.start : Call → Stage
  | subscribe _ _ => .insertRoute
  | unsubscribe _ => .removeRoute
  | disconnect _ => .checkSend

/-- What a call goes on with once its frame was enqueued or refused. -/
def Call.afterSend (call : Call) (result : Except Fault Unit) : Stage :=
  match call, result with
  | subscribe _ _, .ok () => .done (.ok ())
  | subscribe _ _, .error fault => .finish (.error fault)
  | unsubscribe _, result => .done result
  | disconnect _, result => .finish result

/-- Put a new route in, with a channel of its own. -/
def insertRoute (session : Session) (id : String) : Session :=
  { session with
    routes := session.routes ++ [id]
    channels := session.channels ++ [(id, {})] }

/-- What a call leaves behind: a failed subscription takes its route out, and a farewell takes out
all of them. -/
def finish (session : Session) : Call → Session
  | .subscribe id _ => (session.removeRoute id).dropReceiver id
  | .unsubscribe _ => session
  | .disconnect _ => { session with routes := [] }

/-- The next step of a call.  There is none while the queue is full, and after the end. -/
def advance? (session : Session) (call : Call) : Stage → Option (Session × Stage)
  | .insertRoute =>
    match call with
    | .subscribe id _ => some (session.insertRoute id, .checkEnd)
    | _ => none
  | .checkEnd =>
    some (session, if session.cancelled then .finish (.error .closed) else .checkSend)
  | .removeRoute =>
    match call with
    | .unsubscribe id =>
      if session.routes.contains id then some (session.removeRoute id, .checkSend)
      else some (session, .done (.ok ()))
    | _ => none
  | .checkSend =>
    some (session, if session.cancelled then call.afterSend (.error .closed) else .enqueue)
  | .enqueue =>
    if session.writer = .ended then some (session, call.afterSend (.error .closed))
    else if session.outbound.length < outboundLimit then
      some ({ session with enqueued := session.enqueued ++ [call.frame] },
        call.afterSend (.ok ()))
    else none
  | .finish result => some (session.finish call, .done result)
  | .done _ => none

/-! ## Any order of steps -/

inductive WriterMove
  | take
  | write
  | fail (reached : Bool)
  | part
  | stop
  | close
  deriving DecidableEq, Repr

inductive ReaderMove
  | read
  | fail (detail : String)
  | deliver
  | prune
  | stop
  | cancel
  | drain
  deriving DecidableEq, Repr

def moveWriter? (session : Session) : WriterMove → Option Session
  | .take => session.take?
  | .write => session.write?
  | .fail reached => session.failToWrite? reached
  | .part => session.part?
  | .stop => session.stopWriter?
  | .close => session.closeWriter?

def moveReader? (session : Session) : ReaderMove → Option Session
  | .read => session.read?
  | .fail detail => session.failToRead? detail
  | .deliver => session.deliver?
  | .prune => session.prune?
  | .stop => session.stopReader?
  | .cancel => session.cancel?
  | .drain => session.drain?

/-- What happens next: a move of the writer or of the reader, the start or the next step of a call,
or something from outside.  Calls are numbered as they start. -/
inductive Event
  | writer (move : WriterMove)
  | reader (move : ReaderMove)
  | begin (call : Call)
  | advance (number : Nat)
  | arrive (bytes : List UInt8)
  | endInput
  | receive (id : String)
  | dropReceiver (id : String)
  | drop
  deriving DecidableEq, Repr

/-- A session with all calls that were made on it, and how far each has come. -/
structure Scene where
  session : Session := {}
  calls : List (Call × Stage) := []

namespace Scene

def opened (rest : List UInt8) : Scene :=
  { session := .opened rest }

def after? (scene : Scene) : Event → Option Scene
  | .writer move => (scene.session.moveWriter? move).map fun session => { scene with session }
  | .reader move => (scene.session.moveReader? move).map fun session => { scene with session }
  | .begin call =>
    if scene.session.dropped then none
    else some { scene with calls := scene.calls ++ [(call, call.start)] }
  | .advance number =>
    match scene.calls[number]? with
    | some (call, stage) =>
      (scene.session.advance? call stage).map fun (session, stage) =>
        ⟨session, scene.calls.set number (call, stage)⟩
    | none => none
  | .arrive bytes =>
    if scene.session.inputEnded then none
    else some { scene with session := scene.session.arrive bytes }
  | .endInput => some { scene with session := scene.session.endInput }
  | .receive id =>
    (scene.session.receive? id).map fun (_, session) => { scene with session }
  | .dropReceiver id => some { scene with session := scene.session.dropReceiver id }
  | .drop => some { scene with session := scene.session.drop }

def run? (scene : Scene) (events : List Event) : Option Scene :=
  events.foldlM after? scene

end Scene

/-! ## One order of steps -/

/-- A step of the reader or the writer, when there is one. -/
def background? (session : Session) : Option Session :=
  session.deliver? <|> session.prune? <|> session.cancel? <|> session.drain? <|>
    session.closeWriter? <|> session.part? <|> session.write? <|> session.stopReader? <|>
    session.stopWriter? <|> session.take? <|> session.read?

/-- Let reader and writer work until both wait, or for so many steps. -/
def settleWithin : Nat → Session → Session
  | 0, session => session
  | fuel + 1, session =>
    match session.background? with
    | some next => settleWithin fuel next
    | none => session

/-- How many steps reader and writer make at most until both wait. -/
def patience (session : Session) : Nat :=
  3 * session.buffer.length + 2 * session.outbound.length + 16

def settle (session : Session) : Session :=
  session.settleWithin session.patience

/-- Make a call to its end, as long as it does not have to wait. -/
def performWithin : Nat → Session → Call → Stage → Session × Option (Except Fault Unit)
  | 0, session, _, _ => (session, none)
  | _ + 1, session, _, .done result => (session, some result)
  | fuel + 1, session, call, stage =>
    match session.advance? call stage with
    | some (session, stage) => performWithin fuel session call stage
    | none => (session, none)

def perform (session : Session) (call : Call) : Session × Option (Except Fault Unit) :=
  performWithin 8 session call call.start

end Session
end Stomp
end ExchangeGrid
