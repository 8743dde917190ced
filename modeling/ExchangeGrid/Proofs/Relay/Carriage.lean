import ExchangeGrid.Proofs.Relay.Messages
import ExchangeGrid.Proofs.Relay.Run

namespace ExchangeGrid
namespace Relay

/-!
# What a relay carries

To those at its two ends a relay should be nothing but a pipe.  What the client can receive is the
data that the other side has sent before it closed, and what the other side receives in binary
messages is what the client has written, one message for each that the cutter has cut.  Pings, pongs
and the sign to stop may come between any two moves of either half; they add nothing, and they
neither split nor join messages.

Bytes can get lost only at the end: data that the reader holds when it stops, and messages that the
writer cannot send any more.  As long as a half goes on, all that it has taken is accounted for.
`transparent_of_run` says so of every run.

The writer of these runs cuts with sums of whole numbers, while a machine adds words and may lose a
sum when a head declares a length near the largest word.  For what is said here this makes no
difference.  Where every sum fits the two cut the same (`Fits.pushAllWords_eq`).  Where one is lost,
a machine that does not stop ends a message in another place, but what it has cut and what it holds
back are still all the bytes it was given (`keeps_of_pushAllWords`), so that its messages, too, are
a front of what the client has written (`Keeps.front_of_run`).
-/

/-! ## What goes in and comes out -/

def arrivals (events : List Event) : List Message :=
  events.filterMap fun
    | .arrive message => some message
    | _ => none

def writes (events : List Event) : List UInt8 :=
  events.flatMap fun
    | .write bytes => bytes
    | _ => []

/-- The messages before the one that ends them. -/
def beforeClose (messages : List Message) : List Message :=
  messages.takeWhile fun message => !message.isClose

/-- The bytes that messages carry for the user of the socket. -/
def payloads (messages : List Message) : List UInt8 :=
  messages.flatMap Message.payload

def binaries (messages : List Message) : List (List UInt8) :=
  messages.filterMap fun
    | .binary data => some data
    | _ => none

/-- The bytes that the writer takes out of the pipe with an event, when it does so. -/
def takes (relay : Relay) : Event → List (List UInt8)
  | .writer (.takeBytes count) => [relay.outgoing.take (min count chunkLimit)]
  | _ => []

/-- The bytes that the writer takes out of the pipe along some events, as many at once as it did. -/
def reads (relay : Relay) : List Event → List (List UInt8)
  | [] => []
  | event :: events =>
    match relay.after? event with
    | some next => relay.takes event ++ next.reads events
    | none => []

/-- The data that the reader has taken and not put into the pipe. -/
def inHand (relay : Relay) : List UInt8 :=
  match relay.reader with
  | .passing rest => rest
  | _ => []

theorem Happened.arrived_eq {relay next : Relay} {event : Event}
    (happened : Happened relay event next) : next.arrived = relay.arrived ++ arrivals [event] := by
  cases happened with
  | arrive message => rfl
  | reader moved => cases moved <;> exact (List.append_nil _).symm
  | writer moved => cases moved <;> exact (List.append_nil _).symm
  | breakInbox | losePeer | write | receive | loseClient | request | cancel | pass =>
      exact (List.append_nil _).symm

theorem Happened.written_eq {relay next : Relay} {event : Event}
    (happened : Happened relay event next) : next.written = relay.written ++ writes [event] := by
  cases happened with
  | write bytes => exact congrArg _ (List.append_nil bytes).symm
  | reader moved => cases moved <;> exact (List.append_nil _).symm
  | writer moved => cases moved <;> exact (List.append_nil _).symm
  | breakInbox | losePeer | arrive | receive | loseClient | request | cancel | pass =>
      exact (List.append_nil _).symm

/-- What has arrived and what was written is what the events say. -/
theorem history_of_run {start last : Relay} {events : List Event}
    (run : start.run? events = some last) :
    last.arrived = start.arrived ++ arrivals events ∧
      last.written = start.written ++ writes events := by
  induction events generalizing start with
  | nil =>
      cases run
      exact ⟨(List.append_nil _).symm, (List.append_nil _).symm⟩
  | cons event events inductionHypothesis =>
      rcases run?_cons_eq_some.mp run with ⟨next, happens, later⟩
      have happened := happened_of_after? happens
      rcases inductionHypothesis later with ⟨arrived, written⟩
      rw [happened.arrived_eq, List.append_assoc] at arrived
      rw [happened.written_eq, List.append_assoc] at written
      refine ⟨arrived.trans (congrArg _ ?_), written.trans (congrArg _ ?_)⟩
      · exact List.filterMap_append.symm
      · exact List.flatMap_append.symm

/-! ## Inward -/

theorem beforeClose_append_front (messages more : List Message) :
    beforeClose messages <+: beforeClose (messages ++ more) := by
  unfold beforeClose
  rw [List.takeWhile_append]
  split
  next => exact (List.takeWhile_prefix _).trans (List.prefix_append _ _)
  next => exact List.prefix_rfl

theorem payloads_front {messages others : List Message} (front : messages <+: others) :
    payloads messages <+: payloads others := by
  rcases front with ⟨rest, rfl⟩
  exact ⟨payloads rest, List.flatMap_append.symm⟩

/-- What came into the pipe is data from before the end.  A reader that goes on has taken no message
behind it, and has put all the data that it took into the pipe, up to what it has in hand. -/
structure Fed (relay : Relay) : Prop where
  taken_le : relay.taken ≤ relay.arrived.length
  offered_front : relay.offered <+: payloads (beforeClose relay.arrived)
  noClose : relay.reader ≠ .stopped →
    ∀ message ∈ relay.arrived.take relay.taken, message.isClose = false
  offered_eq : relay.reader ≠ .stopped →
    relay.offered ++ relay.inHand = payloads (relay.arrived.take relay.taken)

theorem fed_start (pongWait pingPeriod : Nat) : (start pongWait pingPeriod).Fed :=
  ⟨Nat.le_refl 0, List.nil_prefix, fun _ _ member => (List.not_mem_nil member).elim, fun _ => rfl⟩

/-- What has stopped adds nothing. -/
theorem Fed.stop {relay next : Relay} (fed : relay.Fed) (stopped : next.reader = .stopped)
    (offered : next.offered = relay.offered) (arrived : next.arrived = relay.arrived)
    (taken_le : next.taken ≤ next.arrived.length) : next.Fed := by
  refine ⟨taken_le, ?_, fun goesOn => absurd stopped goesOn, fun goesOn => absurd stopped goesOn⟩
  rw [offered, arrived]
  exact fed.offered_front

/-- What leaves the reader and what it took alone keeps what it fed. -/
theorem Fed.keep {relay next : Relay} (fed : relay.Fed) (reader : next.reader = relay.reader)
    (offered : next.offered = relay.offered) (taken : next.taken = relay.taken)
    {more : List Message} (arrived : next.arrived = relay.arrived ++ more) : next.Fed := by
  have same : next.arrived.take next.taken = relay.arrived.take relay.taken := by
    rw [arrived, taken, List.take_append_of_le_length fed.taken_le]
  have inHand_eq : next.inHand = relay.inHand := by rw [inHand, inHand, reader]
  refine ⟨?_, ?_, ?_, ?_⟩
  · rw [taken, arrived, List.length_append]
    exact Nat.le_trans fed.taken_le (Nat.le_add_right _ _)
  · rw [offered, arrived]
    exact fed.offered_front.trans (payloads_front (beforeClose_append_front _ _))
  · rw [reader, same]
    exact fed.noClose
  · rw [reader, same, offered, inHand_eq]
    exact fed.offered_eq

/-- A reader that goes on has put nothing into the pipe that comes from behind the end. -/
theorem offered_front_of_eq {relay : Relay}
    (noClose : ∀ message ∈ relay.arrived.take relay.taken, message.isClose = false)
    (offered_eq : relay.offered ++ relay.inHand = payloads (relay.arrived.take relay.taken)) :
    relay.offered <+: payloads (beforeClose relay.arrived) := by
  have front : relay.arrived.take relay.taken <+: beforeClose relay.arrived := by
    have passes : ∀ message ∈ relay.arrived.take relay.taken, (!message.isClose) = true :=
      fun message member => congrArg (!·) (noClose message member)
    rw [beforeClose, ← List.take_append_drop relay.taken relay.arrived,
      List.takeWhile_append_of_pos passes, List.take_append_drop]
    exact List.prefix_append _ _
  exact (offered_eq ▸ List.prefix_append _ _).trans (payloads_front front)

/-- A reader that takes a message which does not end the others has its data in hand. -/
theorem Fed.take {relay next : Relay} {message : Message} {rest : List Message} (fed : relay.Fed)
    (reading : relay.reader = .reading) (first : relay.inbox = message :: rest)
    (goesOn : message.isClose = false) (arrived : next.arrived = relay.arrived)
    (taken : next.taken = relay.taken + 1) (offered : next.offered = relay.offered)
    (inHand_eq : next.inHand = message.payload) : next.Fed := by
  have reads : relay.reader ≠ .stopped := fun stopped => nomatch reading.symm.trans stopped
  have inside := (inbox_eq_cons first).1
  have isFirst : relay.arrived[relay.taken] = message := by
    rw [inbox, List.drop_eq_getElem_cons inside] at first
    exact (List.cons.inj first).1
  have takes : next.arrived.take next.taken = relay.arrived.take relay.taken ++ [message] := by
    rw [arrived, taken, List.take_add_one, List.getElem?_eq_getElem inside, isFirst]
    rfl
  have emptyHanded : relay.inHand = [] := by rw [inHand, reading]
  have noClose : ∀ other ∈ next.arrived.take next.taken, other.isClose = false := by
    rw [takes]
    intro other member
    rcases List.mem_append.mp member with before | now
    · exact fed.noClose reads other before
    · rw [List.mem_singleton.mp now]
      exact goesOn
  have offered_eq : next.offered ++ next.inHand = payloads (next.arrived.take next.taken) := by
    have before := fed.offered_eq reads
    rw [emptyHanded, List.append_nil] at before
    rw [takes, offered, inHand_eq, before, payloads, payloads, List.flatMap_append]
    exact congrArg _ (List.append_nil _).symm
  refine ⟨?_, offered_front_of_eq noClose offered_eq, fun _ => noClose, fun _ => offered_eq⟩
  rw [taken, arrived]
  exact inside

/-- A reader that puts data into the pipe has so much less in hand. -/
theorem Fed.fill {relay next : Relay} (fed : relay.Fed) (reads : relay.reader ≠ .stopped)
    (arrived : next.arrived = relay.arrived) (taken : next.taken = relay.taken)
    (moves : next.offered ++ next.inHand = relay.offered ++ relay.inHand) : next.Fed := by
  have noClose : ∀ message ∈ next.arrived.take next.taken, message.isClose = false := by
    rw [arrived, taken]
    exact fed.noClose reads
  have offered_eq : next.offered ++ next.inHand = payloads (next.arrived.take next.taken) := by
    rw [moves, arrived, taken]
    exact fed.offered_eq reads
  refine ⟨?_, offered_front_of_eq noClose offered_eq, fun _ => noClose, fun _ => offered_eq⟩
  rw [taken, arrived]
  exact fed.taken_le

theorem ReaderMoved.fed {relay next : Relay} {move : ReaderMove}
    (moved : ReaderMoved relay move next) (fed : relay.Fed) : next.Fed := by
  cases moved with
  | @tookData message rest reading first isData =>
      have isPlain : message.isClose = false ∧ message.data = message.payload := by
        rcases isData with isBinary | isText
        · rw [isBinary]
          exact ⟨rfl, rfl⟩
        · rw [isText]
          exact ⟨rfl, rfl⟩
      exact fed.take reading first isPlain.1 rfl rfl rfl isPlain.2
  | tookPing reading first =>
      have emptyHanded : relay.inHand = [] := by rw [inHand, reading]
      exact fed.take reading first rfl rfl rfl rfl emptyHanded
  | tookPong reading first =>
      have emptyHanded : relay.inHand = [] := by rw [inHand, reading]
      exact fed.take reading first rfl rfl rfl rfl emptyHanded
  | tookClose reading first => exact fed.stop rfl rfl rfl (inbox_eq_cons first).1
  | sawEnd | lostClient | gaveUp | obeyed => exact fed.stop rfl rfl rfl fed.taken_le
  | passedAll passing =>
      have reads : relay.reader ≠ .stopped := fun stopped => nomatch passing.symm.trans stopped
      have emptyHanded : relay.inHand = [] := by rw [inHand, passing]
      refine fed.fill reads rfl rfl ?_
      rw [emptyHanded]
      rfl
  | @passedSome rest passing left listens room =>
      have reads : relay.reader ≠ .stopped := fun stopped => nomatch passing.symm.trans stopped
      have held : relay.inHand = rest := by rw [inHand, passing]
      refine fed.fill reads rfl rfl ?_
      rw [held]
      change _ ++ _ ++ rest.drop _ = _
      rw [List.append_assoc, List.take_append_drop]

theorem Happened.fed {relay next : Relay} {event : Event} (happened : Happened relay event next)
    (fed : relay.Fed) : next.Fed := by
  cases happened with
  | reader moved => exact moved.fed fed
  | writer moved => cases moved <;> exact fed.keep rfl rfl rfl (List.append_nil _).symm
  | arrive message => exact fed.keep rfl rfl rfl rfl
  | breakInbox | losePeer | write | receive | loseClient | request | cancel | pass =>
      exact fed.keep rfl rfl rfl (List.append_nil _).symm

theorem fed_of_run {pongWait pingPeriod : Nat} {events : List Event} {last : Relay}
    (run : (start pongWait pingPeriod).run? events = some last) : last.Fed :=
  invariant_of_run run (fed_start pongWait pingPeriod) fun _ _ _ happened => happened.fed

/-! ## Cutting loses nothing -/

/-- What is cut and what is held back are the bytes there were. -/
theorem flatten_cutAll (buffer : List UInt8) :
    (cutAll buffer).messages.flatten ++ (cutAll buffer).pending = buffer := by
  induction buffer using cutAll.induct with
  | case1 buffer waits =>
      rw [cutAll_of_none waits]
      rfl
  | case2 buffer length found inductionHypothesis =>
      rw [cutAll_eq, found]
      dsimp only
      rw [List.flatten_cons, List.append_assoc, inductionHypothesis, List.take_append_drop]

namespace Cutter

theorem flatten_pushAll (cutter : Cutter) (chunks : List (List UInt8)) :
    (cutter.pushAll chunks).messages.flatten ++ (cutter.pushAll chunks).pending =
      cutter.pending ++ chunks.flatten := by
  induction chunks generalizing cutter with
  | nil => exact (List.append_nil _).symm
  | cons chunk chunks inductionHypothesis =>
      rw [pushAll]
      dsimp only
      rw [List.flatten_append, List.append_assoc, inductionHypothesis, ← List.append_assoc, push,
        flatten_cutAll, List.flatten_cons, List.append_assoc]

theorem pushAll_append (cutter : Cutter) (chunks more : List (List UInt8)) :
    cutter.pushAll (chunks ++ more) =
      { Cutter.pushAll ⟨(cutter.pushAll chunks).pending⟩ more with
        messages := (cutter.pushAll chunks).messages ++
          (Cutter.pushAll ⟨(cutter.pushAll chunks).pending⟩ more).messages } := by
  induction chunks generalizing cutter with
  | nil => rfl
  | cons chunk chunks inductionHypothesis =>
      rw [List.cons_append, pushAll, inductionHypothesis, pushAll]
      dsimp only
      rw [List.append_assoc]

end Cutter

/-! ## Outward -/

theorem binaries_append (messages more : List Message) :
    binaries (messages ++ more) = binaries messages ++ binaries more :=
  List.filterMap_append

theorem binaries_map_binary (frames : List (List UInt8)) :
    binaries (frames.map .binary) = frames := by
  induction frames with
  | nil => rfl
  | cons frame frames inductionHypothesis => exact congrArg (frame :: ·) inductionHypothesis

/-- The bytes taken out of the pipe are a front of those written, the cutter holds what it has not
cut of them, and the binary messages sent are those it has cut, without the last ones when they
could not be sent. -/
structure Drained (chunks : List (List UInt8)) (relay : Relay) : Prop where
  drained_le : relay.drained ≤ relay.written.length
  flatten_eq : chunks.flatten = relay.written.take relay.drained
  pending_eq : (Cutter.pushAll {} chunks).pending = relay.cutter.pending
  sent_front : binaries relay.sent <+: (Cutter.pushAll {} chunks).messages
  sent_eq : relay.writer = .running → binaries relay.sent = (Cutter.pushAll {} chunks).messages

theorem drained_start (pongWait pingPeriod : Nat) : (start pongWait pingPeriod).Drained [] :=
  ⟨Nat.le_refl 0, rfl, rfl, List.nil_prefix, fun _ => rfl⟩

/-- What sends no data and takes none out of the pipe leaves the account as it is. -/
theorem Drained.keep {chunks more : List (List UInt8)} {relay next : Relay}
    (drained : relay.Drained chunks) {bytes : List UInt8} {messages : List Message}
    (nothing : more = []) (written : next.written = relay.written ++ bytes)
    (same : next.drained = relay.drained) (cutter : next.cutter = relay.cutter)
    (sent : next.sent = relay.sent ++ messages) (noData : binaries messages = [])
    (running : next.writer = .running → relay.writer = .running) :
    next.Drained (chunks ++ more) := by
  have sent_same : binaries next.sent = binaries relay.sent := by
    rw [sent, binaries_append, noData, List.append_nil]
  rw [nothing, List.append_nil]
  refine ⟨?_, ?_, ?_, ?_, ?_⟩
  · rw [same, written, List.length_append]
    exact Nat.le_trans drained.drained_le (Nat.le_add_right _ _)
  · rw [same, written, List.take_append_of_le_length drained.drained_le]
    exact drained.flatten_eq
  · rw [cutter]
    exact drained.pending_eq
  · rw [sent_same]
    exact drained.sent_front
  · rw [sent_same]
    exact fun goesOn => drained.sent_eq (running goesOn)

/-- Messages get out, or else the writer notices that they do not. -/
theorem delivered_or_fails (relay : Relay) (messages : List Message) :
    relay.delivered messages = messages ∨
      (relay.delivered messages = [] ∧ relay.failsToSend messages = true) := by
  cases gone : relay.peerIsGone with
  | false => exact Or.inl (by rw [delivered, gone]; rfl)
  | true =>
      have none : relay.delivered messages = [] := by
        rw [delivered, gone]
        rfl
      cases messages with
      | nil => exact Or.inl none
      | cons message messages => exact Or.inr ⟨none, by rw [failsToSend, gone]; rfl⟩

/-- The writer takes some more bytes, and sends what the cutter cuts then. -/
theorem Drained.take {chunks : List (List UInt8)} {relay next : Relay} {bytes : List UInt8}
    {count : Nat} {cut : Cut} (drained : relay.Drained chunks)
    (running : relay.writer = .running) (front : bytes = relay.outgoing.take count)
    (pushed : cut = relay.cutter.push bytes) (written : next.written = relay.written)
    (later : next.drained = relay.drained + bytes.length) (cutter : next.cutter = ⟨cut.pending⟩)
    (sent : next.sent = relay.sent ++ relay.delivered (cut.messages.map .binary))
    (writer : next.writer = if relay.failsToSend (cut.messages.map .binary) then .closing
      else relay.writer) : next.Drained (chunks ++ [bytes]) := by
  have length_le : bytes.length ≤ relay.outgoing.length := by
    rw [front, List.length_take]
    exact Nat.min_le_right _ _
  have isFront : relay.outgoing.take bytes.length = bytes := by
    rw [front, List.length_take, ← List.take_eq_take_min]
  have pushes : Cutter.pushAll {} (chunks ++ [bytes]) =
      ⟨binaries relay.sent ++ cut.messages, cut.pending⟩ := by
    rw [Cutter.pushAll_append, drained.pending_eq, ← drained.sent_eq running, pushed]
    simp only [Cutter.pushAll, List.append_nil]
  have ends : relay.drained + bytes.length ≤ relay.written.length := by
    have before := drained.drained_le
    rw [outgoing, List.length_drop] at length_le
    omega
  have flatten_eq : (chunks ++ [bytes]).flatten = next.written.take next.drained := by
    rw [List.flatten_append, drained.flatten_eq, List.flatten_singleton, later, written,
      List.take_add, ← outgoing, isFront]
  refine ⟨by rw [later, written]; exact ends, flatten_eq, by rw [pushes, cutter], ?_, ?_⟩
  · rw [pushes, sent, binaries_append]
    apply (List.prefix_append_right_inj _).mpr
    rcases relay.delivered_or_fails (cut.messages.map .binary) with all | ⟨none, -⟩
    · exact ⟨[], by rw [List.append_nil, all, binaries_map_binary]⟩
    · have nothing : binaries (relay.delivered (cut.messages.map .binary)) = [] :=
        congrArg binaries none
      exact nothing ▸ List.nil_prefix
  · intro goesOn
    rcases relay.delivered_or_fails (cut.messages.map .binary) with all | ⟨-, fails⟩
    · rw [pushes, sent, binaries_append, all, binaries_map_binary]
    · rw [writer, fails] at goesOn
      cases goesOn

theorem ReaderMoved.drained {chunks : List (List UInt8)} {relay next : Relay} {move : ReaderMove}
    (moved : ReaderMoved relay move next) (drained : relay.Drained chunks) :
    next.Drained (chunks ++ relay.takes (.reader move)) := by
  have unwritten : relay.written = relay.written ++ [] := (List.append_nil _).symm
  have silent : relay.sent = relay.sent ++ [] := (List.append_nil _).symm
  cases moved with
  | tookPing | tookClose =>
      refine drained.keep rfl unwritten rfl rfl rfl ?_ id
      unfold delivered
      split
      · rfl
      · split <;> rfl
  | tookData | tookPong | sawEnd | passedAll | lostClient | passedSome | gaveUp | obeyed =>
      exact drained.keep rfl unwritten rfl rfl silent rfl id

theorem WriterMoved.drained {chunks : List (List UInt8)} {relay next : Relay} {move : WriterMove}
    (moved : WriterMoved relay move next) (drained : relay.Drained chunks) :
    next.Drained (chunks ++ relay.takes (.writer move)) := by
  have unwritten : relay.written = relay.written ++ [] := (List.append_nil _).symm
  have silent : relay.sent = relay.sent ++ [] := (List.append_nil _).symm
  cases moved with
  | tookBytes running front some_ pushed =>
      rw [front] at pushed ⊢
      exact drained.take running rfl pushed rfl rfl rfl rfl rfl
  | pinged running | answered running =>
      refine drained.keep rfl unwritten rfl rfl rfl ?_ fun _ => running
      unfold delivered
      split <;> rfl
  | lostClient running | obeyed running =>
      exact drained.keep rfl unwritten rfl rfl silent rfl fun _ => running
  | foundClosed | failedToClose => exact drained.keep rfl unwritten rfl rfl silent rfl nofun
  | closed => exact drained.keep rfl unwritten rfl rfl rfl rfl nofun

theorem Happened.drained {chunks : List (List UInt8)} {relay next : Relay} {event : Event}
    (happened : Happened relay event next) (drained : relay.Drained chunks) :
    next.Drained (chunks ++ relay.takes event) := by
  have unwritten : relay.written = relay.written ++ [] := (List.append_nil _).symm
  have silent : relay.sent = relay.sent ++ [] := (List.append_nil _).symm
  cases happened with
  | reader moved => exact moved.drained drained
  | writer moved => exact moved.drained drained
  | write bytes => exact drained.keep rfl rfl rfl rfl silent rfl id
  | breakInbox | losePeer | arrive | receive | loseClient | request | cancel | pass =>
      exact drained.keep rfl unwritten rfl rfl silent rfl id

theorem drained_of_run {chunks : List (List UInt8)} {first last : Relay} {events : List Event}
    (run : first.run? events = some last) (drained : first.Drained chunks) :
    last.Drained (chunks ++ first.reads events) := by
  induction events generalizing first chunks with
  | nil =>
      cases run
      rw [reads, List.append_nil]
      exact drained
  | cons event events inductionHypothesis =>
      rcases run?_cons_eq_some.mp run with ⟨next, happens, later⟩
      rw [reads, happens]
      dsimp only
      rw [← List.append_assoc]
      exact inductionHypothesis later ((happened_of_after? happens).drained drained)

/-! ## Both ways -/

/-- A relay has been nothing but a pipe along some events, in which the writer has taken some chunks
of bytes. -/
structure Transparent (events : List Event) (chunks : List (List UInt8)) (relay : Relay) :
    Prop where
  /-- The client is given what was sent before the first close, in order. -/
  inward : relay.offered <+: payloads (beforeClose (arrivals events))
  /-- A reader that goes on has passed on all that it took, but for what it has in hand. -/
  inwardWhole : relay.reader ≠ .stopped →
    relay.offered ++ relay.inHand = payloads ((arrivals events).take relay.taken)
  /-- The chunks are what the client wrote, in order. -/
  chunks_front : chunks.flatten <+: writes events
  /-- Every binary message is one that the cutter has cut, in order. -/
  outward : binaries relay.sent <+: (Cutter.pushAll {} chunks).messages
  /-- A writer that goes on has sent all of them. -/
  outwardWhole : relay.writer = .running →
    binaries relay.sent = (Cutter.pushAll {} chunks).messages
  /-- Together they are what the client wrote. -/
  outward_flatten : (binaries relay.sent).flatten <+: writes events

/-- A relay is nothing but a pipe, whatever happens and in whatever order. -/
theorem transparent_of_run {pongWait pingPeriod : Nat} {events : List Event} {last : Relay}
    (run : (start pongWait pingPeriod).run? events = some last) :
    last.Transparent events ((start pongWait pingPeriod).reads events) := by
  have fed : last.Fed := fed_of_run run
  have drained := drained_of_run run (drained_start pongWait pingPeriod)
  rw [List.nil_append] at drained
  generalize (start pongWait pingPeriod).reads events = chunks at drained ⊢
  rcases history_of_run run with ⟨arrived, written⟩
  have chunks_front : chunks.flatten <+: writes events := by
    rw [drained.flatten_eq, written]
    exact List.take_prefix _ _
  have cut_front : (Cutter.pushAll {} chunks).messages.flatten <+: chunks.flatten :=
    ⟨_, Cutter.flatten_pushAll {} chunks⟩
  have sent_front : (binaries last.sent).flatten <+:
      (Cutter.pushAll {} chunks).messages.flatten := by
    rcases drained.sent_front with ⟨unsent, whole⟩
    rw [← whole, List.flatten_append]
    exact List.prefix_append _ _
  refine ⟨?_, ?_, chunks_front, drained.sent_front, drained.sent_eq,
    (sent_front.trans cut_front).trans chunks_front⟩
  · have offered := fed.offered_front
    rw [arrived] at offered
    exact offered
  · have offered := fed.offered_eq
    rw [arrived] at offered
    exact offered

theorem takeBytes?_eq_some {relay : Relay} {count : Nat} {bytes : List UInt8} {cut : Cut}
    (running : relay.writer = .running) (listens : relay.peerIsGone = false)
    (front : relay.outgoing.take (min count chunkLimit) = bytes) (some_ : bytes ≠ [])
    (pushed : relay.cutter.push bytes = cut) :
    relay.takeBytes? count = some { relay with
      drained := relay.drained + bytes.length
      cutter := ⟨cut.pending⟩
      sent := relay.sent ++ cut.messages.map .binary } := by
  rw [takeBytes?, front]
  dsimp only
  rw [if_pos ⟨running, some_⟩, pushed, send, post, listens]
  rfl

/-- Data, a ping and the end come in, and the client writes a frame of which the writer takes the
first bytes before a ping is due. -/
def interrupted : List Event :=
  [.arrive (.binary [65, 66]), .arrive (.ping [1]), .arrive (.text [67]), .reader .read,
    .write [83, 10, 10, 0, 84], .writer (.takeBytes 3), .pass 9, .writer .ping, .reader .fill,
    .reader .fill, .reader .read, .writer (.takeBytes 8), .reader .read, .arrive (.close []),
    .arrive (.binary [68]), .reader .fill, .reader .fill, .reader .read, .writer .obey]

theorem cutAll_interrupted :
    cutAll [83, 10, 10] = ⟨[], [83, 10, 10]⟩ ∧
      cutAll [83, 10, 10, 0, 84] = ⟨[[83, 10, 10, 0]], [84]⟩ := by
  have whole : messageLength? [83, 10, 10, 0, 84] = some 4 := by decide
  refine ⟨cutAll_of_none (by decide), ?_⟩
  rw [cutAll_eq, whole]
  dsimp only
  rw [cutAll_of_none (by decide)]
  rfl

theorem run?_interrupted : (start 10 9).run? interrupted = some { start 10 9 with
    now := 9
    cancelled := true
    arrived := [.binary [65, 66], .ping [1], .text [67], .close [], .binary [68]]
    taken := 4
    sent := [.ping [], .pong [1], .binary [83, 10, 10, 0], .close []]
    hasSentClose := true
    reader := .stopped
    writer := .closing
    cutter := ⟨[84]⟩
    nextPing := 18
    offered := [65, 66, 67]
    written := [83, 10, 10, 0, 84]
    drained := 5 } := by
  let first : Relay := { start 10 9 with
    arrived := [.binary [65, 66], .ping [1], .text [67]]
    taken := 1
    reader := .passing [65, 66]
    written := [83, 10, 10, 0, 84] }
  let second : Relay := { first with drained := 3, cutter := ⟨[83, 10, 10]⟩ }
  let third : Relay := { second with
    now := 9
    taken := 2
    sent := [.ping [], .pong [1]]
    reader := .reading
    nextPing := 18
    offered := [65, 66] }
  have split : interrupted = interrupted.take 5 ++ .writer (.takeBytes 3) ::
      ((interrupted.drop 6).take 5 ++ .writer (.takeBytes 8) :: interrupted.drop 12) := rfl
  have begun : (start 10 9).run? (interrupted.take 5) = some first := rfl
  have firstFront : first.outgoing.take (min 3 chunkLimit) = [83, 10, 10] := rfl
  have firstTake : first.after? (.writer (.takeBytes 3)) = some second :=
    takeBytes?_eq_some rfl rfl firstFront (List.cons_ne_nil _ _) cutAll_interrupted.1
  have between : second.run? ((interrupted.drop 6).take 5) = some third := rfl
  have secondFront : third.outgoing.take (min 8 chunkLimit) = [0, 84] := rfl
  have secondTake : third.after? (.writer (.takeBytes 8)) = some { third with
      drained := 5, cutter := ⟨[84]⟩, sent := third.sent ++ [.binary [83, 10, 10, 0]] } :=
    takeBytes?_eq_some rfl rfl secondFront (List.cons_ne_nil _ _) cutAll_interrupted.2
  rw [split, run?_append_of begun, run?_cons_of firstTake, run?_append_of between,
    run?_cons_of secondTake]
  rfl

theorem transparent_interrupted :
    ∃ last, (start 10 9).run? interrupted = some last ∧
      last.Transparent interrupted ((start 10 9).reads interrupted) :=
  ⟨_, run?_interrupted, transparent_of_run run?_interrupted⟩

end Relay
end ExchangeGrid
