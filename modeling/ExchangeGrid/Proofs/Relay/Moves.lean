import ExchangeGrid.Relay.Machine

namespace ExchangeGrid
namespace Relay

/-!
# Moves of a relay

What one event can do to a relay is said here once, as one change of the record for each way in
which it can happen.  `happened_of_after?` puts the moves of the reader, those of the writer and
what comes from outside together; what holds of every run is read off these cases.
-/

/-! ## What reaches the other side -/

/-- The messages that get out onto the socket. -/
def delivered (relay : Relay) (messages : List Message) : List Message :=
  if relay.peerIsGone then [] else messages

/-- Whether the writer notices that the other side is gone. -/
def failsToSend (relay : Relay) (messages : List Message) : Bool :=
  relay.peerIsGone && !messages.isEmpty

theorem post_eq (relay : Relay) (messages : List Message) :
    relay.post messages = { relay with sent := relay.sent ++ relay.delivered messages } := by
  unfold post delivered
  split
  · rw [List.append_nil]
  · rfl

theorem send_eq (relay : Relay) (messages : List Message) :
    relay.send messages = { relay with
      sent := relay.sent ++ relay.delivered messages
      writer := if relay.failsToSend messages then .closing else relay.writer
      cancelled := relay.cancelled || relay.failsToSend messages } := by
  unfold send failsToSend
  by_cases fails : (relay.peerIsGone && !messages.isEmpty) = true
  · have gone : relay.peerIsGone = true := (Bool.and_eq_true_iff.mp fails).1
    rw [if_pos fails, if_pos fails, fails, Bool.or_true, delivered, if_pos gone, List.append_nil]
    rfl
  · rw [if_neg fails, if_neg fails, post_eq, Bool.eq_false_iff.mpr fails, Bool.or_false]

/-! ## The reader -/

/-- What a move of the reader can do. -/
inductive ReaderMoved (relay : Relay) : ReaderMove → Relay → Prop
  | tookData {message : Message} {rest : List Message} (reading : relay.reader = .reading)
      (first : relay.inbox = message :: rest)
      (isData : message = .binary message.data ∨ message = .text message.data) :
      ReaderMoved relay .read
        { relay with taken := relay.taken + 1, reader := .passing message.data }
  | tookPing {data : List UInt8} {rest : List Message} (reading : relay.reader = .reading)
      (first : relay.inbox = .ping data :: rest) :
      ReaderMoved relay .read { relay with
        taken := relay.taken + 1
        sent := relay.sent ++ if relay.hasSentClose then [] else relay.delivered [.pong data] }
  | tookPong {data : List UInt8} {rest : List Message} (reading : relay.reader = .reading)
      (first : relay.inbox = .pong data :: rest) :
      ReaderMoved relay .read { relay with
        taken := relay.taken + 1
        deadline := relay.now + relay.pongWait
        pongs := relay.pongs + 1 }
  | tookClose {data : List UInt8} {rest : List Message} (reading : relay.reader = .reading)
      (first : relay.inbox = .close data :: rest) :
      ReaderMoved relay .read { relay with
        taken := relay.taken + 1
        sent := relay.sent ++
          if relay.hasSentClose then [] else relay.delivered [.close (closeReply data)]
        hasSentClose := true
        reader := .stopped
        cancelled := true }
  | sawEnd {kind : InboxEnd} (reading : relay.reader = .reading) (nothing : relay.inbox = [])
      (ended : relay.inboxEnd = some kind) :
      ReaderMoved relay .read { relay.stopReader with hasSeenLoss := kind == .lost }
  | passedAll (passing : relay.reader = .passing []) :
      ReaderMoved relay .fill { relay with reader := .reading }
  | lostClient {rest : List UInt8} (passing : relay.reader = .passing rest) (left : rest ≠ [])
      (gone : relay.clientIsGone = true) : ReaderMoved relay .fill relay.stopReader
  | passedSome {rest : List UInt8} (passing : relay.reader = .passing rest) (left : rest ≠ [])
      (listens : relay.clientIsGone = false) (room : relay.available.length < pipeCapacity) :
      ReaderMoved relay .fill { relay with
        offered := relay.offered ++ rest.take (pipeCapacity - relay.available.length)
        reader := .passing (rest.drop (pipeCapacity - relay.available.length)) }
  | gaveUp (reading : relay.reader = .reading) (due : relay.deadline ≤ relay.now) :
      ReaderMoved relay .giveUp relay.stopReader
  | obeyed (reading : relay.reader = .reading) (told : relay.cancelled = true) :
      ReaderMoved relay .obey relay.stopReader

theorem readerMoved_of_read? {relay next : Relay} (moved : relay.read? = some next) :
    ReaderMoved relay .read next := by
  unfold read? at moved
  split at moved
  next ending message rest reading first =>
      cases moved
      cases message with
      | text data => exact .tookData reading first (Or.inr rfl)
      | binary data => exact .tookData reading first (Or.inl rfl)
      | ping data =>
          have answered : ({ relay with taken := relay.taken + 1 } : Relay).take (.ping data) =
              { relay with
                taken := relay.taken + 1
                sent := relay.sent ++
                  if relay.hasSentClose then [] else relay.delivered [.pong data] } := by
            simp only [take, post_eq, delivered]
            split <;> simp only [List.append_nil]
          rw [answered]
          exact .tookPing reading first
      | pong data => exact .tookPong reading first
      | close data =>
          have answered : ({ relay with taken := relay.taken + 1 } : Relay).take (.close data) =
              { relay with
                taken := relay.taken + 1
                sent := relay.sent ++
                  if relay.hasSentClose then [] else relay.delivered [.close (closeReply data)]
                hasSentClose := true
                reader := .stopped
                cancelled := true } := by
            simp only [take, stopReader, post_eq, delivered]
            split
            next before => simp only [List.append_nil, before]
            next => rfl
          rw [answered]
          exact .tookClose reading first
  next kind reading nothing ended =>
      cases moved
      exact .sawEnd reading nothing ended
  next => cases moved

theorem readerMoved_of_fill? {relay next : Relay} (moved : relay.fill? = some next) :
    ReaderMoved relay .fill next := by
  unfold fill? at moved
  split at moved
  next passing =>
      cases moved
      exact .passedAll passing
  next rest left passing =>
      split at moved
      next gone =>
          cases moved
          exact .lostClient passing left gone
      next listens =>
          dsimp only at moved
          split at moved
          next => cases moved
          next room =>
              cases moved
              exact .passedSome passing left (Bool.eq_false_iff.mpr listens) (by omega)
  next => cases moved

theorem readerMoved_of_moveReader? {relay next : Relay} {move : ReaderMove}
    (moved : relay.moveReader? move = some next) : ReaderMoved relay move next := by
  cases move with
  | read => exact readerMoved_of_read? moved
  | fill => exact readerMoved_of_fill? moved
  | giveUp =>
      rcases Option.ite_none_right_eq_some.mp moved with ⟨⟨reading, due⟩, same⟩
      cases same
      exact .gaveUp reading due
  | obey =>
      rcases Option.ite_none_right_eq_some.mp moved with ⟨⟨reading, told⟩, same⟩
      cases same
      exact .obeyed reading told

/-! ## The writer -/

inductive WriterMoved (relay : Relay) : WriterMove → Relay → Prop
  | tookBytes {count : Nat} {bytes : List UInt8} {cut : Cut} (running : relay.writer = .running)
      (front : bytes = relay.outgoing.take (min count chunkLimit)) (some_ : bytes ≠ [])
      (pushed : cut = relay.cutter.push bytes) :
      WriterMoved relay (.takeBytes count) { relay with
        drained := relay.drained + bytes.length
        cutter := ⟨cut.pending⟩
        sent := relay.sent ++ relay.delivered (cut.messages.map .binary)
        writer := if relay.failsToSend (cut.messages.map .binary) then .closing else relay.writer
        cancelled := relay.cancelled || relay.failsToSend (cut.messages.map .binary) }
  | lostClient (running : relay.writer = .running) (gone : relay.clientIsGone = true)
      (nothing : relay.outgoing = []) : WriterMoved relay .endOutgoing relay.stopWriter
  | pinged (running : relay.writer = .running) (due : relay.nextPing ≤ relay.now) :
      WriterMoved relay .ping { relay with
        nextPing := relay.nextPing + relay.pingPeriod
        sent := relay.sent ++ relay.delivered [.ping []]
        writer := if relay.failsToSend [.ping []] then .closing else relay.writer
        cancelled := relay.cancelled || relay.failsToSend [.ping []] }
  | answered (running : relay.writer = .running) (asked : 0 < relay.requests) :
      WriterMoved relay .answerRequest { relay with
        requests := relay.requests - 1
        sent := relay.sent ++ relay.delivered [.ping []]
        writer := if relay.failsToSend [.ping []] then .closing else relay.writer
        cancelled := relay.cancelled || relay.failsToSend [.ping []] }
  | obeyed (running : relay.writer = .running) (told : relay.cancelled = true) :
      WriterMoved relay .obey relay.stopWriter
  | foundClosed (closing : relay.writer = .closing)
      (closed : (relay.hasSentClose || relay.hasSeenLoss) = true) :
      WriterMoved relay .close { relay with writer := .stopped none }
  | failedToClose (closing : relay.writer = .closing) (gone : relay.peerIsGone = true) :
      WriterMoved relay .close { relay with writer := .stopped (some closingFailure) }
  | closed (closing : relay.writer = .closing) (listens : relay.peerIsGone = false) :
      WriterMoved relay .close { relay with
        sent := relay.sent ++ [.close []], hasSentClose := true, writer := .stopped none }

theorem writerMoved_of_close? {relay next : Relay} (moved : relay.close? = some next) :
    WriterMoved relay .close next := by
  unfold close? at moved
  split at moved
  next closing =>
      split at moved
      next closed =>
          cases moved
          exact .foundClosed closing closed
      next =>
          split at moved
          next gone =>
              cases moved
              exact .failedToClose closing gone
          next listens =>
              have sends : relay.post [.close []] =
                  { relay with sent := relay.sent ++ [.close []] } := if_neg listens
              rw [sends] at moved
              cases moved
              exact .closed closing (Bool.eq_false_iff.mpr listens)
  next => cases moved

theorem writerMoved_of_moveWriter? {relay next : Relay} {move : WriterMove}
    (moved : relay.moveWriter? move = some next) : WriterMoved relay move next := by
  cases move with
  | takeBytes count =>
      rcases Option.ite_none_right_eq_some.mp moved with ⟨⟨running, some_⟩, same⟩
      rw [send_eq] at same
      cases same
      exact .tookBytes running rfl some_ rfl
  | endOutgoing =>
      rcases Option.ite_none_right_eq_some.mp moved with ⟨⟨running, gone, nothing⟩, same⟩
      cases same
      exact .lostClient running gone nothing
  | ping =>
      rcases Option.ite_none_right_eq_some.mp moved with ⟨⟨running, due⟩, same⟩
      rw [send_eq] at same
      cases same
      exact .pinged running due
  | answerRequest =>
      rcases Option.ite_none_right_eq_some.mp moved with ⟨⟨running, asked⟩, same⟩
      rw [send_eq] at same
      cases same
      exact .answered running asked
  | obey =>
      rcases Option.ite_none_right_eq_some.mp moved with ⟨⟨running, told⟩, same⟩
      cases same
      exact .obeyed running told
  | close => exact writerMoved_of_close? moved

/-! ## Every event -/

inductive Happened (relay : Relay) : Event → Relay → Prop
  | reader {move : ReaderMove} {next : Relay} (moved : ReaderMoved relay move next) :
      Happened relay (.reader move) next
  | writer {move : WriterMove} {next : Relay} (moved : WriterMoved relay move next) :
      Happened relay (.writer move) next
  | arrive (message : Message) (goesOn : relay.inboxEnd = none) :
      Happened relay (.arrive message) (relay.arrive message)
  | breakInbox : Happened relay .breakInbox relay.breakInbox
  | losePeer : Happened relay .losePeer relay.losePeer
  | write (bytes : List UInt8) (present : relay.clientIsGone = false) :
      Happened relay (.write bytes) (relay.write bytes)
  | receive (count : Nat) : Happened relay (.receive count) (relay.receive count)
  | loseClient : Happened relay .loseClient relay.loseClient
  | request (running : relay.writer = .running) (few : relay.requests < requestLimit) :
      Happened relay .request { relay with requests := relay.requests + 1 }
  | cancel : Happened relay .cancel relay.cancel
  | pass (milliseconds : Nat) : Happened relay (.pass milliseconds) (relay.pass milliseconds)

theorem happened_of_after? {relay next : Relay} {event : Event}
    (happens : relay.after? event = some next) : Happened relay event next := by
  cases event with
  | reader move => exact .reader (readerMoved_of_moveReader? happens)
  | writer move => exact .writer (writerMoved_of_moveWriter? happens)
  | arrive message =>
      rcases Option.ite_none_left_eq_some.mp happens with ⟨goesOn, same⟩
      cases same
      exact .arrive message (Option.not_isSome_iff_eq_none.mp goesOn)
  | write bytes =>
      rcases Option.ite_none_left_eq_some.mp happens with ⟨present, same⟩
      cases same
      exact .write bytes (Bool.eq_false_iff.mpr present)
  | request =>
      rcases Option.ite_none_right_eq_some.mp happens with ⟨⟨running, few⟩, same⟩
      cases same
      exact .request running few
  | breakInbox =>
      cases happens
      exact .breakInbox
  | losePeer =>
      cases happens
      exact .losePeer
  | receive count =>
      cases happens
      exact .receive count
  | loseClient =>
      cases happens
      exact .loseClient
  | cancel =>
      cases happens
      exact .cancel
  | pass milliseconds =>
      cases happens
      exact .pass milliseconds

end Relay
end ExchangeGrid
