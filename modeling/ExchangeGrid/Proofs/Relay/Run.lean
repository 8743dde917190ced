import ExchangeGrid.Proofs.Relay.Moves

namespace ExchangeGrid
namespace Relay

/-!
# Runs of a relay

How a property of single events becomes one of whole runs, and what can be said of every state that
a run reaches: the two times it was started with stay what they are, and a half that has stopped
has told the other to stop (`Sound`).  A relay at rest has stopped reading, waits for a message
before its deadline, or holds data for which the pipe has no room; there is nothing else it can
wait for.
-/

/-! ## From one event to a run -/

theorem run?_cons_eq_some {relay last : Relay} {event : Event} {events : List Event} :
    relay.run? (event :: events) = some last ↔
      ∃ next, relay.after? event = some next ∧ next.run? events = some last :=
  Option.bind_eq_some_iff

theorem run?_cons_of {relay next : Relay} {event : Event} (happens : relay.after? event = some next)
    (events : List Event) : relay.run? (event :: events) = next.run? events := by
  rw [run?, List.foldlM_cons, happens]
  rfl

theorem run?_append_of {first middle : Relay} {front : List Event}
    (earlier : first.run? front = some middle) (back : List Event) :
    first.run? (front ++ back) = middle.run? back := by
  unfold run? at earlier ⊢
  rw [List.foldlM_append, earlier]
  rfl

/-- What holds at the start and is kept by every event holds after every run. -/
theorem invariant_of_run {motive : Relay → Prop} {first last : Relay} {events : List Event}
    (run : first.run? events = some last) (atStart : motive first)
    (kept : ∀ relay event next, Happened relay event next → motive relay → motive next) :
    motive last := by
  induction events generalizing first with
  | nil =>
      cases run
      exact atStart
  | cons event events inductionHypothesis =>
      rcases run?_cons_eq_some.mp run with ⟨next, happens, later⟩
      exact inductionHypothesis later
        (kept first event next (happened_of_after? happens) atStart)

/-! ## What every state keeps to -/

/-- A half of the relay that has stopped has told the other half, and what was read had arrived. -/
structure Sound (relay : Relay) : Prop where
  cancelled_of_reader : relay.reader = .stopped → relay.cancelled = true
  cancelled_of_writer : relay.writer ≠ .running → relay.cancelled = true
  taken_le : relay.taken ≤ relay.arrived.length

theorem sound_start (pongWait pingPeriod : Nat) : (start pongWait pingPeriod).Sound :=
  ⟨nofun, fun stopped => absurd rfl stopped, Nat.le_refl 0⟩

theorem inbox_eq_cons {relay : Relay} {message : Message} {rest : List Message}
    (first : relay.inbox = message :: rest) :
    relay.taken < relay.arrived.length ∧ relay.arrived.drop (relay.taken + 1) = rest := by
  constructor
  · apply Nat.lt_of_not_le
    intro beyond
    rw [inbox, List.drop_of_length_le beyond] at first
    cases first
  · rw [← List.tail_drop]
    exact congrArg List.tail first

theorem ReaderMoved.sound {relay next : Relay} {move : ReaderMove}
    (moved : ReaderMoved relay move next) (sound : relay.Sound) : next.Sound := by
  rcases sound with ⟨ofReader, ofWriter, taken⟩
  cases moved with
  | tookPing _ first | tookPong _ first => exact ⟨ofReader, ofWriter, (inbox_eq_cons first).1⟩
  | tookData _ first => exact ⟨nofun, ofWriter, (inbox_eq_cons first).1⟩
  | tookClose _ first => exact ⟨fun _ => rfl, fun _ => rfl, (inbox_eq_cons first).1⟩
  | passedAll | passedSome => exact ⟨nofun, ofWriter, taken⟩
  | sawEnd | lostClient | gaveUp | obeyed => exact ⟨fun _ => rfl, fun _ => rfl, taken⟩

theorem sound_of_send {relay next : Relay} (messages : List Message) (sound : relay.Sound)
    (reader_eq : next.reader = relay.reader)
    (writer_eq : next.writer = if relay.failsToSend messages then .closing else relay.writer)
    (cancelled_eq : next.cancelled = (relay.cancelled || relay.failsToSend messages))
    (taken_le : next.taken ≤ next.arrived.length) : next.Sound := by
  refine ⟨?_, ?_, taken_le⟩
  · intro stopped
    rw [cancelled_eq, sound.cancelled_of_reader (reader_eq ▸ stopped), Bool.true_or]
  · intro stopped
    rw [writer_eq] at stopped
    rw [cancelled_eq]
    cases fails : relay.failsToSend messages with
    | true => rw [Bool.or_true]
    | false =>
        rw [fails] at stopped
        rw [Bool.or_false]
        exact sound.cancelled_of_writer stopped

theorem WriterMoved.sound {relay next : Relay} {move : WriterMove}
    (moved : WriterMoved relay move next) (sound : relay.Sound) : next.Sound := by
  cases moved with
  | tookBytes | pinged | answered => exact sound_of_send _ sound rfl rfl rfl sound.taken_le
  | lostClient | obeyed => exact ⟨fun _ => rfl, fun _ => rfl, sound.taken_le⟩
  | foundClosed closing | failedToClose closing | closed closing =>
      have cancelled : relay.cancelled = true :=
        sound.cancelled_of_writer fun running => nomatch closing.symm.trans running
      exact ⟨fun _ => cancelled, fun _ => cancelled, sound.taken_le⟩

theorem Happened.sound {relay next : Relay} {event : Event} (happened : Happened relay event next)
    (sound : relay.Sound) : next.Sound := by
  rcases sound with ⟨ofReader, ofWriter, taken⟩
  cases happened with
  | reader moved => exact moved.sound ⟨ofReader, ofWriter, taken⟩
  | writer moved => exact moved.sound ⟨ofReader, ofWriter, taken⟩
  | cancel => exact ⟨fun _ => rfl, fun _ => rfl, taken⟩
  | arrive message =>
      refine ⟨ofReader, ofWriter, Nat.le_trans taken ?_⟩
      change _ ≤ (relay.arrived ++ [message]).length
      rw [List.length_append]
      exact Nat.le_add_right _ _
  | breakInbox | losePeer | write | receive | loseClient | request | pass =>
      exact ⟨ofReader, ofWriter, taken⟩

theorem sound_of_run {pongWait pingPeriod : Nat} {events : List Event} {last : Relay}
    (run : (start pongWait pingPeriod).run? events = some last) : last.Sound :=
  invariant_of_run run (sound_start pongWait pingPeriod) fun _ _ _ happened => happened.sound

/-- A relay that was told to stop is not told otherwise. -/
theorem Happened.cancelled {relay next : Relay} {event : Event}
    (happened : Happened relay event next) (told : relay.cancelled = true) :
    next.cancelled = true := by
  cases happened with
  | reader moved => cases moved <;> first | exact told | rfl
  | writer moved =>
      cases moved with
      | tookBytes | pinged | answered => exact Bool.or_eq_true_iff.mpr (Or.inl told)
      | lostClient | obeyed => rfl
      | foundClosed | failedToClose | closed => exact told
  | cancel => rfl
  | arrive | breakInbox | losePeer | write | receive | loseClient | request | pass => exact told

theorem Happened.times_eq {relay next : Relay} {event : Event}
    (happened : Happened relay event next) :
    next.pongWait = relay.pongWait ∧ next.pingPeriod = relay.pingPeriod := by
  cases happened with
  | reader moved => cases moved <;> exact ⟨rfl, rfl⟩
  | writer moved => cases moved <;> exact ⟨rfl, rfl⟩
  | arrive | breakInbox | losePeer | write | receive | loseClient | request | cancel | pass =>
      exact ⟨rfl, rfl⟩

/-! ## At rest -/

/-- The reader holds data that the client leaves no room for. -/
structure IsHeld (relay : Relay) : Prop where
  passing : ∃ rest, rest ≠ [] ∧ relay.reader = .passing rest
  full : pipeCapacity ≤ relay.available.length
  present : relay.clientIsGone = false

theorem takeBytes?_eq_none {relay : Relay} (waits : relay.takeBytes? chunkLimit = none)
    (count : Nat) : relay.takeBytes? count = none := by
  unfold takeBytes? at *
  rw [ite_eq_right_iff] at *
  rintro ⟨running, some_⟩
  refine nomatch waits ⟨running, ?_⟩
  intro nothing
  apply some_
  rw [Nat.min_self, List.take_eq_nil_iff] at nothing
  rw [List.take_eq_nil_iff]
  exact nothing.imp_left nofun

/-- At rest neither reader nor writer has a move. -/
theorem isIdle_iff {relay : Relay} :
    relay.isIdle = true ↔
      (∀ move, relay.moveReader? move = none) ∧ ∀ move, relay.moveWriter? move = none := by
  simp only [isIdle, background?, Option.isNone_iff_eq_none, Option.orElse_eq_orElse,
    Option.orElse_eq_or, Option.or_eq_none_iff]
  constructor
  · rintro ⟨fill, read, giveUp, obeyReader, take, endOutgoing, ping, answer, obeyWriter, close⟩
    refine ⟨?_, ?_⟩
    · intro move
      cases move <;> assumption
    · intro move
      cases move with
      | takeBytes count => exact takeBytes?_eq_none take count
      | _ => assumption
  · rintro ⟨reader, writer⟩
    exact ⟨reader .fill, reader .read, reader .giveUp, reader .obey, writer (.takeBytes chunkLimit),
      writer .endOutgoing, writer .ping, writer .answerRequest, writer .obey, writer .close⟩

/-- What a reader at rest waits for. -/
theorem reader_cases_of_isIdle {relay : Relay} (idle : relay.isIdle = true) :
    relay.reader = .stopped ∨
      (relay.reader = .reading ∧ relay.inbox = [] ∧ relay.now < relay.deadline ∧
        relay.cancelled = false) ∨
      relay.IsHeld := by
  have waits := (isIdle_iff.mp idle).1
  cases reader : relay.reader with
  | stopped => exact Or.inl rfl
  | reading =>
      refine Or.inr (Or.inl ⟨rfl, ?_, ?_, ?_⟩)
      · cases first : relay.inbox with
        | nil => rfl
        | cons message rest =>
            have reads := waits .read
            simp only [moveReader?, read?, reader, first, reduceCtorEq] at reads
      · refine Nat.lt_of_not_le fun due => ?_
        exact nomatch (ite_eq_right_iff.mp (waits .giveUp)) ⟨reader, due⟩
      · refine Bool.eq_false_iff.mpr fun told => ?_
        exact nomatch (ite_eq_right_iff.mp (waits .obey)) ⟨reader, told⟩
  | passing rest =>
      have fills := waits .fill
      cases rest with
      | nil => simp only [moveReader?, fill?, reader, reduceCtorEq] at fills
      | cons byte rest =>
          simp only [moveReader?, fill?, reader] at fills
          split at fills
          next => cases fills
          next present =>
              split at fills
              next noRoom =>
                  exact Or.inr (Or.inr ⟨⟨byte :: rest, List.cons_ne_nil _ _, reader⟩,
                    Nat.le_of_sub_eq_zero noRoom, Bool.eq_false_iff.mpr present⟩)
              next => cases fills

end Relay
end ExchangeGrid
