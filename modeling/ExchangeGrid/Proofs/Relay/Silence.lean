import ExchangeGrid.Proofs.Relay.Run

namespace ExchangeGrid
namespace Relay

/-!
# Silence

A relay waits for pongs for the time it was started with, and `deadline_of_run` says that its
deadline is always that time after the pong it read last, or after its start.  Once a relay at rest
has gone so long without a pong, one would expect it to be closed.  `cancelled_iff_of_silent` says
exactly when it is: the deadline is not looked at while the reader is held, so a client that leaves
its pipe full keeps a relay open whose other side is dead.  By `isHeld_of_run` nothing else but the
client can change that, however much time passes; `open_flooded` is such a run.
-/

/-! ## The last pong -/

def readsPong (relay : Relay) : Event → Bool
  | .reader .read =>
    match relay.inbox with
    | .pong _ :: _ => true
    | _ => false
  | _ => false

/-- When a pong was last read along a run; if none was, a time that is given. -/
def lastPong (relay : Relay) (before : Nat) : List Event → Nat
  | [] => before
  | event :: events =>
    match relay.after? event with
    | some next => next.lastPong (if relay.readsPong event then relay.now else before) events
    | none => before

theorem ReaderMoved.deadline_eq {relay next : Relay} {move : ReaderMove} {before : Nat}
    (moved : ReaderMoved relay move next) (deadline : relay.deadline = before + relay.pongWait) :
    next.deadline =
      (if relay.readsPong (.reader move) then relay.now else before) + relay.pongWait := by
  cases moved with
  | tookPong reading first =>
      have reads : relay.readsPong (.reader .read) = true := by rw [readsPong, first]
      rw [if_pos reads]
  | tookData reading first isData =>
      have other : relay.readsPong (.reader .read) = false := by
        rcases isData with isBinary | isText
        · rw [readsPong, first, isBinary]
        · rw [readsPong, first, isText]
      rw [other]
      exact deadline
  | tookPing reading first | tookClose reading first | sawEnd reading first =>
      have other : relay.readsPong (.reader .read) = false := by rw [readsPong, first]
      rw [other]
      exact deadline
  | passedAll | lostClient | passedSome | gaveUp | obeyed => exact deadline

theorem Happened.deadline_eq {relay next : Relay} {event : Event} {before : Nat}
    (happened : Happened relay event next) (deadline : relay.deadline = before + relay.pongWait) :
    next.deadline = (if relay.readsPong event then relay.now else before) + next.pongWait := by
  rw [happened.times_eq.1]
  cases happened with
  | reader moved => exact moved.deadline_eq deadline
  | writer moved => cases moved <;> exact deadline
  | arrive | breakInbox | losePeer | write | receive | loseClient | request | cancel | pass =>
      exact deadline

/-- The deadline follows the last pong. -/
theorem deadline_of_run {start last : Relay} {events : List Event} {before : Nat}
    (run : start.run? events = some last) (deadline : start.deadline = before + start.pongWait) :
    last.deadline = start.lastPong before events + start.pongWait := by
  induction events generalizing start before with
  | nil =>
      cases run
      exact deadline
  | cons event events inductionHypothesis =>
      rcases run?_cons_eq_some.mp run with ⟨next, happens, later⟩
      have happened := happened_of_after? happens
      rw [inductionHypothesis later (happened.deadline_eq deadline), lastPong, happens,
        happened.times_eq.1]

/-! ## A held reader -/

/-- Whether an event makes room in the pipe, or takes the pipe away. -/
def freesPipe : Event → Bool
  | .receive _ | .loseClient => true
  | _ => false

theorem not_readerMoved_of_isHeld {relay next : Relay} {move : ReaderMove} (held : relay.IsHeld) :
    ¬ ReaderMoved relay move next := by
  rcases held with ⟨⟨rest, left, passing⟩, full, present⟩
  intro moved
  cases moved with
  | tookData reading | tookPing reading | tookPong reading | tookClose reading | sawEnd reading
  | gaveUp reading | obeyed reading =>
      rw [passing] at reading
      cases reading
  | passedAll finished =>
      rw [passing] at finished
      cases finished
      exact left rfl
  | lostClient _ _ gone =>
      rw [present] at gone
      cases gone
  | passedSome _ _ _ room => exact Nat.not_lt_of_le full room

theorem Happened.isHeld {relay next : Relay} {event : Event} (happened : Happened relay event next)
    (held : relay.IsHeld) (stuck : freesPipe event = false) : next.IsHeld := by
  cases happened with
  | reader moved => exact absurd moved (not_readerMoved_of_isHeld held)
  | writer moved => cases moved <;> exact ⟨held.passing, held.full, held.present⟩
  | receive | loseClient => cases stuck
  | arrive | breakInbox | losePeer | write | request | cancel | pass =>
      exact ⟨held.passing, held.full, held.present⟩

/-- A held reader stays held until the client receives or goes away. -/
theorem isHeld_of_run {start last : Relay} {events : List Event} (held : start.IsHeld)
    (run : start.run? events = some last) (stuck : ∀ event ∈ events, freesPipe event = false) :
    last.IsHeld := by
  induction events generalizing start with
  | nil =>
      cases run
      exact held
  | cons event events inductionHypothesis =>
      rcases run?_cons_eq_some.mp run with ⟨next, happens, later⟩
      rcases List.forall_mem_cons.mp stuck with ⟨first, others⟩
      exact inductionHypothesis ((happened_of_after? happens).isHeld held first) later others

theorem fill?_eq_none_of_isHeld {relay : Relay} (held : relay.IsHeld) : relay.fill? = none := by
  rw [Option.eq_none_iff_forall_ne_some]
  intro next moved
  exact not_readerMoved_of_isHeld held (readerMoved_of_fill? moved)

/-! ## When silence closes a relay -/

/-- A relay at rest that has read no pong for its time to wait is closed, except while its reader is
held and its writer runs. -/
theorem cancelled_iff_of_silent {pongWait pingPeriod : Nat} {events : List Event} {last : Relay}
    (run : (start pongWait pingPeriod).run? events = some last) (idle : last.isIdle = true)
    (silent : (start pongWait pingPeriod).lastPong 0 events + pongWait ≤ last.now) :
    last.cancelled = true ↔ ¬ (last.IsHeld ∧ last.writer = .running) := by
  have sound : last.Sound := sound_of_run run
  have due : last.deadline ≤ last.now := by
    rw [deadline_of_run run (Nat.zero_add pongWait).symm]
    exact silent
  constructor
  · rintro told ⟨-, running⟩
    have waits : last.obeyWriter? = none := (isIdle_iff.mp idle).2 .obey
    exact nomatch (ite_eq_right_iff.mp waits) ⟨running, told⟩
  · intro free
    rcases reader_cases_of_isIdle idle with stopped | ⟨-, -, early, -⟩ | held
    · exact sound.cancelled_of_reader stopped
    · exact absurd due (Nat.not_le_of_lt early)
    · exact sound.cancelled_of_writer fun running => free ⟨held, running⟩

/-- One pong comes, and then no other. -/
def forsaken : List Event :=
  [.pass 9, .writer .ping, .arrive (.pong []), .reader .read, .arrive (.binary [65]), .reader .read,
    .reader .fill, .reader .fill, .pass 10, .writer .ping, .reader .giveUp, .writer .obey,
    .writer .close]

theorem cancelled_forsaken :
    ∃ last, (start 10 9).run? forsaken = some last ∧ last.isIdle = true ∧
      (start 10 9).lastPong 0 forsaken + 10 ≤ last.now ∧
      (last.cancelled = true ↔ ¬ (last.IsHeld ∧ last.writer = .running)) := by
  have run : (start 10 9).run? forsaken = some { start 10 9 with
      now := 19
      cancelled := true
      arrived := [.pong [], .binary [65]]
      taken := 2
      sent := [.ping [], .ping [], .close []]
      hasSentClose := true
      reader := .stopped
      deadline := 19
      pongs := 1
      writer := .stopped none
      nextPing := 27
      offered := [65] } := rfl
  exact ⟨_, run, by decide, by decide, cancelled_iff_of_silent run (by decide) (by decide)⟩

theorem fill?_eq_some {relay : Relay} {rest : List UInt8} (passing : relay.reader = .passing rest)
    (left : rest ≠ []) (present : relay.clientIsGone = false)
    (room : relay.available.length < pipeCapacity) :
    relay.fill? = some { relay with
      offered := relay.offered ++ rest.take (pipeCapacity - relay.available.length)
      reader := .passing (rest.drop (pipeCapacity - relay.available.length)) } := by
  cases rest with
  | nil => exact absurd rfl left
  | cons byte rest =>
      simp only [fill?, passing, present, Bool.false_eq_true, if_false]
      rw [if_neg (by omega)]

/-- Some data comes and then three bytes more, and the client receives nothing. -/
def flood (data : List UInt8) : List Event :=
  [.arrive (.binary data), .reader .read, .reader .fill, .reader .fill,
    .arrive (.binary [120, 121, 122]), .reader .read, .reader .fill, .pass 10, .writer .ping]

/-- A relay whose pipe is full of data that nobody receives, at the time of its deadline. -/
def flooded (data : List UInt8) : Relay :=
  { start 10 9 with
    now := 10
    arrived := [.binary data, .binary [120, 121, 122]]
    taken := 2
    sent := [.ping []]
    reader := .passing [121, 122]
    nextPing := 18
    offered := data ++ [120] }

theorem run?_flood {data : List UInt8} (size : data.length + 1 = pipeCapacity) :
    (start 10 9).run? (flood data) = some (flooded data) := by
  let first : Relay :=
    { start 10 9 with arrived := [.binary data], taken := 1, reader := .passing data }
  let second : Relay := { start 10 9 with
    arrived := [.binary data, .binary [120, 121, 122]]
    taken := 2
    reader := .passing [120, 121, 122]
    offered := data }
  have firstFill : first.fill? = some { first with offered := data, reader := .passing [] } := by
    have passing : first.reader = .passing data := rfl
    have some_ : data ≠ [] := by
      rintro rfl
      cases size
    have room : pipeCapacity - first.available.length = data.length + 1 := size.symm
    rw [fill?_eq_some passing some_ rfl (by omega), room, List.take_of_length_le (Nat.le_succ _),
      List.drop_of_length_le (Nat.le_succ _)]
    rfl
  have secondFill : second.fill? =
      some { second with offered := data ++ [120], reader := .passing [121, 122] } := by
    have passing : second.reader = .passing [120, 121, 122] := rfl
    have room : pipeCapacity - second.available.length = 1 := by
      change pipeCapacity - data.length = 1
      omega
    rw [fill?_eq_some passing (List.cons_ne_nil _ _) rfl (by omega), room]
    rfl
  refine run?_cons_eq_some.mpr ⟨_, rfl, run?_cons_eq_some.mpr ⟨first, rfl, ?_⟩⟩
  refine run?_cons_eq_some.mpr ⟨_, firstFill, run?_cons_eq_some.mpr ⟨_, rfl, ?_⟩⟩
  refine run?_cons_eq_some.mpr ⟨_, rfl, run?_cons_eq_some.mpr ⟨second, rfl, ?_⟩⟩
  exact run?_cons_eq_some.mpr ⟨_, secondFill, rfl⟩

theorem isHeld_flooded {data : List UInt8} (size : data.length + 1 = pipeCapacity) :
    (flooded data).IsHeld := by
  refine ⟨⟨[121, 122], List.cons_ne_nil _ _, rfl⟩, ?_, rfl⟩
  change pipeCapacity ≤ (data ++ [120]).length
  rw [List.length_append, List.length_singleton]
  exact Nat.le_of_eq size.symm

theorem isIdle_flooded {data : List UInt8} (size : data.length + 1 = pipeCapacity) :
    (flooded data).isIdle = true := by
  rw [isIdle, background?, fill?_eq_none_of_isHeld (isHeld_flooded size)]
  rfl

theorem lastPong_flood {data : List UInt8} (size : data.length + 1 = pipeCapacity) :
    (start 10 9).lastPong 0 (flood data) = 0 := by
  have deadline := deadline_of_run (run?_flood size) (Nat.zero_add 10).symm
  simp only [flooded, start] at deadline
  exact (Nat.add_right_cancel ((Nat.zero_add 10).trans deadline)).symm

theorem open_while_flooded :
    ∃ last, (start 10 9).run? (flood (List.replicate 65535 97)) = some last ∧
      last.isIdle = true ∧
      (start 10 9).lastPong 0 (flood (List.replicate 65535 97)) + 10 ≤ last.now ∧
      last.cancelled = false := by
  have size : (List.replicate 65535 (97 : UInt8)).length + 1 = pipeCapacity := by
    rw [List.length_replicate]
    rfl
  refine ⟨_, run?_flood size, isIdle_flooded size, ?_, rfl⟩
  rw [lastPong_flood size]
  exact Nat.le_refl 10

end Relay
end ExchangeGrid
