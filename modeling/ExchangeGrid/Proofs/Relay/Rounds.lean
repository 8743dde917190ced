import ExchangeGrid.Config
import ExchangeGrid.Proofs.Relay.Run

namespace ExchangeGrid
namespace Relay

/-!
# Rounds of pings and pongs

Pings go out at a period that is shorter than the time to wait for pongs.  So a relay whose pings
are all answered at once should never give up: the next ping always comes before the deadline, and
the pong that answers it moves the deadline on before time goes on.  `early_of_responsive` says that
this is so for every time to wait that the settings can hold from two milliseconds on.

What is asked of the surroundings is asked only where time passes: it passes from one moment at
which everybody is done to the next, and not beyond a ping that is due (`LetsPass`).  Within a
moment everything may happen in any order.  The other side and the client may even go away; that
can end the relay, but not by its deadline.
-/

/-! ## The period -/

theorem pingPeriod_bounds {settings : PubSubSettings} (window : 2 ≤ settings.pongWait) :
    1 ≤ Config.pingPeriod settings ∧ Config.pingPeriod settings < settings.pongWait := by
  unfold Config.pingPeriod
  generalize Nat.pow 2 64 - 1 = bound
  omega

/-! ## Responsive surroundings -/

def pingCount (relay : Relay) : Nat :=
  relay.sent.countP fun
    | .ping _ => true
    | _ => false

/-- Whether a ping has still to be answered after an event, when it is known whether one had to be
before it. -/
def owesPong (relay next : Relay) (owed : Bool) : Event → Bool
  | .arrive (.pong _) => false
  | _ => owed || relay.pingCount < next.pingCount

def duration? : Event → Option Nat
  | .pass milliseconds => some milliseconds
  | _ => none

/-- Time may pass: reader and writer have nothing left to do, every ping was answered, the client
has emptied the pipe, and the writer will not be late with its next ping. -/
def LetsPass (relay : Relay) (owed : Bool) (milliseconds : Nat) : Prop :=
  relay.isIdle = true ∧ owed = false ∧ (relay.available = [] ∨ relay.clientIsGone = true) ∧
    (relay.writer = .running → relay.now + milliseconds ≤ relay.nextPing)

instance decidableLetsPass (relay : Relay) (owed : Bool) (milliseconds : Nat) :
    Decidable (relay.LetsPass owed milliseconds) :=
  inferInstanceAs (Decidable (_ ∧ _ ∧ (_ ∨ _) ∧ (_ → _)))

/-- Once everybody is done time can go on, for no ping is due then. -/
theorem letsPass_of_isIdle {relay : Relay} (idle : relay.isIdle = true)
    (drained : relay.available = [] ∨ relay.clientIsGone = true) : relay.LetsPass false 1 := by
  refine ⟨idle, rfl, drained, ?_⟩
  intro running
  have waits : relay.ping? = none := (isIdle_iff.mp idle).2 .ping
  exact Nat.lt_of_not_le fun due => nomatch (ite_eq_right_iff.mp waits) ⟨running, due⟩

/-- Along these events, time passes only where it may. -/
def Responsive (relay : Relay) (owed : Bool) : List Event → Prop
  | [] => True
  | event :: events =>
    (∀ milliseconds ∈ duration? event, relay.LetsPass owed milliseconds) ∧
      ∀ next ∈ relay.after? event, next.Responsive (relay.owesPong next owed event) events

instance decidableResponsive :
    (relay : Relay) → (owed : Bool) → (events : List Event) →
      Decidable (relay.Responsive owed events)
  | _, _, [] => isTrue trivial
  | relay, owed, event :: events =>
    have (next : Relay) := decidableResponsive next (relay.owesPong next owed event) events
    inferInstanceAs
      (Decidable ((∀ milliseconds ∈ duration? event, _) ∧ ∀ next ∈ relay.after? event, _))

/-! ## The deadline stays ahead -/

/-- The deadline lies ahead, and behind the next ping too once the last one was answered and the
answer was read. -/
structure Fresh (relay : Relay) (owed : Bool) : Prop where
  period_lt : relay.pingPeriod < relay.pongWait
  soon : relay.nextPing ≤ relay.now + relay.pingPeriod
  early : relay.reader ≠ .stopped → relay.now < relay.deadline
  answered : relay.cancelled = false → owed = false → (∀ data, .pong data ∉ relay.inbox) →
    relay.nextPing < relay.deadline

theorem fresh_start {pongWait pingPeriod : Nat} (short : pingPeriod < pongWait) :
    (start pongWait pingPeriod).Fresh false :=
  ⟨short, Nat.le_of_eq (Nat.zero_add pingPeriod).symm, fun _ => Nat.zero_lt_of_lt short,
    fun _ _ _ => short⟩

theorem owed_of_owesPong {relay next : Relay} {owed : Bool} {event : Event}
    (isOther : ∀ data, event ≠ .arrive (.pong data))
    (free : relay.owesPong next owed event = false) : owed = false := by
  unfold owesPong at free
  split at free
  next data => exact absurd rfl (isOther data)
  next => exact (Bool.or_eq_false_iff.mp free).1

/-- An event that leaves the clocks alone, keeps the reader going only if it went before, and hides
no pong. -/
theorem Fresh.aside {relay next : Relay} {owed later : Bool} (fresh : relay.Fresh owed)
    (times : next.pongWait = relay.pongWait ∧ next.pingPeriod = relay.pingPeriod)
    (clocks : next.now = relay.now ∧ next.deadline = relay.deadline ∧
      next.nextPing = relay.nextPing)
    (goesOn : next.reader ≠ .stopped → relay.reader ≠ .stopped)
    (calm : next.cancelled = false → relay.cancelled = false)
    (free : later = false → owed = false)
    (pongs : ∀ data, .pong data ∈ relay.inbox → .pong data ∈ next.inbox) : next.Fresh later := by
  rcases times with ⟨wait_eq, period_eq⟩
  rcases clocks with ⟨now_eq, deadline_eq, ping_eq⟩
  refine ⟨?_, ?_, ?_, ?_⟩
  · rw [wait_eq, period_eq]
    exact fresh.period_lt
  · rw [ping_eq, now_eq, period_eq]
    exact fresh.soon
  · intro reads
    rw [now_eq, deadline_eq]
    exact fresh.early (goesOn reads)
  · intro quiet settled noPong
    rw [ping_eq, deadline_eq]
    exact fresh.answered (calm quiet) (free settled) fun data isPong =>
      noPong data (pongs data isPong)

theorem mem_of_inbox_eq_cons {relay : Relay} {message : Message} {rest : List Message}
    (first : relay.inbox = message :: rest) {data : List UInt8} (isOther : message ≠ .pong data)
    (isPong : .pong data ∈ relay.inbox) : .pong data ∈ relay.arrived.drop (relay.taken + 1) := by
  rw [first] at isPong
  rw [(inbox_eq_cons first).2]
  exact List.mem_of_ne_of_mem isOther.symm isPong

theorem Fresh.of_readerMoved {relay next : Relay} {move : ReaderMove} {owed : Bool}
    (moved : ReaderMoved relay move next) (fresh : relay.Fresh owed) :
    next.Fresh (relay.owesPong next owed (.reader move)) := by
  have free {next : Relay} : relay.owesPong next owed (.reader move) = false → owed = false :=
    owed_of_owesPong nofun
  cases moved with
  | tookPong reading first =>
      have ahead : relay.now < relay.now + relay.pongWait :=
        Nat.lt_add_of_pos_right (Nat.zero_lt_of_lt fresh.period_lt)
      have behind : relay.nextPing < relay.now + relay.pongWait :=
        Nat.lt_of_le_of_lt fresh.soon (Nat.add_lt_add_left fresh.period_lt _)
      exact ⟨fresh.period_lt, fresh.soon, fun _ => ahead, fun _ _ _ => behind⟩
  | tookData reading first isData =>
      refine fresh.aside ⟨rfl, rfl⟩ ⟨rfl, rfl, rfl⟩ 
        (fun _ stopped => nomatch reading.symm.trans stopped) id free ?_
      intro data
      refine mem_of_inbox_eq_cons first ?_
      rintro rfl
      rcases isData with impossible | impossible <;> cases impossible
  | tookPing reading first =>
      exact fresh.aside ⟨rfl, rfl⟩ ⟨rfl, rfl, rfl⟩ id id free
        fun _ => mem_of_inbox_eq_cons first nofun
  | tookClose reading first =>
      exact fresh.aside ⟨rfl, rfl⟩ ⟨rfl, rfl, rfl⟩ (absurd rfl) nofun free
        fun _ => mem_of_inbox_eq_cons first nofun
  | passedAll passing | passedSome passing =>
      exact fresh.aside ⟨rfl, rfl⟩ ⟨rfl, rfl, rfl⟩ 
        (fun _ stopped => nomatch passing.symm.trans stopped) id free fun _ => id
  | sawEnd | lostClient | gaveUp | obeyed =>
      exact fresh.aside ⟨rfl, rfl⟩ ⟨rfl, rfl, rfl⟩ (absurd rfl) nofun free fun _ => id

theorem pingCount_lt {relay next : Relay} (listens : relay.peerIsGone = false)
    (sent_eq : next.sent = relay.sent ++ relay.delivered [.ping []]) :
    relay.pingCount < next.pingCount := by
  rw [pingCount, pingCount, sent_eq, delivered, listens]
  rw [if_neg Bool.false_ne_true, List.countP_append]
  exact Nat.lt_succ_self _

theorem Fresh.of_writerMoved {relay next : Relay} {move : WriterMove} {owed : Bool}
    (moved : WriterMoved relay move next) (fresh : relay.Fresh owed) :
    next.Fresh (relay.owesPong next owed (.writer move)) := by
  have free {next : Relay} : relay.owesPong next owed (.writer move) = false → owed = false :=
    owed_of_owesPong nofun
  cases moved with
  | pinged running due =>
      refine ⟨fresh.period_lt, Nat.add_le_add_right due _, fresh.early, ?_⟩
      intro calm settled
      -- Where the ping got out it is owed its pong; where it did not, the writer has stopped.
      have notFailed := (Bool.or_eq_false_iff.mp calm).2
      have listens : relay.peerIsGone = false := by
        rw [failsToSend] at notFailed
        simpa using notFailed
      have notMore := (Bool.or_eq_false_iff.mp settled).2
      exact absurd (pingCount_lt listens rfl) (of_decide_eq_false notMore)
  | tookBytes | answered =>
      exact fresh.aside ⟨rfl, rfl⟩ ⟨rfl, rfl, rfl⟩ id (fun calm => (Bool.or_eq_false_iff.mp calm).1)
        free fun _ => id
  | lostClient | obeyed =>
      exact fresh.aside ⟨rfl, rfl⟩ ⟨rfl, rfl, rfl⟩ id nofun free fun _ => id
  | foundClosed | failedToClose | closed =>
      exact fresh.aside ⟨rfl, rfl⟩ ⟨rfl, rfl, rfl⟩ id id free fun _ => id

theorem Fresh.of_arrive {relay : Relay} {owed : Bool} (message : Message) (sound : relay.Sound)
    (fresh : relay.Fresh owed) :
    (relay.arrive message).Fresh
      (relay.owesPong (relay.arrive message) owed (.arrive message)) := by
  have inbox_eq : (relay.arrive message).inbox = relay.inbox ++ [message] :=
    List.drop_append_of_le_length sound.taken_le
  by_cases isPong : ∃ data, message = .pong data
  · rcases isPong with ⟨data, rfl⟩
    refine ⟨fresh.period_lt, fresh.soon, fresh.early, ?_⟩
    intro _ _ noPong
    refine absurd ?_ (noPong data)
    rw [inbox_eq]
    exact List.mem_append_right _ (List.mem_singleton_self _)
  · refine fresh.aside ⟨rfl, rfl⟩ ⟨rfl, rfl, rfl⟩ id id (owed_of_owesPong ?_) ?_
    · rintro data same
      cases same
      exact isPong ⟨data, rfl⟩
    · intro data member
      rw [inbox_eq]
      exact List.mem_append_left _ member

/-- Where time may pass, the next ping comes before the deadline, and time does not go beyond it. -/
theorem Fresh.of_pass {relay : Relay} {owed : Bool} {milliseconds : Nat} (sound : relay.Sound)
    (fresh : relay.Fresh owed) (lets : relay.LetsPass owed milliseconds) :
    (relay.pass milliseconds).Fresh
      (relay.owesPong (relay.pass milliseconds) owed (.pass milliseconds)) := by
  rcases lets with ⟨idle, settled, drained, onTime⟩
  refine ⟨fresh.period_lt, ?_, ?_, ?_⟩
  · calc relay.nextPing ≤ relay.now + relay.pingPeriod := fresh.soon
      _ ≤ relay.now + milliseconds + relay.pingPeriod :=
        Nat.add_le_add_right (Nat.le_add_right _ _) _
  · intro reads
    rcases reader_cases_of_isIdle idle with stopped | ⟨-, nothing, -, calm⟩ | held
    · exact absurd stopped reads
    · have running : relay.writer = .running := by
        refine Decidable.byContradiction fun stopped => ?_
        rw [sound.cancelled_of_writer stopped] at calm
        cases calm
      have noPong (data : List UInt8) : .pong data ∉ relay.inbox := by
        rw [nothing]
        exact List.not_mem_nil
      exact Nat.lt_of_le_of_lt (onTime running) (fresh.answered calm settled noPong)
    · rcases held with ⟨-, full, present⟩
      rcases drained with empty | gone
      · rw [empty] at full
        cases full
      · rw [present] at gone
        cases gone
  · intro calm _ noPong
    exact fresh.answered calm settled noPong

theorem Happened.fresh {relay next : Relay} {event : Event} {owed : Bool}
    (happened : Happened relay event next) (sound : relay.Sound) (fresh : relay.Fresh owed)
    (lets : ∀ milliseconds ∈ duration? event, relay.LetsPass owed milliseconds) :
    next.Fresh (relay.owesPong next owed event) := by
  cases happened with
  | reader moved => exact fresh.of_readerMoved moved
  | writer moved => exact fresh.of_writerMoved moved
  | arrive message => exact fresh.of_arrive message sound
  | pass milliseconds => exact fresh.of_pass sound (lets milliseconds rfl)
  | cancel =>
      exact fresh.aside ⟨rfl, rfl⟩ ⟨rfl, rfl, rfl⟩ id nofun (owed_of_owesPong nofun) fun _ => id
  | breakInbox | losePeer | write | receive | loseClient | request =>
      exact fresh.aside ⟨rfl, rfl⟩ ⟨rfl, rfl, rfl⟩ id id (owed_of_owesPong nofun) fun _ => id

theorem not_giveUp_of_fresh {relay next : Relay} {owed : Bool} (fresh : relay.Fresh owed) :
    ¬ Happened relay (.reader .giveUp) next := by
  rintro ⟨moved⟩
  cases moved with
  | gaveUp reading due =>
      have ahead := fresh.early fun stopped => nomatch reading.symm.trans stopped
      exact Nat.not_le_of_lt ahead due

theorem early_of_run {start last : Relay} {owed : Bool} {events : List Event}
    (run : start.run? events = some last) (sound : start.Sound) (fresh : start.Fresh owed)
    (responsive : start.Responsive owed events) :
    (last.reader ≠ .stopped → last.now < last.deadline) ∧ .reader .giveUp ∉ events := by
  induction events generalizing start owed with
  | nil =>
      cases run
      exact ⟨fresh.early, List.not_mem_nil⟩
  | cons event events inductionHypothesis =>
      rcases run?_cons_eq_some.mp run with ⟨next, happens, later⟩
      rcases responsive with ⟨lets, others⟩
      have happened := happened_of_after? happens
      have ends := inductionHypothesis later (happened.sound sound)
        (happened.fresh sound fresh lets) (others next happens)
      refine ⟨ends.1, List.not_mem_cons_of_ne_of_not_mem ?_ ends.2⟩
      rintro rfl
      exact not_giveUp_of_fresh fresh happened

/-- A relay in responsive surroundings never gives up: its deadline lies ahead for as long as it
reads. -/
theorem early_of_responsive {settings : PubSubSettings} (window : 2 ≤ settings.pongWait)
    {events : List Event} {last : Relay}
    (run : (start settings.pongWait (Config.pingPeriod settings)).run? events = some last)
    (responsive : (start settings.pongWait (Config.pingPeriod settings)).Responsive false events) :
    1 ≤ Config.pingPeriod settings ∧ Config.pingPeriod settings < settings.pongWait ∧
      (last.reader ≠ .stopped → last.now < last.deadline) ∧ .reader .giveUp ∉ events := by
  have bounds := pingPeriod_bounds window
  exact ⟨bounds.1, bounds.2,
    early_of_run run (sound_start _ _) (fresh_start bounds.2) responsive⟩

/-- Four rounds at the shortest time to wait.  Data comes with the first pong, and the second
answers a ping that was asked for too. -/
def fourRounds : List Event :=
  [.pass 1, .writer .ping, .arrive (.pong []), .arrive (.binary [65, 66]), .reader .read,
    .reader .read, .reader .fill, .reader .fill, .receive 2, .pass 1, .request, .writer .ping,
    .writer .answerRequest, .arrive (.pong []), .reader .read, .pass 1, .arrive (.ping [67]),
    .writer .ping, .arrive (.pong []), .reader .read, .reader .read, .pass 1, .writer .ping,
    .arrive (.pong []), .reader .read]

theorem early_fourRounds :
    ∃ last, (start 2 (Config.pingPeriod { pongWait := 2 })).run? fourRounds = some last ∧
      (start 2 (Config.pingPeriod { pongWait := 2 })).Responsive false fourRounds ∧
      1 ≤ Config.pingPeriod { pongWait := 2 } ∧ Config.pingPeriod { pongWait := 2 } < 2 ∧
      (last.reader ≠ .stopped → last.now < last.deadline) ∧ .reader .giveUp ∉ fourRounds := by
  have run : (start 2 (Config.pingPeriod { pongWait := 2 })).run? fourRounds =
      some { start 2 1 with
        now := 4
        arrived := [.pong [], .binary [65, 66], .pong [], .ping [67], .pong [], .pong []]
        taken := 6
        sent := [.ping [], .ping [], .ping [], .ping [], .pong [67], .ping []]
        deadline := 6
        pongs := 4
        nextPing := 5
        offered := [65, 66]
        received := 2 } := rfl
  have responsive :
      (start 2 (Config.pingPeriod { pongWait := 2 })).Responsive false fourRounds := by decide
  have window : 2 ≤ ({ pongWait := 2 } : PubSubSettings).pongWait := Nat.le_refl 2
  exact ⟨_, run, responsive, early_of_responsive window run responsive⟩

end Relay
end ExchangeGrid
