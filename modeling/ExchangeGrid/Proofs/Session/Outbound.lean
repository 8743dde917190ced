import ExchangeGrid.Proofs.Session.Tickets
import ExchangeGrid.Stomp.Handshake

namespace ExchangeGrid
namespace Stomp

/-!
# What a session sends

The writer takes one frame after the other out of the queue and writes it, so that what is on the
wire is always a front of what was enqueued, behind the frame that opened the session.  After a
farewell it writes nothing more, and after a failed write it does not try again.

In which order frames are enqueued is a matter of the calls.  Each subscription is released at most
once, and since nobody can unsubscribe from what is not subscribed yet, it is subscribed before.
Once the session is over only those calls enqueue anything that had made sure of it before.
-/

/-- What the writer has taken and not written yet. -/
def Writer.held : Writer → List Frame
  | .writing frame => [frame]
  | _ => []

def Writer.GoesOn : Writer → Prop
  | .running | .writing _ => True
  | .parting | .closing | .ended => False

theorem Introduction.command_frame (introduction : Introduction) :
    introduction.frame.command = .connect := by
  rcases introduction with ⟨host, login, passcode⟩
  cases login <;> cases passcode <;> rfl

namespace Session

/-- The frames on the wire, from the one that opened the session on. -/
def wire (introduction : Introduction) (session : Session) : List Frame :=
  introduction.frame :: session.written

theorem mem_dropLast_wire {introduction : Introduction} {session : Session} {frame : Frame}
    (member : frame ∈ (wire introduction session).dropLast) :
    frame = introduction.frame ∨ frame ∈ session.written.dropLast := by
  unfold wire at member
  cases written : session.written with
  | nil =>
      rw [written] at member
      cases member
  | cons first more =>
      rw [written, List.dropLast_cons_cons] at member
      exact List.mem_cons.mp member

/-! ## The writer -/

/-- The writer writes frames in the order in which they were enqueued, and none after a farewell. -/
structure InOrder (session : Session) : Prop where
  taken_le : session.taken ≤ session.enqueued.length
  front : session.written <+: session.enqueued.take session.taken
  held_eq : session.writer.GoesOn →
    session.written ++ session.writer.held = session.enqueued.take session.taken
  farewell_last : ∀ frame ∈ session.written.dropLast, frame.command ≠ .disconnect
  noFarewell : session.writer.GoesOn → ∀ frame ∈ session.written, frame.command ≠ .disconnect

theorem InOrder.written_front {session : Session} (inOrder : InOrder session) :
    session.written <+: session.enqueued :=
  inOrder.front.trans (List.take_prefix _ _)

/-- Where the writer rests, frames can only be added to the queue. -/
theorem InOrder.keep {session next : Session} (inOrder : InOrder session)
    (rests : Rests session next) (grows : session.enqueued <+: next.enqueued) : InOrder next := by
  have same : next.enqueued.take next.taken = session.enqueued.take session.taken := by
    rcases grows with ⟨added, enqueued_eq⟩
    rw [← enqueued_eq, rests.taken_eq, List.take_append_of_le_length inOrder.taken_le]
  refine ⟨?_, ?_, ?_, ?_, ?_⟩
  · rw [rests.taken_eq]
    exact Nat.le_trans inOrder.taken_le grows.length_le
  · rw [same, rests.written_eq]
    exact inOrder.front
  · rw [same, rests.written_eq, rests.writer_eq]
    exact inOrder.held_eq
  · rw [rests.written_eq]
    exact inOrder.farewell_last
  · rw [rests.written_eq, rests.writer_eq]
    exact inOrder.noFarewell

/-- A writer that stops where it is has written what it has written. -/
theorem InOrder.stop {session next : Session} (inOrder : InOrder session)
    (written_eq : next.written = session.written) (enqueued_eq : next.enqueued = session.enqueued)
    (taken_eq : next.taken = session.taken) (stops : ¬ next.writer.GoesOn) : InOrder next := by
  refine ⟨?_, ?_, fun goesOn => (stops goesOn).elim, ?_, fun goesOn => (stops goesOn).elim⟩
  · rw [taken_eq, enqueued_eq]
    exact inOrder.taken_le
  · rw [taken_eq, enqueued_eq, written_eq]
    exact inOrder.front
  · rw [written_eq]
    exact inOrder.farewell_last

theorem InOrder.take {session : Session} (inOrder : InOrder session) {frame : Frame}
    {waiting : List Frame} (running : session.writer = .running)
    (next : session.outbound = frame :: waiting) :
    InOrder { session with taken := session.taken + 1, writer := .writing frame } := by
  have goesOn : session.writer.GoesOn := by
    rw [running]
    trivial
  have written_eq := inOrder.held_eq goesOn
  rw [running] at written_eq
  have taken_eq : session.enqueued.take (session.taken + 1) =
      session.enqueued.take session.taken ++ [frame] := by
    unfold outbound at next
    rw [List.take_add, next]
    rfl
  refine ⟨?_, ?_, ?_, inOrder.farewell_last, fun _ => inOrder.noFarewell goesOn⟩
  · have length_eq := congrArg List.length next
    unfold outbound at length_eq
    rw [List.length_drop, List.length_cons] at length_eq
    dsimp only
    omega
  · dsimp only
    rw [taken_eq]
    exact inOrder.front.trans (List.prefix_append _ _)
  · intro _
    dsimp only
    rw [taken_eq, ← written_eq]
    exact congrArg (· ++ [frame]) (List.append_nil _).symm

theorem InOrder.write {session : Session} (inOrder : InOrder session) {frame : Frame}
    {writer : Writer} (writing : session.writer = .writing frame)
    (onlyLast : writer.GoesOn → writer = .running ∧ frame.command ≠ .disconnect) :
    InOrder { session with written := session.written ++ [frame], writer } := by
  have goesOn : session.writer.GoesOn := by
    rw [writing]
    trivial
  have written_eq := inOrder.held_eq goesOn
  rw [writing] at written_eq
  refine ⟨inOrder.taken_le, ?_, ?_, ?_, ?_⟩
  · rw [← written_eq]
    exact List.prefix_refl _
  · intro still
    dsimp only
    rw [(onlyLast still).1, ← written_eq]
    exact List.append_nil _
  · rw [List.dropLast_concat]
    exact inOrder.noFarewell goesOn
  · intro still other member
    rcases List.mem_append.mp member with before | now
    · exact inOrder.noFarewell goesOn other before
    · rw [List.mem_singleton.mp now]
      exact (onlyLast still).2

theorem InOrder.move {session next : Session} {move : WriterMove} (inOrder : InOrder session)
    (moved : session.moveWriter? move = some next) : InOrder next := by
  cases move with
  | take =>
      simp only [moveWriter?, take?] at moved
      split at moved
      · rename_i frame waiting running outbound
        cases moved
        exact inOrder.take running outbound
      · cases moved
  | write =>
      simp only [moveWriter?, write?] at moved
      split at moved
      · rename_i frame writing
        cases moved
        refine inOrder.write writing ?_
        intro still
        split at still
        · exact still.elim
        · rename_i notFarewell
          exact ⟨if_neg notFarewell, notFarewell⟩
      · cases moved
  | fail reached =>
      simp only [moveWriter?, failToWrite?] at moved
      split at moved
      · rename_i frame writing
        cases moved
        cases reached
        · exact inOrder.stop rfl rfl rfl id
        · exact inOrder.write writing False.elim
      · cases moved
  | part =>
      simp only [moveWriter?, part?] at moved
      split at moved
      · cases moved
        exact inOrder.stop rfl rfl rfl id
      · cases moved
  | stop =>
      simp only [moveWriter?, stopWriter?] at moved
      split at moved
      · cases moved
        exact inOrder.stop rfl rfl rfl id
      · cases moved
  | close =>
      simp only [moveWriter?, closeWriter?] at moved
      split at moved
      · cases moved
        exact inOrder.stop rfl rfl rfl id
      · cases moved

/-- A call to subscribe ends without a fault only by sending its frame. -/
theorem Advanced.sent {session next : Session} {id destination : String} {stage : Stage}
    (moved : Advanced session (.subscribe id destination) stage next (.done (.ok ())))
    (visits : (Call.subscribe id destination).Visits stage) :
    (Call.subscribe id destination).frame ∈ next.enqueued := by
  cases moved with
  | enqueue call ended room => exact List.mem_append_right _ (List.mem_singleton.mpr rfl)
  | finish call result => cases visits

/-- A call gets ready to enqueue its frame only while the session goes on. -/
theorem Advanced.cancelled_of_enqueue {session next : Session} {call : Call} {stage : Stage}
    (moved : Advanced session call stage next .enqueue) : session.cancelled = false := by
  generalize ready : Stage.enqueue = later at moved
  cases moved with
  | pass call cancelled => exact cancelled
  | refuse call cancelled | unheard call ended | enqueue call ended room =>
      cases call <;> cases ready
  | _ => cases ready

namespace Scene

/-- Frames are only ever added to the queue, each by the call that sends it. -/
theorem Happened.enqueued_cases {scene next : Scene} {event : Event}
    (happened : Happened scene event next) :
    next.session.enqueued = scene.session.enqueued ∨
      ∃ number call, event = .advance number ∧
        scene.calls[number]? = some (call, .enqueue) ∧
        next.calls[number]? = some (call, call.afterSend (.ok ())) ∧
        next.session.enqueued = scene.session.enqueued ++ [call.frame] := by
  cases happened with
  | aside event next isAside kept => exact Or.inl kept.enqueued_eq
  | reader move session moved => exact Or.inl moved.enqueued_eq
  | begin call => exact Or.inl rfl
  | advance before after call stage later session calls_eq moved =>
      cases moved with
      | enqueue call ended room =>
          rw [calls_eq]
          exact Or.inr ⟨before.length, call, rfl, getElem?_length _ _ _, getElem?_length _ _ _, rfl⟩
      | finish call result => cases call <;> exact Or.inl rfl
      | _ => exact Or.inl rfl

theorem Happened.enqueued_grows {scene next : Scene} {event : Event}
    (happened : Happened scene event next) :
    scene.session.enqueued <+: next.session.enqueued := by
  rcases happened.enqueued_cases with same | ⟨number, call, -, -, -, added⟩
  · exact same ▸ List.prefix_refl _
  · exact added ▸ List.prefix_append _ _

variable {rest : List UInt8} {events : List Event} {last : Scene}

theorem inOrder_of_run (run : (opened rest).run? events = some last) : InOrder last.session := by
  refine run_induction (motive := fun _ scene => InOrder scene.session) ?_ ?_ run
  · exact ⟨Nat.le_refl _, List.nil_prefix, fun _ => rfl, nofun, fun _ => nofun⟩
  · intro events event scene next earlier happens inductionHypothesis
    by_cases writes : ∃ move, event = .writer move
    · rcases writes with ⟨move, rfl⟩
      rcases Option.map_eq_some_iff.mp happens with ⟨session, moved, rfl⟩
      exact inductionHypothesis.move moved
    · have rests := rests_of_after? happens fun move writer => writes ⟨move, writer⟩
      exact inductionHypothesis.keep rests (happened_of_after? happens).enqueued_grows

/-! ## Calls -/

/-- Every frame in the queue is that of a call. -/
theorem sent_by_call (run : (opened rest).run? events = some last) :
    ∀ frame ∈ last.session.enqueued, ∃ call : Call, frame = call.frame := by
  refine invariant_of_run (motive := fun scene => ∀ frame ∈ scene.session.enqueued,
    ∃ call : Call, frame = call.frame) run nofun ?_
  intro scene event next happened inductionHypothesis frame member
  rcases happened.enqueued_cases with same | ⟨number, call, -, -, -, added⟩
  · rw [same] at member
    exact inductionHypothesis frame member
  · rw [added] at member
    rcases List.mem_append.mp member with before | now
    · exact inductionHypothesis frame before
    · exact ⟨call, List.mem_singleton.mp now⟩

/-- Who has subscribed without a fault has sent the frame for it. -/
theorem sent_of_returned (run : (opened rest).run? events = some last) :
    ∀ (number : Nat) id destination,
      last.calls[number]? = some (.subscribe id destination, .done (.ok ())) →
        (Call.subscribe id destination).frame ∈ last.session.enqueued := by
  refine run_induction (motive := fun _ scene => ∀ (number : Nat) id destination,
    scene.calls[number]? = some (.subscribe id destination, .done (.ok ())) →
      (Call.subscribe id destination).frame ∈ scene.session.enqueued) ?_ ?_ run
  · intro number id destination returned
    cases returned
  · intro events event scene next earlier happens inductionHypothesis number id destination
      returned
    have happened := happened_of_after? happens
    rcases happened.call_cases returned with
      kept | ⟨-, -, impossible, -⟩ | ⟨-, stage, found, moved⟩
    · exact happened.enqueued_grows.subset (inductionHypothesis number id destination kept)
    · cases impossible
    · exact moved.sent (visits_of_run earlier number _ stage found)

/-- The subscriptions whose calls have returned without a fault. -/
def returned (scene : Scene) : List String :=
  scene.calls.filterMap fun
    | (.subscribe id _, .done (.ok ())) => some id
    | _ => none

theorem exists_of_mem_returned {scene : Scene} {id : String} (member : id ∈ scene.returned) :
    ∃ (number : Nat) (destination : String),
      scene.calls[number]? = some (.subscribe id destination, .done (.ok ())) := by
  rcases List.mem_filterMap.mp member with ⟨entry, listed, id_eq⟩
  rcases List.getElem?_of_mem listed with ⟨number, found⟩
  split at id_eq
  · cases id_eq
    exact ⟨number, _, found⟩
  · cases id_eq

/-- The identifier with which unsubscribe is called, and the subscriptions that have returned by
then. -/
def unsubscribed? (scene : Scene) : Event → Option (String × List String)
  | .begin (.unsubscribe id) => some (id, scene.returned)
  | _ => none

/-- Unsubscribe is called only with the identifiers of subscriptions that have returned without a
fault, or with identifiers that are drawn at no time. -/
def IsCareful (start : Scene) (events : List Event) (issued : List String) : Prop :=
  ∀ asked ∈ start.noted unsubscribed? events, asked.1 ∈ asked.2 ∨ asked.1 ∉ issued

instance (start : Scene) (events : List Event) (issued : List String) :
    Decidable (start.IsCareful events issued) :=
  inferInstanceAs (Decidable (∀ _ ∈ _, _))

theorem IsCareful.of_concat {start scene next : Scene} {event : Event} {issued : List String}
    (run : start.run? events = some scene) (happens : scene.after? event = some next)
    (careful : start.IsCareful (events ++ [event]) issued) :
    start.IsCareful events issued ∧
      ∀ asked, scene.unsubscribed? event = some asked → asked.1 ∈ asked.2 ∨ asked.1 ∉ issued := by
  unfold IsCareful at careful
  rw [noted_concat unsubscribed? run happens] at careful
  constructor
  · exact fun asked member => careful asked (List.mem_append_left _ member)
  · intro asked now
    refine careful asked (List.mem_append_right _ ?_)
    rw [now, Option.toList_some]
    exact List.mem_singleton.mpr rfl

/-- A call to unsubscribe from what was drawn begins only after the subscription was sent. -/
theorem subscribed_of_unsubscribe (run : (opened rest).run? events = some last)
    {issued : List String} (careful : (opened rest).IsCareful events issued) :
    ∀ (number : Nat) id stage, last.calls[number]? = some (.unsubscribe id, stage) →
      id ∈ issued → ∃ frame ∈ last.session.enqueued, Names .subscribe id frame := by
  revert careful
  refine run_induction (motive := fun events scene => (opened rest).IsCareful events issued →
    ∀ (number : Nat) id stage, scene.calls[number]? = some (.unsubscribe id, stage) →
      id ∈ issued → ∃ frame ∈ scene.session.enqueued, Names .subscribe id frame) ?_ ?_ run
  · intro _ number id stage found
    cases found
  · intro events event scene next earlier happens inductionHypothesis careful number id stage found
      drawn
    have happened := happened_of_after? happens
    rcases careful.of_concat earlier happens with ⟨carefulBefore, carefulNow⟩
    have already (stage : Stage) (found : scene.calls[number]? = some (.unsubscribe id, stage)) :
        ∃ frame ∈ next.session.enqueued, Names .subscribe id frame := by
      rcases inductionHypothesis carefulBefore number id stage found drawn with
        ⟨frame, member, names⟩
      exact ⟨frame, happened.enqueued_grows.subset member, names⟩
    rcases happened.call_cases found with kept | ⟨begun, -, -, -⟩ | ⟨-, stage, wasAt, -⟩
    · exact already stage kept
    · subst begun
      rcases carefulNow _ rfl with member | never
      · rcases exists_of_mem_returned member with ⟨other, destination, returned⟩
        have sent := sent_of_returned earlier other id destination returned
        exact ⟨_, happened.enqueued_grows.subset sent, rfl, rfl⟩
      · exact (never drawn).elim
    · exact already stage wasAt

/-- Who unsubscribes from something has taken out a route, so that it was drawn. -/
theorem mem_issued_of_unsubscribe (run : (opened rest).run? events = some last) {number : Nat}
    {id : String} (found : last.calls[number]? = some (.unsubscribe id, .enqueue)) :
    id ∈ last.issued := by
  -- The call holds a ticket, and of what was never drawn there is none.
  by_contra absent
  rcases tickets_of_run run id with ⟨lost, balance, -⟩
  rw [List.count_eq_zero.mpr absent] at balance
  have none : (last.calls.map fun entry => entry.1.tickets id entry.2).sum = 0 := by
    unfold tickets at balance
    omega
  rw [List.sum_eq_zero_iff_forall_eq_nat] at none
  have holds := none _ (List.mem_map_of_mem (List.mem_of_getElem? found))
  rw [Call.tickets_enqueue, if_pos rfl] at holds
  cases holds

/-- A subscription is released only after it was sent. -/
theorem subscribed_before (run : (opened rest).run? events = some last) {issued : List String}
    (careful : (opened rest).IsCareful events issued) (drawn : last.issued ⊆ issued) :
    ∀ front frame id, front ++ [frame] <+: last.session.enqueued → Names .unsubscribe id frame →
      ∃ earlier ∈ front, Names .subscribe id earlier := by
  revert careful drawn
  refine run_induction (motive := fun events scene => (opened rest).IsCareful events issued →
    scene.issued ⊆ issued → ∀ front frame id, front ++ [frame] <+: scene.session.enqueued →
      Names .unsubscribe id frame → ∃ earlier ∈ front, Names .subscribe id earlier) ?_ ?_ run
  · intro _ _ front frame id within
    have impossible := List.prefix_nil.mp within
    rw [List.append_eq_nil_iff] at impossible
    cases impossible.2
  · intro events event scene next earlier happens inductionHypothesis careful drawn front frame id
      within names
    have happened := happened_of_after? happens
    have drawnBefore : scene.issued ⊆ issued := fun id member =>
      drawn (happened.issued_grows.subset member)
    have carefulBefore := (careful.of_concat earlier happens).1
    have old := inductionHypothesis carefulBefore drawnBefore front frame id
    rcases happened.enqueued_cases with same | ⟨number, call, -, found, -, added⟩
    · rw [same] at within
      exact old within names
    · rw [added, List.prefix_concat_iff] at within
      rcases within with isLast | before
      · -- The frame is sent now, by a call that began when the subscription had returned.
        rcases List.append_inj' isLast rfl with ⟨rfl, frame_eq⟩
        cases frame_eq
        rcases names_frame_iff.mp names with rfl
        exact subscribed_of_unsubscribe earlier carefulBefore number id .enqueue found
          (drawnBefore (mem_issued_of_unsubscribe earlier found))
      · exact old before names

/-- No subscription is released twice. -/
theorem countP_written_le_one (run : (opened rest).run? events = some last)
    (distinct : last.issued.Nodup) (id : String) :
    last.session.written.countP (Names .unsubscribe id) ≤ 1 := by
  have atMostOne := tickets_le_one_of_run run distinct id
  have within : last.session.written.countP (Names .unsubscribe id) ≤
      last.session.enqueued.countP (Names .unsubscribe id) :=
    (inOrder_of_run run).written_front.sublist.countP_le
  unfold tickets Session.tickets at atMostOne
  omega

/-! ## After the end -/

/-- All that was enqueued since then comes from calls that were about to enqueue it, each once. -/
def SendsOnly (scene last : Scene) : Prop :=
  ∃ sent : List (Nat × Call), (sent.map Prod.fst).Nodup ∧
    (∀ entry ∈ sent, scene.calls[entry.1]? = some (entry.2, .enqueue)) ∧
    last.session.enqueued = scene.session.enqueued ++ sent.map (·.2.frame)

/-- What holds from the moment on in which the end of the session was announced. -/
structure SentSince (first scene : Scene) (sent : List (Nat × Call)) : Prop where
  cancelled : scene.session.cancelled = true
  numbers : (sent.map Prod.fst).Nodup
  wereReady : ∀ entry ∈ sent, first.calls[entry.1]? = some (entry.2, .enqueue)
  arePast : ∀ entry ∈ sent, ∀ call, scene.calls[entry.1]? ≠ some (call, .enqueue)
  ready : ∀ (number : Nat) call, scene.calls[number]? = some (call, .enqueue) →
    first.calls[number]? = some (call, .enqueue)
  enqueued_eq : scene.session.enqueued = first.session.enqueued ++ sent.map (·.2.frame)

/-- After the end was announced no call gets ready to enqueue. -/
theorem Happened.wasReady {scene next : Scene} {event : Event}
    (happened : Happened scene event next) (cancelled : scene.session.cancelled = true)
    {number : Nat} {call : Call} (ready : next.calls[number]? = some (call, .enqueue)) :
    scene.calls[number]? = some (call, .enqueue) := by
  rcases happened.call_cases ready with kept | ⟨-, -, started, -⟩ | ⟨-, stage, found, moved⟩
  · exact kept
  · cases call <;> cases started
  · rw [moved.cancelled_of_enqueue] at cancelled
    cases cancelled

theorem SentSince.step {first scene next : Scene} {event : Event} {sent : List (Nat × Call)}
    (since : SentSince first scene sent) (happened : Happened scene event next) :
    ∃ more, SentSince first next (sent ++ more) := by
  have cancelled := happened.cancelled since.cancelled
  have arePast : ∀ entry ∈ sent, ∀ call, next.calls[entry.1]? ≠ some (call, .enqueue) :=
    fun entry member call ready =>
      since.arePast entry member call (happened.wasReady since.cancelled ready)
  have ready (number : Nat) (call : Call) (found : next.calls[number]? = some (call, .enqueue)) :
      first.calls[number]? = some (call, .enqueue) :=
    since.ready number call (happened.wasReady since.cancelled found)
  rcases happened.enqueued_cases with same | ⟨number, call, -, found, reached, added⟩
  · refine ⟨[], ?_⟩
    rw [List.append_nil]
    exact ⟨cancelled, since.numbers, since.wereReady, arePast, ready, same.trans since.enqueued_eq⟩
  · refine ⟨[(number, call)], cancelled, ?_, ?_, ?_, ready, ?_⟩
    · rw [List.map_append, List.map_singleton, List.nodup_append]
      refine ⟨since.numbers, List.nodup_singleton _, ?_⟩
      -- Whoever has sent is past its send, so it is not the call that sends now.
      intro earlier isEarlier other isNow same
      rcases List.mem_map.mp isEarlier with ⟨entry, member, rfl⟩
      rw [List.mem_singleton.mp isNow] at same
      exact since.arePast entry member call (same ▸ found)
    · intro entry member
      rcases List.mem_append.mp member with before | now
      · exact since.wereReady entry before
      · rw [List.mem_singleton.mp now]
        exact since.ready number call found
    · intro entry member other still
      rcases List.mem_append.mp member with before | now
      · exact arePast entry before other still
      · rw [List.mem_singleton.mp now, reached] at still
        cases call <;> cases still
    · rw [added, since.enqueued_eq, List.map_append, List.append_assoc]
      rfl

/-- Once the session is over, a call that has not made sure of it before enqueues nothing. -/
theorem sendsOnly_of_run {first : Scene} (run : first.run? events = some last)
    (cancelled : first.session.cancelled = true) : first.SendsOnly last := by
  have since : ∃ sent, SentSince first last sent := by
    refine invariant_of_run (motive := fun scene => ∃ sent, SentSince first scene sent) run ?_ ?_
    · exact ⟨[], cancelled, List.nodup_nil, nofun, nofun, fun _ _ ready => ready,
        (List.append_nil _).symm⟩
    · rintro scene event next happened ⟨sent, since⟩
      rcases since.step happened with ⟨more, still⟩
      exact ⟨sent ++ more, still⟩
  rcases since with ⟨sent, since⟩
  exact ⟨sent, since.numbers, since.wereReady, since.enqueued_eq⟩

/-! ## The wire -/

/-- On the wire are one CONNECT frame and behind it the first of the frames that were enqueued, in
their order.  Nothing follows a DISCONNECT frame, so that there is at most one.  No subscription is
released twice, or before it was sent.  And once the session is over, nothing is enqueued but by
calls that had looked for the end before. -/
theorem wire_in_order (introduction : Introduction) (run : (opened rest).run? events = some last)
    (distinct : last.issued.Nodup) (careful : (opened rest).IsCareful events last.issued) :
    (∃ sent, wire introduction last.session = introduction.frame :: sent ∧
      sent <+: last.session.enqueued) ∧
    (wire introduction last.session).countP (·.command = .connect) = 1 ∧
    (∀ frame ∈ (wire introduction last.session).dropLast, frame.command ≠ .disconnect) ∧
    (∀ id, (wire introduction last.session).countP (Names .unsubscribe id) ≤ 1) ∧
    (∀ front frame id, front ++ [frame] <+: wire introduction last.session →
      Names .unsubscribe id frame → ∃ earlier ∈ front, Names .subscribe id earlier) ∧
    (∀ front back scene, events = front ++ back → (opened rest).run? front = some scene →
      scene.session.cancelled = true → scene.SendsOnly last) := by
  have inOrder := inOrder_of_run run
  have opening := introduction.command_frame
  refine ⟨⟨_, rfl, inOrder.written_front⟩, ?_, ?_, ?_, ?_, ?_⟩
  · have noOther : last.session.written.countP (·.command = .connect) = 0 := by
      rw [List.countP_eq_zero]
      intro frame member
      rcases sent_by_call run frame (inOrder.written_front.subset member) with ⟨call, rfl⟩
      cases call <;> exact of_decide_eq_false rfl
    rw [wire, List.countP_cons, noOther, opening]
    rfl
  · intro frame member
    rcases mem_dropLast_wire member with rfl | written
    · rw [opening]
      exact nofun
    · exact inOrder.farewell_last frame written
  · intro id
    rw [wire, List.countP_cons_of_neg]
    · exact countP_written_le_one run distinct id
    · rw [decide_eq_true_eq]
      exact fun names => nomatch opening.symm.trans names.1
  · intro front frame id within names
    cases front with
    | nil =>
        rw [List.nil_append, wire, List.cons_prefix_cons] at within
        rw [within.1] at names
        cases opening.symm.trans names.1
    | cons first front =>
        rw [List.cons_append, wire, List.cons_prefix_cons] at within
        rcases subscribed_before run careful (List.Subset.refl _) front frame id
          (within.2.trans inOrder.written_front) names with ⟨earlier, member, subscribes⟩
        exact ⟨earlier, List.mem_cons_of_mem _ member, subscribes⟩
  · rintro front back scene rfl reached cancelled
    rw [run?_append_of reached] at run
    exact sendsOnly_of_run run cancelled

/-- A call subscribes; three unsubscribe, two of them from that and one from what nobody drew; and
two take leave.  The writer writes what it finds and closes. -/
def twoFarewells : List Event :=
  [.begin (.subscribe "feed" "/topic/a"), .advance 0, .advance 0, .advance 0, .advance 0,
    .begin (.unsubscribe "feed"), .begin (.unsubscribe "nobody"), .begin (.unsubscribe "feed"),
    .advance 3, .advance 3, .writer .take, .advance 1, .advance 2, .advance 3, .writer .write,
    .begin (.disconnect "bye"), .begin (.disconnect "again"), .advance 4, .advance 5, .advance 5,
    .writer .take, .writer .write, .writer .take, .writer .write, .advance 4, .writer .part,
    .writer .close]

theorem wire_twoFarewells : ∃ last, (opened []).run? twoFarewells = some last ∧ last.issued.Nodup ∧
    (opened []).IsCareful twoFarewells last.issued ∧
    last.session.enqueued.length = 4 ∧
    wire ⟨"broker", none, none⟩ last.session =
      [Introduction.frame ⟨"broker", none, none⟩, (Call.subscribe "feed" "/topic/a").frame,
        (Call.unsubscribe "feed").frame, (Call.disconnect "again").frame] ∧
    (wire ⟨"broker", none, none⟩ last.session).countP (Names .unsubscribe "feed") ≤ 1 := by
  refine ⟨_, rfl, ?_, ?_, rfl, rfl, ?_⟩
  · decide
  · decide
  · have inOrder := @wire_in_order [] twoFarewells _ ⟨"broker", none, none⟩ rfl (by decide)
      (by decide)
    exact inOrder.2.2.2.1 "feed"

end Scene
end Session
end Stomp
end ExchangeGrid
