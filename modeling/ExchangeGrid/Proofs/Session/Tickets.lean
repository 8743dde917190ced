import ExchangeGrid.Proofs.Session.Run
import Mathlib.Algebra.GroupWithZero.Nat
import Mathlib.Data.List.Nodup

namespace ExchangeGrid
namespace Stomp
namespace Session

/-!
# Tickets

A subscription can be released once.  One can think of a ticket that is made when its identifier is
drawn.  The call that has yet to put the route in holds it, then the table of routes, then the call
that took the route out to unsubscribe, and then the frame which that call sends.

No step makes a second ticket of one, so no subscription is released twice.  Tickets can get lost;
but in a session that is open and that nobody takes leave of, only the reader loses any: it takes
out the routes on which nobody listens, and no frame is sent for those.
-/

def Names (command : Command) (id : String) (frame : Frame) : Prop :=
  frame.command = command ∧ frame.header? "id" = some id

instance (command : Command) (id : String) : DecidablePred (Names command id) :=
  fun _ => inferInstanceAs (Decidable (_ ∧ _))

theorem names_frame_iff {call : Call} {id : String} :
    Names .unsubscribe id call.frame ↔ call = .unsubscribe id := by
  constructor
  · rintro ⟨command_eq, named⟩
    cases call with
    | subscribe own destination => cases command_eq
    | unsubscribe own =>
        cases named
        rfl
    | disconnect receipt => cases command_eq
  · rintro rfl
    exact ⟨rfl, rfl⟩

def Call.tickets (id : String) : Call → Stage → Nat
  | .subscribe own _, .insertRoute | .unsubscribe own, .checkSend | .unsubscribe own, .enqueue =>
    if own = id then 1 else 0
  | _, _ => 0

theorem Call.tickets_start (call : Call) (id : String) :
    call.tickets id call.start = if call.drawn? = some id then 1 else 0 := by
  cases call with
  | subscribe own destination =>
      simp only [Call.tickets, Call.start, Call.drawn?, Option.some.injEq]
  | unsubscribe own => rfl
  | disconnect receipt => rfl

theorem Call.tickets_enqueue (call : Call) (id : String) :
    call.tickets id .enqueue = if call = .unsubscribe id then 1 else 0 := by
  cases call with
  | unsubscribe own => simp only [Call.tickets, Call.unsubscribe.injEq]
  | subscribe own destination => rfl
  | disconnect receipt => rfl

/-- A frame that was sent or refused is out of the hands of its call. -/
theorem Call.tickets_afterSend (call : Call) (id : String) (result : Except Fault Unit) :
    call.tickets id (call.afterSend result) = 0 := by
  cases call <;> cases result <;> rfl

theorem Call.tickets_of_ne {call : Call} {id : String} (other : call.id? ≠ some id)
    (stage : Stage) : call.tickets id stage = 0 := by
  cases call with
  | subscribe own destination | unsubscribe own =>
      have different : own ≠ id := fun same => other (congrArg some same)
      cases stage <;> first | rfl | exact if_neg different
  | disconnect receipt => rfl

/-- How many tickets of a subscription there are in the table of routes and among the frames that
were sent. -/
def tickets (session : Session) (id : String) : Nat :=
  session.routes.count id + session.enqueued.countP (Names .unsubscribe id)

theorem tickets_insertRoute (session : Session) (id own : String) :
    (session.insertRoute own).tickets id = session.tickets id + if own = id then 1 else 0 := by
  unfold tickets insertRoute
  rw [List.count_append, List.count_singleton]
  simp only [beq_iff_eq]
  omega

theorem tickets_send (session : Session) (id : String) (call : Call) :
    { session with enqueued := session.enqueued ++ [call.frame] }.tickets id =
      session.tickets id + if call = .unsubscribe id then 1 else 0 := by
  unfold tickets
  rw [List.countP_append, List.countP_singleton]
  simp only [decide_eq_true_eq, names_frame_iff]
  omega

theorem count_removeRoute (session : Session) (id own : String) :
    (session.removeRoute own).routes.count id =
      if own = id then 0 else session.routes.count id := by
  unfold removeRoute
  by_cases same : own = id
  · rw [if_pos same, List.count_eq_zero, List.mem_filter, bne_iff_ne]
    exact fun member => member.2 same.symm
  · rw [if_neg same, List.count_filter]
    rw [bne_iff_ne]
    exact Ne.symm same

theorem tickets_removeRoute (session : Session) (id own : String) :
    (session.removeRoute own).tickets id + (if own = id then session.routes.count id else 0) =
      session.tickets id := by
  have count_eq := count_removeRoute session id own
  have same : (session.removeRoute own).enqueued = session.enqueued := rfl
  unfold tickets
  rw [same, count_eq]
  split <;> omega

/-- Who takes a route out takes its ticket, and loses the others if there are more. -/
theorem tickets_take {session : Session} {id : String} (present : id ∈ session.routes) :
    ∃ lost, (session.removeRoute id).tickets id + 1 + lost = session.tickets id ∧
      (lost = 0 ∨ 1 < session.routes.count id) := by
  have removed := tickets_removeRoute session id id
  have positive := List.count_pos_iff.mpr present
  rw [if_pos rfl] at removed
  refine ⟨session.routes.count id - 1, ?_, ?_⟩ <;> omega

theorem tickets_of_routes_eq_nil (session next : Session) (noRoutes : next.routes = [])
    (enqueued_eq : next.enqueued = session.enqueued) (id : String) :
    next.tickets id + session.routes.count id = session.tickets id := by
  unfold tickets
  rw [noRoutes, enqueued_eq, List.count_nil]
  omega

/-- A call that has failed, or is about to. -/
def Stage.HasFailed : Stage → Prop
  | .finish (.error _) | .done (.error _) => True
  | _ => False

/-- A call fails only when the session is over. -/
theorem Advanced.hasFailed {session next : Session} {call : Call} {stage later : Stage}
    (moved : Advanced session call stage next later) (failed : later.HasFailed) :
    stage.HasFailed ∨ session.cancelled = true ∨ session.writer = .ended := by
  cases moved with
  | tooLate call cancelled | refuse call cancelled => exact Or.inr (Or.inl cancelled)
  | unheard call ended => exact Or.inr (Or.inr ended)
  | enqueue call ended room => cases call <;> exact failed.elim
  | finish call result =>
      cases result with
      | error fault => exact Or.inl trivial
      | ok done => exact failed.elim
  | _ => exact failed.elim

/-- What it takes for a call to lose a ticket: the session is over, a route is there more than once,
the call takes leave of the session, or it has failed. -/
inductive MayLose (session : Session) (call : Call) (stage : Stage) (id : String) : Prop
  | cancelled (cancelled : session.cancelled = true)
  | ended (ended : session.writer = .ended)
  | doubled (more : 1 < session.routes.count id)
  | farewell (receipt : String) (call_eq : call = .disconnect receipt)
  | failed (failed : stage.HasFailed)

/-- A step of a call makes no ticket, and moves or loses those that there are. -/
theorem Advanced.tickets {session next : Session} {call : Call} {stage later : Stage}
    (moved : Advanced session call stage next later) (visits : call.Visits stage) (id : String) :
    ∃ lost, next.tickets id + call.tickets id later + lost =
        session.tickets id + call.tickets id stage ∧
      (lost = 0 ∨ session.MayLose call stage id) := by
  cases moved with
  | insert own destination =>
      refine ⟨0, ?_, Or.inl rfl⟩
      rw [tickets_insertRoute]
      rfl
  | tooLate call cancelled | inTime call cancelled =>
      cases call with
      | subscribe own destination => exact ⟨0, rfl, Or.inl rfl⟩
      | unsubscribe own => exact visits.elim
      | disconnect receipt => exact visits.elim
  | remove own present =>
      by_cases same : own = id
      · subst same
        rcases tickets_take present with ⟨lost, balance, noneLost⟩
        refine ⟨lost, ?_, noneLost.imp_right .doubled⟩
        rw [Call.tickets, if_pos rfl]
        exact balance
      · have removed := tickets_removeRoute session id own
        refine ⟨0, ?_, Or.inl rfl⟩
        simp only [Call.tickets, if_neg same] at removed ⊢
        exact removed
  | absent own absent => exact ⟨0, rfl, Or.inl rfl⟩
  | refuse call cancelled =>
      refine ⟨call.tickets id .checkSend, ?_, Or.inr (.cancelled cancelled)⟩
      rw [Call.tickets_afterSend, Nat.add_zero]
  | unheard call ended =>
      refine ⟨call.tickets id .enqueue, ?_, Or.inr (.ended ended)⟩
      rw [Call.tickets_afterSend, Nat.add_zero]
  | pass call cancelled =>
      refine ⟨0, ?_, Or.inl rfl⟩
      cases call <;> rfl
  | enqueue call ended room =>
      refine ⟨0, ?_, Or.inl rfl⟩
      rw [tickets_send, Call.tickets_afterSend, Call.tickets_enqueue]
      rfl
  | finish call result =>
      cases call with
      | subscribe own destination =>
          have removed := tickets_removeRoute session id own
          refine ⟨if own = id then session.routes.count id else 0, removed, ?_⟩
          obtain rfl : result = .error .closed := visits
          exact Or.inr (.failed trivial)
      | unsubscribe own => exact visits.elim
      | disconnect receipt =>
          have cleared := tickets_of_routes_eq_nil session (session.finish (.disconnect receipt))
            rfl rfl id
          exact ⟨session.routes.count id, cleared, Or.inr (.farewell receipt rfl)⟩

theorem isClosed_iff {session : Session} :
    session.isClosed = true ↔ session.cancelled = true ∨ session.writer = .ended := by
  unfold isClosed
  rw [Bool.or_eq_true, beq_iff_eq]

namespace Scene

/-! ## What events do to tickets -/

def tickets (scene : Scene) (id : String) : Nat :=
  scene.session.tickets id + (scene.calls.map fun entry => entry.1.tickets id entry.2).sum

/-- The subscription whose route the reader takes out because nobody listens on it. -/
def pruned? (scene : Scene) : Event → Option String
  | .reader .prune =>
    match scene.session.reader with
    | .pruning id => if id ∈ scene.session.routes then some id else none
    | _ => none
  | _ => none

/-- The subscriptions whose routes the reader took out along a run because nobody listened. -/
def pruned (scene : Scene) (events : List Event) : List String :=
  scene.noted pruned? events

/-- What it takes for a ticket to be lost: the session is over, somebody takes leave of it, or an
identifier was drawn twice. -/
inductive MayLose (scene : Scene) : Prop
  | closed (closed : scene.session.isClosed = true)
  | farewell (receipt : String) (member : .disconnect receipt ∈ scene.made)
  | drawnTwice (twice : ¬ scene.issued.Nodup)

theorem writer_ended_of_after? {scene next : Scene} {event : Event}
    (happens : scene.after? event = some next) (ended : scene.session.writer = .ended) :
    next.session.writer = .ended := by
  by_cases writes : ∃ move, event = .writer move
  · rcases writes with ⟨move, rfl⟩
    rcases Option.map_eq_some_iff.mp happens with ⟨session, moved, rfl⟩
    cases move <;>
      simp only [moveWriter?, take?, write?, failToWrite?, part?, stopWriter?, closeWriter?, ended,
        reduceCtorEq, false_and, if_false] at moved
  · exact (rests_of_after? happens fun move writer => writes ⟨move, writer⟩).writer_eq.trans ended

theorem isClosed_of_after? {scene next : Scene} {event : Event}
    (happens : scene.after? event = some next) (closed : scene.session.isClosed = true) :
    next.session.isClosed = true := by
  rw [isClosed_iff] at closed ⊢
  rcases closed with cancelled | ended
  · exact Or.inl ((happened_of_after? happens).cancelled cancelled)
  · exact Or.inr (writer_ended_of_after? happens ended)

theorem MayLose.step {scene next : Scene} {event : Event} (mayLose : scene.MayLose)
    (happens : scene.after? event = some next) : next.MayLose := by
  have happened := happened_of_after? happens
  cases mayLose with
  | closed closed => exact .closed (isClosed_of_after? happens closed)
  | farewell receipt member => exact .farewell receipt (happened.made_grows.subset member)
  | drawnTwice twice =>
      exact .drawnTwice fun distinct => twice (happened.distinct distinct)

variable {rest : List UInt8} {events : List Event} {last : Scene}

/-- Where a call has failed the session is over. -/
theorem isClosed_of_hasFailed (run : (opened rest).run? events = some last) :
    ∀ (number : Nat) call stage, last.calls[number]? = some (call, stage) → stage.HasFailed →
      last.session.isClosed = true := by
  refine run_induction (motive := fun _ scene => ∀ (number : Nat) call stage,
    scene.calls[number]? = some (call, stage) → stage.HasFailed →
      scene.session.isClosed = true) ?_ ?_ run
  · intro number call stage found
    cases found
  intro events event scene next earlier happens inductionHypothesis number call stage found failed
  rcases (happened_of_after? happens).call_cases found with
    kept | ⟨-, -, rfl, -⟩ | ⟨-, before, wasAt, moved⟩
  · exact isClosed_of_after? happens (inductionHypothesis number call stage kept failed)
  · cases call <;> exact failed.elim
  · rcases moved.hasFailed failed with already | isOver
    · exact isClosed_of_after? happens (inductionHypothesis number call before wasAt already)
    · exact isClosed_of_after? happens (isClosed_iff.mpr isOver)

/-- A call loses tickets only where they can be lost. -/
theorem mayLose_of_call (run : (opened rest).run? events = some last) {number : Nat} {call : Call}
    {stage : Stage} {id : String} (found : last.calls[number]? = some (call, stage))
    (single : last.issued.Nodup → last.session.routes.count id ≤ 1)
    (mayLose : last.session.MayLose call stage id) : last.MayLose := by
  cases mayLose with
  | cancelled cancelled => exact .closed (isClosed_iff.mpr (Or.inl cancelled))
  | ended ended => exact .closed (isClosed_iff.mpr (Or.inr ended))
  | doubled more => exact .drawnTwice fun distinct => Nat.not_le.mpr more (single distinct)
  | farewell receipt call_eq =>
      subst call_eq
      exact .farewell receipt (List.mem_map_of_mem (List.mem_of_getElem? found))
  | failed failed => exact .closed (isClosed_of_hasFailed run number call stage found failed)

/-- What a move of the reader does to tickets. -/
theorem tickets_of_reader (run : (opened rest).run? events = some last) {move : ReaderMove}
    {session : Session} (moved : ReaderMoved last.session move session) (id : String)
    (single : last.issued.Nodup → last.session.routes.count id ≤ 1) :
    ∃ lost, session.tickets id + (last.pruned? (.reader move)).toList.count id + lost =
        last.session.tickets id ∧ (lost = 0 ∨ last.MayLose) := by
  cases moved with
  | fail move fault later reading noFrame =>
      have nonePruned : last.pruned? (.reader move) = none := by
        cases move with
        | prune => simp only [pruned?, reading]
        | _ => rfl
      rw [nonePruned]
      exact ⟨0, rfl, Or.inl rfl⟩
  | prune gone pruning =>
      simp only [pruned?, pruning]
      by_cases isGone : gone = id
      · subst isGone
        by_cases present : gone ∈ last.session.routes
        · rcases tickets_take present with ⟨lost, balance, noneLost⟩
          rw [if_pos present, Option.toList_some, List.count_singleton_self]
          refine ⟨lost, balance, noneLost.imp_right ?_⟩
          exact fun more => .drawnTwice fun distinct => Nat.not_le.mpr more (single distinct)
        · have removed := tickets_removeRoute last.session gone gone
          rw [if_pos rfl, List.count_eq_zero.mpr present] at removed
          rw [if_neg present]
          exact ⟨0, removed, Or.inl rfl⟩
      · have removed := tickets_removeRoute last.session id gone
        rw [if_neg isGone] at removed
        refine ⟨0, ?_, Or.inl rfl⟩
        split
        · rw [Option.toList_some, List.count_singleton, if_neg (mt beq_iff_eq.mp isGone)]
          exact removed
        · exact removed
  | drain failure draining =>
      refine ⟨last.session.routes.count id, ?_, ?_⟩
      · have enqueued_eq := (ReaderMoved.drain failure draining).enqueued_eq
        exact tickets_of_routes_eq_nil last.session _ rfl enqueued_eq id
      · have cancelled := cancelled_of_run run (Or.inr ⟨failure, draining⟩)
        exact Or.inr (.closed (isClosed_iff.mpr (Or.inl cancelled)))
  | _ => exact ⟨0, rfl, Or.inl rfl⟩

theorem tickets_begin (scene : Scene) (call : Call) (id : String) :
    { scene with calls := scene.calls ++ [(call, call.start)] }.tickets id =
      scene.tickets id + if call.drawn? = some id then 1 else 0 := by
  unfold tickets
  rw [List.map_append, List.sum_append, List.map_singleton, List.sum_singleton,
    Call.tickets_start, Nat.add_assoc]

theorem count_issued_begin (scene : Scene) (call : Call) (id : String) :
    { scene with calls := scene.calls ++ [(call, call.start)] }.issued.count id =
      scene.issued.count id + if call.drawn? = some id then 1 else 0 := by
  unfold issued made
  rw [List.map_append, List.filterMap_append, List.count_append]
  cases call with
  | subscribe own destination =>
      simp only [Call.drawn?, List.map_cons, List.map_nil, List.filterMap_cons, List.filterMap_nil,
        List.count_singleton, beq_iff_eq, Option.some.injEq]
  | unsubscribe own | disconnect receipt => rfl

/-- An event makes a ticket only by drawing its identifier, and loses one only where one can be
lost. -/
theorem tickets_of_after? {next : Scene} {event : Event}
    (run : (opened rest).run? events = some last) (happens : last.after? event = some next)
    (id : String)
    (single : last.issued.Nodup → last.session.routes.count id ≤ 1) :
    ∃ lost, next.tickets id + (last.pruned? event).toList.count id + lost + last.issued.count id =
        last.tickets id + next.issued.count id ∧ (lost = 0 ∨ last.MayLose) := by
  have happened := happened_of_after? happens
  cases happened with
  | aside event next isAside kept =>
      have nonePruned : last.pruned? event = none := by
        cases event with
        | reader move => exact isAside.elim
        | _ => rfl
      refine ⟨0, ?_, Or.inl rfl⟩
      unfold tickets issued made Session.tickets
      rw [nonePruned, kept.calls_eq, kept.routes_eq, kept.enqueued_eq]
      rfl
  | begin call =>
      refine ⟨0, ?_, Or.inl rfl⟩
      rw [count_issued_begin, tickets_begin]
      have nonePruned : (last.pruned? (.begin call)).toList.count id = 0 := rfl
      omega
  | advance before after call stage later session calls_eq moved =>
      have found : last.calls[before.length]? = some (call, stage) := by
        rw [calls_eq, getElem?_length]
      have visits := visits_of_run run before.length call stage found
      rcases moved.tickets visits id with ⟨lost, balance, mayLose⟩
      refine ⟨lost, ?_, mayLose.imp_right (mayLose_of_call run found single)⟩
      have nonePruned : (last.pruned? (.advance before.length)).toList.count id = 0 := rfl
      have sameIssued : (Scene.mk session (before ++ (call, later) :: after)).issued =
          last.issued := by
        unfold issued made
        rw [calls_eq, List.map_append, List.map_append]
        rfl
      rw [sameIssued, nonePruned]
      unfold tickets
      rw [calls_eq]
      simp only [List.map_append, List.map_cons, List.sum_append, List.sum_cons]
      omega
  | reader move session moved =>
      rcases tickets_of_reader run moved id single with ⟨lost, balance, mayLose⟩
      refine ⟨lost, ?_, mayLose⟩
      have sameIssued : Scene.issued { last with session } = last.issued := rfl
      rw [sameIssued]
      unfold tickets
      dsimp only
      omega

/-- Every ticket that was ever made is there, or the reader has taken out its route because nobody
listened, or it was lost where tickets can get lost. -/
theorem tickets_of_run (run : (opened rest).run? events = some last) (id : String) :
    ∃ lost, last.tickets id + ((opened rest).pruned events).count id + lost =
        last.issued.count id ∧ (lost = 0 ∨ last.MayLose) := by
  refine run_induction (motive := fun events scene => ∃ lost, scene.tickets id +
    ((opened rest).pruned events).count id + lost = scene.issued.count id ∧
      (lost = 0 ∨ scene.MayLose)) ⟨0, rfl, Or.inl rfl⟩ ?_ run
  rintro events event scene next earlier happens ⟨lostBefore, balance, mayLoseBefore⟩
  -- That a route is there once is read off the balance so far, and the next event needs it.
  have single (distinct : scene.issued.Nodup) : scene.session.routes.count id ≤ 1 := by
    have atMostOne := List.nodup_iff_count_le_one.mp distinct id
    unfold tickets Session.tickets at balance
    omega
  rcases tickets_of_after? earlier happens id single with ⟨lost, step, mayLose⟩
  refine ⟨lostBefore + lost, ?_, ?_⟩
  · rw [pruned, noted_concat pruned? earlier happens, List.count_append]
    unfold pruned at balance
    omega
  · rcases mayLoseBefore with rfl | already
    · rcases mayLose with rfl | now
      · exact Or.inl rfl
      · exact Or.inr (now.step happens)
    · exact Or.inr (already.step happens)

/-- Where identifiers are distinct there is at most one ticket of each. -/
theorem tickets_le_one_of_run (run : (opened rest).run? events = some last)
    (distinct : last.issued.Nodup) (id : String) : last.tickets id ≤ 1 := by
  rcases tickets_of_run run id with ⟨lost, balance, -⟩
  have atMostOne := List.nodup_iff_count_le_one.mp distinct id
  omega

end Scene
end Session
end Stomp
end ExchangeGrid
