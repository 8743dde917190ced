import ExchangeGrid.Proofs.Session.Channels

namespace ExchangeGrid
namespace Stomp
namespace Session

/-!
# The end of a session

The reader announces the end and then takes all routes out.  A call to subscribe puts its route in
before it looks for that announcement.  So a call that was let on had its route in when the reader
took the routes out, and a call whose route comes later sees the announcement and takes it out
itself: whoever subscribed without a fault is told of the end.

`settled_after_drain` says so for any number of calls and any order of steps.  Identifiers are
supposed to be distinct, and nothing else is asked of the calls.
-/

namespace Scene

/-! ## Calls that come too late -/

/-- A call has not put a route in yet, or has not even begun. -/
def IsLate (scene : Scene) (number : Nat) : Prop :=
  ∀ call stage, scene.calls[number]? = some (call, stage) → stage = .insertRoute

/-- A call that came too late is about to see that, or to take its route out again. -/
def IsLeaving (stage : Stage) : Prop :=
  stage = .checkEnd ∨ stage = .finish (.error .closed)

/-- What holds from the moment on in which the reader has taken the routes out. -/
structure AfterDrain (drained scene : Scene) : Prop where
  cancelled : scene.session.cancelled = true
  routes_late : ∀ id ∈ scene.session.routes, ∃ number destination stage, drained.IsLate number ∧
    scene.calls[number]? = some (.subscribe id destination, stage) ∧ IsLeaving stage
  begun : ∀ (number : Nat) call stage, drained.calls[number]? = some (call, stage) →
    stage ≠ .insertRoute →
    ∃ later, scene.calls[number]? = some (call, later) ∧ later ≠ .insertRoute
  stages_late : ∀ number id destination stage, drained.IsLate number →
    scene.calls[number]? = some (.subscribe id destination, stage) →
    stage = .insertRoute ∨ IsLeaving stage ∨ stage = .done (.error .closed)

theorem afterDrain_self {scene : Scene} (cancelled : scene.session.cancelled = true)
    (noRoutes : scene.session.routes = []) : AfterDrain scene scene where
  cancelled := cancelled
  routes_late := by
    rw [noRoutes]
    exact nofun
  begun := fun _ _ stage found started => ⟨stage, found, started⟩
  stages_late := fun _ _ _ _ late found => Or.inl (late _ _ found)

/-- A call that leaves goes on to leave, or has taken its route out. -/
theorem leaving_of_advanced {session next : Session} {id destination : String}
    {stage later : Stage} (moved : Advanced session (.subscribe id destination) stage next later)
    (cancelled : session.cancelled = true) (leaving : IsLeaving stage) :
    IsLeaving later ∨ later = .done (.error .closed) ∧ id ∉ next.routes := by
  rcases leaving with rfl | rfl
  · cases moved with
    | tooLate call isOver => exact Or.inl (Or.inr rfl)
    | inTime call goesOn =>
        rw [goesOn] at cancelled
        cases cancelled
  · cases moved with
    | finish call result =>
        refine Or.inr ⟨rfl, ?_⟩
        intro member
        have kept := (List.mem_filter.mp member).2
        simp only [bne_self_eq_false, Bool.false_eq_true] at kept

theorem AfterDrain.step {drained scene next : Scene} {event : Event}
    (after : AfterDrain drained scene) (happened : Happened scene event next) :
    AfterDrain drained next := by
  have begun : ∀ (number : Nat) call stage, drained.calls[number]? = some (call, stage) →
      stage ≠ .insertRoute →
      ∃ later, next.calls[number]? = some (call, later) ∧ later ≠ .insertRoute := by
    intro number call stage found started
    rcases after.begun number call stage found started with ⟨reached, there, on⟩
    rcases happened.call_kept there with ⟨later, kept, rfl | ⟨-, moved⟩⟩
    · exact ⟨_, kept, on⟩
    · exact ⟨later, kept, moved.later_ne.1⟩
  refine ⟨happened.cancelled after.cancelled, ?_, begun, ?_⟩
  · intro id member
    -- A route that was there already belongs to a call that was leaving before this event.
    have old (before : id ∈ scene.session.routes) : ∃ number destination stage,
        drained.IsLate number ∧
          next.calls[number]? = some (.subscribe id destination, stage) ∧ IsLeaving stage := by
      rcases after.routes_late id before with ⟨number, destination, stage, late, found, leaving⟩
      rcases happened.call_kept found with ⟨later, kept, rfl | ⟨-, moved⟩⟩
      · exact ⟨number, destination, _, late, kept, leaving⟩
      · rcases leaving_of_advanced moved after.cancelled leaving with leaves | ⟨-, gone⟩
        · exact ⟨number, destination, later, late, kept, leaves⟩
        · exact (gone member).elim
    rcases happened.insert_cases with
      ⟨routes_subset, -⟩ | ⟨number, new, destination, -, waits, inserted, session_eq⟩
    · exact old (routes_subset member)
    · rw [session_eq] at member
      rcases List.mem_append.mp member with before | isNew
      · exact old before
      · rw [List.mem_singleton] at isNew
        subst isNew
        refine ⟨number, destination, .checkEnd, ?_, inserted, Or.inl rfl⟩
        intro call stage found
        by_contra started
        rcases after.begun number call stage found started with ⟨later, there, on⟩
        rw [waits] at there
        cases there
        exact on rfl
  · intro number id destination later late found
    rcases happened.call_cases found with
      kept | ⟨-, -, started, -⟩ | ⟨-, stage, before, moved⟩
    · exact after.stages_late number id destination later late kept
    · exact Or.inl started
    · rcases after.stages_late number id destination stage late before with
        rfl | leaving | rfl
      · exact Or.inr (Or.inl (Or.inl moved.eq_checkEnd))
      · rcases leaving_of_advanced moved after.cancelled leaving with leaves | ⟨returned, -⟩
        · exact Or.inr (Or.inl leaves)
        · exact Or.inr (Or.inr returned)
      · exact moved.not_done.elim

/-! ## What becomes of them -/

theorem after?_advance {scene : Scene} {number : Nat} {call : Call} {stage later : Stage}
    {session : Session} (found : scene.calls[number]? = some (call, stage))
    (moved : scene.session.advance? call stage = some (session, later)) :
    scene.after? (.advance number) = some ⟨session, scene.calls.set number (call, later)⟩ ∧
      (scene.calls.set number (call, later))[number]? = some (call, later) := by
  constructor
  · simp only [after?, found, moved, Option.map_some]
  · rw [List.getElem?_set_self (List.getElem?_eq_some_iff.mp found).1]

/-- The rest of a call can be done at once.  It ends with a fault, and takes nothing out but its own
route. -/
def IsTurnedAway (scene : Scene) (number : Nat) (id destination : String) : Prop :=
  ∃ count final, scene.run? (List.replicate count (.advance number)) = some final ∧
    final.calls[number]? = some (.subscribe id destination, .done (.error .closed)) ∧
    ∀ other, other ∈ final.session.routes ↔ other ∈ scene.session.routes ∧ other ≠ id

theorem IsTurnedAway.of_step {scene next : Scene} {number : Nat} {id destination : String}
    (happens : scene.after? (.advance number) = some next)
    (routes : ∀ other, other ≠ id →
      (other ∈ next.session.routes ↔ other ∈ scene.session.routes))
    (turnedAway : next.IsTurnedAway number id destination) :
    scene.IsTurnedAway number id destination := by
  rcases turnedAway with ⟨count, final, run, returned, left⟩
  refine ⟨count + 1, final, ?_, returned, ?_⟩
  · rw [List.replicate_succ, run?_cons_of happens]
    exact run
  · intro other
    rw [left]
    exact and_congr_left (routes other)

theorem isTurnedAway_of_finish {scene : Scene} {number : Nat} {id destination : String}
    (found : scene.calls[number]? = some (.subscribe id destination, .finish (.error .closed))) :
    scene.IsTurnedAway number id destination := by
  rcases after?_advance found rfl with ⟨happens, returned⟩
  exact ⟨1, _, (run?_singleton scene _).trans happens, returned, fun _ => mem_removeRoute⟩

theorem isTurnedAway_of_checkEnd {scene : Scene} {number : Nat} {id destination : String}
    (cancelled : scene.session.cancelled = true)
    (found : scene.calls[number]? = some (.subscribe id destination, .checkEnd)) :
    scene.IsTurnedAway number id destination := by
  have moved : scene.session.advance? (.subscribe id destination) .checkEnd =
      some (scene.session, .finish (.error .closed)) := by
    simp only [advance?, cancelled, if_true]
  rcases after?_advance found moved with ⟨happens, leaving⟩
  exact .of_step happens (fun _ _ => Iff.rfl) (isTurnedAway_of_finish leaving)

theorem isTurnedAway_of_insertRoute {scene : Scene} {number : Nat} {id destination : String}
    (cancelled : scene.session.cancelled = true)
    (found : scene.calls[number]? = some (.subscribe id destination, .insertRoute)) :
    scene.IsTurnedAway number id destination := by
  rcases after?_advance found rfl with ⟨happens, inserted⟩
  refine .of_step happens ?_ (isTurnedAway_of_checkEnd cancelled inserted)
  intro other different
  exact Advanced.mem_routes_iff (.insert id destination) rfl different

/-- What is true of a call to subscribe whose route comes after the reader has ended. -/
structure ComesTooLate (scene : Scene) (number : Nat) (id destination : String) (stage : Stage) :
    Prop where
  isTurnedAway : scene.IsTurnedAway number id destination
  result_eq : ∀ result, stage = .done result → result = .error .closed
  noRoute : stage = .insertRoute ∨ (∃ result, stage = .done result) → id ∉ scene.session.routes
  others_kept : ∀ next, scene.after? (.advance number) = some next →
    ∀ other, other ≠ id → (other ∈ next.session.routes ↔ other ∈ scene.session.routes)

/-- A route belongs to a call that is leaving, and to no other. -/
theorem AfterDrain.not_mem_routes {drained scene : Scene} (after : AfterDrain drained scene)
    (distinct : scene.issued.Nodup) {number : Nat} {id destination : String} {stage : Stage}
    (found : scene.calls[number]? = some (.subscribe id destination, stage))
    (stays : ¬ IsLeaving stage) : id ∉ scene.session.routes := by
  intro member
  rcases after.routes_late id member with ⟨other, place, reached, -, there, leaving⟩
  have same := subscribe_unique distinct there found
  subst same
  rw [there] at found
  cases found
  exact stays leaving

theorem not_isLeaving_insertRoute : ¬ IsLeaving .insertRoute := by
  rintro (impossible | impossible) <;> cases impossible

theorem not_isLeaving_done (result : Except Fault Unit) : ¬ IsLeaving (.done result) := by
  rintro (impossible | impossible) <;> cases impossible

theorem AfterDrain.comesTooLate {drained scene : Scene} (after : AfterDrain drained scene)
    (distinct : scene.issued.Nodup) {number : Nat} {id destination : String} {stage : Stage}
    (late : drained.IsLate number)
    (found : scene.calls[number]? = some (.subscribe id destination, stage)) :
    scene.ComesTooLate number id destination stage := by
  have stages := after.stages_late number id destination stage late found
  refine ⟨?_, ?_, ?_, ?_⟩
  · rcases stages with rfl | (rfl | rfl) | rfl
    · exact isTurnedAway_of_insertRoute after.cancelled found
    · exact isTurnedAway_of_checkEnd after.cancelled found
    · exact isTurnedAway_of_finish found
    · refine ⟨0, scene, rfl, found, ?_⟩
      intro other
      refine (and_iff_left_of_imp ?_).symm
      rintro member rfl
      exact after.not_mem_routes distinct found (not_isLeaving_done _) member
  · rintro result rfl
    rcases stages with impossible | (impossible | impossible) | same
    · cases impossible
    · cases impossible
    · cases impossible
    · cases same
      rfl
  · rintro (rfl | ⟨result, rfl⟩)
    · exact after.not_mem_routes distinct found not_isLeaving_insertRoute
    · exact after.not_mem_routes distinct found (not_isLeaving_done result)
  · intro next happens other different
    rcases advanced_of_after? found happens with ⟨later, -, moved⟩
    exact moved.mem_routes_iff rfl different

/-! ## The end -/

theorem drained_of_after? {scene next : Scene}
    (drains : scene.after? (.reader .drain) = some next) :
    ∃ failure, scene.session.reader = .draining failure ∧
      next.session = scene.session.drained failure := by
  rcases Option.map_eq_some_iff.mp drains with ⟨session, moved, rfl⟩
  simp only [moveReader?, drain?] at moved
  split at moved
  · rename_i failure draining
    cases moved
    exact ⟨failure, draining, rfl⟩
  · cases moved

/-- When the reader takes the routes out after a failure, everybody who listens is told of it. -/
theorem told_of_drain {rest : List UInt8} {earlier : List Event} {before drained : Scene}
    (reached : (opened rest).run? earlier = some before)
    (drains : before.after? (.reader .drain) = some drained) {fault : Fault}
    (stopped : before.session.reader = .draining (some fault)) {id : String}
    (member : id ∈ before.session.routes) :
    ∃ channel, drained.session.channel? id = some channel ∧
      (channel.hasReceiver = true →
        ∃ frames : List Frame, channel.items = frames.map .ok ++ [.error fault]) := by
  rcases drained_of_after? drains with ⟨failure, draining, session_eq⟩
  cases draining.symm.trans stopped
  have hasChannel := routes_subset_channelIds_of_run reached member
  have goesOn : before.session.reader ≠ .ended := by
    rw [stopped]
    exact nofun
  cases found : before.session.channel? id with
  | none => exact (channel?_eq_none_iff.mp found hasChannel).elim
  | some channel =>
      have told := channel?_deliverAll before.session (.error fault) id
      rw [found, Option.map_some, if_pos member] at told
      refine ⟨channel.deliver (.error fault), ?_, ?_⟩
      · rw [session_eq]
        exact told
      · intro listens
        rcases frames_of_run reached goesOn found with ⟨frames, carried⟩
        refine ⟨frames, ?_⟩
        rw [← carried]
        unfold Channel.deliver at listens ⊢
        split at listens <;> rename_i heard
        · rw [if_pos heard]
        · exact (heard listens).elim

/-- After the routes were taken out, whoever subscribed without a fault has come to the end of a
channel.  Where the reader stopped on a failure, everybody who had a route then and still listens
was told of it once, and of nothing after it.  And a call that puts its route in later than that
returns the fault of a session that is over, takes its route out again, and touches no other. -/
theorem settled_after_drain {rest : List UInt8} {earlier later : List Event}
    {before drained last : Scene} (reached : (opened rest).run? earlier = some before)
    (drains : before.after? (.reader .drain) = some drained)
    (run : drained.run? later = some last) (distinct : last.issued.Nodup) :
    (∀ (number : Nat) id destination,
      last.calls[number]? = some (.subscribe id destination, .done (.ok ())) →
        id ∉ last.session.routes ∧ last.session.hasEnded id = true) ∧
    (∀ (number : Nat) id destination fault,
      last.calls[number]? = some (.subscribe id destination, .done (.ok ())) →
      before.session.reader = .draining (some fault) → id ∈ before.session.routes →
        ∃ channel, last.session.channel? id = some channel ∧
          (channel.hasReceiver = true →
            ∃ frames : List Frame, channel.items = frames.map .ok ++ [.error fault])) ∧
    (∀ (number : Nat) id destination stage, drained.IsLate number →
      last.calls[number]? = some (.subscribe id destination, stage) →
        last.ComesTooLate number id destination stage) := by
  have reachedDrained : (opened rest).run? (earlier ++ [.reader .drain]) = some drained := by
    rw [run?_append_of reached, run?_singleton, drains]
  rcases drained_of_after? drains with ⟨failure, -, session_eq⟩
  have isOver : drained.session.reader = .ended := by
    rw [session_eq]
    exact rfl
  have noRoutes : drained.session.routes = [] := by
    rw [session_eq]
    exact rfl
  have after : AfterDrain drained last :=
    invariant_of_run (motive := AfterDrain drained) run
      (afterDrain_self (cancelled_of_run reachedDrained (Or.inl isOver)) noRoutes)
      fun _ _ _ happened still => still.step happened
  have overStill : last.session.reader = .ended :=
    invariant_of_run (motive := fun scene => scene.session.reader = .ended) run isOver
      fun _ _ _ happened still => happened.ended still
  refine ⟨?_, ?_, ?_⟩
  · intro number id destination returned
    have noRoute := after.not_mem_routes distinct returned (not_isLeaving_done _)
    refine ⟨noRoute, hasEnded_iff.mpr ⟨noRoute, ?_⟩⟩
    intro frame holding
    cases overStill.symm.trans holding
  · intro number id destination fault returned stopped member
    rcases told_of_drain reached drains stopped member with ⟨channel, found, told⟩
    have ended : drained.session.hasEnded id = true := by
      rw [hasEnded_iff, noRoutes, isOver]
      exact ⟨nofun, nofun⟩
    rcases ended_of_run reachedDrained run distinct found ended with ⟨-, kept, now, unfed⟩
    refine ⟨kept, now, ?_⟩
    intro listens
    rw [unfed.items_eq]
    exact told (unfed.hasReceiver_of listens)
  · intro number id destination stage late found
    exact after.comesTooLate distinct late found

/-- A first call returns before the input ends, a second has passed both looks for the end but has
not sent its frame, and a third has begun, when the reader announces the end. -/
def untilDrain : List Event :=
  [.begin (.subscribe "early" "/topic/a"), .begin (.subscribe "between" "/topic/b"),
    .advance 0, .advance 0, .advance 0, .advance 0, .advance 1, .advance 1, .advance 1,
    .endInput, .reader .read, .begin (.subscribe "late" "/topic/c"), .reader .cancel]

/-- After the routes were taken out, the second call sends its frame, and the third one comes to
its end. -/
def sinceDrain : List Event :=
  [.advance 1, .advance 2, .advance 2, .advance 2]

theorem settled_threeCalls : ∃ before drained last : Scene,
    (opened []).run? untilDrain = some before ∧
      before.after? (.reader .drain) = some drained ∧ drained.run? sinceDrain = some last ∧
      last.issued.Nodup ∧ last.session.hasEnded "early" = true ∧
      (∃ channel, last.session.channel? "between" = some channel ∧
        (channel.hasReceiver = true →
          ∃ frames : List Frame, channel.items = frames.map .ok ++ [.error .closed])) ∧
      last.ComesTooLate 2 "late" "/topic/c" (.done (.error .closed)) := by
  refine ⟨_, _, _, rfl, rfl, rfl, ?_, ?_⟩
  · decide
  · have settled := @settled_after_drain [] untilDrain sinceDrain _ _ _ rfl rfl rfl (by decide)
    refine ⟨(settled.1 0 "early" "/topic/a" rfl).2,
      settled.2.1 1 "between" "/topic/b" .closed rfl rfl (by decide),
      settled.2.2 2 "late" "/topic/c" _ ?_ rfl⟩
    intro call stage found
    cases found
    rfl

end Scene
end Session
end Stomp
end ExchangeGrid
