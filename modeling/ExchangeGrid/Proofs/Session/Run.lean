import ExchangeGrid.Proofs.Session.Steps
import Mathlib.Data.List.Induction

namespace ExchangeGrid
namespace Stomp
namespace Session

/-!
# Runs of a session

How a property of single events becomes one of whole runs, and what can be said of every scene that
a run reaches.  Calls are told apart by their numbers, and subscriptions by the identifiers that
were drawn for them; `noted` collects what somebody who watches a run writes down.
-/

namespace Scene

/-! ## From one event to a run -/

theorem run?_append (scene : Scene) (front back : List Event) :
    scene.run? (front ++ back) = (scene.run? front).bind fun middle => middle.run? back :=
  List.foldlM_append

theorem run?_append_of {first middle : Scene} {front : List Event}
    (earlier : first.run? front = some middle) (back : List Event) :
    first.run? (front ++ back) = middle.run? back := by
  rw [run?_append, earlier]
  rfl

theorem run?_singleton (scene : Scene) (event : Event) :
    scene.run? [event] = scene.after? event := by
  change (scene.after? event).bind some = _
  rw [Option.bind_fun_some]

theorem run?_cons_of {scene next : Scene} {event : Event} (happens : scene.after? event = some next)
    (events : List Event) : scene.run? (event :: events) = next.run? events := by
  change (scene.after? event).bind (fun next => next.run? events) = _
  rw [happens]
  rfl

theorem run?_concat_eq_some {start last : Scene} {events : List Event} {event : Event}
    (run : start.run? (events ++ [event]) = some last) :
    ∃ scene, start.run? events = some scene ∧ scene.after? event = some last := by
  rw [run?_append] at run
  rcases Option.bind_eq_some_iff.mp run with ⟨scene, earlier, happened⟩
  rw [run?_singleton] at happened
  exact ⟨scene, earlier, happened⟩

/-- What holds at the start and is kept by every event holds after every run. -/
theorem run_induction {start : Scene} {motive : List Event → Scene → Prop}
    (atStart : motive [] start)
    (step : ∀ events event scene next, start.run? events = some scene →
      scene.after? event = some next → motive events scene → motive (events ++ [event]) next)
    {events : List Event} {last : Scene} (run : start.run? events = some last) :
    motive events last := by
  induction events using List.reverseRecOn generalizing last with
  | nil =>
      cases run
      exact atStart
  | append_singleton events event inductionHypothesis =>
      rcases run?_concat_eq_some run with ⟨scene, earlier, happened⟩
      exact step events event scene last earlier happened (inductionHypothesis earlier)

/-- What is noted along a run, where a note may be taken of each event before it happens. -/
def noted {Note : Type} (note? : Scene → Event → Option Note) (scene : Scene) :
    List Event → List Note
  | [] => []
  | event :: events =>
    match scene.after? event with
    | some next => (note? scene event).toList ++ next.noted note? events
    | none => []

theorem noted_append {Note : Type} (note? : Scene → Event → Option Note) {start middle : Scene}
    {front : List Event} (run : start.run? front = some middle) (back : List Event) :
    start.noted note? (front ++ back) = start.noted note? front ++ middle.noted note? back := by
  induction front generalizing start with
  | nil =>
      cases run
      rfl
  | cons first front inductionHypothesis =>
      rcases Option.bind_eq_some_iff.mp run with ⟨second, began, later⟩
      simp only [List.cons_append, noted, began]
      rw [inductionHypothesis later, List.append_assoc]

theorem noted_concat {Note : Type} (note? : Scene → Event → Option Note) {start scene next : Scene}
    {events : List Event} {event : Event} (run : start.run? events = some scene)
    (happened : scene.after? event = some next) :
    start.noted note? (events ++ [event]) =
      start.noted note? events ++ (note? scene event).toList := by
  rw [noted_append note? run]
  simp only [noted, happened, List.append_nil]

/-! ## Calls and identifiers -/

theorem getElem?_length {α : Type} (before after : List α) (here : α) :
    (before ++ here :: after)[before.length]? = some here := by
  rw [List.getElem?_append_right (Nat.le_refl _), Nat.sub_self, List.getElem?_cons_zero]

/-- Each call stays where it is, unless it has taken a step or was just begun. -/
theorem Happened.call_cases {scene next : Scene} {event : Event}
    (happened : Happened scene event next) {number : Nat} {call : Call} {later : Stage}
    (found : next.calls[number]? = some (call, later)) :
    scene.calls[number]? = some (call, later) ∨
      (event = .begin call ∧ number = scene.calls.length ∧ later = call.start ∧
        next.session = scene.session) ∨
      (event = .advance number ∧ ∃ stage, scene.calls[number]? = some (call, stage) ∧
        Advanced scene.session call stage next.session later) := by
  cases happened with
  | aside event next isAside kept =>
      rw [kept.calls_eq] at found
      exact Or.inl found
  | reader move session moved => exact Or.inl found
  | begin begun =>
      rcases Nat.lt_trichotomy number scene.calls.length with inside | here | outside
      · rw [List.getElem?_append_left inside] at found
        exact Or.inl found
      · rw [here, List.getElem?_concat_length] at found
        cases found
        exact Or.inr (Or.inl ⟨rfl, here, rfl, rfl⟩)
      · rw [List.getElem?_eq_none] at found
        · cases found
        · rw [List.length_append, List.length_singleton]
          exact outside
  | advance before after moving stage reached session calls_eq moved =>
      by_cases here : number = before.length
      · subst number
        rw [getElem?_length] at found
        cases found
        refine Or.inr (Or.inr ⟨rfl, stage, ?_, moved⟩)
        rw [calls_eq, getElem?_length]
      · left
        rw [calls_eq, ← found]
        rcases Nat.lt_or_gt_of_ne here with inside | outside
        · rw [List.getElem?_append_left inside, List.getElem?_append_left inside]
        · rcases Nat.exists_eq_add_of_lt outside with ⟨beyond, rfl⟩
          rw [List.getElem?_append_right (by omega), List.getElem?_append_right (by omega),
            show before.length + beyond + 1 - before.length = beyond + 1 by omega]
          rfl

/-- A call does not get lost. -/
theorem Happened.call_kept {scene next : Scene} {event : Event}
    (happened : Happened scene event next) {number : Nat} {call : Call} {stage : Stage}
    (found : scene.calls[number]? = some (call, stage)) :
    ∃ later, next.calls[number]? = some (call, later) ∧
      (later = stage ∨
        event = .advance number ∧ Advanced scene.session call stage next.session later) := by
  cases happened with
  | aside event next isAside kept =>
      rw [← kept.calls_eq] at found
      exact ⟨stage, found, Or.inl rfl⟩
  | reader move session moved => exact ⟨stage, found, Or.inl rfl⟩
  | begin begun =>
      refine ⟨stage, ?_, Or.inl rfl⟩
      rcases List.getElem?_eq_some_iff.mp found with ⟨inside, -⟩
      rw [List.getElem?_append_left inside]
      exact found
  | advance before after moving reached later session calls_eq moved =>
      rw [calls_eq] at found
      rcases Nat.lt_trichotomy number before.length with inside | here | outside
      · rw [List.getElem?_append_left inside] at found
        refine ⟨stage, ?_, Or.inl rfl⟩
        rw [List.getElem?_append_left inside]
        exact found
      · subst number
        rw [getElem?_length] at found
        cases found
        exact ⟨later, getElem?_length _ _ _, Or.inr ⟨rfl, moved⟩⟩
      · rcases Nat.exists_eq_add_of_lt outside with ⟨beyond, rfl⟩
        have position : before.length + beyond + 1 - before.length = beyond + 1 := by omega
        rw [List.getElem?_append_right (by omega), position] at found
        refine ⟨stage, ?_, Or.inl rfl⟩
        rw [List.getElem?_append_right (by omega), position]
        exact found

theorem advanced_of_after? {scene next : Scene} {number : Nat} {call : Call} {stage : Stage}
    (found : scene.calls[number]? = some (call, stage))
    (happens : scene.after? (.advance number) = some next) :
    ∃ later, next.calls[number]? = some (call, later) ∧
      Advanced scene.session call stage next.session later := by
  simp only [after?, found] at happens
  rcases Option.map_eq_some_iff.mp happens with ⟨⟨session, later⟩, moved, rfl⟩
  refine ⟨later, ?_, advanced_of_advance? moved⟩
  rw [List.getElem?_set_self (List.getElem?_eq_some_iff.mp found).1]

/-- The calls that were made, in the order in which they began. -/
def made (scene : Scene) : List Call :=
  scene.calls.map (·.1)

/-- The identifiers that were drawn for subscriptions, in the order in which the calls began. -/
def issued (scene : Scene) : List String :=
  scene.made.filterMap Call.drawn?

theorem mem_issued {scene : Scene} {number : Nat} {id destination : String} {stage : Stage}
    (found : scene.calls[number]? = some (.subscribe id destination, stage)) :
    id ∈ scene.issued :=
  List.mem_filterMap.mpr ⟨_, List.mem_map_of_mem (List.mem_of_getElem? found), rfl⟩

theorem Happened.made_grows {scene next : Scene} {event : Event}
    (happened : Happened scene event next) : scene.made <+: next.made := by
  unfold made
  cases happened with
  | aside event next isAside kept =>
      exact kept.calls_eq ▸ List.prefix_refl _
  | reader move session moved => exact List.prefix_refl _
  | begin call =>
      rw [List.map_append]
      exact List.prefix_append _ _
  | advance before after call stage later session calls_eq moved =>
      have same : (before ++ (call, later) :: after).map (·.1) = scene.calls.map (·.1) := by
        rw [calls_eq, List.map_append, List.map_append]
        rfl
      exact same ▸ List.prefix_refl _

theorem Happened.issued_grows {scene next : Scene} {event : Event}
    (happened : Happened scene event next) : scene.issued <+: next.issued :=
  happened.made_grows.filterMap _

theorem Happened.distinct {scene next : Scene} {event : Event}
    (happened : Happened scene event next) (distinct : next.issued.Nodup) : scene.issued.Nodup :=
  distinct.sublist happened.issued_grows.sublist

theorem issued_of_run {first last : Scene} {events : List Event}
    (run : first.run? events = some last) : first.issued <+: last.issued := by
  refine run_induction (motive := fun _ scene => first.issued <+: scene.issued)
    (List.prefix_refl _) ?_ run
  intro events event scene next earlier happens inductionHypothesis
  exact inductionHypothesis.trans (happened_of_after? happens).issued_grows

/-- Where identifiers are distinct, at most one call subscribes under each. -/
theorem subscribe_unique {scene : Scene} (distinct : scene.issued.Nodup) {first second : Nat}
    {id destination other : String} {stage later : Stage}
    (one : scene.calls[first]? = some (.subscribe id destination, stage))
    (two : scene.calls[second]? = some (.subscribe id other, later)) : first = second := by
  have separate : scene.calls.Pairwise fun earlier later =>
      ∀ drawn, earlier.1.drawn? = some drawn → ∀ again, later.1.drawn? = some again →
        drawn ≠ again :=
    List.pairwise_map.mp (List.pairwise_filterMap.mp distinct)
  have apart {lower upper : Nat} {one two : String} {early late : Stage} (before : lower < upper)
      (below : scene.calls[lower]? = some (.subscribe id one, early))
      (above : scene.calls[upper]? = some (.subscribe id two, late)) : False := by
    rcases List.getElem?_eq_some_iff.mp below with ⟨inBelow, atBelow⟩
    rcases List.getElem?_eq_some_iff.mp above with ⟨inAbove, atAbove⟩
    have different := List.pairwise_iff_getElem.mp separate lower upper inBelow inAbove before
    rw [atBelow, atAbove] at different
    exact different id rfl id rfl rfl
  rcases Nat.lt_trichotomy first second with before | same | behind
  · exact (apart before one two).elim
  · exact same
  · exact (apart behind two one).elim

/-! ## What holds in every scene that can be reached -/

/-- What holds at the start and is kept by whatever happens holds after every run. -/
theorem invariant_of_run {motive : Scene → Prop} {first last : Scene} {events : List Event}
    (run : first.run? events = some last) (atStart : motive first)
    (kept : ∀ scene event next, Happened scene event next → motive scene → motive next) :
    motive last := by
  refine run_induction (motive := fun _ scene => motive scene) atStart ?_ run
  intro events event scene next earlier happens inductionHypothesis
  exact kept scene event next (happened_of_after? happens) inductionHypothesis

/-- Where identifiers are distinct in the end, they were so all the way. -/
theorem distinct_induction {start : Scene} {motive : List Event → Scene → Prop}
    (atStart : motive [] start)
    (step : ∀ events event scene next, start.run? events = some scene →
      scene.after? event = some next → scene.issued.Nodup → motive events scene →
        motive (events ++ [event]) next)
    {events : List Event} {last : Scene} (run : start.run? events = some last)
    (distinct : last.issued.Nodup) : motive events last := by
  revert distinct
  refine run_induction (motive := fun events scene => scene.issued.Nodup → motive events scene)
    (fun _ => atStart) ?_ run
  intro events event scene next earlier happens inductionHypothesis distinct
  have before := (happened_of_after? happens).distinct distinct
  exact step events event scene next earlier happens before (inductionHypothesis before)

variable {rest : List UInt8} {events : List Event} {last : Scene}

theorem visits_of_run (run : (opened rest).run? events = some last) :
    ∀ (number : Nat) call stage, last.calls[number]? = some (call, stage) → call.Visits stage := by
  refine invariant_of_run (motive := fun scene => ∀ (number : Nat) call stage,
    scene.calls[number]? = some (call, stage) → call.Visits stage) run nofun ?_
  intro scene event next happened inductionHypothesis number call stage found
  rcases happened.call_cases found with
    kept | ⟨-, -, rfl, -⟩ | ⟨-, before, found, moved⟩
  · exact inductionHypothesis number call stage kept
  · exact call.visits_start
  · exact moved.visits (inductionHypothesis number call before found)

/-- A call that has returned has returned for good. -/
theorem returned_of_run {first : Scene} (run : first.run? events = some last) {number : Nat}
    {call : Call} {result : Except Fault Unit}
    (returned : first.calls[number]? = some (call, .done result)) :
    last.calls[number]? = some (call, .done result) := by
  refine invariant_of_run (motive := fun scene => scene.calls[number]? = some (call, .done result))
    run returned ?_
  intro scene event next happened inductionHypothesis
  rcases happened.call_kept inductionHypothesis with ⟨later, kept, rfl | ⟨-, moved⟩⟩
  · exact kept
  · exact moved.not_done.elim

/-- Only a call to subscribe puts a route in, and a channel with it. -/
theorem Happened.insert_cases {scene next : Scene} {event : Event}
    (happened : Happened scene event next) :
    (next.session.routes ⊆ scene.session.routes ∧
      next.session.channelIds = scene.session.channelIds) ∨
    ∃ number id destination, event = .advance number ∧
      scene.calls[number]? = some (.subscribe id destination, .insertRoute) ∧
      next.calls[number]? = some (.subscribe id destination, .checkEnd) ∧
      next.session = scene.session.insertRoute id := by
  cases happened with
  | aside event next isAside kept =>
      left
      rw [kept.routes_eq, kept.channelIds_eq]
      exact ⟨List.Subset.refl _, rfl⟩
  | reader move session moved => exact Or.inl ⟨moved.routes_sublist.subset, moved.channelIds_eq⟩
  | begin call => exact Or.inl ⟨List.Subset.refl _, rfl⟩
  | advance before after call stage later session calls_eq moved =>
      cases moved with
      | insert id destination =>
          rw [calls_eq]
          exact Or.inr ⟨before.length, id, destination, rfl, getElem?_length _ _ _,
            getElem?_length _ _ _, rfl⟩
      | remove id present => exact Or.inl ⟨List.filter_sublist.subset, rfl⟩
      | finish call result =>
          left
          cases call with
          | subscribe id destination =>
              exact ⟨List.filter_sublist.subset,
                channelIds_alterChannel (scene.session.removeRoute id) id Channel.drop⟩
          | unsubscribe id => exact ⟨List.Subset.refl _, rfl⟩
          | disconnect receipt => exact ⟨List.nil_subset _, rfl⟩
      | _ => exact Or.inl ⟨List.Subset.refl _, rfl⟩

theorem channelIds_insertRoute (session : Session) (id : String) :
    (session.insertRoute id).channelIds = session.channelIds ++ [id] := by
  unfold channelIds insertRoute
  rw [List.map_append, List.map_singleton]

/-- Whoever has a route has a channel. -/
theorem routes_subset_channelIds_of_run (run : (opened rest).run? events = some last) :
    last.session.routes ⊆ last.session.channelIds := by
  refine invariant_of_run (motive := fun scene => scene.session.routes ⊆ scene.session.channelIds)
    run nofun ?_
  intro scene event next happened inductionHypothesis
  rcases happened.insert_cases with
    ⟨routes_subset, channelIds_eq⟩ | ⟨number, id, destination, -, -, -, session_eq⟩
  · rw [channelIds_eq]
    exact List.Subset.trans routes_subset inductionHypothesis
  · rw [session_eq, channelIds_insertRoute]
    intro other member
    rcases List.mem_append.mp member with old | new
    · exact List.mem_append_left _ (inductionHypothesis old)
    · exact List.mem_append_right _ new

def HasInserted (scene : Scene) (id : String) : Prop :=
  ∃ (number : Nat) (destination : String) (stage : Stage),
    scene.calls[number]? = some (.subscribe id destination, stage) ∧ stage ≠ .insertRoute

theorem Happened.hasInserted {scene next : Scene} {event : Event}
    (happened : Happened scene event next) {id : String} (inserted : scene.HasInserted id) :
    next.HasInserted id := by
  rcases inserted with ⟨number, destination, stage, found, notWaiting⟩
  rcases happened.call_kept found with ⟨later, kept, rfl | ⟨-, moved⟩⟩
  · exact ⟨number, destination, _, kept, notWaiting⟩
  · exact ⟨number, destination, later, kept, moved.later_ne.1⟩

/-- Where identifiers are distinct, a route that has gone does not come back. -/
theorem Happened.not_mem_routes {scene next : Scene} {event : Event}
    (happened : Happened scene event next) (distinct : scene.issued.Nodup) {id : String}
    (inserted : scene.HasInserted id) (noRoute : id ∉ scene.session.routes) :
    id ∉ next.session.routes := by
  rcases happened.insert_cases with
    ⟨routes_subset, -⟩ | ⟨number, new, destination, -, waits, -, session_eq⟩
  · exact fun member => noRoute (routes_subset member)
  · rw [session_eq]
    intro member
    rcases List.mem_append.mp member with old | isNew
    · exact noRoute old
    · rw [List.mem_singleton] at isNew
      subst isNew
      rcases inserted with ⟨other, place, stage, found, notWaiting⟩
      have same := subscribe_unique distinct waits found
      rw [← same, waits] at found
      cases found
      exact notWaiting rfl

/-- Channels are made by calls. -/
theorem hasInserted_of_run (run : (opened rest).run? events = some last) :
    ∀ id ∈ last.session.channelIds, last.HasInserted id := by
  refine invariant_of_run (motive := fun scene => ∀ id ∈ scene.session.channelIds,
    scene.HasInserted id) run nofun ?_
  intro scene event next happened inductionHypothesis id member
  rcases happened.insert_cases with
    ⟨-, channelIds_eq⟩ | ⟨number, new, destination, -, -, found, session_eq⟩
  · rw [channelIds_eq] at member
    exact happened.hasInserted (inductionHypothesis id member)
  · rw [session_eq, channelIds_insertRoute, List.mem_append, List.mem_singleton] at member
    rcases member with old | rfl
    · exact happened.hasInserted (inductionHypothesis id old)
    · exact ⟨number, destination, .checkEnd, found, nofun⟩

/-- Before the reader takes the routes out it has announced the end. -/
theorem cancelled_of_run (run : (opened rest).run? events = some last)
    (isOver : last.session.reader = .ended ∨ ∃ failure, last.session.reader = .draining failure) :
    last.session.cancelled = true := by
  revert isOver
  refine invariant_of_run (motive := fun scene => (scene.session.reader = .ended ∨
    ∃ failure, scene.session.reader = .draining failure) → scene.session.cancelled = true)
    run ?_ ?_
  · rintro (impossible | ⟨failure, impossible⟩) <;> cases impossible
  · intro scene event next happened inductionHypothesis isOver
    cases happened with
    | aside event next isAside kept =>
        rw [kept.reader_eq] at isOver
        exact kept.cancelled_of (inductionHypothesis isOver)
    | reader move session moved =>
        rcases moved.reader_cases with ⟨notEnded, notDraining⟩ | cancelled | draining
        · rcases isOver with ended | ⟨failure, draining⟩
          · exact (notEnded ended).elim
          · exact (notDraining failure draining).elim
        · exact cancelled
        · exact moved.cancelled_of (inductionHypothesis (Or.inr draining))
    | begin call => exact inductionHypothesis isOver
    | advance before after call stage later session calls_eq moved =>
        change session.reader = .ended ∨ (∃ failure, session.reader = .draining failure) at isOver
        rw [moved.reader_eq] at isOver
        exact moved.cancelled_eq.trans (inductionHypothesis isOver)

end Scene
end Session
end Stomp
end ExchangeGrid
