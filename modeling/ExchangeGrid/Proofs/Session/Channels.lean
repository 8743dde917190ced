import ExchangeGrid.Proofs.Session.Run

namespace ExchangeGrid
namespace Stomp
namespace Session

/-!
# Channels of a session

Only two things are ever delivered to a channel: a frame that the reader holds a route for, and the
failure that ended the session.  Once the route of a channel has gone and the reader holds on to it
no more, the channel is at its end, and it stays as it is.
-/

theorem hasEnded_iff {session : Session} {id : String} :
    session.hasEnded id = true ↔
      id ∉ session.routes ∧ ∀ frame, session.reader ≠ .delivering id frame := by
  unfold hasEnded isHeld
  rw [Bool.and_eq_true, Bool.not_eq_true', Bool.not_eq_true', ← Bool.not_eq_true,
    List.contains_iff_mem]
  apply and_congr_right
  intro _
  split
  · rename_i held frame holding
    rw [beq_eq_false_iff_ne, holding]
    constructor
    · rintro different other same
      cases same
      exact different rfl
    · rintro notHeld rfl
      exact notHeld frame rfl
  · rename_i holdsNone
    refine ⟨?_, fun _ => rfl⟩
    intro _ frame holding
    exact holdsNone id frame holding

/-- Nothing was delivered to a channel between two looks at it, and a receiver that had gone has not
come back. -/
structure Unfed (earlier later : Channel) : Prop where
  items_eq : later.items = earlier.items
  hasReceiver_of : later.hasReceiver = true → earlier.hasReceiver = true

theorem Unfed.refl (channel : Channel) : Unfed channel channel :=
  ⟨rfl, id⟩

theorem Unfed.trans {first second third : Channel} (one : Unfed first second)
    (two : Unfed second third) : Unfed first third :=
  ⟨two.items_eq.trans one.items_eq, fun heard => one.hasReceiver_of (two.hasReceiver_of heard)⟩

theorem Quiet.unfed {change : Channel → Channel} (quiet : Quiet change) (channel : Channel) :
    Unfed channel (change channel) :=
  ⟨quiet.items_eq channel, quiet.hasReceiver_of channel⟩

theorem channel?_insertRoute_of_some {session : Session} {id : String} {channel : Channel}
    (found : session.channel? id = some channel) (new : String) :
    (session.insertRoute new).channel? id = some channel := by
  unfold channel? insertRoute at *
  rcases Option.map_eq_some_iff.mp found with ⟨entry, looked, rfl⟩
  rw [List.find?_append, looked, Option.some_or, Option.map_some]

theorem channel?_delivered (session : Session) (id other : String) (frame : Frame) :
    (session.delivered id frame).channel? other =
      (session.channel? other).map fun channel =>
        if other = id then channel.deliver (.ok frame) else channel :=
  channel?_alterChannel session id other fun channel => channel.deliver (.ok frame)

theorem channel?_drained (session : Session) (fault : Fault) (id : String) :
    (session.drained (some fault)).channel? id =
      (session.channel? id).map fun channel =>
        if id ∈ session.routes then channel.deliver (.error fault) else channel :=
  channel?_deliverAll session (.error fault) id

/-- What a move of the reader does to a channel. -/
theorem ReaderMoved.channel_cases {session next : Session} {move : ReaderMove}
    (moved : ReaderMoved session move next) {id : String} {channel : Channel}
    (found : session.channel? id = some channel) :
    next.channel? id = some channel ∨
      (∃ frame, session.reader = .delivering id frame ∧
        next.channel? id = some (channel.deliver (.ok frame))) ∨
      (∃ fault, session.reader = .draining (some fault) ∧ next.reader = .ended ∧
        id ∈ session.routes ∧ next.channel? id = some (channel.deliver (.error fault))) := by
  cases moved with
  | deliver held frame delivering =>
      have changed := channel?_delivered session held id frame
      rw [found, Option.map_some] at changed
      by_cases same : id = held
      · subst held
        rw [if_pos rfl] at changed
        exact Or.inr (Or.inl ⟨frame, delivering, changed⟩)
      · rw [if_neg same] at changed
        exact Or.inl changed
  | drain failure draining =>
      cases failure with
      | none => exact Or.inl found
      | some fault =>
          have told := channel?_drained session fault id
          rw [found, Option.map_some] at told
          by_cases present : id ∈ session.routes
          · rw [if_pos present] at told
            exact Or.inr (Or.inr ⟨fault, draining, rfl, present, told⟩)
          · rw [if_neg present] at told
            exact Or.inl told
  | _ => exact Or.inl found

/-- A step of a call delivers nothing. -/
theorem Advanced.channel_unfed {session next : Session} {call : Call} {stage later : Stage}
    (moved : Advanced session call stage next later) {id : String} {channel : Channel}
    (found : session.channel? id = some channel) :
    ∃ kept, next.channel? id = some kept ∧ Unfed channel kept := by
  cases moved with
  | insert new destination =>
      exact ⟨channel, channel?_insertRoute_of_some found new, .refl channel⟩
  | finish call result =>
      cases call with
      | subscribe other destination =>
          have changed := channel?_alterChannel (session.removeRoute other) other id Channel.drop
          have kept : (session.removeRoute other).channel? id = some channel := found
          rw [kept, Option.map_some] at changed
          refine ⟨_, changed, ?_⟩
          by_cases same : id = other
          · rw [if_pos same]
            exact quiet_drop.unfed channel
          · rw [if_neg same]
            exact .refl channel
      | unsubscribe other => exact ⟨channel, found, .refl channel⟩
      | disconnect receipt => exact ⟨channel, found, .refl channel⟩
  | _ => exact ⟨channel, found, .refl channel⟩

namespace Scene

/-- What an event does to a channel. -/
theorem Happened.channel_cases {scene next : Scene} {event : Event}
    (happened : Happened scene event next) {id : String} {channel : Channel}
    (found : scene.session.channel? id = some channel) :
    (∃ kept, next.session.channel? id = some kept ∧ Unfed channel kept) ∨
      (∃ frame, scene.session.reader = .delivering id frame ∧
        next.session.channel? id = some (channel.deliver (.ok frame))) ∨
      (∃ fault, scene.session.reader = .draining (some fault) ∧ next.session.reader = .ended ∧
        id ∈ scene.session.routes ∧
        next.session.channel? id = some (channel.deliver (.error fault))) := by
  cases happened with
  | aside event next isAside kept =>
      rcases kept.channels id with ⟨change, quiet, changed⟩
      rw [found, Option.map_some] at changed
      exact Or.inl ⟨_, changed, quiet.unfed channel⟩
  | reader move session moved =>
      rcases moved.channel_cases found with kept | delivered
      · exact Or.inl ⟨channel, kept, .refl channel⟩
      · exact Or.inr delivered
  | begin call => exact Or.inl ⟨channel, found, .refl channel⟩
  | advance before after call stage later session calls_eq moved =>
      exact Or.inl (moved.channel_unfed found)

/-- A channel is empty when it is made. -/
theorem Happened.channel?_of_none {scene next : Scene} {event : Event}
    (happened : Happened scene event next) {id : String}
    (absent : scene.session.channel? id = none) :
    next.session.channel? id = none ∨ next.session.channel? id = some {} := by
  rcases happened.insert_cases with
    ⟨-, channelIds_eq⟩ | ⟨number, new, destination, -, -, -, session_eq⟩
  · left
    rw [channel?_eq_none_iff] at absent ⊢
    rw [channelIds_eq]
    exact absent
  · rw [session_eq]
    by_cases same : id = new
    · subst same
      exact Or.inr (channel?_insertRoute_self absent)
    · rw [channel?_insertRoute_of_ne scene.session same]
      exact Or.inl absent

/-- An event in a scene where the routes of a channel have gone brings none back. -/
theorem Happened.hasEnded {events : List Event} {rest : List UInt8} {scene next : Scene}
    {event : Event} (reached : (opened rest).run? events = some scene)
    (happened : Happened scene event next) (distinct : scene.issued.Nodup) {id : String}
    {channel : Channel} (found : scene.session.channel? id = some channel)
    (ended : scene.session.hasEnded id = true) : next.session.hasEnded id = true := by
  rw [hasEnded_iff] at ended ⊢
  rcases ended with ⟨noRoute, notHeld⟩
  constructor
  · have made : id ∈ scene.session.channelIds := by
      by_contra absent
      rw [channel?_eq_none_iff.mpr absent] at found
      cases found
    exact happened.not_mem_routes distinct (hasInserted_of_run reached id made) noRoute
  · intro frame holding
    cases happened with
    | aside event next isAside kept => exact notHeld frame (kept.reader_eq.symm.trans holding)
    | reader move session moved => exact noRoute (moved.isFor_of_delivering holding).2
    | begin call => exact notHeld frame holding
    | advance before after call stage later session calls_eq moved =>
        exact notHeld frame (moved.reader_eq.symm.trans holding)

/-- A channel that has come to its end stays as it is. -/
theorem ended_of_run {rest : List UInt8} {earlier events : List Event} {first last : Scene}
    (reached : (opened rest).run? earlier = some first) (run : first.run? events = some last)
    (distinct : last.issued.Nodup) {id : String} {channel : Channel}
    (found : first.session.channel? id = some channel)
    (ended : first.session.hasEnded id = true) :
    last.session.hasEnded id = true ∧
      ∃ kept, last.session.channel? id = some kept ∧ Unfed channel kept := by
  refine distinct_induction (motive := fun _ scene => scene.session.hasEnded id = true ∧
    ∃ kept, scene.session.channel? id = some kept ∧ Unfed channel kept)
    ⟨ended, channel, found, .refl channel⟩ ?_ run distinct
  rintro events event scene next onward happens distinct ⟨still, kept, looked, unfed⟩
  have happened := happened_of_after? happens
  have there : (opened rest).run? (earlier ++ events) = some scene := by
    rw [run?_append_of reached, onward]
  refine ⟨happened.hasEnded there distinct looked still, ?_⟩
  rw [hasEnded_iff] at still
  rcases happened.channel_cases looked with
    ⟨later, now, again⟩ | ⟨frame, holding, -⟩ | ⟨fault, -, -, member, -⟩
  · exact ⟨later, now, unfed.trans again⟩
  · exact (still.2 frame holding).elim
  · exact (still.1 member).elim

/-- Until the reader has ended, channels carry frames only. -/
theorem frames_of_run {rest : List UInt8} {events : List Event} {last : Scene}
    (run : (opened rest).run? events = some last) (goesOn : last.session.reader ≠ .ended)
    {id : String} {channel : Channel} (found : last.session.channel? id = some channel) :
    ∃ frames : List Frame, channel.items = frames.map .ok := by
  revert goesOn channel
  refine invariant_of_run (motive := fun scene => scene.session.reader ≠ .ended →
    ∀ {channel}, scene.session.channel? id = some channel →
      ∃ frames : List Frame, channel.items = frames.map .ok) run nofun ?_
  intro scene event next happened inductionHypothesis goesOn channel found
  have wentOn : scene.session.reader ≠ .ended := fun ended => goesOn (happened.ended ended)
  cases before : scene.session.channel? id with
  | none =>
      rcases happened.channel?_of_none before with absent | made
      · rw [absent] at found
        cases found
      · rw [made] at found
        cases found
        exact ⟨[], rfl⟩
  | some earlier =>
      rcases inductionHypothesis wentOn before with ⟨frames, carried⟩
      rcases happened.channel_cases before with
        ⟨kept, now, unfed⟩ | ⟨frame, -, now⟩ | ⟨fault, -, ended, -⟩
      · rw [now] at found
        cases found
        exact ⟨frames, unfed.items_eq.trans carried⟩
      · rw [now] at found
        cases found
        unfold Channel.deliver
        split
        · refine ⟨frames ++ [frame], ?_⟩
          rw [List.map_append, List.map_singleton, carried]
        · exact ⟨frames, carried⟩
      · exact (goesOn ended).elim

end Scene
end Session
end Stomp
end ExchangeGrid
