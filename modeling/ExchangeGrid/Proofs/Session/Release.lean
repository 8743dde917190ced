import ExchangeGrid.Proofs.Session.Delivery
import ExchangeGrid.Proofs.Session.Tickets

namespace ExchangeGrid
namespace Stomp
namespace Session

/-!
# Release of a subscription

To unsubscribe is to take the route out and, if there was one, to send an UNSUBSCRIBE frame.  The
table of routes is the only record that the broker still has the subscription, and the reader takes
a route out as well, once a message to it finds that nobody listens.  So the frame is sent once, by
the first call to unsubscribe, unless the reader was there before: then it is never sent, although
every call returns without a fault.
-/

/-- The first step of a call to unsubscribe takes the route out, and where there was none the call
is done. -/
theorem Advanced.of_removeRoute {session next : Session} {id : String} {later : Stage}
    (moved : Advanced session (.unsubscribe id) .removeRoute next later) :
    id ∉ next.routes ∧ (id ∉ session.routes → later = .done (.ok ())) := by
  cases moved with
  | remove id present =>
      exact ⟨fun member => (mem_removeRoute.mp member).2 rfl, fun absent => (absent present).elim⟩
  | absent id absent => exact ⟨absent, fun _ => rfl⟩

namespace Scene

/-! ## Who stops to listen -/

def IsDeaf (scene : Scene) (id : String) : Prop :=
  ∃ channel, scene.session.channel? id = some channel ∧ channel.hasReceiver = false

theorem deliver_of_deaf {channel : Channel} (deaf : channel.hasReceiver = false)
    (item : Delivery) : channel.deliver item = channel := by
  unfold Channel.deliver
  rw [if_neg]
  rw [deaf]
  exact Bool.false_ne_true

theorem IsDeaf.step {scene next : Scene} {event : Event} {id : String} (isDeaf : scene.IsDeaf id)
    (happened : Happened scene event next) : next.IsDeaf id := by
  rcases isDeaf with ⟨channel, found, deaf⟩
  rcases happened.channel_cases found with
    ⟨kept, now, unfed⟩ | ⟨frame, -, now⟩ | ⟨fault, -, -, -, now⟩
  · refine ⟨kept, now, ?_⟩
    rw [← Bool.not_eq_true] at deaf ⊢
    exact mt unfed.hasReceiver_of deaf
  · rw [deliver_of_deaf deaf] at now
    exact ⟨channel, now, deaf⟩
  · rw [deliver_of_deaf deaf] at now
    exact ⟨channel, now, deaf⟩

variable {rest : List UInt8} {events : List Event} {last : Scene}

/-- The reader sets out to take a route out only after it has found that nobody listens. -/
theorem isDeaf_of_reader (run : (opened rest).run? events = some last)
    (distinct : last.issued.Nodup) {move : ReaderMove} {session : Session}
    (moved : ReaderMoved last.session move session) {id : String}
    (pruning : session.reader = .pruning id) : last.IsDeaf id := by
  cases moved with
  | read frame later reading found =>
      have routed : last.session.route frame = .pruning id := pruning
      rcases last.session.route_cases frame with
        ⟨-, route_eq⟩ | ⟨held, -, -, route_eq⟩ | ⟨-, -, route_eq⟩ <;>
      · rw [route_eq] at routed
        cases routed
  | deliver held frame delivering =>
      unfold Session.delivered at pruning
      dsimp only at pruning
      split at pruning
      · cases pruning
      · rename_i unheard
        cases pruning
        cases found : last.session.channel? id with
        | none =>
            -- A message is held only for a subscription that was made, and that has a channel.
            have noneHeld := ((delivered_of_run run distinct id).of_none found).2
            rw [heldFor_eq_singleton delivering] at noneHeld
            cases noneHeld
        | some channel =>
            rw [found, Option.map_some, Option.getD_some, Bool.not_eq_true] at unheard
            exact ⟨channel, found, unheard⟩
  | _ => cases pruning

/-- What it takes for the reader to take a route out. -/
theorem of_mem_pruned? {scene : Scene} {event : Event} {id : String}
    (member : id ∈ (scene.pruned? event).toList) :
    scene.session.reader = .pruning id ∧ id ∈ scene.session.routes := by
  unfold pruned? at member
  split at member
  · split at member
    · rename_i gone pruning
      split at member
      · rename_i present
        rw [Option.toList_some, List.mem_singleton] at member
        subst member
        exact ⟨pruning, present⟩
      · cases member
    · cases member
  · cases member

/-- Nobody listens where the reader has taken a route out, or is about to. -/
theorem isDeaf_of_pruned (run : (opened rest).run? events = some last)
    (distinct : last.issued.Nodup) (id : String) :
    (last.session.reader = .pruning id → last.IsDeaf id) ∧
      (id ∈ (opened rest).pruned events → last.IsDeaf id) := by
  refine distinct_induction (motive := fun events scene =>
    (scene.session.reader = .pruning id → scene.IsDeaf id) ∧
      (id ∈ (opened rest).pruned events → scene.IsDeaf id)) ?_ ?_ run distinct
  · exact ⟨nofun, nofun⟩
  rintro events event scene next earlier happens distinct ⟨deafOfPruning, deafOfPruned⟩
  have happened := happened_of_after? happens
  constructor
  · intro pruning
    have same := happened
    cases happened with
    | aside event next isAside kept =>
        exact (deafOfPruning (kept.reader_eq.symm.trans pruning)).step same
    | reader move session moved => exact (isDeaf_of_reader earlier distinct moved pruning).step same
    | begin call => exact (deafOfPruning pruning).step same
    | advance front back call stage later session calls_eq moved =>
        exact (deafOfPruning (moved.reader_eq.symm.trans pruning)).step same
  · rw [pruned, noted_concat pruned? earlier happens, List.mem_append]
    rintro (already | now)
    · exact (deafOfPruned already).step happened
    · exact (deafOfPruning (of_mem_pruned? now).1).step happened

/-! ## After the first look -/

/-- What holds once a first call to unsubscribe has looked for the route. -/
structure Looked (number : Nat) (id : String) (scene : Scene) : Prop where
  noRoute : id ∉ scene.session.routes
  inserted : scene.HasInserted id
  others : ∀ (other : Nat) stage, other ≠ number →
    scene.calls[other]? = some (.unsubscribe id, stage) →
      stage = .removeRoute ∨ stage = .done (.ok ())

theorem looked_of_first {scene next : Scene} {number : Nat} {id : String}
    (inserted : scene.HasInserted id)
    (looks : scene.calls[number]? = some (.unsubscribe id, .removeRoute))
    (isFirst : ∀ (other : Nat) stage, scene.calls[other]? = some (.unsubscribe id, stage) →
      stage = .removeRoute) (happens : scene.after? (.advance number) = some next) :
    Looked number id next := by
  have happened := happened_of_after? happens
  refine ⟨?_, happened.hasInserted inserted, ?_⟩
  · rcases advanced_of_after? looks happens with ⟨later, -, moved⟩
    exact moved.of_removeRoute.1
  · intro other stage different found
    rcases happened.call_cases found with kept | ⟨impossible, -⟩ | ⟨same, -⟩
    · exact Or.inl (isFirst other stage kept)
    · cases impossible
    · cases same
      exact (different rfl).elim

theorem Looked.step {scene next : Scene} {event : Event} {number : Nat} {id : String}
    (looked : Looked number id scene) (happened : Happened scene event next)
    (distinct : scene.issued.Nodup) : Looked number id next := by
  refine ⟨happened.not_mem_routes distinct looked.inserted looked.noRoute,
    happened.hasInserted looked.inserted, ?_⟩
  intro other later different found
  rcases happened.call_cases found with kept | ⟨-, -, begun, -⟩ | ⟨-, stage, wasAt, moved⟩
  · exact looked.others other later different kept
  · exact Or.inl begun
  · rcases looked.others other stage different wasAt with rfl | rfl
    · exact Or.inr (moved.of_removeRoute.2 looked.noRoute)
    · exact moved.not_done.elim

theorem looked_of_run {first : Scene} {number : Nat} {id : String} (looked : Looked number id first)
    (run : first.run? events = some last) (distinct : last.issued.Nodup) :
    Looked number id last ∧ id ∉ first.pruned events := by
  refine distinct_induction (motive := fun events scene =>
    Looked number id scene ∧ id ∉ first.pruned events) ⟨looked, List.not_mem_nil⟩ ?_ run distinct
  rintro events event scene next earlier happens distinct ⟨still, unpruned⟩
  refine ⟨still.step (happened_of_after? happens) distinct, ?_⟩
  rw [pruned, noted_concat pruned? earlier happens, List.mem_append]
  rintro (already | now)
  · exact unpruned already
  · exact still.noRoute (of_mem_pruned? now).2

/-- Where a first call to unsubscribe has returned, no other call has a frame to send. -/
theorem sum_tickets_eq_zero (distinct : last.issued.Nodup) {first number : Nat}
    {id destination : String} {result : Except Fault Unit}
    (subscribed : last.calls[first]? = some (.subscribe id destination, .done (.ok ())))
    (returned : last.calls[number]? = some (.unsubscribe id, .done result))
    (looked : Looked number id last) :
    (last.calls.map fun entry => entry.1.tickets id entry.2).sum = 0 := by
  rw [List.sum_eq_zero_iff_forall_eq_nat]
  intro count member
  rcases List.mem_map.mp member with ⟨⟨call, stage⟩, listed, rfl⟩
  rcases List.getElem?_of_mem listed with ⟨other, found⟩
  by_cases about : call.id? = some id
  · cases call with
    | subscribe own place =>
        cases about
        have same := subscribe_unique distinct subscribed found
        rw [← same, subscribed] at found
        cases found
        rfl
    | unsubscribe own =>
        cases about
        by_cases here : other = number
        · rw [here, returned] at found
          cases found
          rfl
        · rcases looked.others other stage here found with rfl | rfl <;> rfl
    | disconnect receipt => cases about
  · exact Call.tickets_of_ne about stage

/-- In an open session that nobody takes leave of, the ticket of a subscription is there unless the
reader has taken its route out. -/
theorem tickets_of_open (run : (opened rest).run? events = some last) (distinct : last.issued.Nodup)
    (goesOn : last.session.isClosed = false) (stays : ∀ receipt, .disconnect receipt ∉ last.made)
    {id : String} (drawn : id ∈ last.issued) :
    last.tickets id + ((opened rest).pruned events).count id = 1 := by
  rcases tickets_of_run run id with ⟨lost, balance, mayLose⟩
  rw [List.count_eq_one_of_mem distinct drawn] at balance
  rcases mayLose with rfl | closed | ⟨receipt, member⟩ | twice
  · exact balance
  · rw [closed] at goesOn
    cases goesOn
  · exact (stays receipt member).elim
  · exact (twice distinct).elim

/-- No route is pruned in the step of a call. -/
theorem pruned_advance {scene next : Scene} {earlier later : List Event} {number : Nat}
    (reached : (opened rest).run? earlier = some scene)
    (happens : scene.after? (.advance number) = some next) :
    (opened rest).pruned (earlier ++ .advance number :: later) =
      (opened rest).pruned earlier ++ next.pruned later := by
  unfold pruned
  rw [noted_append pruned? reached]
  simp only [noted, happens]
  rfl

/-- In an open session that nobody takes leave of, the first call to unsubscribe sends one
UNSUBSCRIBE frame before it returns, and no other call sends any, unless the reader has taken the
route out before.  Then no frame is sent at all, although that call returns without a fault too; but
this happens only if nobody listens any more. -/
theorem sent_once_unless_pruned {earlier later : List Event} {before looked : Scene}
    {first number : Nat} {id destination : String}
    (reached : (opened rest).run? earlier = some before)
    (subscribed : before.calls[first]? = some (.subscribe id destination, .done (.ok ())))
    (looks : before.calls[number]? = some (.unsubscribe id, .removeRoute))
    (isFirst : ∀ (other : Nat) stage, before.calls[other]? = some (.unsubscribe id, stage) →
      stage = .removeRoute)
    (happens : before.after? (.advance number) = some looked)
    (run : looked.run? later = some last) (distinct : last.issued.Nodup)
    (goesOn : last.session.isClosed = false) (stays : ∀ receipt, .disconnect receipt ∉ last.made) :
    (∀ result, last.calls[number]? = some (.unsubscribe id, .done result) → result = .ok () ∧
      last.session.enqueued.countP (Names .unsubscribe id) =
        if id ∈ (opened rest).pruned earlier then 0 else 1) ∧
    (∀ (other : Nat) stage, other ≠ number →
      last.calls[other]? = some (.unsubscribe id, stage) →
        stage = .removeRoute ∨ stage = .done (.ok ())) ∧
    (id ∈ (opened rest).pruned earlier → before.IsDeaf id) := by
  have onward : before.run? (.advance number :: later) = some last := by
    rw [run?_cons_of happens, run]
  have whole : (opened rest).run? (earlier ++ .advance number :: later) = some last := by
    rw [run?_append_of reached, onward]
  have distinctBefore : before.issued.Nodup :=
    distinct.sublist (((happened_of_after? happens).issued_grows.trans (issued_of_run run)).sublist)
  have inserted : before.HasInserted id := ⟨first, destination, _, subscribed, nofun⟩
  rcases looked_of_run (looked_of_first inserted looks isFirst happens) run distinct with
    ⟨still, unpruned⟩
  refine ⟨?_, still.others, (isDeaf_of_pruned reached distinctBefore id).2⟩
  intro result returned
  have stillSubscribed := returned_of_run onward subscribed
  constructor
  · cases result with
    | ok done => rfl
    | error fault =>
        rw [isClosed_of_hasFailed whole number _ _ returned trivial] at goesOn
        cases goesOn
  · have balance := tickets_of_open whole distinct goesOn stays (mem_issued stillSubscribed)
    have noRoute := List.count_eq_zero.mpr still.noRoute
    have noCall := sum_tickets_eq_zero distinct stillSubscribed returned still
    have notLater := List.count_eq_zero.mpr unpruned
    rw [pruned_advance reached happens, List.count_append, notLater] at balance
    unfold tickets Session.tickets at balance
    rw [noRoute, noCall] at balance
    split
    · rename_i member
      have positive := List.count_pos_iff.mpr member
      omega
    · rename_i absent
      have none := List.count_eq_zero.mpr absent
      omega

/-- A call subscribes and its receiver goes away. -/
def unheard : List Event :=
  [.begin (.subscribe "feed" "/topic/a"), .advance 0, .advance 0, .advance 0, .advance 0,
    .dropReceiver "feed"]

theorem farewell_not_mem (receipt : String) : Call.disconnect receipt ∉
    [.subscribe "feed" "/topic/a", .unsubscribe "feed", .unsubscribe "feed"] := by
  simp only [List.mem_cons, List.not_mem_nil, reduceCtorEq, or_self, not_false_eq_true]

theorem sent_once_unheard : ∃ before looked last : Scene,
    (opened []).run? (unheard ++ [.begin (.unsubscribe "feed"), .begin (.unsubscribe "feed")]) =
        some before ∧
      before.after? (.advance 1) = some looked ∧
      looked.run? [.advance 2, .advance 1, .advance 1] = some last ∧ last.issued.Nodup ∧
      last.session.isClosed = false ∧ (∀ receipt, .disconnect receipt ∉ last.made) ∧
      last.session.enqueued.countP (Names .unsubscribe "feed") = 1 := by
  refine ⟨_, _, _, rfl, rfl, rfl, ?_, rfl, ?_, ?_⟩
  · decide
  · exact farewell_not_mem
  · have sent := @sent_once_unless_pruned [] _ (unheard ++ [.begin (.unsubscribe "feed"),
      .begin (.unsubscribe "feed")]) [.advance 2, .advance 1, .advance 1] _ _ 0 1 "feed" "/topic/a"
      rfl rfl rfl ?_ rfl rfl (by decide) rfl ?_
    · exact (sent.1 _ rfl).2
    · intro other stage found
      rcases other with _ | _ | _ | other <;> cases found <;> rfl
    · exact farewell_not_mem

/-- Between the receiver and the call to unsubscribe, a message comes in. -/
def abandoned : List Event :=
  unheard ++ [.arrive (Utf8.bytes "MESSAGE\nsubscription:feed\n\n\x00"), .reader .read,
    .reader .deliver, .reader .prune, .begin (.unsubscribe "feed")]

/-- The frame is not sent where the reader was there before, although the call returns without a
fault in an open session. -/
theorem never_sent_abandoned : ∃ before last : Scene,
    (opened []).run? abandoned = some before ∧
      before.calls[0]? = some (.subscribe "feed" "/topic/a", .done (.ok ())) ∧
      before.calls[1]? = some (.unsubscribe "feed", .removeRoute) ∧
      before.after? (.advance 1) = some last ∧ last.issued.Nodup ∧
      last.session.isClosed = false ∧ (∀ receipt, .disconnect receipt ∉ last.made) ∧
      last.calls[1]? = some (.unsubscribe "feed", .done (.ok ())) ∧
      last.session.enqueued.countP (Names .unsubscribe "feed") = 0 := by
  refine ⟨_, _, rfl, rfl, rfl, rfl, ?_, rfl, ?_, rfl, rfl⟩
  · decide
  · intro receipt
    change Call.disconnect receipt ∉ [.subscribe "feed" "/topic/a", .unsubscribe "feed"]
    simp only [List.mem_cons, List.not_mem_nil, reduceCtorEq, or_self, not_false_eq_true]

end Scene
end Session
end Stomp
end ExchangeGrid
