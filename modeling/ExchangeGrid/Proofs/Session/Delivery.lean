import ExchangeGrid.Proofs.Session.Channels
import ExchangeGrid.Proofs.Session.Readings

namespace ExchangeGrid
namespace Stomp
namespace Session

/-!
# What a subscription gets

A channel carries the messages to its identifier that found a route when they were read, and after
them at most one failure.  A frame that the reader still holds on to is not in its channel yet, and
who has stopped to listen gets no more; for all others nothing is missing.

What becomes of one subscription is no concern of another: to unsubscribe from one, or to stop to
listen to it, leaves the channels and the routes of all others as they are.
-/

/-- The frame that the reader holds on to for a subscription. -/
def heldFor (session : Session) (id : String) : List Frame :=
  match session.reader with
  | .delivering held frame => if held = id then [frame] else []
  | _ => []

theorem heldFor_congr {session next : Session} (same : next.reader = session.reader) (id : String) :
    next.heldFor id = session.heldFor id := by
  unfold heldFor
  rw [same]

theorem heldFor_eq_nil {session : Session} {id : String}
    (notHeld : ∀ frame, session.reader ≠ .delivering id frame) : session.heldFor id = [] := by
  unfold heldFor
  split
  · rename_i held frame holding
    rw [if_neg]
    rintro rfl
    exact notHeld frame holding
  · rfl

theorem heldFor_eq_singleton {session : Session} {id : String} {frame : Frame}
    (delivering : session.reader = .delivering id frame) : session.heldFor id = [frame] := by
  unfold heldFor
  rw [delivering]
  exact if_pos rfl

/-- Who has just delivered holds on to nothing. -/
theorem reader_delivered_ne (session : Session) (id : String) (frame : Frame) (other : String)
    (later : Frame) : (session.delivered id frame).reader ≠ .delivering other later := by
  unfold Session.delivered
  dsimp only
  split <;> exact nofun

/-- What is held on to after a frame was read is what was heard of it. -/
theorem heldFor_of_route {session next : Session} {frame : Frame}
    (routed : next.reader = session.route frame) (id : String) :
    next.heldFor id = heard id [⟨frame, session.routes⟩] := by
  unfold heldFor
  rw [routed, heard_singleton]
  rcases session.route_cases frame with
    ⟨isError, route_eq⟩ | ⟨held, isFor, present, route_eq⟩ | ⟨-, unheard, route_eq⟩
  · rw [route_eq, if_neg]
    intro hears
    cases hears.1.1.symm.trans isError
  · rw [route_eq]
    by_cases same : held = id
    · subst same
      simp only [if_pos, isFor, present, and_self]
    · have notFor : ¬ IsFor frame id := by
        intro also
        exact same (Option.some.inj (isFor.2.symm.trans also.2))
      simp only [if_neg same, notFor, false_and, if_false]
  · rw [route_eq, if_neg]
    intro hears
    exact unheard id hears.2 hears.1

/-- An item that completes a channel is in it, if anybody listens. -/
theorem deliver_completes {channel : Channel} {item : Delivery} {total : List Delivery}
    (front : channel.items <+: total)
    (all : channel.hasReceiver = true → channel.items ++ [item] = total) :
    (channel.deliver item).items <+: total ∧
      ((channel.deliver item).hasReceiver = true → (channel.deliver item).items = total) := by
  unfold Channel.deliver
  split
  · rename_i listens
    exact ⟨(all listens).symm ▸ List.prefix_refl _, fun _ => all listens⟩
  · rename_i gone
    exact ⟨front, fun listens => (gone listens).elim⟩

namespace Scene

/-! ## Channels carry what was heard -/

/-- The channel of a subscription carries some frames, less what the reader still holds on to, and
after them at most the failure that ended the session.  If nobody listens any more, it carries a
front of them. -/
structure Carries (session : Session) (frames : List Frame) (id : String) (channel : Channel)
    (ending : List Delivery) : Prop where
  ending_cases : ending = [] ∨ session.reader = .ended ∧ session.hasEnded id = true ∧
    ∃ fault, ending = [.error fault]
  front : channel.items <+: frames.map .ok ++ ending
  all : channel.hasReceiver = true →
    channel.items ++ (session.heldFor id).map .ok = frames.map .ok ++ ending

/-- Until the reader has ended no failure is told. -/
theorem Carries.ending_eq_nil {session : Session} {frames : List Frame} {id : String}
    {channel : Channel} {ending : List Delivery}
    (carries : Carries session frames id channel ending)
    (goesOn : session.reader ≠ .ended) : ending = [] := by
  rcases carries.ending_cases with none | ⟨ended, -⟩
  · exact none
  · exact (goesOn ended).elim

/-- Nothing has been heard for a subscription without a channel; all others carry what was. -/
structure Delivered (session : Session) (frames : List Frame) (id : String) : Prop where
  of_none : session.channel? id = none → frames = [] ∧ session.heldFor id = []
  of_some : ∀ channel, session.channel? id = some channel →
    ∃ ending, Carries session frames id channel ending

theorem Delivered.of_carries {session : Session} {frames : List Frame} {id : String}
    {channel : Channel} (found : session.channel? id = some channel) (ending : List Delivery)
    (carries : Carries session frames id channel ending) : Delivered session frames id := by
  refine ⟨?_, ?_⟩
  · intro absent
    rw [absent] at found
    cases found
  · intro other again
    rw [found] at again
    cases again
    exact ⟨ending, carries⟩

variable {rest : List UInt8} {events : List Event} {scene next : Scene} {event : Event}
  {frames : List Frame} {id : String}

/-- Nothing changes for a subscription while nothing is read or delivered. -/
theorem Delivered.keep (delivered : Delivered scene.session frames id)
    (reached : (opened rest).run? events = some scene) (happened : Happened scene event next)
    (distinct : scene.issued.Nodup) (held : next.session.heldFor id = scene.session.heldFor id)
    (unfed : ∀ channel, scene.session.channel? id = some channel →
      ∃ kept, next.session.channel? id = some kept ∧ Unfed channel kept) :
    Delivered next.session frames id := by
  cases before : scene.session.channel? id with
  | none =>
      rcases delivered.of_none before with ⟨rfl, notHeld⟩
      rw [notHeld] at held
      rcases happened.channel?_of_none before with absent | made
      · refine ⟨fun _ => ⟨rfl, held⟩, ?_⟩
        intro channel found
        rw [absent] at found
        cases found
      · refine .of_carries made [] ⟨Or.inl rfl, List.prefix_refl _, ?_⟩
        rw [held]
        exact fun _ => rfl
  | some earlier =>
      rcases unfed earlier before with ⟨kept, now, nothing⟩
      rcases delivered.of_some earlier before with ⟨ending, carries⟩
      refine .of_carries now ending ⟨?_, ?_, ?_⟩
      · rcases carries.ending_cases with rfl | ⟨isOver, ended, isFault⟩
        · exact Or.inl rfl
        · exact Or.inr ⟨happened.ended isOver, happened.hasEnded reached distinct before ended,
            isFault⟩
      · rw [nothing.items_eq]
        exact carries.front
      · intro listens
        rw [nothing.items_eq, held]
        exact carries.all (nothing.hasReceiver_of listens)

/-- A frame that is read is held on to as far as it was heard. -/
theorem Delivered.read (delivered : Delivered scene.session frames id)
    (reached : (opened rest).run? events = some scene) (frame : Frame) (later : List UInt8)
    (reading : scene.session.reader = .reading) :
    Delivered { scene.session with buffer := later, reader := scene.session.route frame }
      (frames ++ heard id [⟨frame, scene.session.routes⟩]) id := by
  have held : ({ scene.session with buffer := later, reader := scene.session.route frame } :
      Session).heldFor id = heard id [⟨frame, scene.session.routes⟩] := heldFor_of_route rfl id
  have noneHeld : scene.session.heldFor id = [] := by
    apply heldFor_eq_nil
    rw [reading]
    exact fun _ => nofun
  constructor
  · intro absent
    have noRoute : id ∉ scene.session.routes := by
      intro member
      exact channel?_eq_none_iff.mp absent (routes_subset_channelIds_of_run reached member)
    have unheard : heard id [⟨frame, scene.session.routes⟩] = [] := by
      rw [heard_singleton, if_neg]
      exact fun hears => noRoute hears.2
    rw [held, unheard, (delivered.of_none absent).1]
    exact ⟨rfl, rfl⟩
  · intro channel found
    rcases delivered.of_some channel found with ⟨ending, carries⟩
    have notEnded : scene.session.reader ≠ .ended := by
      rw [reading]
      exact nofun
    rcases carries.ending_eq_nil notEnded with rfl
    refine ⟨[], Or.inl rfl, ?_, ?_⟩
    · rw [List.append_nil, List.map_append]
      exact (List.append_nil (frames.map _) ▸ carries.front).trans (List.prefix_append _ _)
    · intro listens
      have all := carries.all listens
      rw [noneHeld, List.map_nil, List.append_nil] at all
      rw [held, all, List.append_nil, List.append_nil, List.map_append]

/-- A frame that was held on to comes into its channel, if anybody listens. -/
theorem Delivered.deliver (delivered : Delivered scene.session frames id) {frame : Frame}
    (delivering : scene.session.reader = .delivering id frame) :
    Delivered (scene.session.delivered id frame) frames id := by
  have held : scene.session.heldFor id = [frame] := heldFor_eq_singleton delivering
  have noneHeld : (scene.session.delivered id frame).heldFor id = [] :=
    heldFor_eq_nil (reader_delivered_ne scene.session id frame id)
  have notEnded : scene.session.reader ≠ .ended := by
    rw [delivering]
    exact nofun
  cases before : scene.session.channel? id with
  | none =>
      have impossible := (delivered.of_none before).2
      rw [held] at impossible
      cases impossible
  | some earlier =>
      have now : (scene.session.delivered id frame).channel? id =
          some (earlier.deliver (.ok frame)) := by
        rw [channel?_delivered, before, Option.map_some, if_pos rfl]
      rcases delivered.of_some earlier before with ⟨ending, carries⟩
      rcases carries.ending_eq_nil notEnded with rfl
      have all := carries.all
      rw [held] at all
      rcases deliver_completes carries.front all with ⟨front, complete⟩
      refine .of_carries now [] ⟨Or.inl rfl, front, ?_⟩
      rw [noneHeld, List.map_nil, List.append_nil]
      exact complete

/-- The failure that ended the session comes last. -/
theorem Delivered.drain (delivered : Delivered scene.session frames id) {fault : Fault}
    (draining : scene.session.reader = .draining (some fault))
    (member : id ∈ scene.session.routes) {earlier : Channel}
    (before : scene.session.channel? id = some earlier) :
    Delivered (scene.session.drained (some fault)) frames id := by
  have noneHeld : scene.session.heldFor id = [] := by
    apply heldFor_eq_nil
    rw [draining]
    exact fun _ => nofun
  have notEnded : scene.session.reader ≠ .ended := by
    rw [draining]
    exact nofun
  have now : (scene.session.drained (some fault)).channel? id =
      some (earlier.deliver (.error fault)) := by
    rw [channel?_drained, before, Option.map_some, if_pos member]
  have ended : (scene.session.drained (some fault)).hasEnded id = true :=
    hasEnded_iff.mpr ⟨nofun, fun _ => nofun⟩
  rcases delivered.of_some earlier before with ⟨ending, carries⟩
  rcases carries.ending_eq_nil notEnded with rfl
  have front := carries.front
  have all := carries.all
  rw [List.append_nil] at front
  rw [noneHeld, List.map_nil, List.append_nil, List.append_nil] at all
  rcases deliver_completes (front.trans (List.prefix_append _ [.error fault]))
    (fun listens => congrArg (· ++ [.error fault]) (all listens)) with ⟨within, complete⟩
  refine .of_carries now [.error fault] ⟨Or.inr ⟨rfl, ended, fault, rfl⟩, within, ?_⟩
  intro listens
  exact (List.append_nil _).trans (complete listens)

theorem Delivered.step (delivered : Delivered scene.session frames id)
    (reached : (opened rest).run? events = some scene) (happened : Happened scene event next)
    (distinct : scene.issued.Nodup) :
    Delivered next.session (frames ++ heard id (scene.reading? event).toList) id := by
  have same := happened
  cases happened with
  | aside event next isAside kept =>
      rw [reading?_eq_none_of_isAside scene isAside, Option.toList_none, heard_nil, List.append_nil]
      refine delivered.keep reached same distinct (heldFor_congr kept.reader_eq id) ?_
      intro channel found
      rcases kept.channels id with ⟨change, quiet, changed⟩
      rw [found, Option.map_some] at changed
      exact ⟨_, changed, quiet.unfed channel⟩
  | begin call =>
      rw [show (scene.reading? (.begin call)).toList = [] from rfl, heard_nil, List.append_nil]
      exact delivered
  | advance before after call stage later session calls_eq moved =>
      rw [show (scene.reading? (.advance before.length)).toList = [] from rfl, heard_nil,
        List.append_nil]
      exact delivered.keep reached same distinct (heldFor_congr moved.reader_eq id)
        fun channel found => moved.channel_unfed found
  | reader move session moved =>
      -- A move that neither reads nor delivers to this channel.
      have unheard (none : scene.reading? (.reader move) = none)
          (before : ∀ frame, scene.session.reader ≠ .delivering id frame)
          (after : ∀ frame, session.reader ≠ .delivering id frame)
          (kept : ∀ channel, scene.session.channel? id = some channel →
            session.channel? id = some channel) :
          Delivered session (frames ++ heard id (scene.reading? (.reader move)).toList) id := by
        rw [none, Option.toList_none, heard_nil, List.append_nil]
        refine delivered.keep reached same distinct ?_ ?_
        · exact (heldFor_eq_nil after).trans (heldFor_eq_nil before).symm
        · exact fun channel found => ⟨channel, kept channel found, .refl channel⟩
      cases moved with
      | read frame later reading found =>
          rw [reading?_eq_some reading found, Option.toList_some]
          exact delivered.read reached frame later reading
      | fail move fault rest reading noFrame =>
          refine unheard (reading?_eq_none (Or.inr noFrame)) ?_ (fun _ => nofun) fun _ kept => kept
          rw [reading]
          exact fun _ => nofun
      | deliver held frame delivering =>
          by_cases mine : held = id
          · subst mine
            rw [show (scene.reading? (.reader .deliver)).toList = [] from rfl, heard_nil,
              List.append_nil]
            exact delivered.deliver delivering
          · refine unheard rfl ?_ (reader_delivered_ne scene.session held frame id) ?_
            · rw [delivering]
              rintro other holding
              cases holding
              exact mine rfl
            · intro channel found
              rw [channel?_delivered, found, Option.map_some, if_neg (Ne.symm mine)]
      | prune id pruning =>
          refine unheard rfl ?_ (fun _ => nofun) fun _ kept => kept
          rw [pruning]
          exact fun _ => nofun
      | stop reading cancelled =>
          refine unheard rfl ?_ (fun _ => nofun) fun _ kept => kept
          rw [reading]
          exact fun _ => nofun
      | cancel failure stopping =>
          refine unheard rfl ?_ (fun _ => nofun) fun _ kept => kept
          rw [stopping]
          exact fun _ => nofun
      | drain failure draining =>
          have notHeld (frame : Frame) : scene.session.reader ≠ .delivering id frame := by
            rw [draining]
            exact nofun
          cases failure with
          | none => exact unheard rfl notHeld (fun _ => nofun) fun _ kept => kept
          | some fault =>
              by_cases member : id ∈ scene.session.routes
              · rw [show (scene.reading? (.reader .drain)).toList = [] from rfl, heard_nil,
                  List.append_nil]
                cases before : scene.session.channel? id with
                | none =>
                    have absent := channel?_eq_none_iff.mp before
                    exact (absent (routes_subset_channelIds_of_run reached member)).elim
                | some earlier => exact delivered.drain draining member before
              · refine unheard rfl notHeld (fun _ => nofun) ?_
                intro channel found
                rw [channel?_drained, found, Option.map_some, if_neg member]

/-- Every channel carries what was heard for it. -/
theorem delivered_of_run {last : Scene} (run : (opened rest).run? events = some last)
    (distinct : last.issued.Nodup) (id : String) :
    Delivered last.session (heard id ((opened rest).readings events)) id := by
  refine distinct_induction (motive := fun events scene =>
    Delivered scene.session (heard id ((opened rest).readings events)) id) ?_ ?_ run distinct
  · exact ⟨fun _ => ⟨rfl, rfl⟩, nofun⟩
  · intro events event scene next earlier happens distinct inductionHypothesis
    rw [readings, noted_concat reading? earlier happens, heard_append]
    exact inductionHypothesis.step earlier (happened_of_after? happens) distinct

/-! ## One subscription and another -/

/-- Whether an event concerns a subscription: a call to subscribe under its identifier or to
unsubscribe from it begins or takes a step, its receiver receives or goes away, or the reader
delivers to it or takes its route out because nobody listens. -/
def Concerns (scene : Scene) (id : String) : Event → Prop
  | .begin call => call.id? = some id
  | .advance number => ∃ call stage, scene.calls[number]? = some (call, stage) ∧ call.id? = some id
  | .receive own | .dropReceiver own => own = id
  | .reader .deliver => ∃ frame, scene.session.reader = .delivering id frame
  | .reader .prune => scene.session.reader = .pruning id
  | _ => False

/-- A session is the same for a subscription as it was. -/
structure SameFor (session next : Session) (id : String) : Prop where
  channel?_eq : next.channel? id = session.channel? id
  mem_routes_iff : id ∈ next.routes ↔ id ∈ session.routes
  heldFor_eq : next.heldFor id = session.heldFor id

theorem SameFor.of_alterChannel (session : Session) {id other : String} (different : id ≠ other)
    (change : Channel → Channel) : SameFor session (session.alterChannel other change) id := by
  refine ⟨?_, Iff.rfl, rfl⟩
  rw [channel?_alterChannel, funext fun channel => if_neg different, Option.map_id']

theorem SameFor.of_advanced {session next : Session} {call : Call} {stage later : Stage}
    (moved : Advanced session call stage next later) {id other : String}
    (own : call.id? = some other) (different : id ≠ other) : SameFor session next id := by
  refine ⟨?_, moved.mem_routes_iff own different, heldFor_congr moved.reader_eq id⟩
  cases moved with
  | insert new destination =>
      cases own
      exact channel?_insertRoute_of_ne session different
  | finish call result =>
      cases call with
      | subscribe gone destination =>
          cases own
          exact (SameFor.of_alterChannel (session.removeRoute other) different _).channel?_eq
      | unsubscribe gone => rfl
      | disconnect receipt => cases own
  | _ => rfl

/-- What concerns one subscription changes nothing for another. -/
theorem SameFor.of_concerns {other : String} (happens : scene.after? event = some next)
    (concerns : scene.Concerns other event) (different : id ≠ other) :
    SameFor scene.session next.session id := by
  cases event with
  | begin call =>
      simp only [after?] at happens
      split at happens
      · cases happens
      · cases happens
        exact ⟨rfl, Iff.rfl, rfl⟩
  | advance number =>
      rcases concerns with ⟨call, stage, found, own⟩
      rcases advanced_of_after? found happens with ⟨later, -, moved⟩
      exact .of_advanced moved own different
  | receive own =>
      rcases Option.map_eq_some_iff.mp happens with ⟨⟨item, session⟩, received, rfl⟩
      cases concerns
      unfold receive? at received
      split at received
      · rename_i channel found
        cases received
        exact SameFor.of_alterChannel scene.session different fun _ => channel
      · cases received
  | dropReceiver own =>
      cases happens
      cases concerns
      exact .of_alterChannel scene.session different Channel.drop
  | reader move =>
      rcases Option.map_eq_some_iff.mp happens with ⟨session, moved, rfl⟩
      cases moved_of_moveReader? moved with
      | deliver held frame delivering =>
          rcases concerns with ⟨message, holding⟩
          cases delivering.symm.trans holding
          refine ⟨?_, Iff.rfl, ?_⟩
          · rw [channel?_delivered, funext fun channel => if_neg different, Option.map_id']
          · refine (heldFor_eq_nil (reader_delivered_ne scene.session other frame id)).trans
              (heldFor_eq_nil ?_).symm
            rintro later again
            cases delivering.symm.trans again
            exact different rfl
      | prune gone pruning =>
          cases pruning.symm.trans concerns
          have noneHeld : scene.session.heldFor id = [] := by
            apply heldFor_eq_nil
            rw [pruning]
            intro held delivering
            cases delivering
          exact ⟨rfl, mem_removeRoute_of_ne different, noneHeld.symm⟩
      | read frame rest reading found => exact concerns.elim
      | fail move fault rest reading noFrame =>
          cases move with
          | deliver =>
              rcases concerns with ⟨message, holding⟩
              cases reading.symm.trans holding
          | prune => cases reading.symm.trans concerns
          | read | fail detail | stop | cancel | drain => exact concerns.elim
      | stop reading cancelled => exact concerns.elim
      | cancel failure stopping => exact concerns.elim
      | drain failure draining => exact concerns.elim
  | writer move | arrive bytes | endInput | drop => exact concerns.elim

/-! ## Whole runs -/

/-- A channel carries the messages to its identifier that found a route, in the order in which they
came over the wire, each once and as it was; after them at most one failure, and then nothing more.
A frame that reports an error is the last one read, and what concerns another subscription changes
nothing here. -/
theorem routed_in_order {last : Scene} (run : (opened rest).run? events = some last)
    (distinct : last.issued.Nodup) {channel : Channel}
    (found : last.session.channel? id = some channel) :
    (∃ ending, Carries last.session (heard id ((opened rest).readings events)) id channel ending) ∧
    ReadOff (rest ++ events.flatMap Event.bytes) ((opened rest).readings events) last.session ∧
    (∀ frame, .ok frame ∈ channel.items → IsFor frame id) ∧
    (∀ front back scene earlier, events = front ++ back → (opened rest).run? front = some scene →
      scene.session.channel? id = some earlier → scene.session.hasEnded id = true →
        last.session.hasEnded id = true ∧ Unfed earlier channel) ∧
    (∀ front event back scene other, events = front ++ event :: back →
      (opened rest).run? front = some scene → other ≠ id → scene.Concerns other event →
        ∃ next, scene.after? event = some next ∧ SameFor scene.session next.session id) := by
  rcases (delivered_of_run run distinct id).of_some channel found with ⟨ending, carries⟩
  refine ⟨⟨ending, carries⟩, readOff_of_run run, ?_, ?_, ?_⟩
  · intro frame member
    rcases List.mem_append.mp (carries.front.subset member) with isHeard | isLast
    · rcases List.mem_map.mp isHeard with ⟨same, member, carried⟩
      cases carried
      exact isFor_of_mem_heard member
    · rcases carries.ending_cases with rfl | ⟨-, -, fault, rfl⟩
      · cases isLast
      · cases List.mem_singleton.mp isLast
  · rintro front back scene earlier rfl reached before ended
    rw [run?_append_of reached] at run
    rcases ended_of_run reached run distinct before ended with ⟨still, kept, now, unfed⟩
    rw [found] at now
    cases now
    exact ⟨still, unfed⟩
  · rintro front event back scene other rfl reached different concerns
    rw [run?_append_of reached] at run
    rcases Option.bind_eq_some_iff.mp run with ⟨next, happens, -⟩
    exact ⟨next, happens, .of_concerns happens concerns different.symm⟩

/-- A message that names two subscriptions and is for the first of them. -/
def greeting : Frame :=
  { command := .message
    headers := [⟨"subscription", "first"⟩, ⟨"subscription", "second"⟩]
    body := [104, 105] }

/-- Two calls subscribe, and one unsubscribes from the second.  A message to the second and the
greeting arrive, cut inside the greeting, and then the input ends. -/
def greeted : List Event :=
  [.begin (.subscribe "first" "/topic/a"), .begin (.subscribe "second" "/topic/b"),
    .advance 0, .advance 1, .begin (.unsubscribe "second"),
    .arrive (Utf8.bytes "MESSAGE\nsubscription:second\n\nno\x00MESS"),
    .advance 2, .reader .read, .dropReceiver "second",
    .arrive (Utf8.bytes "AGE\nsubscription:first\nsubscription:second\n\nhi\x00"),
    .reader .read, .reader .deliver, .endInput, .reader .read, .reader .cancel, .reader .drain]

theorem routed_greeted : ∃ last channel, (opened []).run? greeted = some last ∧
    last.issued.Nodup ∧ last.session.channel? "first" = some channel ∧
    channel.items = [.ok greeting, .error .closed] ∧
    heard "first" ((opened []).readings greeted) = [greeting] ∧
    (∃ ending, Carries last.session (heard "first" ((opened []).readings greeted)) "first" channel
      ending) ∧
    ∀ frame, .ok frame ∈ channel.items → IsFor frame "first" := by
  refine ⟨_, _, rfl, ?_, rfl, rfl, rfl, ?_⟩
  · decide
  · have routed := @routed_in_order [] greeted "first" _ rfl (by decide) _ rfl
    exact ⟨routed.1, routed.2.2.1⟩

end Scene
end Session
end Stomp
end ExchangeGrid
