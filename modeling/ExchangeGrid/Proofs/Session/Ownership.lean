import ExchangeGrid.Proofs.Session.Channels

namespace ExchangeGrid
namespace Stomp
namespace Session

/-!
# Channels and their owners

A channel belongs to whoever subscribed.  Others only ever put items behind those that are in it
already: as long as the owner keeps listening, and once the call that made the channel has passed
its looks at the end, nothing is taken out and no receiver goes.
-/

/-- Nothing happened to a channel between two looks at it but that items were delivered. -/
def Fed (earlier later : Channel) : Prop :=
  ∃ more, later = { earlier with items := earlier.items ++ more }

theorem Fed.refl (channel : Channel) : Fed channel channel :=
  ⟨[], by rw [List.append_nil]⟩

theorem fed_deliver {channel : Channel} (listens : channel.hasReceiver = true) (item : Delivery) :
    Fed channel (channel.deliver item) := by
  refine ⟨[item], ?_⟩
  unfold Channel.deliver
  rw [if_pos listens]

/-- The stages of a call to subscribe at which it has a channel and means to keep it. -/
def Stage.Holds : Stage → Prop
  | .checkEnd | .checkSend | .enqueue | .done (.ok ()) => True
  | _ => False

/-- A call to subscribe gets its channel with its route, and does not come back to a channel that it
has given up. -/
theorem Advanced.held {session next : Session} {id destination : String} {stage later : Stage}
    (moved : Advanced session (.subscribe id destination) stage next later)
    (visits : (Call.subscribe id destination).Visits stage) (holds : later.Holds) :
    (stage = .insertRoute ∧ next = session.insertRoute id) ∨ stage.Holds := by
  cases moved with
  | insert id destination => exact Or.inl ⟨rfl, rfl⟩
  | finish call result =>
      cases visits
      exact holds.elim
  | _ => exact Or.inr trivial

namespace Scene

variable {scene next : Scene} {event : Event} {id : String} {channel : Channel}

/-- While nobody gives a channel up, all others than its owner only deliver to it. -/
theorem fed_of_after? (happens : scene.after? event = some next)
    (notReceived : event ≠ .receive id) (notDropped : event ≠ .dropReceiver id)
    (kept : ∀ (number : Nat) destination result,
      scene.calls[number]? ≠ some (.subscribe id destination, .finish result))
    (found : scene.session.channel? id = some channel) (listens : channel.hasReceiver = true) :
    ∃ later, next.session.channel? id = some later ∧ Fed channel later := by
  -- An event that leaves this channel as it is.
  have same (same : next.session.channel? id = scene.session.channel? id) :
      ∃ later, next.session.channel? id = some later ∧ Fed channel later :=
    ⟨channel, same.trans found, .refl channel⟩
  -- A change of another channel.
  have other {gone : String} (different : id ≠ gone) (session : Session)
      (change : Channel → Channel) :
      (session.alterChannel gone change).channel? id = session.channel? id := by
    rw [channel?_alterChannel, funext fun channel => if_neg different, Option.map_id']
  cases event with
  | writer move =>
      rcases Option.map_eq_some_iff.mp happens with ⟨session, moved, rfl⟩
      refine same ?_
      unfold channel?
      rw [(keeps_of_moveWriter? moved).channels_eq]
  | reader move =>
      rcases Option.map_eq_some_iff.mp happens with ⟨session, moved, rfl⟩
      rcases (moved_of_moveReader? moved).channel_cases found with
        still | ⟨frame, -, now⟩ | ⟨fault, -, -, -, now⟩
      · exact ⟨channel, still, .refl channel⟩
      · exact ⟨_, now, fed_deliver listens _⟩
      · exact ⟨_, now, fed_deliver listens _⟩
  | advance number =>
      simp only [after?] at happens
      split at happens
      · rename_i call stage there
        rcases Option.map_eq_some_iff.mp happens with ⟨⟨session, later⟩, moved, rfl⟩
        have advanced := advanced_of_advance? moved
        cases advanced with
        | insert new destination =>
            exact ⟨channel, channel?_insertRoute_of_some found new, .refl channel⟩
        | finish call result =>
            cases call with
            | subscribe gone destination =>
                refine same (other ?_ _ Channel.drop)
                rintro rfl
                exact kept number destination result there
            | unsubscribe gone => exact same rfl
            | disconnect receipt => exact same rfl
        | _ => exact same rfl
      · cases happens
  | receive own =>
      rcases Option.map_eq_some_iff.mp happens with ⟨⟨item, session⟩, received, rfl⟩
      unfold receive? at received
      split at received
      · cases received
        refine same (other ?_ _ _)
        rintro rfl
        exact notReceived rfl
      · cases received
  | dropReceiver own =>
      cases happens
      refine same (other ?_ _ Channel.drop)
      rintro rfl
      exact notDropped rfl
  | begin call | arrive bytes =>
      simp only [after?] at happens
      split at happens
      · cases happens
      · cases happens
        exact same rfl
  | endInput | drop =>
      cases happens
      exact same rfl

/-- The one call that subscribes under an identifier gives its channel up at no other stage than
its own. -/
theorem kept_of_holds (distinct : scene.issued.Nodup) {number : Nat} {destination : String}
    {stage : Stage} (found : scene.calls[number]? = some (.subscribe id destination, stage))
    (holds : stage.Holds) (other : Nat) (place : String) (result : Except Fault Unit) :
    scene.calls[other]? ≠ some (.subscribe id place, .finish result) := by
  intro leaving
  have same := subscribe_unique distinct found leaving
  rw [← same, found] at leaving
  cases leaving
  exact holds

/-- A channel that is nobody's but its owner's, who has received nothing yet. -/
theorem untouched_of_run {rest : List UInt8} {events : List Event} {last : Scene}
    (run : (opened rest).run? events = some last) (distinct : last.issued.Nodup)
    (untouched : ∀ event ∈ events, event ≠ .receive id ∧ event ≠ .dropReceiver id)
    {number : Nat} {destination : String} {stage : Stage}
    (found : last.calls[number]? = some (.subscribe id destination, stage))
    (holds : stage.Holds) :
    ∃ channel, last.session.channel? id = some channel ∧ channel.received = 0 ∧
      channel.hasReceiver = true := by
  revert untouched number destination stage
  refine distinct_induction (motive := fun events scene =>
    (∀ event ∈ events, event ≠ .receive id ∧ event ≠ .dropReceiver id) →
      ∀ {number : Nat} {destination : String} {stage : Stage},
        scene.calls[number]? = some (.subscribe id destination, stage) → stage.Holds →
          ∃ channel, scene.session.channel? id = some channel ∧ channel.received = 0 ∧
            channel.hasReceiver = true) ?_ ?_ run distinct
  · intro untouched number destination stage found
    cases found
  intro events event scene next earlier happens distinct inductionHypothesis untouched number
    destination later found holds
  have happened := happened_of_after? happens
  rcases untouched event (List.mem_append_right _ (List.mem_singleton_self event)) with
    ⟨notReceived, notDropped⟩
  -- The call was where it keeps its channel already.
  have stays {stage : Stage}
      (there : scene.calls[number]? = some (.subscribe id destination, stage)) (held : stage.Holds) :
      ∃ channel, next.session.channel? id = some channel ∧
        channel.received = 0 ∧ channel.hasReceiver = true := by
    have before := @inductionHypothesis fun event member =>
      untouched event (List.mem_append_left _ member)
    rcases before there held with ⟨channel, looked, fresh, listens⟩
    rcases fed_of_after? happens notReceived notDropped (kept_of_holds distinct there held) looked
      listens with ⟨_, now, more, rfl⟩
    exact ⟨_, now, fresh, listens⟩
  rcases happened.call_cases found with kept | ⟨-, -, rfl, -⟩ | ⟨-, stage, there, moved⟩
  · exact stays kept holds
  · exact holds.elim
  · rcases moved.held (visits_of_run earlier number _ stage there) holds with
      ⟨rfl, session_eq⟩ | held
    · -- The channel was made just now.
      rw [session_eq]
      refine ⟨{}, channel?_insertRoute_self (channel?_eq_none_iff.mpr ?_), rfl, rfl⟩
      intro made
      rcases hasInserted_of_run earlier id made with ⟨other, place, stage, inserted, notWaiting⟩
      have same := subscribe_unique distinct there inserted
      rw [← same, there] at inserted
      cases inserted
      exact notWaiting rfl
    · exact stays there held

end Scene
end Session
end Stomp
end ExchangeGrid
