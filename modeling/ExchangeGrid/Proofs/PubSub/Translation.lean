import ExchangeGrid.Proofs.Session.Delivery
import ExchangeGrid.Proofs.Session.Ownership
import ExchangeGrid.PubSub.Subscription

namespace ExchangeGrid
namespace PubSub

open Stomp (Channel Delivery Frame)
open Stomp.Session (Scene heard)

/-!
# From frames to messages

The messages of a subscription stand, at any time, in four places: the user has received them, they
wait in the queue, the translator holds on to one, or they have yet to be made of what waits in the
channel.  Put one behind the other these are the messages of all that was delivered, and no step
changes that.  So no message is lost, none is made up and none overtakes another, whether its body
can be decoded or not.
-/

variable {Body : Type} {decode : Decoder Body}

def Translator.held : Translator Body → List (Message Body)
  | .handing message => [message]
  | _ => []

/-- How many moves the translator has before it, while nothing waits for it. -/
def Translator.ahead : Translator Body → Nat
  | .handing _ => 3
  | .waiting => 1
  | .finished => 0

namespace Subscription

/-! ## What a move does -/

inductive Moved (decode : Decoder Body) (subscription : Subscription Body) :
    Move → Subscription Body → Prop
  | below (event : Stomp.Session.Event) (scene : Scene) (others : ¬ IsOwn subscription.id event)
      (happens : subscription.scene.after? event = some scene) :
      Moved decode subscription (.below event) { subscription with scene }
  | translate (item : Delivery) (session : Stomp.Session)
      (waiting : subscription.translator = .waiting)
      (received : subscription.scene.session.receive? subscription.id = some (item, session)) :
      Moved decode subscription .translate { subscription with
        scene := { subscription.scene with session }
        translator := .handing (.ofDelivery decode item) }
  | hand (message : Message Body) (handing : subscription.translator = .handing message)
      (room : subscription.queue.length < messageLimit) :
      Moved decode subscription .hand { subscription with
        queue := subscription.queue ++ [message]
        translator := .waiting }
  | finish (waiting : subscription.translator = .waiting) (nothing : subscription.pending = [])
      (hasEnded : subscription.scene.session.hasEnded subscription.id = true) :
      Moved decode subscription .finish { subscription with translator := .finished }
  | receive (message : Message Body) (queue : List (Message Body))
      (queue_eq : subscription.queue = message :: queue) :
      Moved decode subscription .receive
        { subscription with queue, received := subscription.received ++ [message] }
  | seeEnd (finished : subscription.translator = .finished) (empty : subscription.queue = []) :
      Moved decode subscription .seeEnd { subscription with ended := true }

theorem moved_of_after? {subscription next : Subscription Body} {move : Move}
    (moves : subscription.after? decode move = some next) :
    Moved decode subscription move next := by
  cases move with
  | below event =>
      simp only [after?, below?] at moves
      split at moves
      · cases moves
      · rename_i others
        rcases Option.map_eq_some_iff.mp moves with ⟨scene, happens, rfl⟩
        exact .below event scene others happens
  | translate =>
      simp only [after?, translate?] at moves
      split at moves
      · rename_i waiting
        rcases Option.map_eq_some_iff.mp moves with ⟨⟨item, session⟩, received, rfl⟩
        exact .translate item session waiting received
      · cases moves
  | hand =>
      simp only [after?, hand?] at moves
      split at moves
      · rename_i message handing
        split at moves
        · rename_i room
          cases moves
          exact .hand message handing room
        · cases moves
      · cases moves
  | finish =>
      simp only [after?, finish?] at moves
      split at moves
      · rename_i waiting
        split at moves
        · rename_i isOver
          cases moves
          rw [Bool.and_eq_true, List.isEmpty_iff] at isOver
          exact .finish waiting isOver.1 isOver.2
        · cases moves
      · cases moves
  | receive =>
      simp only [after?, receive?] at moves
      split at moves
      · rename_i message queue queue_eq
        cases moves
        exact .receive message queue queue_eq
      · cases moves
  | seeEnd =>
      simp only [after?, seeEnd?] at moves
      split at moves
      · rename_i finished empty
        cases moves
        exact .seeEnd finished empty
      · cases moves

/-- What holds of a subscription and is kept by every move holds after every run. -/
theorem run_induction {start : Subscription Body} {motive : List Move → Subscription Body → Prop}
    (atStart : motive [] start)
    (step : ∀ moves move subscription next, start.run? decode moves = some subscription →
      Moved decode subscription move next → motive moves subscription →
        motive (moves ++ [move]) next)
    {moves : List Move} {last : Subscription Body} (run : start.run? decode moves = some last) :
    motive moves last := by
  induction moves using List.reverseRecOn generalizing last with
  | nil =>
      cases run
      exact atStart
  | append_singleton moves move inductionHypothesis =>
      unfold run? at run
      rw [List.foldlM_append] at run
      rcases Option.bind_eq_some_iff.mp run with ⟨subscription, earlier, moved⟩
      change (subscription.after? decode move).bind some = some last at moved
      rw [Option.bind_fun_some] at moved
      exact step moves move subscription last earlier (moved_of_after? moved)
        (inductionHypothesis earlier)

/-! ## What happens below -/

/-- The event of the session that a move brings about.  Only the translator receives from the
channel. -/
def Move.event? (id : String) : Move → Option Stomp.Session.Event
  | .below event => some event
  | .translate => some (.receive id)
  | _ => none

def eventsOf (id : String) (moves : List Move) : List Stomp.Session.Event :=
  moves.filterMap (Move.event? id)

/-- The moves of the translator and of the user. -/
def Move.IsInside : Move → Prop
  | .below _ => False
  | _ => True

theorem Moved.id_eq {subscription next : Subscription Body} {move : Move}
    (moved : Moved decode subscription move next) : next.id = subscription.id := by
  cases moved <;> rfl

theorem Moved.scene {subscription next : Subscription Body} {move : Move}
    (moved : Moved decode subscription move next) :
    subscription.scene.run? (move.event? subscription.id).toList = some next.scene := by
  cases moved with
  | below event scene others happens =>
      exact (Scene.run?_singleton _ event).trans happens
  | translate item session waiting received =>
      refine (Scene.run?_singleton _ (.receive subscription.id)).trans ?_
      simp only [Scene.after?, received, Option.map_some]
  | _ => rfl

/-- A run of a subscription is a run of the session below it. -/
theorem scene_of_run {start last : Subscription Body} {moves : List Move}
    (run : start.run? decode moves = some last) :
    last.id = start.id ∧
      start.scene.run? (eventsOf start.id moves) = some last.scene := by
  refine run_induction (motive := fun moves subscription => subscription.id = start.id ∧
    start.scene.run? (eventsOf start.id moves) = some subscription.scene) ⟨rfl, rfl⟩ ?_ run
  rintro moves move subscription next - moved ⟨id_eq, below⟩
  refine ⟨moved.id_eq.trans id_eq, ?_⟩
  have step := moved.scene
  rw [id_eq] at step
  rw [eventsOf, List.filterMap_append]
  refine (Scene.run?_append_of below _).trans ?_
  rw [← step]
  cases move <;> rfl

/-! ## What the translator has -/

/-- The messages that the user has yet to receive of what has come into the channel. -/
def underway (decode : Decoder Body) (subscription : Subscription Body) : List (Message Body) :=
  subscription.queue ++ subscription.translator.held ++
    subscription.pending.map (.ofDelivery decode)

/-- A subscription has made a message of each delivery that it has received from its channel, and
stops only at the end of the channel. -/
structure Carried (decode : Decoder Body) (subscription : Subscription Body)
    (channel : Channel) : Prop where
  found : subscription.scene.session.channel? subscription.id = some channel
  listens : channel.hasReceiver = true
  within : channel.received ≤ channel.items.length
  translated : subscription.received ++ subscription.queue ++ subscription.translator.held =
    (channel.items.take channel.received).map (.ofDelivery decode)
  finished : subscription.translator = .finished →
    channel.waiting = [] ∧ subscription.scene.session.hasEnded subscription.id = true
  ended : subscription.ended = true → subscription.translator = .finished ∧ subscription.queue = []

variable {subscription next : Subscription Body} {channel : Channel} {move : Move}

theorem Carried.pending_eq (carried : Carried decode subscription channel) :
    subscription.pending = channel.waiting := by
  unfold pending
  rw [carried.found]
  rfl

/-- What was received and what is under way are the messages of all that was delivered. -/
theorem Carried.total (carried : Carried decode subscription channel) :
    subscription.received ++ subscription.underway decode =
      channel.items.map (.ofDelivery decode) := by
  unfold underway
  rw [carried.pending_eq, ← List.append_assoc, ← List.append_assoc, carried.translated,
    Channel.waiting, ← List.map_append, List.take_append_drop]

/-- What is left to receive of a channel once an item was. -/
theorem receive?_eq_some {session later : Stomp.Session} {id : String} {item : Delivery}
    (found : session.channel? id = some channel)
    (received : session.receive? id = some (item, later)) :
    channel.items.take channel.received ++ [item] = channel.items.take (channel.received + 1) ∧
      channel.received < channel.items.length ∧
      later = session.alterChannel id fun _ =>
        { channel with received := channel.received + 1 } := by
  unfold Stomp.Session.receive? at received
  rw [found, Option.bind_some] at received
  unfold Channel.receive? at received
  cases waits : channel.waiting with
  | nil =>
      rw [waits] at received
      cases received
  | cons first others =>
      rw [waits] at received
      cases received
      have there : channel.items[channel.received]? = some item := by
        rw [← List.head?_drop, show channel.items.drop channel.received = item :: others from waits]
        rfl
      refine ⟨?_, (List.getElem?_eq_some_iff.mp there).1, rfl⟩
      rw [List.take_add_one, there]
      rfl

/-- No move of the translator or of the user changes anything in what was delivered. -/
theorem Carried.inside (carried : Carried decode subscription channel)
    (moved : Moved decode subscription move next) (inside : move.IsInside) :
    ∃ later, Carried decode next later ∧ later.items = channel.items ∧
      next.scene.session.hasEnded next.id =
        subscription.scene.session.hasEnded subscription.id := by
  cases moved with
  | below event scene others happens => exact inside.elim
  | translate item session waiting received =>
      rcases receive?_eq_some carried.found received with ⟨taken, inside, rfl⟩
      refine ⟨{ channel with received := channel.received + 1 }, ?_, rfl, rfl⟩
      refine ⟨?_, carried.listens, inside, ?_, nofun, ?_⟩
      · rw [Stomp.Session.channel?_alterChannel, carried.found, Option.map_some, if_pos rfl]
      · have earlier := carried.translated
        rw [waiting, show (Translator.waiting : Translator Body).held = [] from rfl,
          List.append_nil] at earlier
        dsimp only
        rw [earlier, ← taken, List.map_append]
        rfl
      · intro ended
        cases waiting.symm.trans (carried.ended ended).1
  | hand message handing room =>
      refine ⟨channel, ⟨carried.found, carried.listens, carried.within, ?_, nofun, ?_⟩, rfl, rfl⟩
      · have earlier := carried.translated
        rw [handing] at earlier
        rw [← earlier, ← List.append_assoc]
        exact List.append_nil _
      · intro ended
        cases handing.symm.trans (carried.ended ended).1
  | finish waiting nothing hasEnded =>
      refine ⟨channel, ⟨carried.found, carried.listens, carried.within, ?_, ?_, ?_⟩, rfl, rfl⟩
      · rw [← carried.translated, waiting]
        rfl
      · intro _
        rw [← carried.pending_eq]
        exact ⟨nothing, hasEnded⟩
      · intro ended
        exact ⟨rfl, (carried.ended ended).2⟩
  | receive message queue queue_eq =>
      refine ⟨channel, ⟨carried.found, carried.listens, carried.within, ?_, carried.finished, ?_⟩,
        rfl, rfl⟩
      · rw [← carried.translated, queue_eq, List.append_assoc _ [message]]
        rfl
      · intro ended
        cases queue_eq.symm.trans (carried.ended ended).2
  | seeEnd finished empty =>
      exact ⟨channel, ⟨carried.found, carried.listens, carried.within, carried.translated,
        carried.finished, fun _ => ⟨finished, empty⟩⟩, rfl, rfl⟩

/-- Whatever happens below, the translator has what it had, and at its end nothing more comes. -/
theorem Carried.below {rest : List UInt8} {events : List Stomp.Session.Event} {number : Nat}
    {destination : String} {event : Stomp.Session.Event} {scene : Scene}
    (carried : Carried decode subscription channel)
    (reached : (Scene.opened rest).run? events = some subscription.scene)
    (distinct : subscription.scene.issued.Nodup)
    (subscribed : subscription.scene.calls[number]? =
      some (.subscribe subscription.id destination, .done (.ok ())))
    (others : ¬ IsOwn subscription.id event)
    (happens : subscription.scene.after? event = some scene) :
    ∃ later, Carried decode { subscription with scene } later := by
  rcases not_or.mp others with ⟨notReceived, notDropped⟩
  rcases Scene.fed_of_after? happens notReceived notDropped
    (Scene.kept_of_holds distinct subscribed trivial) carried.found carried.listens with
    ⟨_, now, more, rfl⟩
  have within : channel.received ≤ (channel.items ++ more).length := by
    rw [List.length_append]
    exact Nat.le_add_right_of_le carried.within
  refine ⟨_, ⟨now, carried.listens, within, ?_, ?_, carried.ended⟩⟩
  · rw [List.take_append_of_le_length carried.within]
    exact carried.translated
  · intro finished
    rcases carried.finished finished with ⟨nothing, hasEnded⟩
    have happened := Scene.happened_of_after? happens
    have gone := Stomp.Session.hasEnded_iff.mp hasEnded
    -- At the end of a channel nobody delivers to it.
    have unfed : more = [] := by
      rcases happened.channel_cases carried.found with
        ⟨kept, looked, unfed⟩ | ⟨frame, holding, -⟩ | ⟨fault, -, -, member, -⟩
      · rw [now] at looked
        cases looked
        exact List.append_right_eq_self.mp unfed.items_eq
      · exact (gone.2 frame holding).elim
      · exact (gone.1 member).elim
    rw [unfed, List.append_nil]
    exact ⟨nothing, happened.hasEnded reached distinct carried.found hasEnded⟩

/-! ## All the way -/

/-- A subscription is made on a session, when the call to subscribe has returned without a fault.
Its channel has been left to it. -/
structure Made (rest : List UInt8) (front : List Stomp.Session.Event) (id : String)
    (scene : Scene) : Prop where
  reached : (Scene.opened rest).run? front = some scene
  subscribed : ∃ (number : Nat) (destination : String),
    scene.calls[number]? = some (.subscribe id destination, .done (.ok ()))
  untouched : ∀ event ∈ front, ¬ IsOwn id event

variable {rest : List UInt8} {front : List Stomp.Session.Event} {id : String} {scene : Scene}
  {moves : List Move} {last : Subscription Body}

theorem reached_of_run (made : Made rest front id scene)
    (run : (start id scene).run? decode moves = some last) :
    last.id = id ∧ (Scene.opened rest).run? (front ++ eventsOf id moves) = some last.scene := by
  rcases scene_of_run run with ⟨id_eq, below⟩
  exact ⟨id_eq, (Scene.run?_append_of made.reached _).trans below⟩

theorem carried_of_run (made : Made rest front id scene)
    (run : (start id scene).run? decode moves = some last) (distinct : last.scene.issued.Nodup) :
    ∃ channel, Carried decode last channel := by
  revert distinct
  refine run_induction (motive := fun _ subscription => subscription.scene.issued.Nodup →
    ∃ channel, Carried decode subscription channel) ?_ ?_ run
  · intro distinct
    rcases made.subscribed with ⟨number, destination, subscribed⟩
    rcases Scene.untouched_of_run made.reached distinct
      (fun event member => not_or.mp (made.untouched event member)) subscribed trivial with
      ⟨channel, found, fresh, listens⟩
    refine ⟨channel, found, listens, ?_, ?_, nofun, nofun⟩
    · rw [fresh]
      exact Nat.zero_le _
    · rw [fresh, List.take_zero]
      rfl
  · intro moves move subscription next earlier moved inductionHypothesis distinct
    have reached := reached_of_run made earlier
    have before : subscription.scene.issued.Nodup :=
      distinct.sublist (Scene.issued_of_run moved.scene).sublist
    rcases inductionHypothesis before with ⟨channel, carried⟩
    have same := moved
    cases moved with
    | below event scene others happens =>
        rcases made.subscribed with ⟨number, destination, subscribed⟩
        rw [← reached.1] at subscribed reached
        exact carried.below reached.2 before
          (Scene.returned_of_run (scene_of_run earlier).2 subscribed) others happens
    | translate | hand | finish | receive | seeEnd =>
        rcases carried.inside same trivial with ⟨later, still, -⟩
        exact ⟨later, still⟩

/-! ## Nothing stands in the way -/

/-- How many moves a subscription can still make while nothing happens below. -/
def left (subscription : Subscription Body) : Nat :=
  3 * subscription.pending.length + subscription.translator.ahead + subscription.queue.length +
    (if subscription.ended then 0 else 1)

/-- The translator can take what waits for it. -/
theorem Carried.exists_translate (carried : Carried decode subscription channel)
    (state : subscription.translator = .waiting) {item : Delivery} {others : List Delivery}
    (waits : subscription.pending = item :: others) :
    ∃ next, subscription.after? decode .translate = some next ∧ next.pending = others ∧
      next.translator.ahead = 3 ∧ next.queue = subscription.queue ∧
      next.ended = subscription.ended := by
  have looks : channel.waiting = item :: others := carried.pending_eq.symm.trans waits
  have moves : subscription.after? decode .translate = some { subscription with
      scene := { subscription.scene with
        session := subscription.scene.session.alterChannel subscription.id fun _ =>
          { channel with received := channel.received + 1 } }
      translator := .handing (.ofDelivery decode item) } := by
    simp only [after?, translate?, state, Stomp.Session.receive?, carried.found, Option.bind_some,
      Channel.receive?, looks, Option.map_some]
  refine ⟨_, moves, ?_, rfl, rfl, rfl⟩
  unfold pending
  rw [Stomp.Session.channel?_alterChannel, carried.found, Option.map_some, if_pos rfl,
    Option.map_some, Option.getD_some, Channel.waiting, ← List.tail_drop,
    show channel.items.drop channel.received = item :: others from looks, List.tail_cons]

/-- A subscription can go on until the user has received all that was delivered, and knows of the
end if that has come. -/
theorem Carried.exists_move (carried : Carried decode subscription channel) :
    (subscription.underway decode = [] ∧
      (subscription.scene.session.hasEnded subscription.id = true → subscription.ended = true)) ∨
    ∃ move next, move.IsInside ∧ subscription.after? decode move = some next ∧
      next.left < subscription.left := by
  cases queue_eq : subscription.queue with
  | cons message queue =>
      refine Or.inr ⟨.receive, _, trivial, by simp only [after?, receive?, queue_eq]; rfl, ?_⟩
      simp only [left, queue_eq, List.length_cons, pending]
      omega
  | nil =>
      cases state : subscription.translator with
      | handing message =>
          refine Or.inr ⟨.hand, _, trivial, by simp only [after?, hand?, state, queue_eq]; rfl, ?_⟩
          simp only [left, state, queue_eq, Translator.ahead, List.length_cons, List.length_nil,
            List.nil_append, pending]
          omega
      | finished =>
          rcases carried.finished state with ⟨nothing, hasEnded⟩
          cases ended : subscription.ended with
          | true =>
              refine Or.inl ⟨?_, fun _ => rfl⟩
              rw [underway, queue_eq, state, carried.pending_eq, nothing]
              rfl
          | false =>
              refine Or.inr ⟨.seeEnd, _, trivial,
                by simp only [after?, seeEnd?, state, queue_eq]; rfl, ?_⟩
              simp only [left, state, queue_eq, ended, pending, if_true, Bool.false_eq_true,
                if_false]
              omega
      | waiting =>
          cases waits : subscription.pending with
          | cons item others =>
              rcases carried.exists_translate state waits with
                ⟨next, moves, pending_eq, ahead_eq, queue_same, ended_eq⟩
              refine Or.inr ⟨.translate, next, trivial, moves, ?_⟩
              rw [left, left, pending_eq, ahead_eq, queue_same, ended_eq, waits, state,
                List.length_cons, Translator.ahead]
              omega
          | nil =>
              cases hasEnded : subscription.scene.session.hasEnded subscription.id with
              | true =>
                  refine Or.inr ⟨.finish, _, trivial, by
                    simp only [after?, finish?, state, waits, hasEnded, List.isEmpty_nil,
                      Bool.and_self, if_true]
                    rfl, ?_⟩
                  have still : ({ subscription with translator := .finished } :
                      Subscription Body).pending = subscription.pending := rfl
                  simp only [left, still]
                  simp only [state, Translator.ahead]
                  omega
              | false =>
                  refine Or.inl ⟨?_, ?_⟩
                  · rw [underway, queue_eq, state, waits]
                    rfl
                  · intro impossible
                    cases impossible

/-- Nobody else is needed for the user to receive all that was delivered. -/
theorem Carried.delivers (carried : Carried decode subscription channel) :
    ∃ moves later, (∀ move ∈ moves, move.IsInside) ∧
      subscription.run? decode moves = some later ∧
      later.received = channel.items.map (.ofDelivery decode) ∧
      (subscription.scene.session.hasEnded subscription.id = true → later.ended = true) := by
  induction remaining : subscription.left using Nat.strongRecOn
    generalizing subscription channel with
  | ind remaining inductionHypothesis =>
      rcases carried.exists_move with ⟨nothing, told⟩ | ⟨move, next, inside, moves, less⟩
      · refine ⟨[], subscription, nofun, rfl, ?_, told⟩
        rw [← carried.total, nothing, List.append_nil]
      · rcases carried.inside (moved_of_after? moves) inside with ⟨later, still, items_eq, ended_eq⟩
        rcases inductionHypothesis next.left (remaining ▸ less) still rfl with
          ⟨others, last, allInside, run, received_eq, told⟩
        refine ⟨move :: others, last, ?_, ?_, ?_, ?_⟩
        · intro other member
          rcases List.mem_cons.mp member with rfl | later
          · exact inside
          · exact allInside other later
        · change (subscription.after? decode move).bind (fun next => next.run? decode others) = _
          rw [moves]
          exact run
        · rw [received_eq, items_eq]
        · rw [← ended_eq]
          exact told

/-- Whoever was told of the end receives no more. -/
theorem closed_of_run {later : Subscription Body} (finished : subscription.translator = .finished)
    (empty : subscription.queue = []) (ended : subscription.ended = true)
    (run : subscription.run? decode moves = some later) :
    later.received = subscription.received ∧ later.ended = true := by
  have kept : later.received = subscription.received ∧ later.translator = .finished ∧
      later.queue = [] ∧ later.ended = true := by
    refine run_induction (motive := fun _ later => later.received = subscription.received ∧
      later.translator = .finished ∧ later.queue = [] ∧ later.ended = true)
      ⟨rfl, finished, empty, ended⟩ ?_ run
    rintro moves move reached next - moved ⟨received_eq, finished, nothing, told⟩
    cases moved with
    | below event scene others happens => exact ⟨received_eq, finished, nothing, told⟩
    | translate item session waiting received => cases waiting.symm.trans finished
    | hand message handing room => cases handing.symm.trans finished
    | finish waiting noMore hasEnded => cases waiting.symm.trans finished
    | receive message queue queue_eq => cases queue_eq.symm.trans nothing
    | seeEnd finished empty => exact ⟨received_eq, finished, nothing, rfl⟩
  exact ⟨kept.1, kept.2.2.2⟩

/-! ## Neither lost nor made up -/

theorem ofFrame_ne_failed (frame : Frame) (error : Error) :
    Message.ofFrame decode frame ≠ .failed error := by
  unfold Message.ofFrame
  split <;> exact nofun

/-- The messages of a subscription are those of some frames. -/
structure Faithful (decode : Decoder Body) (subscription : Subscription Body)
    (frames : List Frame) : Prop where
  /-- There is one message for each frame, in order: first those that the user has received, then
  those that are under way, and last that of a frame which the session still holds on to.  After
  them comes at most the failure that ended the session. -/
  messages : ∃ ending,
    subscription.received ++ subscription.underway decode ++
        (subscription.scene.session.heldFor subscription.id).map (.ofFrame decode) =
      frames.map (.ofFrame decode) ++ ending ∧
    (ending = [] ∨ ∃ fault : Stomp.Fault, ending = [.failed (.stomp fault.message)] ∧
      subscription.scene.session.hasEnded subscription.id = true)
  /-- Nothing follows a failure. -/
  last : ∀ before error after,
    subscription.received ++ subscription.underway decode = before ++ .failed error :: after →
      after = []
  /-- Nothing but the end of the channel is the end of the subscription, and by then all messages
  were received. -/
  complete : subscription.ended = true →
    subscription.scene.session.hasEnded subscription.id = true ∧
      subscription.underway decode = [] ∧
      subscription.scene.session.heldFor subscription.id = []
  /-- Nothing is received after the end. -/
  closed : subscription.ended = true → ∀ moves later, subscription.run? decode moves = some later →
    later.received = subscription.received ∧ later.ended = true
  /-- Whatever the messages are, the user can receive all that are under way, and is told of the end
  when it has come. -/
  delivers : ∃ moves later, (∀ move ∈ moves, move.IsInside) ∧
    subscription.run? decode moves = some later ∧
    later.received = subscription.received ++ subscription.underway decode ∧
    (subscription.scene.session.hasEnded subscription.id = true → later.ended = true)

/-- Where only the messages of frames come before it, a failure is the last message. -/
theorem failed_last {frames : List Frame} {before after held ending : List (Message Body)}
    {error : Error}
    (whole : before ++ .failed error :: after ++ held = frames.map (.ofFrame decode) ++ ending)
    (single : ending.length ≤ 1) : after = [] := by
  rw [List.append_assoc] at whole
  rcases List.append_eq_append_iff.mp whole with ⟨more, frames_eq, failed⟩ | ⟨more, -, ending_eq⟩
  · cases more with
    | nil =>
        rw [List.nil_append] at failed
        rw [← failed, List.cons_append, List.length_cons, List.length_append] at single
        exact List.eq_nil_of_length_eq_zero (by omega)
    | cons first others =>
        rw [List.cons_append, List.cons_append, List.cons.injEq] at failed
        have member : first ∈ frames.map (.ofFrame decode) := by
          rw [frames_eq]
          exact List.mem_append_right _ List.mem_cons_self
        rcases List.mem_map.mp member with ⟨frame, -, same⟩
        exact (ofFrame_ne_failed frame error (same.trans failed.1.symm)).elim
  · rw [ending_eq, List.cons_append, List.length_append, List.length_cons, List.length_append]
      at single
    exact List.eq_nil_of_length_eq_zero (by omega)

/-- Whatever happens, and in whatever order, a subscription that its user keeps neither drops a
message nor makes one up. -/
theorem faithful_of_run (made : Made rest front id scene)
    (run : (start id scene).run? decode moves = some last) (distinct : last.scene.issued.Nodup) :
    Faithful decode last
      (heard id ((Scene.opened rest).readings (front ++ eventsOf id moves))) := by
  rcases reached_of_run made run with ⟨rfl, reached⟩
  rcases carried_of_run made run distinct with ⟨channel, carried⟩
  rcases (Scene.delivered_of_run reached distinct last.id).of_some channel carried.found with
    ⟨ending, carries⟩
  have messages : last.received ++ last.underway decode ++
      (last.scene.session.heldFor last.id).map (.ofFrame decode) =
        (heard last.id ((Scene.opened rest).readings (front ++ eventsOf last.id moves))).map
          (.ofFrame decode) ++ ending.map (.ofDelivery decode) := by
    have whole := congrArg (List.map (Message.ofDelivery decode)) (carries.all carried.listens)
    rw [List.map_append, List.map_append, List.map_map, List.map_map, ← carried.total] at whole
    exact whole
  have ending_cases : ending = [] ∨ ∃ fault, ending = [.error fault] ∧
      last.scene.session.hasEnded last.id = true := by
    rcases carries.ending_cases with none | ⟨-, hasEnded, fault, some⟩
    · exact Or.inl none
    · exact Or.inr ⟨fault, some, hasEnded⟩
  refine ⟨⟨_, messages, ?_⟩, ?_, ?_, ?_, ?_⟩
  · rcases ending_cases with rfl | ⟨fault, rfl, hasEnded⟩
    · exact Or.inl rfl
    · exact Or.inr ⟨fault, rfl, hasEnded⟩
  · intro before error after total
    rw [total] at messages
    refine failed_last messages ?_
    rcases ending_cases with rfl | ⟨fault, rfl, -⟩
    · exact Nat.zero_le 1
    · exact Nat.le_refl 1
  · intro ended
    rcases carried.ended ended with ⟨finished, empty⟩
    rcases carried.finished finished with ⟨nothing, hasEnded⟩
    refine ⟨hasEnded, ?_, ?_⟩
    · rw [underway, empty, finished, carried.pending_eq, nothing]
      rfl
    · exact Stomp.Session.heldFor_eq_nil (Stomp.Session.hasEnded_iff.mp hasEnded).2
  · intro ended moves later onward
    rcases carried.ended ended with ⟨finished, empty⟩
    exact closed_of_run finished empty ended onward
  · rcases carried.delivers with ⟨moves, later, inside, run, received_eq, told⟩
    exact ⟨moves, later, inside, run, received_eq.trans carried.total.symm, told⟩

/-- A session on which a call to subscribe has returned. -/
def subscribing : List Stomp.Session.Event :=
  [.begin (.subscribe "feed" "/topic/a"), .advance 0, .advance 0, .advance 0, .advance 0]

/-- Two messages arrive, of which one has a body that is no truth value, and then the input ends in
the middle of a third. -/
def listening : List Move :=
  [.below (.arrive (Utf8.bytes "MESSAGE\nsubscription:feed\n\ntrue\x00MESSAGE\nsubscr")),
    .below (.reader .read), .below (.reader .deliver), .translate,
    .below (.arrive (Utf8.bytes "iption:feed\n\nyes\x00MESS")), .below .endInput,
    .below (.reader .read), .hand, .below (.reader .deliver), .translate, .receive, .hand,
    .below (.reader .read), .below (.reader .cancel), .below (.reader .drain),
    .translate, .hand, .finish, .receive, .receive, .seeEnd]

theorem faithful_listening : ∃ scene last,
    Made [] subscribing "feed" scene ∧
    (start "feed" scene).run? (Decoder.ofShape .bool) listening = some last ∧
    last.scene.issued.Nodup ∧ last.ended = true ∧
    last.received = [.body (.bool true) [⟨"subscription", "feed"⟩],
      .undecodable (.decode Error.misshapen) [121, 101, 115],
      .failed (.stomp "io: bytes remaining on stream")] ∧
    Faithful (Decoder.ofShape .bool) last
      (heard "feed" ((Scene.opened []).readings (subscribing ++ eventsOf "feed" listening))) := by
  have made : Made [] subscribing "feed" _ :=
    ⟨rfl, ⟨0, "/topic/a", rfl⟩, by decide⟩
  refine ⟨_, _, made, rfl, by decide, rfl, rfl, faithful_of_run made rfl (by decide)⟩

end Subscription
end PubSub
end ExchangeGrid
