import ExchangeGrid.Stomp.Session

namespace ExchangeGrid
namespace Stomp
namespace Session

/-!
# Steps of a session

What one event can do to a scene is said here once.  Most events touch only one side of a session:
the writer knows nothing of routes and channels, the reader nothing of the outbound queue, and a
call takes the ten kinds of steps that `Advanced` lists.  `happened_of_after?` puts them together.
-/

/-! ## Channels -/

/-- A change of a channel that delivers nothing and brings no receiver back. -/
structure Quiet (change : Channel → Channel) : Prop where
  items_eq : ∀ channel, (change channel).items = channel.items
  hasReceiver_of : ∀ channel, (change channel).hasReceiver = true → channel.hasReceiver = true

theorem quiet_id : Quiet id :=
  ⟨fun _ => rfl, fun _ => id⟩

theorem quiet_drop : Quiet Channel.drop := by
  refine ⟨fun _ => rfl, ?_⟩
  intro channel revived
  cases revived

def channelIds (session : Session) : List String :=
  session.channels.map (·.1)

theorem channel?_eq_none_iff {session : Session} {id : String} :
    session.channel? id = none ↔ id ∉ session.channelIds := by
  unfold channel? channelIds
  rw [Option.map_eq_none_iff, List.find?_eq_none, List.mem_map]
  constructor
  · rintro absent ⟨entry, member, rfl⟩
    exact absent entry member (beq_self_eq_true _)
  · rintro absent entry member same
    exact absent ⟨entry, member, beq_iff_eq.mp same⟩

theorem channelIds_alterChannel (session : Session) (id : String) (change : Channel → Channel) :
    (session.alterChannel id change).channelIds = session.channelIds := by
  unfold channelIds alterChannel
  rw [List.map_map]
  apply List.map_congr_left
  intro entry _
  by_cases same : entry.1 = id
  · simp only [Function.comp_apply, same, if_true]
  · simp only [Function.comp_apply, if_neg same]

theorem channelIds_deliverAll (session : Session) (item : Delivery) :
    (session.deliverAll item).channelIds = session.channelIds := by
  unfold channelIds deliverAll
  rw [List.map_map]
  rfl

theorem channel?_alterChannel (session : Session) (id other : String)
    (change : Channel → Channel) :
    (session.alterChannel id change).channel? other =
      (session.channel? other).map fun channel =>
        if other = id then change channel else channel := by
  unfold channel? alterChannel
  rw [List.find?_map, Option.map_map, Option.map_map]
  have sameTest : ((fun entry : String × Channel => entry.1 == other) ∘ fun entry =>
      if entry.1 = id then (id, change entry.2) else entry) = fun entry => entry.1 == other := by
    funext entry
    by_cases same : entry.1 = id
    · simp only [Function.comp_apply, same, if_true]
    · simp only [Function.comp_apply, if_neg same]
  rw [sameTest]
  cases found : session.channels.find? (·.1 == other) with
  | none => rfl
  | some entry =>
      have key : entry.1 = other := by simpa using List.find?_some found
      by_cases same : other = id
      · simp only [Option.map_some, Function.comp_apply, key, if_pos same]
      · simp only [Option.map_some, Function.comp_apply, key, if_neg same]

theorem channel?_deliverAll (session : Session) (item : Delivery) (id : String) :
    (session.deliverAll item).channel? id =
      (session.channel? id).map fun channel =>
        if id ∈ session.routes then channel.deliver item else channel := by
  unfold channel? deliverAll
  rw [List.find?_map, Option.map_map, Option.map_map]
  cases found : session.channels.find? (·.1 == id) with
  | none =>
      rw [Option.map_none, Option.map_eq_none_iff]
      exact found
  | some entry =>
      have key : entry.1 = id := by simpa using List.find?_some found
      rw [Option.map_some, Option.map_eq_some_iff]
      refine ⟨entry, found, ?_⟩
      simp only [Function.comp_apply, key, List.contains_iff_mem]

theorem channel?_insertRoute_of_ne (session : Session) {id other : String}
    (different : other ≠ id) :
    (session.insertRoute id).channel? other = session.channel? other := by
  unfold channel? insertRoute
  have absent : [(id, ({} : Channel))].find? (·.1 == other) = none := by
    rw [List.find?_singleton, if_neg]
    intro same
    exact different (beq_iff_eq.mp same).symm
  rw [List.find?_append, absent, Option.or_none]

theorem channel?_insertRoute_self {session : Session} {id : String}
    (fresh : session.channel? id = none) : (session.insertRoute id).channel? id = some {} := by
  unfold channel? insertRoute at *
  rw [Option.map_eq_none_iff] at fresh
  rw [List.find?_append, fresh, Option.none_or, List.find?_singleton, if_pos (beq_self_eq_true id)]
  rfl

/-! ## What the writer does -/

/-- The writer leaves routes, channels and the reader's side alone, and puts nothing into the
queue. -/
structure WriterKeeps (session next : Session) : Prop where
  routes_eq : next.routes = session.routes
  channels_eq : next.channels = session.channels
  enqueued_eq : next.enqueued = session.enqueued
  dropped_eq : next.dropped = session.dropped
  reader_eq : next.reader = session.reader
  buffer_eq : next.buffer = session.buffer
  inputEnded_eq : next.inputEnded = session.inputEnded
  limit_eq : next.limit = session.limit
  cancelled_of : session.cancelled = true → next.cancelled = true

theorem keeps_of_moveWriter? {session next : Session} {move : WriterMove}
    (moved : session.moveWriter? move = some next) : WriterKeeps session next := by
  cases move with
  | take =>
      simp only [moveWriter?, take?] at moved
      split at moved
      · cases moved
        exact ⟨rfl, rfl, rfl, rfl, rfl, rfl, rfl, rfl, id⟩
      · cases moved
  | write =>
      simp only [moveWriter?, write?] at moved
      split at moved
      · cases moved
        exact ⟨rfl, rfl, rfl, rfl, rfl, rfl, rfl, rfl, id⟩
      · cases moved
  | fail reached =>
      simp only [moveWriter?, failToWrite?] at moved
      split at moved
      · cases moved
        exact ⟨rfl, rfl, rfl, rfl, rfl, rfl, rfl, rfl, id⟩
      · cases moved
  | part =>
      simp only [moveWriter?, part?] at moved
      split at moved
      · cases moved
        exact ⟨rfl, rfl, rfl, rfl, rfl, rfl, rfl, rfl, fun _ => rfl⟩
      · cases moved
  | stop =>
      simp only [moveWriter?, stopWriter?] at moved
      split at moved
      · cases moved
        exact ⟨rfl, rfl, rfl, rfl, rfl, rfl, rfl, rfl, id⟩
      · cases moved
  | close =>
      simp only [moveWriter?, closeWriter?] at moved
      split at moved
      · cases moved
        exact ⟨rfl, rfl, rfl, rfl, rfl, rfl, rfl, rfl, id⟩
      · cases moved

/-- The writer is where it was, and has neither taken nor written anything. -/
structure Rests (session next : Session) : Prop where
  writer_eq : next.writer = session.writer
  taken_eq : next.taken = session.taken
  written_eq : next.written = session.written

/-! ## What the reader does -/

/-- The reader delivers a frame to a channel, and stops to hold on to its route. -/
def delivered (session : Session) (id : String) (frame : Frame) : Session :=
  { session.alterChannel id (·.deliver (.ok frame)) with
    reader := if ((session.channel? id).map Channel.hasReceiver).getD false then .reading
      else .pruning id }

def drained (session : Session) (failure : Option Fault) : Session :=
  { (match failure with
      | some fault => session.deliverAll (.error fault)
      | none => session) with
    routes := []
    reader := .ended }

/-- A frame is a message to a subscription.  Only the first header that names one counts. -/
def IsFor (frame : Frame) (id : String) : Prop :=
  frame.command = .message ∧ frame.header? "subscription" = some id

/-- What the reader makes of a frame: an ERROR frame stops it, a message with a route is delivered,
and nothing comes of any other. -/
theorem route_cases (session : Session) (frame : Frame) :
    (frame.command = .error ∧
      session.route frame = .stopping (some (.refused frame.complaint))) ∨
    (∃ id, IsFor frame id ∧ id ∈ session.routes ∧ session.route frame = .delivering id frame) ∨
    (frame.command ≠ .error ∧ (∀ id ∈ session.routes, ¬ IsFor frame id) ∧
      session.route frame = .reading) := by
  unfold route
  split
  · rename_i isMessage
    split
    · rename_i unaddressed
      refine Or.inr (Or.inr ⟨?_, ?_, rfl⟩)
      · rw [isMessage]
        exact nofun
      · intro id member isFor
        cases unaddressed.symm.trans isFor.2
    · rename_i id addressed
      by_cases present : session.routes.contains id
      · exact Or.inr (Or.inl ⟨id, ⟨isMessage, addressed⟩, List.contains_iff_mem.mp present,
          if_pos present⟩)
      · refine Or.inr (Or.inr ⟨?_, ?_, if_neg present⟩)
        · rw [isMessage]
          exact nofun
        · intro other member isFor
          cases addressed.symm.trans isFor.2
          exact present (List.contains_iff_mem.mpr member)
  · rename_i isError
    exact Or.inl ⟨isError, rfl⟩
  · rename_i notMessage notError
    refine Or.inr (Or.inr ⟨notError, ?_, rfl⟩)
    intro id member isFor
    exact notMessage isFor.1

/-- The moves of the reader, with what it found.  A fault of the bytes, the end of the input and a
failed read all come to the same. -/
inductive ReaderMoved (session : Session) : ReaderMove → Session → Prop
  | read (frame : Frame) (rest : List UInt8) (reading : session.reader = .reading)
      (found : decode session.limit session.buffer = .frame frame rest) :
      ReaderMoved session .read { session with buffer := rest, reader := session.route frame }
  | fail (move : ReaderMove) (fault : Fault) (rest : List UInt8)
      (reading : session.reader = .reading)
      (noFrame : ∀ frame later, decode session.limit session.buffer ≠ .frame frame later) :
      ReaderMoved session move
        { session with buffer := rest, reader := .stopping (some fault) }
  | deliver (id : String) (frame : Frame) (delivering : session.reader = .delivering id frame) :
      ReaderMoved session .deliver (session.delivered id frame)
  | prune (id : String) (pruning : session.reader = .pruning id) :
      ReaderMoved session .prune { session.removeRoute id with reader := .reading }
  | stop (reading : session.reader = .reading) (cancelled : session.cancelled = true) :
      ReaderMoved session .stop { session with reader := .stopping none }
  | cancel (failure : Option Fault) (stopping : session.reader = .stopping failure) :
      ReaderMoved session .cancel
        { session with cancelled := true, reader := .draining failure }
  | drain (failure : Option Fault) (draining : session.reader = .draining failure) :
      ReaderMoved session .drain (session.drained failure)

theorem moved_of_moveReader? {session next : Session} {move : ReaderMove}
    (moved : session.moveReader? move = some next) : ReaderMoved session move next := by
  cases move with
  | read =>
      simp only [moveReader?, read?] at moved
      split at moved
      · rename_i reading
        split at moved
        · rename_i frame rest found
          cases moved
          exact .read frame rest reading found
        · rename_i fault rest found
          cases moved
          refine .fail _ fault rest reading ?_
          intro frame later impossible
          rw [found] at impossible
          cases impossible
        · rename_i rest found
          split at moved
          · cases moved
            refine .fail _ (Handshake.endFault rest) rest reading ?_
            intro frame later impossible
            rw [found] at impossible
            cases impossible
          · cases moved
      · cases moved
  | fail detail =>
      simp only [moveReader?, failToRead?] at moved
      split at moved
      · rename_i reading
        split at moved
        · rename_i rest found
          cases moved
          refine .fail _ (.transport (.readFailed detail)) rest reading ?_
          intro frame later impossible
          rw [found] at impossible
          cases impossible
        · cases moved
      · cases moved
  | deliver =>
      simp only [moveReader?, deliver?] at moved
      split at moved
      · rename_i id frame delivering
        cases moved
        exact .deliver id frame delivering
      · cases moved
  | prune =>
      simp only [moveReader?, prune?] at moved
      split at moved
      · rename_i id pruning
        cases moved
        exact .prune id pruning
      · cases moved
  | stop =>
      simp only [moveReader?, stopReader?] at moved
      split at moved
      · rename_i isOver
        cases moved
        exact .stop isOver.1 isOver.2
      · cases moved
  | cancel =>
      simp only [moveReader?, cancel?] at moved
      split at moved
      · rename_i failure stopping
        cases moved
        exact .cancel failure stopping
      · cases moved
  | drain =>
      simp only [moveReader?, drain?] at moved
      split at moved
      · rename_i failure draining
        cases moved
        exact .drain failure draining
      · cases moved

namespace ReaderMoved

variable {session next : Session} {move : ReaderMove}

theorem enqueued_eq (moved : ReaderMoved session move next) : next.enqueued = session.enqueued := by
  cases moved with
  | drain failure draining => cases failure <;> rfl
  | _ => rfl

theorem rests (moved : ReaderMoved session move next) : Rests session next := by
  cases moved with
  | drain failure draining => cases failure <;> exact ⟨rfl, rfl, rfl⟩
  | _ => exact ⟨rfl, rfl, rfl⟩

theorem routes_sublist (moved : ReaderMoved session move next) :
    next.routes.Sublist session.routes := by
  cases moved with
  | prune id pruning => exact List.filter_sublist
  | drain failure draining => exact List.nil_sublist _
  | _ => exact List.Sublist.refl _

theorem channelIds_eq (moved : ReaderMoved session move next) :
    next.channelIds = session.channelIds := by
  cases moved with
  | deliver id frame delivering =>
      exact channelIds_alterChannel session id fun channel => channel.deliver (.ok frame)
  | drain failure draining =>
      cases failure with
      | none => rfl
      | some fault => exact channelIds_deliverAll session (.error fault)
  | _ => rfl

theorem cancelled_of (moved : ReaderMoved session move next)
    (cancelled : session.cancelled = true) : next.cancelled = true := by
  cases moved with
  | cancel failure stopping => rfl
  | drain failure draining => cases failure <;> exact cancelled
  | _ => exact cancelled

/-- The reader comes to hold on to a route only by reading a message to it. -/
theorem isFor_of_delivering (moved : ReaderMoved session move next) {id : String} {frame : Frame}
    (holding : next.reader = .delivering id frame) : IsFor frame id ∧ id ∈ session.routes := by
  cases moved with
  | read read rest reading found =>
      have held : session.route read = .delivering id frame := holding
      rcases session.route_cases read with
        ⟨-, route_eq⟩ | ⟨other, isFor, present, route_eq⟩ | ⟨-, -, route_eq⟩
      · rw [route_eq] at held
        cases held
      · rw [route_eq] at held
        cases held
        exact ⟨isFor, present⟩
      · rw [route_eq] at held
        cases held
  | deliver other read delivering =>
      unfold delivered at holding
      dsimp only at holding
      split at holding <;> cases holding
  | _ => cases holding

/-- The reader ends only by taking the routes out, and gets there only by announcing the end. -/
theorem reader_cases (moved : ReaderMoved session move next) :
    (next.reader ≠ .ended ∧ ∀ failure, next.reader ≠ .draining failure) ∨
      next.cancelled = true ∨ ∃ failure, session.reader = .draining failure := by
  cases moved with
  | read frame rest reading found =>
      left
      rcases session.route_cases frame with
        ⟨-, route_eq⟩ | ⟨id, -, -, route_eq⟩ | ⟨-, -, route_eq⟩ <;>
      · rw [route_eq]
        exact ⟨nofun, nofun⟩
  | deliver id frame delivering =>
      left
      unfold delivered
      dsimp only
      split <;> exact ⟨nofun, nofun⟩
  | cancel failure stopping => exact Or.inr (Or.inl rfl)
  | drain failure draining => exact Or.inr (Or.inr ⟨failure, draining⟩)
  | _ => exact Or.inl ⟨nofun, nofun⟩

end ReaderMoved

/-! ## What a call does -/

/-- The steps of a call, with what each found. -/
inductive Advanced (session : Session) : Call → Stage → Session → Stage → Prop
  | insert (id destination : String) :
      Advanced session (.subscribe id destination) .insertRoute (session.insertRoute id) .checkEnd
  | tooLate (call : Call) (cancelled : session.cancelled = true) :
      Advanced session call .checkEnd session (.finish (.error .closed))
  | inTime (call : Call) (cancelled : session.cancelled = false) :
      Advanced session call .checkEnd session .checkSend
  | remove (id : String) (present : id ∈ session.routes) :
      Advanced session (.unsubscribe id) .removeRoute (session.removeRoute id) .checkSend
  | absent (id : String) (absent : id ∉ session.routes) :
      Advanced session (.unsubscribe id) .removeRoute session (.done (.ok ()))
  | refuse (call : Call) (cancelled : session.cancelled = true) :
      Advanced session call .checkSend session (call.afterSend (.error .closed))
  | pass (call : Call) (cancelled : session.cancelled = false) :
      Advanced session call .checkSend session .enqueue
  | unheard (call : Call) (ended : session.writer = .ended) :
      Advanced session call .enqueue session (call.afterSend (.error .closed))
  | enqueue (call : Call) (ended : session.writer ≠ .ended)
      (room : session.outbound.length < outboundLimit) :
      Advanced session call .enqueue { session with enqueued := session.enqueued ++ [call.frame] }
        (call.afterSend (.ok ()))
  | finish (call : Call) (result : Except Fault Unit) :
      Advanced session call (.finish result) (session.finish call) (.done result)

theorem advanced_of_advance? {session next : Session} {call : Call} {stage later : Stage}
    (moved : session.advance? call stage = some (next, later)) :
    Advanced session call stage next later := by
  cases stage with
  | insertRoute =>
      cases call with
      | subscribe id destination =>
          cases moved
          exact .insert id destination
      | unsubscribe id => cases moved
      | disconnect receipt => cases moved
  | checkEnd =>
      simp only [advance?] at moved
      cases isOver : session.cancelled <;> rw [isOver] at moved <;> cases moved
      · exact .inTime call isOver
      · exact .tooLate call isOver
  | removeRoute =>
      cases call with
      | subscribe id destination => cases moved
      | unsubscribe id =>
          simp only [advance?, List.contains_iff_mem] at moved
          by_cases present : id ∈ session.routes
          · rw [if_pos present] at moved
            cases moved
            exact .remove id present
          · rw [if_neg present] at moved
            cases moved
            exact .absent id present
      | disconnect receipt => cases moved
  | checkSend =>
      simp only [advance?] at moved
      cases isOver : session.cancelled <;> rw [isOver] at moved <;> cases moved
      · exact .pass call isOver
      · exact .refuse call isOver
  | enqueue =>
      simp only [advance?] at moved
      split at moved
      · rename_i ended
        cases moved
        exact .unheard call ended
      · rename_i ended
        split at moved
        · rename_i room
          cases moved
          exact .enqueue call ended room
        · cases moved
  | finish result =>
      cases moved
      exact .finish call result
  | done result => cases moved

theorem mem_removeRoute {session : Session} {id other : String} :
    other ∈ (session.removeRoute id).routes ↔ other ∈ session.routes ∧ other ≠ id := by
  unfold removeRoute
  rw [List.mem_filter, bne_iff_ne]

theorem mem_removeRoute_of_ne {session : Session} {id other : String} (different : other ≠ id) :
    other ∈ (session.removeRoute id).routes ↔ other ∈ session.routes :=
  mem_removeRoute.trans (and_iff_left different)

def Call.id? : Call → Option String
  | .subscribe id _ | .unsubscribe id => some id
  | .disconnect _ => none

def Call.drawn? : Call → Option String
  | .subscribe id _ => some id
  | _ => none

/-- The stages that a call can be at.  A subscription finishes only when it has failed, and a call
fails only because the session is over. -/
def Call.Visits : Call → Stage → Prop
  | .subscribe _ _, .insertRoute | .subscribe _ _, .checkEnd | .unsubscribe _, .removeRoute
  | _, .checkSend | _, .enqueue => True
  | .subscribe _ _, .finish result => result = .error .closed
  | .disconnect _, .finish result | _, .done result => result = .ok () ∨ result = .error .closed
  | _, _ => False

theorem Call.visits_start (call : Call) : call.Visits call.start := by
  cases call <;> trivial

theorem Advanced.visits {session next : Session} {call : Call} {stage later : Stage}
    (moved : Advanced session call stage next later) (visits : call.Visits stage) :
    call.Visits later := by
  cases moved with
  | insert id destination => trivial
  | tooLate call cancelled =>
      cases call with
      | subscribe id destination => rfl
      | unsubscribe id => exact visits.elim
      | disconnect receipt => exact visits.elim
  | inTime call cancelled => cases call <;> trivial
  | remove id present => trivial
  | absent id absent => exact Or.inl rfl
  | refuse call cancelled | unheard call ended =>
      cases call with
      | subscribe id destination => rfl
      | unsubscribe id => exact Or.inr rfl
      | disconnect receipt => exact Or.inr rfl
  | pass call cancelled => cases call <;> trivial
  | enqueue call ended room => cases call <;> exact Or.inl rfl
  | finish call result =>
      cases call with
      | subscribe id destination => exact Or.inr visits
      | unsubscribe id => exact visits.elim
      | disconnect receipt => exact visits

theorem Advanced.eq_checkEnd {session next : Session} {call : Call} {later : Stage}
    (moved : Advanced session call .insertRoute next later) : later = .checkEnd := by
  cases moved
  rfl

/-- A call that has returned takes no more steps. -/
theorem Advanced.not_done {session next : Session} {call : Call} {result : Except Fault Unit}
    {later : Stage} (moved : Advanced session call (.done result) next later) : False := by
  cases moved

/-- No call comes back to where it looks at the routes for the first time. -/
theorem Advanced.later_ne {session next : Session} {call : Call} {stage later : Stage}
    (moved : Advanced session call stage next later) :
    later ≠ .insertRoute ∧ later ≠ .removeRoute := by
  cases moved with
  | refuse call cancelled | unheard call ended | enqueue call ended room =>
      cases call <;> exact ⟨nofun, nofun⟩
  | _ => exact ⟨nofun, nofun⟩

theorem Advanced.reader_eq {session next : Session} {call : Call} {stage later : Stage}
    (moved : Advanced session call stage next later) : next.reader = session.reader := by
  cases moved with
  | finish call result => cases call <;> rfl
  | _ => rfl

theorem Advanced.cancelled_eq {session next : Session} {call : Call} {stage later : Stage}
    (moved : Advanced session call stage next later) : next.cancelled = session.cancelled := by
  cases moved with
  | finish call result => cases call <;> rfl
  | _ => rfl

theorem Advanced.rests {session next : Session} {call : Call} {stage later : Stage}
    (moved : Advanced session call stage next later) : Rests session next := by
  cases moved with
  | finish call result => cases call <;> exact ⟨rfl, rfl, rfl⟩
  | _ => exact ⟨rfl, rfl, rfl⟩

/-- A step of a call to subscribe or to unsubscribe leaves the routes of all others alone. -/
theorem Advanced.mem_routes_iff {session next : Session} {call : Call} {stage later : Stage}
    (moved : Advanced session call stage next later) {id other : String}
    (own : call.id? = some id) (different : other ≠ id) :
    other ∈ next.routes ↔ other ∈ session.routes := by
  cases moved with
  | insert new destination =>
      cases own
      unfold insertRoute
      rw [List.mem_append, List.mem_singleton]
      exact or_iff_left different
  | remove gone present =>
      cases own
      exact mem_removeRoute_of_ne different
  | finish call result =>
      cases call with
      | subscribe gone destination =>
          cases own
          exact mem_removeRoute_of_ne different
      | unsubscribe gone => exact Iff.rfl
      | disconnect receipt => cases own
  | _ => exact Iff.rfl

/-! ## What an event does -/

namespace Scene

/-- Neither the reader nor a call has moved.  The writer may have, bytes may have arrived, items may
have been received, and a receiver or the user may have gone. -/
structure Aside (scene next : Scene) : Prop where
  calls_eq : next.calls = scene.calls
  routes_eq : next.session.routes = scene.session.routes
  enqueued_eq : next.session.enqueued = scene.session.enqueued
  reader_eq : next.session.reader = scene.session.reader
  cancelled_of : scene.session.cancelled = true → next.session.cancelled = true
  channelIds_eq : next.session.channelIds = scene.session.channelIds
  channels : ∀ id, ∃ change, Quiet change ∧
    next.session.channel? id = (scene.session.channel? id).map change

theorem Aside.of_channels_eq {scene next : Scene} (calls_eq : next.calls = scene.calls)
    (routes_eq : next.session.routes = scene.session.routes)
    (enqueued_eq : next.session.enqueued = scene.session.enqueued)
    (reader_eq : next.session.reader = scene.session.reader)
    (cancelled_of : scene.session.cancelled = true → next.session.cancelled = true)
    (channels_eq : next.session.channels = scene.session.channels) : Aside scene next := by
  refine ⟨calls_eq, routes_eq, enqueued_eq, reader_eq, cancelled_of, ?_, ?_⟩
  · unfold channelIds
    rw [channels_eq]
  · intro id
    refine ⟨_, quiet_id, ?_⟩
    unfold channel?
    rw [channels_eq, Option.map_id, id_eq]

theorem Aside.of_alterChannel (scene : Scene) (id : String) {change : Channel → Channel}
    (quiet : Quiet change) :
    Aside scene { scene with session := scene.session.alterChannel id change } := by
  refine ⟨rfl, rfl, rfl, rfl, fun cancelled => cancelled,
    channelIds_alterChannel scene.session id change, ?_⟩
  intro other
  refine ⟨_, ?_, channel?_alterChannel scene.session id other change⟩
  by_cases same : other = id
  · simp only [if_pos same]
    exact quiet
  · simp only [if_neg same]
    exact quiet_id

/-- An item that is received stays among the items of its channel. -/
theorem aside_of_receive? {scene : Scene} {id : String} {item : Delivery} {session : Session}
    (received : scene.session.receive? id = some (item, session)) :
    Aside scene { scene with session } := by
  unfold receive? at received
  split at received
  · rename_i taken channel looked
    cases received
    rcases Option.bind_eq_some_iff.mp looked with ⟨earlier, found, takenOff⟩
    have channel_eq : channel = { earlier with received := earlier.received + 1 } := by
      unfold Channel.receive? at takenOff
      split at takenOff <;> cases takenOff
      rfl
    refine ⟨rfl, rfl, rfl, rfl, fun cancelled => cancelled, channelIds_alterChannel _ _ _, ?_⟩
    intro other
    by_cases same : other = id
    · refine ⟨fun channel => { channel with received := channel.received + 1 }, ?_, ?_⟩
      · exact ⟨fun _ => rfl, fun _ heard => heard⟩
      · rw [channel?_alterChannel, same, found, channel_eq]
        simp only [Option.map_some, if_true]
    · refine ⟨_, quiet_id, ?_⟩
      rw [channel?_alterChannel]
      simp only [if_neg same]
      rfl
  · cases received

def IsAside : Event → Prop
  | .reader _ | .begin _ | .advance _ => False
  | _ => True

inductive Happened (scene : Scene) : Event → Scene → Prop
  | aside (event : Event) (next : Scene) (isAside : IsAside event) (kept : Aside scene next) :
      Happened scene event next
  | reader (move : ReaderMove) (session : Session)
      (moved : ReaderMoved scene.session move session) :
      Happened scene (.reader move) { scene with session }
  | begin (call : Call) :
      Happened scene (.begin call) { scene with calls := scene.calls ++ [(call, call.start)] }
  | advance (before after : List (Call × Stage)) (call : Call) (stage later : Stage)
      (session : Session) (calls_eq : scene.calls = before ++ (call, stage) :: after)
      (moved : Advanced scene.session call stage session later) :
      Happened scene (.advance before.length) ⟨session, before ++ (call, later) :: after⟩

theorem happened_of_after? {scene next : Scene} {event : Event}
    (happens : scene.after? event = some next) : Happened scene event next := by
  cases event with
  | writer move =>
      rcases Option.map_eq_some_iff.mp happens with ⟨session, moved, rfl⟩
      have keeps := keeps_of_moveWriter? moved
      exact .aside _ _ trivial (.of_channels_eq rfl keeps.routes_eq keeps.enqueued_eq
        keeps.reader_eq keeps.cancelled_of keeps.channels_eq)
  | reader move =>
      rcases Option.map_eq_some_iff.mp happens with ⟨session, moved, rfl⟩
      exact .reader move session (moved_of_moveReader? moved)
  | begin call =>
      simp only [after?] at happens
      split at happens
      · cases happens
      · cases happens
        exact .begin call
  | advance number =>
      simp only [after?] at happens
      split at happens
      · rename_i call stage found
        rcases Option.map_eq_some_iff.mp happens with ⟨⟨session, later⟩, moved, rfl⟩
        rcases List.getElem?_eq_some_iff.mp found with ⟨inside, here⟩
        have calls_eq : scene.calls =
            scene.calls.take number ++ (call, stage) :: scene.calls.drop (number + 1) := by
          rw [← here, List.getElem_cons_drop, List.take_append_drop]
        have position : (scene.calls.take number).length = number :=
          List.length_take_of_le (Nat.le_of_lt inside)
        have step : Happened scene _ _ := .advance _ _ call stage later session calls_eq
          (advanced_of_advance? moved)
        rw [position] at step
        rw [List.set_eq_take_append_cons_drop, if_pos inside]
        exact step
      · cases happens
  | arrive bytes =>
      simp only [after?] at happens
      split at happens
      · cases happens
      · cases happens
        exact .aside _ _ trivial (.of_channels_eq rfl rfl rfl rfl id rfl)
  | endInput =>
      cases happens
      exact .aside _ _ trivial (.of_channels_eq rfl rfl rfl rfl id rfl)
  | receive id =>
      rcases Option.map_eq_some_iff.mp happens with ⟨⟨item, session⟩, received, rfl⟩
      exact .aside _ _ trivial (aside_of_receive? received)
  | dropReceiver id =>
      cases happens
      exact .aside _ _ trivial (.of_alterChannel scene id quiet_drop)
  | drop =>
      cases happens
      exact .aside _ _ trivial (.of_channels_eq rfl rfl rfl rfl (fun _ => rfl) rfl)

/-- Only its own moves change what the writer does. -/
theorem rests_of_after? {scene next : Scene} {event : Event}
    (happens : scene.after? event = some next) (notWriter : ∀ move, event ≠ .writer move) :
    Rests scene.session next.session := by
  cases event with
  | writer move => exact (notWriter move rfl).elim
  | reader move =>
      rcases Option.map_eq_some_iff.mp happens with ⟨session, moved, rfl⟩
      exact (moved_of_moveReader? moved).rests
  | advance number =>
      simp only [after?] at happens
      split at happens
      · rcases Option.map_eq_some_iff.mp happens with ⟨⟨session, later⟩, moved, rfl⟩
        exact (advanced_of_advance? moved).rests
      · cases happens
  | begin call | arrive bytes =>
      simp only [after?] at happens
      split at happens
      · cases happens
      · cases happens
        exact ⟨rfl, rfl, rfl⟩
  | receive id =>
      rcases Option.map_eq_some_iff.mp happens with ⟨⟨item, session⟩, received, rfl⟩
      unfold receive? at received
      split at received
      · cases received
        exact ⟨rfl, rfl, rfl⟩
      · cases received
  | endInput | dropReceiver id | drop =>
      cases happens
      exact ⟨rfl, rfl, rfl⟩

/-- What was announced stays announced. -/
theorem Happened.cancelled {scene next : Scene} {event : Event}
    (happened : Happened scene event next) (cancelled : scene.session.cancelled = true) :
    next.session.cancelled = true := by
  cases happened with
  | aside event next isAside kept => exact kept.cancelled_of cancelled
  | reader move session moved => exact moved.cancelled_of cancelled
  | begin call => exact cancelled
  | advance before after call stage later session calls_eq moved =>
      exact moved.cancelled_eq.trans cancelled

/-- The reader does not begin again. -/
theorem Happened.ended {scene next : Scene} {event : Event} (happened : Happened scene event next)
    (ended : scene.session.reader = .ended) : next.session.reader = .ended := by
  cases happened with
  | aside event next isAside kept => exact kept.reader_eq.trans ended
  | reader move session moved =>
      cases moved with
      | read frame rest moving found => cases moving.symm.trans ended
      | fail move fault rest moving noFrame => cases moving.symm.trans ended
      | deliver id frame moving => cases moving.symm.trans ended
      | prune id moving => cases moving.symm.trans ended
      | stop moving cancelled => cases moving.symm.trans ended
      | cancel failure moving => cases moving.symm.trans ended
      | drain failure moving => cases moving.symm.trans ended
  | begin call => exact ended
  | advance before after call stage later session calls_eq moved =>
      exact moved.reader_eq.trans ended

end Scene
end Session
end Stomp
end ExchangeGrid
