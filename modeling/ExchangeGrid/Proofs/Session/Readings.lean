import ExchangeGrid.Proofs.Session.Run
import ExchangeGrid.Proofs.Stomp.Arrival

namespace ExchangeGrid
namespace Stomp
/-!
# What a reader reads

A reader takes one frame after the other off the wire, and looks up the route of each at that
moment.  Both are written down here as a reading.  The frames of the readings are those that the
bytes begin with, in their order: none is left out and none is read twice, however the bytes
arrived and whatever else went on.  A frame that reports an error is the last one read.
-/

/-- Whether a reader has yet to see a fault, the end of its input or the end of the session. -/
def Reader.GoesOn : Reader → Prop
  | .reading | .delivering _ _ | .pruning _ => True
  | .stopping _ | .draining _ | .ended => False

namespace Session

/-- A frame that the reader has read, and the routes that there were at that moment. -/
structure Reading where
  frame : Frame
  routes : List String

instance (frame : Frame) (id : String) : Decidable (IsFor frame id) :=
  inferInstanceAs (Decidable (_ ∧ _))

/-- The messages to a subscription that have found a route. -/
def heard (id : String) (readings : List Reading) : List Frame :=
  (readings.filter fun reading => IsFor reading.frame id ∧ id ∈ reading.routes).map (·.frame)

@[simp] theorem heard_nil (id : String) : heard id [] = [] := rfl

theorem heard_append (id : String) (first second : List Reading) :
    heard id (first ++ second) = heard id first ++ heard id second := by
  unfold heard
  rw [List.filter_append, List.map_append]

theorem heard_singleton (id : String) (reading : Reading) :
    heard id [reading] =
      if IsFor reading.frame id ∧ id ∈ reading.routes then [reading.frame] else [] := by
  unfold heard
  by_cases hears : IsFor reading.frame id ∧ id ∈ reading.routes
  · rw [if_pos hears]
    simp only [List.filter_cons, hears, and_self, decide_true, if_true, List.filter_nil,
      List.map_cons, List.map_nil]
  · rw [if_neg hears]
    simp only [List.filter_cons, hears, decide_false, Bool.false_eq_true, if_false,
      List.filter_nil, List.map_nil]

theorem isFor_of_mem_heard {id : String} {readings : List Reading} {frame : Frame}
    (member : frame ∈ heard id readings) : IsFor frame id := by
  rcases List.mem_map.mp member with ⟨reading, kept, rfl⟩
  exact (of_decide_eq_true (List.mem_filter.mp kept).2).1

/-- A reader that goes on after a frame was no error goes on before the next one. -/
theorem not_error_of_goesOn_route {session : Session} {frame : Frame}
    (goesOn : (session.route frame).GoesOn) : frame.command ≠ .error := by
  rcases session.route_cases frame with ⟨-, route_eq⟩ | ⟨id, isFor, -, -⟩ | ⟨notError, -, -⟩
  · rw [route_eq] at goesOn
    exact goesOn.elim
  · rw [isFor.1]
    exact nofun
  · exact notError

def Event.bytes : Event → List UInt8
  | .arrive bytes => bytes
  | _ => []

theorem Advanced.buffer_eq {session next : Session} {call : Call} {stage later : Stage}
    (moved : Advanced session call stage next later) :
    next.buffer = session.buffer ∧ next.limit = session.limit := by
  cases moved with
  | finish call result => cases call <;> exact ⟨rfl, rfl⟩
  | _ => exact ⟨rfl, rfl⟩

namespace Scene

def reading? (scene : Scene) : Event → Option Reading
  | .reader .read =>
    match scene.session.reader, decode scene.session.limit scene.session.buffer with
    | .reading, .frame frame _ => some ⟨frame, scene.session.routes⟩
    | _, _ => none
  | _ => none

def readings (scene : Scene) (events : List Event) : List Reading :=
  scene.noted reading? events

theorem reading?_eq_none_of_isAside (scene : Scene) {event : Event} (isAside : IsAside event) :
    scene.reading? event = none := by
  cases event with
  | reader move => exact isAside.elim
  | _ => rfl

theorem reading?_eq_none {scene : Scene} {move : ReaderMove}
    (notRead : scene.session.reader ≠ .reading ∨ ∀ frame rest,
      decode scene.session.limit scene.session.buffer ≠ .frame frame rest) :
    scene.reading? (.reader move) = none := by
  cases move with
  | read =>
      simp only [reading?]
      split
      · rename_i frame rest reading found
        rcases notRead with elsewhere | noFrame
        · exact (elsewhere reading).elim
        · exact (noFrame frame rest found).elim
      · rfl
  | _ => rfl

theorem reading?_eq_some {scene : Scene} {frame : Frame} {rest : List UInt8}
    (reading : scene.session.reader = .reading)
    (found : decode scene.session.limit scene.session.buffer = .frame frame rest) :
    scene.reading? (.reader .read) = some ⟨frame, scene.session.routes⟩ := by
  simp only [reading?, reading, found]

/-- Nothing is read in the course of an event that is none of the reader's. -/
theorem buffer_of_isAside {scene next : Scene} {event : Event} (isAside : IsAside event)
    (happens : scene.after? event = some next) :
    next.session.buffer = scene.session.buffer ++ event.bytes ∧
      next.session.limit = scene.session.limit := by
  cases event with
  | writer move =>
      rcases Option.map_eq_some_iff.mp happens with ⟨session, moved, rfl⟩
      have keeps := keeps_of_moveWriter? moved
      exact ⟨keeps.buffer_eq.trans (List.append_nil _).symm, keeps.limit_eq⟩
  | arrive bytes =>
      simp only [after?] at happens
      split at happens
      · cases happens
      · cases happens
        exact ⟨rfl, rfl⟩
  | receive id =>
      rcases Option.map_eq_some_iff.mp happens with ⟨⟨item, session⟩, received, rfl⟩
      unfold receive? at received
      split at received
      · cases received
        exact ⟨(List.append_nil _).symm, rfl⟩
      · cases received
  | endInput | dropReceiver id | drop =>
      cases happens
      exact ⟨(List.append_nil _).symm, rfl⟩
  | reader move | begin call | advance number => exact isAside.elim

/-- What the readings have to do with the bytes that were on the wire so far. -/
structure ReadOff (bytes : List UInt8) (readings : List Reading) (session : Session) : Prop where
  limit_eq : session.limit = defaultLimit
  front : ∀ more, readings.map (·.frame) <+: (drain defaultLimit (bytes ++ more)).frames
  wire_eq : session.reader.GoesOn → ∀ more, drain defaultLimit (bytes ++ more) =
    (drain defaultLimit (session.buffer ++ more)).after (readings.map (·.frame))
  error_last : ∀ reading ∈ readings.dropLast, reading.frame.command ≠ .error
  noError : session.reader.GoesOn → ∀ reading ∈ readings, reading.frame.command ≠ .error

/-- While nothing is read, only bytes can be added. -/
theorem ReadOff.keep {bytes added : List UInt8} {readings : List Reading} {session next : Session}
    (readOff : ReadOff bytes readings session) (limit_eq : next.limit = session.limit)
    (buffer_eq : next.reader.GoesOn → next.buffer = session.buffer ++ added)
    (wentOn : next.reader.GoesOn → session.reader.GoesOn) :
    ReadOff (bytes ++ added) readings next where
  limit_eq := limit_eq.trans readOff.limit_eq
  front := by
    intro more
    rw [List.append_assoc]
    exact readOff.front (added ++ more)
  wire_eq := by
    intro goesOn more
    rw [buffer_eq goesOn, List.append_assoc, List.append_assoc]
    exact readOff.wire_eq (wentOn goesOn) (added ++ more)
  error_last := readOff.error_last
  noError := fun goesOn => readOff.noError (wentOn goesOn)

theorem ReadOff.read {bytes rest : List UInt8} {readings : List Reading} {session : Session}
    {frame : Frame} (readOff : ReadOff bytes readings session)
    (reading : session.reader = .reading)
    (found : decode session.limit session.buffer = .frame frame rest) :
    ReadOff bytes (readings ++ [⟨frame, session.routes⟩])
      { session with buffer := rest, reader := session.route frame } := by
  have goesOn : session.reader.GoesOn := by
    rw [reading]
    trivial
  have wire_eq (more : List UInt8) : drain defaultLimit (bytes ++ more) =
      (drain defaultLimit (rest ++ more)).after (readings.map (·.frame) ++ [frame]) := by
    rw [readOff.limit_eq] at found
    rw [readOff.wire_eq goesOn, drain_of_frame (decode_append_of_frame found more),
      Drained.after_after]
  refine ⟨readOff.limit_eq, ?_, ?_, ?_, ?_⟩
  · intro more
    rw [wire_eq, Drained.after_frames, List.map_append]
    exact List.prefix_append _ _
  · intro _ more
    rw [List.map_append]
    exact wire_eq more
  · rw [List.dropLast_concat]
    exact readOff.noError goesOn
  · intro still other member
    rcases List.mem_append.mp member with earlier | now
    · exact readOff.noError goesOn other earlier
    · rw [List.mem_singleton.mp now]
      exact not_error_of_goesOn_route still

/-- Where a move of the reader reads no frame, the reader goes on only if it did so before. -/
theorem ReadOff.step {bytes : List UInt8} {readings : List Reading} {scene next : Scene}
    {event : Event} (readOff : ReadOff bytes readings scene.session)
    (happens : scene.after? event = some next) :
    ReadOff (bytes ++ event.bytes) (readings ++ (scene.reading? event).toList) next.session := by
  cases happened_of_after? happens with
  | aside event next isAside kept =>
      rcases buffer_of_isAside isAside happens with ⟨buffer_eq, limit_eq⟩
      rw [reading?_eq_none_of_isAside scene isAside, Option.toList_none, List.append_nil]
      refine readOff.keep limit_eq (fun _ => buffer_eq) ?_
      rw [kept.reader_eq]
      exact id
  | begin call =>
      rw [show (scene.reading? (.begin call)).toList = [] from rfl, List.append_nil]
      exact readOff.keep rfl (fun _ => (List.append_nil _).symm) id
  | advance before after call stage later session calls_eq moved =>
      rw [show (scene.reading? (.advance before.length)).toList = [] from rfl, List.append_nil]
      refine readOff.keep moved.buffer_eq.2 ?_ ?_
      · intro _
        rw [show (Event.advance before.length).bytes = [] from rfl, List.append_nil]
        exact moved.buffer_eq.1
      · rw [moved.reader_eq]
        exact id
  | reader move session moved =>
      -- A move that reads nothing leaves the bytes alone, unless the reader stops there.
      have unread (none : scene.reading? (.reader move) = none)
          (limit_eq : session.limit = scene.session.limit)
          (buffer_eq : session.reader.GoesOn → session.buffer = scene.session.buffer)
          (wentOn : session.reader.GoesOn → scene.session.reader.GoesOn) :
          ReadOff (bytes ++ []) (readings ++ (scene.reading? (.reader move)).toList) session := by
        rw [none, Option.toList_none, List.append_nil readings]
        refine readOff.keep limit_eq ?_ wentOn
        intro goesOn
        rw [List.append_nil]
        exact buffer_eq goesOn
      cases moved with
      | read frame rest reading found =>
          rw [reading?_eq_some reading found, show (Event.reader .read).bytes = [] from rfl,
            List.append_nil]
          exact readOff.read reading found
      | fail move fault rest reading noFrame =>
          exact unread (reading?_eq_none (Or.inr noFrame)) rfl False.elim False.elim
      | deliver id frame delivering =>
          refine unread rfl rfl (fun _ => rfl) ?_
          rw [delivering]
          exact fun _ => trivial
      | prune id pruning =>
          refine unread rfl rfl (fun _ => rfl) ?_
          rw [pruning]
          exact fun _ => trivial
      | stop reading cancelled => exact unread rfl rfl False.elim False.elim
      | cancel failure stopping => exact unread rfl rfl False.elim False.elim
      | drain failure draining =>
          refine unread rfl ?_ False.elim False.elim
          cases failure <;> rfl

/-- The frames that were read are those that the bytes on the wire begin with. -/
theorem readOff_of_run {rest : List UInt8} {events : List Event} {last : Scene}
    (run : (opened rest).run? events = some last) :
    ReadOff (rest ++ events.flatMap Event.bytes) ((opened rest).readings events) last.session := by
  refine run_induction (motive := fun events scene => ReadOff (rest ++ events.flatMap Event.bytes)
    ((opened rest).readings events) scene.session) ?_ ?_ run
  · rw [List.flatMap_nil, List.append_nil]
    exact ⟨rfl, fun _ => List.nil_prefix, fun _ _ => rfl, nofun, fun _ => nofun⟩
  · intro events event scene next earlier happens inductionHypothesis
    rw [readings, noted_concat reading? earlier happens, List.flatMap_append,
      List.flatMap_singleton, ← List.append_assoc]
    exact inductionHypothesis.step happens

end Scene
end Session
end Stomp
end ExchangeGrid
