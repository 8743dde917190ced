import ExchangeGrid.Proofs.Session.Outbound
import ExchangeGrid.Proofs.Session.Readings
import ExchangeGrid.Proofs.Stomp.Remainder

namespace ExchangeGrid
namespace Stomp

/-!
# How a session opens

A client introduces itself, and then looks at all that has arrived each time that something does,
and once more when its time is up.  The first look that finds a frame or a fault decides.  It is
shown here that one look at everything that is there in time would have decided the same: neither
the pieces nor their times matter, but for what comes too late.

That is not so for a decoder that gives up because a frame has outgrown its limit before it was
whole: then the pieces count.  The statements about the outcome therefore ask that the bytes which
decide stay within the limit.  What is said of the bytes behind the first frame asks for nothing.
-/

/-- What a look has found, without the bytes behind it. -/
def Decoded.found? : Decoded → Option (Except Fault Frame)
  | .frame found _ => some (.ok found)
  | .fault found _ => some (.error found)
  | .waiting _ => none

theorem Decoded.found?_eq_none_iff {decoded : Decoded} :
    decoded.found? = none ↔ ∃ rest, decoded = .waiting rest := by
  cases decoded <;> simp [found?]

/-- The bytes, or some at their front that are enough to find something, are no more than the limit
allows.  The line ends in front of them do not count. -/
def StaysWithin (limit : Nat) (stream : List UInt8) : Prop :=
  ∃ front, front <+: stream ∧ (dropLineEnds front).length ≤ limit ∧
    (front = stream ∨ (decode limit front).found? ≠ none)

theorem length_dropLineEnds_append {buffer : List UInt8}
    (starts : StartsFrame (dropLineEnds buffer)) (more : List UInt8) :
    (dropLineEnds (buffer ++ more)).length = (dropLineEnds buffer).length + more.length := by
  rw [← dropLineEnds_append, (starts.append more).dropLineEnds_eq, List.length_append]

/-- What was found stays found when more bytes follow, unless a frame was given up for its length
alone. -/
theorem found?_append {limit : Nat} {seen : List UInt8} {found : Except Fault Frame}
    (sees : (decode limit seen).found? = some found)
    (within : (dropLineEnds seen).length ≤ limit ∨ ∃ frame, found = .ok frame)
    (more : List UInt8) : (decode limit (seen ++ more)).found? = some found := by
  cases look : decode limit seen with
  | waiting rest =>
      rw [look] at sees
      cases sees
  | frame frame rest =>
      rw [look] at sees
      rw [decode_append_of_frame look]
      exact sees
  | fault fault rest =>
      rw [look] at sees
      cases sees
      have short : rest.length ≤ limit := by
        rw [(decodeFrame_eq_fault look).1]
        exact within.resolve_right nofun
      rw [decode_append_of_fault look short]
      rfl

/-- Of bytes that stay within the limit, what a look at their front finds is what a look at all of
them finds. -/
theorem StaysWithin.found?_eq {limit : Nat} {stream seen : List UInt8}
    {found : Except Fault Frame} (within : StaysWithin limit stream) (isFront : seen <+: stream)
    (sees : (decode limit seen).found? = some found) :
    (decode limit stream).found? = some found := by
  rcases within with ⟨front, isEnough, short, whole⟩
  rcases List.prefix_or_prefix_of_prefix isFront isEnough with ⟨more, rfl⟩ | ⟨more, rfl⟩
  · -- All that was seen stands in the short front.
    have starts : StartsFrame (dropLineEnds seen) := by
      rcases decode_waiting_or_startsFrame limit seen with waiting | starts
      · rw [waiting] at sees
        cases sees
      · exact starts
    rcases isFront with ⟨later, rfl⟩
    rw [length_dropLineEnds_append starts] at short
    exact found?_append sees (Or.inl (Nat.le_of_add_right_le short)) later
  · -- The short front was seen, and it is all there is or has told already.
    rcases whole with rfl | tells
    · rcases isFront with ⟨later, same⟩
      have nothing : more ++ later = [] := by simpa [List.append_assoc] using same
      rw [(List.append_eq_nil_iff.mp nothing).1, List.append_nil] at sees
      exact sees
    · rcases Option.ne_none_iff_exists'.mp tells with ⟨told, tellsSo⟩
      have same := found?_append tellsSo (Or.inl short) more
      rw [sees] at same
      cases same
      rcases isEnough with ⟨later, rfl⟩
      exact found?_append tellsSo (Or.inl short) later

/-- Bytes are line ends exactly when none is left once the line ends are dropped. -/
theorem dropLineEnds_eq_nil_iff {stream : List UInt8} :
    dropLineEnds stream = [] ↔ AreLineEnds stream := by
  rcases exists_isTrimmed stream with ⟨run, trimmed⟩
  constructor
  · intro nothing
    have same := trimmed.buffer_eq
    rw [nothing, List.append_nil] at same
    rw [same]
    exact trimmed.are_lineEnds
  · intro areLineEnds
    have long := (trimmed.is_longest stream areLineEnds (List.prefix_refl stream)).length_le
    have whole := congrArg List.length trimmed.buffer_eq
    rw [List.length_append] at whole
    exact List.eq_nil_of_length_eq_zero (by omega)

namespace Handshake

/-! ## What arrives -/

/-- The looks that are made in time.  The one at the limit of time itself is the last, and nothing
comes after the end of the input. -/
def inTime (timeout : Nat) : List Look → List Look
  | [] => []
  | look :: looks =>
    if timeout < look.time then []
    else if look.time = timeout ∨ look.isEnd then [look]
    else look :: inTime timeout looks

def bytesOf (looks : List Look) : List UInt8 :=
  looks.flatMap (·.bytes)

def endsInput (looks : List Look) : Bool :=
  looks.any (·.isEnd)

@[simp] theorem bytesOf_nil : bytesOf [] = [] := rfl

@[simp] theorem bytesOf_cons (look : Look) (looks : List Look) :
    bytesOf (look :: looks) = look.bytes ++ bytesOf looks :=
  List.flatMap_cons

section
variable {limit timeout : Nat} {arrived : List UInt8} {look : Look} {looks : List Look}

theorem await_of_late (late : timeout < look.time) :
    await limit timeout arrived (look :: looks) = giveUp timeout arrived := by
  rw [await, if_pos late]

theorem await_of_decided {decision : Decision} (early : look.time ≤ timeout)
    (decided : decide? limit (arrived ++ look.bytes) look.isEnd = some decision) :
    await limit timeout arrived (look :: looks) = ⟨decision, look.time⟩ ∧
      remaining limit timeout arrived (look :: looks) = looks := by
  rw [await, remaining, if_neg (Nat.not_lt.mpr early), if_neg (Nat.not_lt.mpr early)]
  dsimp only
  rw [decided]
  exact ⟨rfl, rfl⟩

theorem await_of_last (last : look.time = timeout)
    (undecided : decide? limit (arrived ++ look.bytes) look.isEnd = none) :
    await limit timeout arrived (look :: looks) = giveUp timeout (arrived ++ look.bytes) := by
  rw [await, if_neg (Nat.not_lt.mpr (Nat.le_of_eq last))]
  dsimp only
  rw [undecided]
  dsimp only
  rw [if_pos (Nat.le_of_eq last.symm)]

theorem await_of_undecided (early : look.time < timeout)
    (undecided : decide? limit (arrived ++ look.bytes) look.isEnd = none) :
    await limit timeout arrived (look :: looks) =
        await limit timeout (arrived ++ look.bytes) looks ∧
      remaining limit timeout arrived (look :: looks) =
        remaining limit timeout (arrived ++ look.bytes) looks := by
  have notLate : ¬ timeout < look.time := Nat.not_lt_of_gt early
  rw [await, remaining, if_neg notLate, if_neg notLate]
  dsimp only
  rw [undecided]
  dsimp only
  rw [if_neg (Nat.not_le.mpr early), if_neg (Nat.not_le.mpr early)]
  exact ⟨rfl, rfl⟩

theorem inTime_of_late (late : timeout < look.time) : inTime timeout (look :: looks) = [] := by
  rw [inTime, if_pos late]

theorem inTime_of_last (early : look.time ≤ timeout)
    (last : look.time = timeout ∨ look.isEnd = true) : inTime timeout (look :: looks) = [look] := by
  rw [inTime, if_neg (Nat.not_lt.mpr early), if_pos last]

theorem inTime_of_more (early : look.time < timeout) (goesOn : look.isEnd = false) :
    inTime timeout (look :: looks) = look :: inTime timeout looks := by
  rw [inTime, if_neg (Nat.not_lt_of_gt early), if_neg]
  rintro (last | isEnd)
  · exact Nat.ne_of_lt early last
  · rw [goesOn] at isEnd
    cases isEnd

/-- What is seen first in time is there first. -/
theorem bytesOf_front_inTime (early : look.time ≤ timeout) :
    look.bytes <+: bytesOf (inTime timeout (look :: looks)) := by
  rw [inTime, if_neg (Nat.not_lt.mpr early)]
  split
  · rw [bytesOf_cons]
    exact List.prefix_append _ _
  · rw [bytesOf_cons]
    exact List.prefix_append _ _

@[simp] theorem endsInput_cons (look : Look) (looks : List Look) :
    endsInput (look :: looks) = (look.isEnd || endsInput looks) :=
  List.any_cons

end

/-! ## What decides -/

/-- What is decided by the first thing that the bytes hold, and by the end of the input if they hold
no more than a part of a frame. -/
inductive Decides (stream : List UInt8) (ended : Bool) : Except Fault Agreement → Prop
  | connected (frame : Frame) (rest : List UInt8)
      (first : decode defaultLimit stream = .frame frame rest)
      (command : frame.command = .connected) :
      Decides stream ended (.ok ⟨(frame.header? "version").getD "1.0", frame.header? "session"⟩)
  | refused (frame : Frame) (rest : List UInt8)
      (first : decode defaultLimit stream = .frame frame rest)
      (command : frame.command = .error) (bare : frame.body = []) :
      Decides stream ended (.error (.refused ((frame.header? "message").getD "error frame")))
  | refusedAtLength (frame : Frame) (rest : List UInt8)
      (first : decode defaultLimit stream = .frame frame rest)
      (command : frame.command = .error) (tells : frame.body ≠ []) :
      Decides stream ended (.error (.refused ((frame.header? "message").getD "error frame" ++
        ": " ++ Blank.trimEnd (Utf8.repair frame.body))))
  | unexpected (frame : Frame) (rest : List UInt8)
      (first : decode defaultLimit stream = .frame frame rest)
      (notConnected : frame.command ≠ .connected) (notError : frame.command ≠ .error) :
      Decides stream ended (.error (.protocol (.unexpectedReply frame.command)))
  | fault (fault : Fault) (rest : List UInt8)
      (first : decode defaultLimit stream = .fault fault rest) :
      Decides stream ended (.error fault)
  | closed (rest : List UInt8) (noFrame : decode defaultLimit stream = .waiting rest)
      (isEnd : ended = true) (blank : AreLineEnds stream) : Decides stream ended (.error .closed)
  | leftover (rest : List UInt8) (noFrame : decode defaultLimit stream = .waiting rest)
      (isEnd : ended = true) (notBlank : ¬ AreLineEnds stream) :
      Decides stream ended (.error (.transport .leftover))
  | late (rest : List UInt8) (noFrame : decode defaultLimit stream = .waiting rest)
      (goesOn : ended = false) : Decides stream ended (.error .handshakeTimeout)

/-- Bytes and the end of the input leave one decision only. -/
theorem Decides.unique {stream : List UInt8} {ended : Bool} {first second : Except Fault Agreement}
    (one : Decides stream ended first) (other : Decides stream ended second) : first = second := by
  cases one <;> cases other <;> simp_all

theorem decides_judge {stream rest : List UInt8} {ended : Bool} {frame : Frame}
    (first : decode defaultLimit stream = .frame frame rest) :
    Decides stream ended (judge frame) := by
  unfold judge
  split
  · rename_i command
    exact .connected frame rest first command
  · rename_i command
    unfold Frame.complaint
    dsimp only
    split
    · rename_i bare
      exact .refused frame rest first command (List.isEmpty_iff.mp bare)
    · rename_i tells
      exact .refusedAtLength frame rest first command (mt List.isEmpty_iff.mpr tells)
  · rename_i notConnected notError
    exact .unexpected frame rest first notConnected notError

theorem decides_endFault {stream rest : List UInt8}
    (noFrame : decode defaultLimit stream = .waiting rest) :
    Decides stream true (.error (endFault rest)) := by
  have rest_eq := (decodeFrame_eq_waiting noFrame).1
  unfold endFault
  split
  · rename_i blank
    rw [rest_eq] at blank
    exact .closed rest noFrame rfl (dropLineEnds_eq_nil_iff.mp (List.isEmpty_iff.mp blank))
  · rename_i notBlank
    refine .leftover rest noFrame rfl fun blank => notBlank ?_
    rw [rest_eq, dropLineEnds_eq_nil_iff.mpr blank]
    rfl

theorem decides_of_found {stream : List UInt8} {ended : Bool} {found : Except Fault Frame}
    (sees : (decode defaultLimit stream).found? = some found) :
    Decides stream ended (found >>= judge) := by
  cases look : decode defaultLimit stream with
  | waiting rest =>
      rw [look] at sees
      cases sees
  | frame frame rest =>
      rw [look] at sees
      cases sees
      exact decides_judge look
  | fault fault rest =>
      rw [look] at sees
      cases sees
      exact .fault fault rest look

theorem decides_late {stream : List UInt8} (noFrame : (decode defaultLimit stream).found? = none) :
    Decides stream false (.error .handshakeTimeout) := by
  rcases Decoded.found?_eq_none_iff.mp noFrame with ⟨rest, waiting⟩
  exact .late rest waiting rfl

/-- A decision falls because something was found, or because the input has ended. -/
theorem decide?_cases {limit : Nat} {seen : List UInt8} {ended : Bool} {decision : Decision}
    (decided : decide? limit seen ended = some decision) :
    (∃ found, (decode limit seen).found? = some found ∧ decision.outcome = found >>= judge) ∨
      (ended = true ∧ decode limit seen = .waiting decision.rest ∧
        decision.outcome = .error (endFault decision.rest)) := by
  unfold decide? at decided
  split at decided
  · rename_i frame rest look
    cases decided
    exact Or.inl ⟨.ok frame, congrArg Decoded.found? look, rfl⟩
  · rename_i fault rest look
    cases decided
    exact Or.inl ⟨.error fault, congrArg Decoded.found? look, rfl⟩
  · rename_i rest look
    split at decided
    · rename_i isEnd
      cases decided
      exact Or.inr ⟨isEnd, look, rfl⟩
    · cases decided

theorem decide?_eq_none {limit : Nat} {seen : List UInt8} {ended : Bool}
    (undecided : decide? limit seen ended = none) :
    (decode limit seen).found? = none ∧ ended = false := by
  unfold decide? at undecided
  split at undecided
  · cases undecided
  · cases undecided
  · rename_i rest look
    split at undecided
    · cases undecided
    · rename_i goesOn
      exact ⟨congrArg Decoded.found? look, Bool.eq_false_iff.mpr goesOn⟩

/-- While nothing was found in what has arrived, what is seen in time decides. -/
theorem decides_await {timeout : Nat} {arrived : List UInt8} (looks : List Look)
    (noFrame : (decode defaultLimit arrived).found? = none)
    (within : StaysWithin defaultLimit (arrived ++ bytesOf (inTime timeout looks))) :
    Decides (arrived ++ bytesOf (inTime timeout looks)) (endsInput (inTime timeout looks))
      (await defaultLimit timeout arrived looks).decision.outcome := by
  induction looks generalizing arrived with
  | nil =>
      rw [inTime, bytesOf_nil, List.append_nil]
      exact decides_late noFrame
  | cons look looks inductionHypothesis =>
      rcases Nat.lt_or_ge timeout look.time with late | early
      · rw [await_of_late late, inTime_of_late late, bytesOf_nil, List.append_nil]
        exact decides_late noFrame
      cases decided : decide? defaultLimit (arrived ++ look.bytes) look.isEnd with
      | some decision =>
          rw [(await_of_decided early decided).1]
          rcases decide?_cases decided with ⟨found, sees, outcome_eq⟩ | ⟨isEnd, waits, outcome_eq⟩
          · -- Whatever else is seen in time, this is what is found there first.
            have isFront := (List.prefix_append_right_inj arrived).mpr
              (@bytesOf_front_inTime timeout look looks early)
            rw [outcome_eq]
            exact decides_of_found (within.found?_eq isFront sees)
          · rw [outcome_eq, inTime_of_last early (Or.inr isEnd), bytesOf_cons, bytesOf_nil,
              List.append_nil, endsInput_cons, isEnd, Bool.true_or]
            exact decides_endFault waits
      | none =>
          rcases decide?_eq_none decided with ⟨noFrameYet, goesOn⟩
          rcases Nat.lt_or_eq_of_le early with early | last
          · rw [inTime_of_more early goesOn, bytesOf_cons, ← List.append_assoc] at within ⊢
            rw [(await_of_undecided early decided).1, endsInput_cons, goesOn, Bool.false_or]
            exact inductionHypothesis noFrameYet within
          · -- The clock is looked at next, and it says that the time is up.
            rw [await_of_last last decided, inTime_of_last early (Or.inl last), bytesOf_cons,
              bytesOf_nil, List.append_nil, endsInput_cons, goesOn, Bool.false_or]
            exact decides_late noFrameYet

/-! ## What is handed over -/

/-- A session opens on the first frame.  What was heard behind it and what is left to be seen are
the bytes that follow it, in their order. -/
theorem exists_heard {limit timeout : Nat} {arrived : List UInt8} {looks : List Look}
    {agreed : Agreement}
    (opens : (await limit timeout arrived looks).decision.outcome = .ok agreed) :
    ∃ heard frame, judge frame = .ok agreed ∧
      decode limit heard = .frame frame (await limit timeout arrived looks).decision.rest ∧
      heard ++ bytesOf (remaining limit timeout arrived looks) = arrived ++ bytesOf looks := by
  induction looks generalizing arrived with
  | nil => cases opens
  | cons look looks inductionHypothesis =>
      rcases Nat.lt_or_ge timeout look.time with late | early
      · rw [await_of_late late] at opens
        cases opens
      rw [bytesOf_cons, ← List.append_assoc]
      cases decided : decide? limit (arrived ++ look.bytes) look.isEnd with
      | some decision =>
          rw [(await_of_decided early decided).1] at opens ⊢
          rw [(await_of_decided early decided).2]
          refine ⟨arrived ++ look.bytes, ?_⟩
          unfold decide? at decided
          split at decided
          · rename_i frame rest taken
            cases decided
            exact ⟨frame, opens, taken, rfl⟩
          · cases decided
            cases opens
          · split at decided
            · cases decided
              cases opens
            · cases decided
      | none =>
          rcases Nat.lt_or_eq_of_le early with early | last
          · rw [(await_of_undecided early decided).1] at opens ⊢
            rw [(await_of_undecided early decided).2]
            exact inductionHypothesis opens
          · rw [await_of_last last decided] at opens
            cases opens

end Handshake

namespace Session
namespace Scene

/-- Behind a frame that was taken before, a reader reads on as if it had taken that one too. -/
theorem ReadOff.behind {heard rest bytes : List UInt8} {first : Frame} {readings : List Reading}
    {session : Session} (taken : decode defaultLimit heard = .frame first rest)
    (notError : first.command ≠ .error) (readOff : ReadOff (rest ++ bytes) readings session) :
    ReadOff (heard ++ bytes) (⟨first, []⟩ :: readings) session := by
  have drained (more : List UInt8) : drain defaultLimit (heard ++ bytes ++ more) =
      (drain defaultLimit (rest ++ bytes ++ more)).after [first] := by
    rw [List.append_assoc, drain_of_frame (decode_append_of_frame taken _), List.append_assoc]
  refine ⟨readOff.limit_eq, ?_, ?_, ?_, ?_⟩
  · intro more
    rw [drained, List.map_cons, Drained.after_frames]
    exact List.cons_prefix_cons.mpr ⟨rfl, readOff.front more⟩
  · intro goesOn more
    rw [drained, readOff.wire_eq goesOn, Drained.after_after]
    rfl
  · intro reading member
    cases readings with
    | nil => cases member
    | cons next others =>
        rw [List.dropLast_cons_cons] at member
        rcases List.mem_cons.mp member with rfl | later
        · exact notError
        · exact readOff.error_last reading later
  · intro goesOn reading member
    rcases List.mem_cons.mp member with rfl | later
    · exact notError
    · exact readOff.noError goesOn reading later

end Scene
end Session

namespace Handshake

theorem time_await_le (limit timeout : Nat) (arrived : List UInt8) (looks : List Look) :
    (await limit timeout arrived looks).time ≤ timeout := by
  induction looks generalizing arrived with
  | nil => exact Nat.le_refl timeout
  | cons look looks inductionHypothesis =>
      rcases Nat.lt_or_ge timeout look.time with late | early
      · exact Nat.le_of_eq (congrArg Opened.time (await_of_late late))
      cases decided : decide? limit (arrived ++ look.bytes) look.isEnd with
      | some decision =>
          rw [(await_of_decided early decided).1]
          exact early
      | none =>
          rcases Nat.lt_or_eq_of_le early with early | last
          · rw [(await_of_undecided early decided).1]
            exact inductionHypothesis _
          · exact Nat.le_of_eq (congrArg Opened.time (await_of_last last decided))

theorem command_of_judge {frame : Frame} {agreed : Agreement} (agrees : judge frame = .ok agreed) :
    frame.command = .connected := by
  unfold judge at agrees
  split at agrees
  · assumption
  · cases agrees
  · cases agrees

/-- What a session reads that was opened with these bytes left of what arrived.  It goes on behind
the frame that opened it, and loses nothing of what follows: what arrived in one piece with that
frame, and what is yet to come. -/
structure Continues (timeout : Nat) (looks : List Look) (first : Frame)
    (rest : List UInt8) : Prop where
  /-- The frames that are read stand in this order behind the first, whatever else is to come. -/
  front : ∀ events last later, (Session.Scene.opened rest).run? events = some last →
    events.flatMap Session.Event.bytes ++ later =
      bytesOf (remaining defaultLimit timeout [] looks) →
    ∀ more, first :: ((Session.Scene.opened rest).readings events).map (·.frame) <+:
      (drain defaultLimit (bytesOf looks ++ more)).frames
  /-- A reader that goes on still has before it all that it has not read. -/
  whole : ∀ events last later, (Session.Scene.opened rest).run? events = some last →
    events.flatMap Session.Event.bytes ++ later =
      bytesOf (remaining defaultLimit timeout [] looks) →
    last.session.reader.GoesOn → drain defaultLimit (bytesOf looks) =
      (drain defaultLimit (last.session.buffer ++ later)).after
        (first :: ((Session.Scene.opened rest).readings events).map (·.frame))

/-- How an attempt to open a session goes. -/
structure Opens (introduction : Introduction) (timeout : Nat) (looks : List Look)
    (approach : Approach) : Prop where
  sent_eq : approach.sent = [introduction.frame]
  introduces : introduction.frame.command = .connect
  decides : Decides (bytesOf (inTime timeout looks)) (endsInput (inTime timeout looks))
    approach.opened.decision.outcome
  /-- The same bytes in other pieces and at other times decide the same. -/
  alike : ∀ others, bytesOf (inTime timeout others) = bytesOf (inTime timeout looks) →
    endsInput (inTime timeout others) = endsInput (inTime timeout looks) →
    (connect introduction timeout none others).opened.decision.outcome =
      approach.opened.decision.outcome
  time_le : approach.opened.time ≤ timeout
  continues : ∀ agreed, approach.opened.decision.outcome = .ok agreed → ∃ first,
    judge first = .ok agreed ∧
      Continues timeout looks first approach.opened.decision.rest

theorem exists_continues {timeout : Nat} {looks : List Look} {agreed : Agreement}
    (opens : (await defaultLimit timeout [] looks).decision.outcome = .ok agreed) :
    ∃ first, judge first = .ok agreed ∧
      Continues timeout looks first (await defaultLimit timeout [] looks).decision.rest := by
  rcases exists_heard opens with ⟨heard, first, agrees, taken, whole⟩
  have notError : first.command ≠ .error := by
    rw [command_of_judge agrees]
    exact nofun
  rw [List.nil_append] at whole
  refine ⟨first, agrees, ?_, ?_⟩
  · intro events last later run rest_eq more
    have readOff := (Session.Scene.readOff_of_run run).behind taken notError
    have front := readOff.front (later ++ more)
    rw [List.append_assoc, ← List.append_assoc _ later, rest_eq, ← List.append_assoc,
      whole] at front
    exact front
  · intro events last later run rest_eq goesOn
    have readOff := (Session.Scene.readOff_of_run run).behind taken notError
    have wire_eq := readOff.wire_eq goesOn later
    rw [List.append_assoc, rest_eq, whole] at wire_eq
    exact wire_eq

/-- Once the introduction is out, the first thing in the bytes decides, in whatever pieces and at
whatever times they arrive, and a session that opens reads on right behind that. -/
theorem opens_by_first (introduction : Introduction) (timeout : Nat) (looks : List Look)
    (within : StaysWithin defaultLimit (bytesOf (inTime timeout looks))) :
    Opens introduction timeout looks (connect introduction timeout none looks) where
  sent_eq := rfl
  introduces := introduction.command_frame
  decides := @decides_await timeout [] looks rfl within
  alike others bytes_eq end_eq := by
    have decides := @decides_await timeout [] others rfl (by rw [bytes_eq]; exact within)
    rw [bytes_eq, end_eq] at decides
    exact decides.unique (@decides_await timeout [] looks rfl within)
  time_le := time_await_le defaultLimit timeout [] looks
  continues agreed opens := exists_continues opens

/-- A broker agrees, with line ends cut in two and the front of a message in one piece with the end
of its frame.  That piece is there when the limit of time is reached, and the rest of the message
comes after the client has looked. -/
def agreeing : List Look :=
  [⟨0, [], false⟩, ⟨0, [13], false⟩, ⟨3, Utf8.bytes "\nCONNECTED\r", false⟩,
    ⟨10, Utf8.bytes "\nversion:1.2\nsession:s1\nversion:1.0\n\n\x00MESSAGE\nsubscr", false⟩,
    ⟨10, Utf8.bytes "iption:a\n\nhi\x00", false⟩, ⟨13, [], true⟩]

theorem opens_agreeing : StaysWithin defaultLimit (bytesOf (inTime 10 agreeing)) ∧
    (connect ⟨"broker", none, none⟩ 10 none agreeing).opened.decision =
      ⟨.ok ⟨"1.2", some "s1"⟩, Utf8.bytes "MESSAGE\nsubscr"⟩ ∧
    Opens ⟨"broker", none, none⟩ 10 agreeing (connect ⟨"broker", none, none⟩ 10 none agreeing) := by
  have within : StaysWithin defaultLimit (bytesOf (inTime 10 agreeing)) :=
    ⟨_, List.prefix_refl _, by decide, Or.inl rfl⟩
  exact ⟨within, rfl, opens_by_first _ _ _ within⟩

/-- A client that has no time looks once.  An answer that is there by then opens the session, and
one that comes later does not. -/
example :
    (await defaultLimit 0 [] [⟨0, Utf8.bytes "CONNECTED\n\n\x00", false⟩]).decision.outcome =
        .ok ⟨"1.0", none⟩ ∧
      (await defaultLimit 0 [] [⟨0, [], false⟩,
        ⟨0, Utf8.bytes "CONNECTED\n\n\x00", false⟩]).decision.outcome =
        .error .handshakeTimeout :=
  ⟨rfl, rfl⟩

end Handshake
end Stomp
end ExchangeGrid
