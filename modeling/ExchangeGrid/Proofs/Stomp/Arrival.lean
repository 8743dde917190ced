import ExchangeGrid.Proofs.Stomp.Answer

namespace ExchangeGrid
namespace Stomp

/-!
# Bytes that arrive in pieces

A reader appends what arrives to its buffer and decodes until it has to wait or meets a fault.
What it finds is a property of the bytes and not of the pieces: a frame that was found stays the
same frame when more bytes follow, and a frame that was refused stays refused.

The exception is a buffer that holds no whole frame and has outgrown the limit.  It is given up,
although the bytes to come might have completed the frame.  The statements below therefore ask
that what is left in the buffer stays within the limit.  The main statement,
`feed_agrees_of_flatten_eq`, has this from a limit that all bytes together stay within.
-/

/-! ## One look at a buffer -/

/-- Line ends may be dropped before or after more bytes arrive. -/
theorem dropLineEnds_append (buffer more : List UInt8) :
    dropLineEnds (dropLineEnds buffer ++ more) = dropLineEnds (buffer ++ more) := by
  fun_induction dropLineEnds buffer with
  | case1 rest inductionHypothesis => exact inductionHypothesis
  | case2 rest inductionHypothesis => exact inductionHypothesis
  | case3 buffer => rfl

theorem decode_dropLineEnds_append (limit : Nat) (buffer more : List UInt8) :
    decode limit (dropLineEnds buffer ++ more) = decode limit (buffer ++ more) := by
  unfold decode
  rw [dropLineEnds_append]

/-- The first blank line stays the first when more bytes follow. -/
theorem splitFrom_append {before buffer : List UInt8} {cut : Split}
    (found : splitFrom before buffer = some cut) (more : List UInt8) :
    splitFrom before (buffer ++ more) = some { cut with rest := cut.rest ++ more } := by
  fun_induction splitFrom before buffer with
  | case1 => cases found
  | case2 before rest =>
      cases found
      rfl
  | case3 before rest =>
      cases found
      rfl
  | case4 before byte rest noFeed noPair inductionHypothesis =>
      have starts (isFeed : byte = 10) : StartsFrame rest := by
        refine ⟨?_, ?_, fun _ => noFeed _ isFeed, fun _ => noPair _ isFeed⟩
        · rintro rfl
          cases found
        · rintro rfl
          cases found
      rw [List.cons_append, splitFrom_cons fun isFeed => (starts isFeed).append more]
      exact inductionHypothesis found

theorem split?_append {buffer : List UInt8} {cut : Split} (found : split? buffer = some cut)
    (more : List UInt8) :
    split? (buffer ++ more) = some { cut with rest := cut.rest ++ more } :=
  splitFrom_append found more

/-- A frame stays the same frame when more bytes follow, and they stay behind it. -/
theorem decodeFrame_append_of_frame {limit : Nat} {buffer rest : List UInt8} {frame : Frame}
    (found : decodeFrame limit buffer = .frame frame rest) (more : List UInt8) :
    decodeFrame limit (buffer ++ more) = .frame frame (rest ++ more) := by
  obtain ⟨cut, cutEq, taken⟩ := decodeFrame_eq_frame_iff.mp found
  apply decodeFrame_eq_frame_iff.mpr
  refine ⟨_, split?_append cutEq more, taken.head_read, ?_, taken.ends⟩
  simp only [taken.rest_eq, List.append_assoc, List.cons_append]

/-- A refused frame stays refused for the same reason when more bytes follow. -/
theorem Refused.append {limit : Nat} {cut : Split} {fault : Fault}
    (refused : Refused limit cut fault) (more : List UInt8) :
    Refused limit { cut with rest := cut.rest ++ more } fault := by
  cases refused with
  | head violation unread => exact .head violation unread
  | length head violation read unread => exact .length head violation read unread
  | tooLarge head length read declared tooLong => exact .tooLarge head length read declared tooLong
  | unterminated head length byte tail read declared within behind notNul =>
      refine .unterminated head length byte (tail ++ more) read declared within ?_ notNul
      have inside : length ≤ cut.rest.length := by
        have shape := congrArg List.length behind
        simp only [List.length_drop, List.length_cons] at shape
        omega
      rw [List.drop_append_of_le_length inside, behind, List.cons_append]

theorem decodeFrame_append_of_fault {limit : Nat} {buffer rest : List UInt8} {fault : Fault}
    (found : decodeFrame limit buffer = .fault fault rest) (within : rest.length ≤ limit)
    (more : List UInt8) :
    decodeFrame limit (buffer ++ more) = .fault fault (rest ++ more) := by
  obtain ⟨rfl, ⟨cut, cutEq, refused⟩ | ⟨-, tooLong⟩⟩ := decodeFrame_eq_fault found
  · exact decodeFrame_of_refused (split?_append cutEq more) (refused.append more)
  · exact absurd tooLong (Nat.not_lt.mpr within)

theorem decode_append_of_frame {limit : Nat} {buffer rest : List UInt8} {frame : Frame}
    (found : decode limit buffer = .frame frame rest) (more : List UInt8) :
    decode limit (buffer ++ more) = .frame frame (rest ++ more) := by
  rcases decode_waiting_or_startsFrame limit buffer with waiting | starts
  · rw [waiting] at found
    cases found
  · rw [← decode_dropLineEnds_append, decode_of_startsFrame (starts.append more)]
    exact decodeFrame_append_of_frame found more

theorem decode_append_of_fault {limit : Nat} {buffer rest : List UInt8} {fault : Fault}
    (found : decode limit buffer = .fault fault rest) (within : rest.length ≤ limit)
    (more : List UInt8) :
    decode limit (buffer ++ more) = .fault fault (rest ++ more) := by
  rcases decode_waiting_or_startsFrame limit buffer with waiting | starts
  · rw [waiting] at found
    cases found
  · rw [← decode_dropLineEnds_append, decode_of_startsFrame (starts.append more)]
    exact decodeFrame_append_of_fault found within more

/-- Who waits may forget the line ends at the front. -/
theorem decode_append_of_waiting {limit : Nat} {buffer rest : List UInt8}
    (found : decode limit buffer = .waiting rest) (more : List UInt8) :
    decode limit (rest ++ more) = decode limit (buffer ++ more) := by
  rw [(decodeFrame_eq_waiting found).1]
  exact decode_dropLineEnds_append limit buffer more

/-! ## Until more bytes are needed -/

namespace Drained

/-- A reading that follows some frames already found. -/
def after (earlier : List Frame) (later : Drained) : Drained :=
  { later with frames := earlier ++ later.frames }

@[simp] theorem after_frames (earlier : List Frame) (later : Drained) :
    (later.after earlier).frames = earlier ++ later.frames := rfl

@[simp] theorem after_fault (earlier : List Frame) (later : Drained) :
    (later.after earlier).fault = later.fault := rfl

@[simp] theorem after_rest (earlier : List Frame) (later : Drained) :
    (later.after earlier).rest = later.rest := rfl

theorem after_after (first second : List Frame) (later : Drained) :
    (later.after second).after first = later.after (first ++ second) := by
  unfold after
  rw [List.append_assoc]

/-- Two readings find the same frames and end for the same reason.  Bytes left over are compared
only where nothing was wrong: behind a fault nobody reads on. -/
structure Agrees (first second : Drained) : Prop where
  frames_eq : first.frames = second.frames
  fault_eq : first.fault = second.fault
  rest_eq : first.fault = none → first.rest = second.rest

/-- A reading without a fault agrees only with itself. -/
theorem Agrees.eq_of_none {first second : Drained} (agrees : first.Agrees second)
    (clean : second.fault = none) : first = second := by
  obtain ⟨frames, fault, rest⟩ := first
  obtain ⟨frames_eq, fault_eq, rest_eq⟩ := agrees
  have same := rest_eq (fault_eq.trans clean)
  dsimp only at frames_eq fault_eq same
  rw [frames_eq, fault_eq, same]

end Drained

theorem drain_of_frame {limit : Nat} {buffer rest : List UInt8} {frame : Frame}
    (found : decode limit buffer = .frame frame rest) :
    drain limit buffer = (drain limit rest).after [frame] := by
  rw [drain_eq, found]
  rfl

theorem drain_of_waiting {limit : Nat} {buffer rest : List UInt8}
    (found : decode limit buffer = .waiting rest) : drain limit buffer = ⟨[], none, rest⟩ := by
  rw [drain_eq, found]

theorem drain_of_fault {limit : Nat} {buffer rest : List UInt8} {fault : Fault}
    (found : decode limit buffer = .fault fault rest) :
    drain limit buffer = ⟨[], some fault, rest⟩ := by
  rw [drain_eq, found]

theorem drain_nil (limit : Nat) : drain limit [] = ⟨[], none, []⟩ :=
  drain_of_waiting rfl

/-- What a drain leaves is no longer than what was there. -/
theorem length_rest_drain_le (limit : Nat) (buffer : List UInt8) :
    (drain limit buffer).rest.length ≤ buffer.length := by
  induction buffer using drain.induct limit with
  | case1 buffer frame rest found inductionHypothesis =>
      rw [drain_of_frame found, Drained.after_rest]
      exact Nat.le_trans inductionHypothesis (Nat.le_of_lt (length_lt_of_decode found))
  | case2 buffer rest found =>
      rw [drain_of_waiting found, (decodeFrame_eq_waiting found).1]
      exact length_dropLineEnds_le buffer
  | case3 buffer fault rest found =>
      rw [drain_of_fault found, (decodeFrame_eq_fault found).1]
      exact length_dropLineEnds_le buffer

/-- After a drain without a fault, later bytes are read as if they had been there before. -/
theorem drain_append_of_none {limit : Nat} {buffer : List UInt8}
    (clean : (drain limit buffer).fault = none) (more : List UInt8) :
    drain limit (buffer ++ more) =
      (drain limit ((drain limit buffer).rest ++ more)).after (drain limit buffer).frames := by
  induction buffer using drain.induct limit with
  | case1 buffer frame rest found inductionHypothesis =>
      rw [drain_of_frame found] at clean ⊢
      rw [drain_of_frame (decode_append_of_frame found more), inductionHypothesis clean,
        Drained.after_after]
      rfl
  | case2 buffer rest found =>
      have same : drain limit (buffer ++ more) = drain limit (rest ++ more) := by
        rw [drain_eq, ← decode_append_of_waiting found, ← drain_eq]
      rw [drain_of_waiting found, same]
      rfl
  | case3 buffer fault rest found =>
      rw [drain_of_fault found] at clean
      cases clean

/-- A fault that ends a drain also ends it when more bytes are there, unless the buffer was given
up for its length. -/
theorem drain_append_of_some {limit : Nat} {buffer : List UInt8} {fault : Fault}
    (ended : (drain limit buffer).fault = some fault)
    (within : (drain limit buffer).rest.length ≤ limit) (more : List UInt8) :
    drain limit (buffer ++ more) =
      { drain limit buffer with rest := (drain limit buffer).rest ++ more } := by
  induction buffer using drain.induct limit with
  | case1 buffer frame rest found inductionHypothesis =>
      rw [drain_of_frame found] at ended within ⊢
      rw [drain_of_frame (decode_append_of_frame found more), inductionHypothesis ended within]
      rfl
  | case2 buffer rest found =>
      rw [drain_of_waiting found] at ended
      cases ended
  | case3 buffer other rest found =>
      rw [drain_of_fault found] at within ⊢
      rw [drain_of_fault (decode_append_of_fault found within more)]

/-! ## Chunk by chunk -/

/-- Decode each chunk as it arrives behind what is left of the chunks before, until all of them are
used up or a fault is met. -/
def feed (limit : Nat) (buffer : List UInt8) : List (List UInt8) → Drained
  | [] => ⟨[], none, buffer⟩
  | chunk :: chunks =>
    let now := drain limit (buffer ++ chunk)
    match now.fault with
    | some _ => now
    | none => (feed limit now.rest chunks).after now.frames

theorem feed_cons_of_none {limit : Nat} {buffer chunk : List UInt8}
    (clean : (drain limit (buffer ++ chunk)).fault = none) (chunks : List (List UInt8)) :
    feed limit buffer (chunk :: chunks) =
      (feed limit (drain limit (buffer ++ chunk)).rest chunks).after
        (drain limit (buffer ++ chunk)).frames := by
  rw [feed, clean]

theorem feed_cons_of_some {limit : Nat} {buffer chunk : List UInt8} {fault : Fault}
    (ended : (drain limit (buffer ++ chunk)).fault = some fault) (chunks : List (List UInt8)) :
    feed limit buffer (chunk :: chunks) = drain limit (buffer ++ chunk) := by
  rw [feed, ended]

/-- Chunks that arrive after some bytes were read without a fault are read as if all had been there
at once, as long as no buffer is given up for its length on the way. -/
theorem feed_agrees_after {limit : Nat} {past : List UInt8}
    (clean : (drain limit past).fault = none) (chunks : List (List UInt8))
    (within : ∀ front, front <+: past ++ chunks.flatten → (drain limit front).rest.length ≤ limit) :
    ((feed limit (drain limit past).rest chunks).after (drain limit past).frames).Agrees
      (drain limit (past ++ chunks.flatten)) := by
  induction chunks generalizing past with
  | nil =>
      rw [List.flatten_nil, List.append_nil]
      exact ⟨List.append_nil _, clean.symm, fun _ => rfl⟩
  | cons chunk chunks inductionHypothesis =>
      have joined := drain_append_of_none clean chunk
      rw [List.flatten_cons, ← List.append_assoc] at within ⊢
      cases ended : (drain limit ((drain limit past).rest ++ chunk)).fault with
      | none =>
          have cleanNow : (drain limit (past ++ chunk)).fault = none := by
            rw [joined, Drained.after_fault, ended]
          have later := inductionHypothesis cleanNow within
          rw [joined, Drained.after_frames, Drained.after_rest] at later
          rw [feed_cons_of_none ended, Drained.after_after]
          exact later
      | some fault =>
          have endedNow : (drain limit (past ++ chunk)).fault = some fault := by
            rw [joined, Drained.after_fault, ended]
          have short := within (past ++ chunk) (List.prefix_append _ _)
          rw [drain_append_of_some endedNow short, feed_cons_of_some ended, joined]
          refine ⟨rfl, rfl, ?_⟩
          intro noFault
          rw [Drained.after_fault, ended] at noFault
          cases noFault

/-- Chunks are read as if all had been there at once. -/
theorem feed_agrees {limit : Nat} (chunks : List (List UInt8))
    (within : ∀ front, front <+: chunks.flatten → (drain limit front).rest.length ≤ limit) :
    (feed limit [] chunks).Agrees (drain limit chunks.flatten) := by
  have clean : (drain limit []).fault = none := by rw [drain_nil]
  have agrees := feed_agrees_after clean chunks within
  rw [drain_nil] at agrees
  exact agrees

/-- However the same bytes are cut into chunks, the same frames are found, the same fault is met
first, and without a fault the same bytes are left.  The limit is only asked not to be smaller than
all the bytes; what the bytes say need not make sense. -/
theorem feed_agrees_of_flatten_eq {limit : Nat} {first second : List (List UInt8)}
    (same : first.flatten = second.flatten) (within : first.flatten.length ≤ limit) :
    (feed limit [] first).Agrees (feed limit [] second) := by
  have short (front : List UInt8) (isFront : front <+: first.flatten) :
      (drain limit front).rest.length ≤ limit :=
    Nat.le_trans (length_rest_drain_le limit front) (Nat.le_trans isFront.length_le within)
  have left := feed_agrees first short
  have right := feed_agrees second (same ▸ short)
  rw [← same] at right
  refine ⟨left.frames_eq.trans right.frames_eq.symm, left.fault_eq.trans right.fault_eq.symm, ?_⟩
  intro clean
  have cleanToo : (feed limit [] second).fault = none :=
    right.fault_eq.trans (left.fault_eq.symm.trans clean)
  exact (left.rest_eq clean).trans (right.rest_eq cleanToo).symm

/-- A frame with long line ends, and behind it one that is malformed. -/
def halfBroken : List UInt8 :=
  Utf8.bytes "\nSEND\r\n\r\na\x00NOTONE\n\n"

/-- The same bytes in chunks that end inside both line ends of the blank line and inside the name
of the unknown command. -/
def halfBrokenChunks : List (List UInt8) :=
  [Utf8.bytes "\nSEND\r", Utf8.bytes "\n\r", Utf8.bytes "\na\x00NOT", Utf8.bytes "ONE\n\n"]

theorem feed_halfBrokenChunks :
    halfBrokenChunks.flatten = [halfBroken].flatten ∧ halfBrokenChunks.flatten.length ≤ 32 ∧
      (feed 32 [] halfBrokenChunks).Agrees (feed 32 [] [halfBroken]) :=
  ⟨by decide, by decide, feed_agrees_of_flatten_eq (by decide) (by decide)⟩

end Stomp
end ExchangeGrid
