import ExchangeGrid.Proofs.Stomp.Arrival
import ExchangeGrid.Proofs.Stomp.Writing

namespace ExchangeGrid
namespace Stomp

/-!
# Frames that are written and read back

Frames written one behind the other are read back one by one, in whatever chunks their bytes
arrive.  The reader finds in each of them what the sender put in, and the length header that was
added for a body nobody had measured.

Only the single frame has to stay within the limit.  The bytes of many frames may wait in one
buffer, and a part of a frame is never longer than the frame: this is why no buffer is given up on
the way, although the general statement about chunks asks more of the limit.
-/

/-- A written frame is read as the frame that its head says, with the body as it was written. -/
theorem decode_encode_append_of_readHead {limit : Nat} {frame arrived : Frame}
    (keeps : frame.measured.KeepsLines)
    (read : readHead (Utf8.bytes (String.ofList frame.measured.headText)) =
      .ok { arrived with body := [] })
    (sameBody : arrived.body = frame.body) (sized : arrived.Sized)
    (within : (encode frame).length ≤ limit) (rest : List UInt8) :
    decode limit (encode frame ++ rest) = .frame arrived rest := by
  rw [decode_of_startsFrame ((startsFrame_encode frame).append rest)]
  apply decodeFrame_eq_frame_iff.mpr
  refine ⟨_, split?_encode_append keeps rest, read, ?_, ?_⟩
  · rw [sameBody]
  rcases sized with ⟨undeclared, empty⟩ | declared
  · refine Or.inl ⟨undeclared, ?_⟩
    rw [empty]
    exact List.not_mem_nil
  · refine Or.inr ⟨declared, ?_⟩
    rw [length_encode] at within
    rw [sameBody]
    exact within

/-- A written frame is read back with whatever stands behind it. -/
theorem decode_encode_append {limit : Nat} {frame : Frame} (plain : frame.Plain)
    (sized : frame.measured.Sized) (within : (encode frame).length ≤ limit) (rest : List UInt8) :
    decode limit (encode frame ++ rest) = .frame frame.measured rest :=
  decode_encode_append_of_readHead plain.measured.keepsLines (readHead_headText plain.measured)
    (measured_body frame) sized within rest

variable {limit : Nat} {frames : List Frame}

theorem drain_encode_append {frame : Frame} (machine : limit < Decimal.wordBound)
    (sendable : frame.Sendable) (within : (encode frame).length ≤ limit) (rest : List UInt8) :
    drain limit (encode frame ++ rest) = (drain limit rest).after [frame.measured] := by
  have small : frame.body.length < Decimal.wordBound := by
    rw [length_encode] at within
    omega
  exact drain_of_frame (decode_encode_append sendable.toPlain (sendable.sized small) within rest)

/-- Frames that arrive all at once are read back one by one, and nothing is left. -/
theorem drain_flatMap_encode (machine : limit < Decimal.wordBound)
    (sendable : ∀ frame ∈ frames, frame.Sendable ∧ (encode frame).length ≤ limit) :
    drain limit (frames.flatMap encode) = ⟨frames.map Frame.measured, none, []⟩ := by
  induction frames with
  | nil => exact drain_nil limit
  | cons frame frames inductionHypothesis =>
      have first := sendable frame List.mem_cons_self
      have later := inductionHypothesis fun other member =>
        sendable other (List.mem_cons_of_mem frame member)
      rw [List.flatMap_cons, drain_encode_append machine first.1 first.2, later]
      rfl

/-- However much of some frames has arrived, what is left of it after reading is no longer than one
of them. -/
theorem length_rest_drain_front_le (machine : limit < Decimal.wordBound)
    (sendable : ∀ frame ∈ frames, frame.Sendable ∧ (encode frame).length ≤ limit)
    {front : List UInt8} (isFront : front <+: frames.flatMap encode) :
    (drain limit front).rest.length ≤ limit := by
  induction frames generalizing front with
  | nil =>
      rw [List.flatMap_nil, List.prefix_nil] at isFront
      rw [isFront, drain_nil]
      exact Nat.zero_le limit
  | cons frame frames inductionHypothesis =>
      have first := sendable frame List.mem_cons_self
      rw [List.flatMap_cons] at isFront
      rcases List.prefix_or_prefix_of_prefix isFront (List.prefix_append _ _) with part | whole
      · exact Nat.le_trans (length_rest_drain_le limit front)
          (Nat.le_trans part.length_le first.2)
      · obtain ⟨behind, rfl⟩ := whole
        rw [List.prefix_append_right_inj] at isFront
        rw [drain_encode_append machine first.1 first.2, Drained.after_rest]
        exact inductionHypothesis (fun other member =>
          sendable other (List.mem_cons_of_mem frame member)) isFront

/-- Frames that are sent one behind the other, and arrive in any chunks, are read back in order and
without a fault, each with the length header that its body got, and no byte is left.  The limit is
a machine word, and only each single frame has to stay within it. -/
theorem feed_flatMap_encode (machine : limit < Decimal.wordBound)
    (sendable : ∀ frame ∈ frames, frame.Sendable ∧ (encode frame).length ≤ limit)
    {chunks : List (List UInt8)} (arrived : chunks.flatten = frames.flatMap encode) :
    feed limit [] chunks = ⟨frames.map Frame.measured, none, []⟩ := by
  have atOnce := drain_flatMap_encode machine sendable
  have agrees := feed_agrees chunks fun front isFront =>
    length_rest_drain_front_le machine sendable (arrived ▸ isFront)
  rw [arrived, atOnce] at agrees
  exact agrees.eq_of_none rfl

/-- A frame with every escape in its header and a body that looks like the end of a frame, and an
opening frame behind it, whose header is written as it is. -/
def mixedFrames : List Frame :=
  [{ command := .send, headers := [⟨"a:b", "\\\r\n"⟩], body := [0, 10, 10, 0] },
    { command := .connect, headers := [⟨"host", "h:1"⟩] }]

/-- Their bytes in chunks that end inside an escape, inside the blank line and before the last
NUL. -/
def mixedChunks : List (List UInt8) :=
  [Utf8.bytes "SEND\na\\cb:\\\\\\r\\", Utf8.bytes "n\ncontent-length:4\n",
    Utf8.bytes "\n\x00\n\n\x00\x00CONNECT\nhost:h:1\n\n", [0]]

theorem feed_mixedChunks :
    48 < Decimal.wordBound ∧
      (∀ frame ∈ mixedFrames, frame.Sendable ∧ (encode frame).length ≤ 48) ∧
      mixedChunks.flatten = mixedFrames.flatMap encode ∧
      feed 48 [] mixedChunks = ⟨mixedFrames.map Frame.measured, none, []⟩ :=
  ⟨by decide, by decide, by decide, feed_flatMap_encode (by decide) (by decide) (by decide)⟩

end Stomp
end ExchangeGrid
