import ExchangeGrid.Proofs.Stomp.Answer

namespace ExchangeGrid
namespace Stomp

/-!
# How far the limit reaches

The limit of a decoder is meant for whole frames, with their heads.  It is held against every
length that a head declares, before the body is there, and against every buffer in which the end of
a frame is still missing.  It is not held against a frame that declares no length and whose NUL is
already in the buffer: such a frame is taken at any length.

`decode_eq_frame_iff` says which frames a limit lets pass among those that a decoder with room for
the whole buffer would take, and `limit_kept_iff` says for which buffers the limit is kept.
-/

/-- How many bytes were taken for a frame, without the line ends before it. -/
def wireLength (buffer rest : List UInt8) : Nat :=
  (dropLineEnds buffer).length - rest.length

/-- The bytes taken for a frame are its head, the blank line, the body and the NUL. -/
theorem wireLength_eq {limit : Nat} {buffer rest : List UInt8} {cut : Split} {frame : Frame}
    (cutEq : split? (dropLineEnds buffer) = some cut) (taken : Taken limit cut frame rest) :
    wireLength buffer rest = cut.head.length + cut.blank.length + frame.body.length + 1 := by
  unfold wireLength
  rw [← append_of_split? cutEq, taken.rest_eq]
  simp only [List.length_append, List.length_cons]
  omega

theorem declaredLength_eq_none_iff {frame : Frame} :
    declaredLength frame = .ok none ↔ frame.header? lengthHeader = none := by
  unfold declaredLength
  constructor
  · intro undeclared
    split at undeclared
    · assumption
    · split at undeclared <;> cases undeclared
  · intro untold
    rw [untold]

/-- A limit lets pass a frame that declares no length, or that stays within it. -/
theorem decode_eq_frame_iff {limit : Nat} {buffer rest : List UInt8} {frame : Frame} :
    decode limit buffer = .frame frame rest ↔
      decode buffer.length buffer = .frame frame rest ∧
        (frame.header? lengthHeader = none ∨ wireLength buffer rest ≤ limit) := by
  unfold decode
  rw [decodeFrame_eq_frame_iff, decodeFrame_eq_frame_iff]
  constructor
  · rintro ⟨cut, cutEq, taken⟩
    have wire := wireLength_eq cutEq taken
    rcases taken.ends with ⟨undeclared, noNul⟩ | ⟨declared, within⟩
    · exact ⟨⟨cut, cutEq, taken.head_read, taken.rest_eq, Or.inl ⟨undeclared, noNul⟩⟩,
        Or.inl (declaredLength_eq_none_iff.mp undeclared)⟩
    · have room : wireLength buffer rest ≤ buffer.length :=
        Nat.le_trans (Nat.sub_le _ _) (length_dropLineEnds_le buffer)
      rw [wire] at room ⊢
      exact ⟨⟨cut, cutEq, taken.head_read, taken.rest_eq, Or.inr ⟨declared, room⟩⟩, Or.inr within⟩
  · rintro ⟨⟨cut, cutEq, taken⟩, passes⟩
    rw [wireLength_eq cutEq taken] at passes
    refine ⟨cut, cutEq, taken.head_read, taken.rest_eq, ?_⟩
    rcases taken.ends with undeclared | ⟨declared, -⟩
    · exact Or.inl undeclared
    · rcases passes with untold | within
      · rw [declaredLength_eq_none_iff.mpr untold] at declared
        cases declared
      · exact Or.inr ⟨declared, within⟩

/-- The limit is kept on a buffer exactly when the frame at its front, if that declares no length,
happens to stay within it. -/
theorem limit_kept_iff (limit : Nat) (buffer : List UInt8) :
    (∀ frame rest, decode limit buffer = .frame frame rest → wireLength buffer rest ≤ limit) ↔
      ∀ frame rest, decode buffer.length buffer = .frame frame rest →
        frame.header? lengthHeader = none → wireLength buffer rest ≤ limit := by
  constructor
  · intro kept frame rest whole untold
    exact kept frame rest (decode_eq_frame_iff.mpr ⟨whole, Or.inl untold⟩)
  · intro kept frame rest found
    obtain ⟨whole, untold | within⟩ := decode_eq_frame_iff.mp found
    · exact kept frame rest whole untold
    · exact within

/-- A frame of forty-two bytes passes a limit of sixteen when it arrives at once. -/
theorem limit_passed_without_length :
    decode 16 (Utf8.bytes "MESSAGE\ndestination:/topic/far-too-long\n\n\x00") =
        .frame { command := .message, headers := [⟨"destination", "/topic/far-too-long"⟩] } [] ∧
      16 < wireLength (Utf8.bytes "MESSAGE\ndestination:/topic/far-too-long\n\n\x00") [] :=
  ⟨rfl, by decide⟩

end Stomp
end ExchangeGrid
