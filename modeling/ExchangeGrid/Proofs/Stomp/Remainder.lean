import ExchangeGrid.Proofs.Stomp.Arrival

namespace ExchangeGrid
namespace Stomp

/-!
# What a look leaves in the buffer

A look at a buffer takes bytes off its front in two ways only.  Line ends go, as many as there are,
and a frame that is taken goes with its NUL.  A decoder that waits or meets a fault keeps every
other byte, so neither a part of a frame nor a bad frame is ever lost or read twice.

Nothing is kept waiting beyond the limit, but for half a line end, which no limit gives up.  And a
frame that breaks the rules blocks the buffer for good: whatever arrives behind it, every later look
meets the same violation, so no part of it is taken for something else.  Nothing like this is said
of a buffer that was given up for its length alone.
-/

/-! ## The line ends at the front -/

inductive AreLineEnds : List UInt8 → Prop
  | none : AreLineEnds []
  | feed {later : List UInt8} (others : AreLineEnds later) : AreLineEnds (10 :: later)
  | pair {later : List UInt8} (others : AreLineEnds later) : AreLineEnds (13 :: 10 :: later)

/-- A buffer in two parts, of which the first is the longest run of line ends at its front. -/
structure IsTrimmed (buffer run rest : List UInt8) : Prop where
  buffer_eq : buffer = run ++ rest
  are_lineEnds : AreLineEnds run
  is_longest : ∀ other, AreLineEnds other → other <+: buffer → other <+: run

theorem exists_isTrimmed (buffer : List UInt8) :
    ∃ run, IsTrimmed buffer run (dropLineEnds buffer) := by
  fun_induction dropLineEnds buffer with
  | case1 later inductionHypothesis =>
      rcases inductionHypothesis with ⟨run, shape, are, longest⟩
      refine ⟨10 :: run, congrArg (10 :: ·) shape, .feed are, ?_⟩
      intro other areOther isFront
      cases areOther with
      | none => exact List.nil_prefix
      | feed others =>
          have front := (List.cons_prefix_cons.mp isFront).2
          exact List.cons_prefix_cons.mpr ⟨rfl, longest _ others front⟩
      | pair others => cases (List.cons_prefix_cons.mp isFront).1
  | case2 later inductionHypothesis =>
      rcases inductionHypothesis with ⟨run, shape, are, longest⟩
      refine ⟨13 :: 10 :: run, congrArg (13 :: 10 :: ·) shape, .pair are, ?_⟩
      intro other areOther isFront
      cases areOther with
      | none => exact List.nil_prefix
      | feed others => cases (List.cons_prefix_cons.mp isFront).1
      | pair others =>
          have front := (List.cons_prefix_cons.mp (List.cons_prefix_cons.mp isFront).2).2
          have longer := longest _ others front
          exact List.cons_prefix_cons.mpr ⟨rfl, List.cons_prefix_cons.mpr ⟨rfl, longer⟩⟩
  | case3 buffer noFeed noPair =>
      refine ⟨[], rfl, .none, ?_⟩
      intro other areOther isFront
      cases areOther with
      | none => exact List.nil_prefix
      | feed others =>
          rcases isFront with ⟨tail, rfl⟩
          exact (noFeed _ rfl).elim
      | pair others =>
          rcases isFront with ⟨tail, rfl⟩
          exact (noPair _ rfl).elim

/-! ## One look -/

variable {limit : Nat} {buffer rest : List UInt8}

/-- What is kept waiting stays within the limit, or is half a line end. -/
theorem Awaits.length_le (awaits : Awaits limit buffer) :
    buffer.length ≤ limit ∨ buffer = [13] := by
  cases awaits with
  | start few =>
      rcases few with rfl | rfl
      · exact Or.inl (Nat.zero_le limit)
      · exact Or.inr rfl
  | blank missing within => exact Or.inl within
  | terminator cut head cutEq read undeclared missing within => exact Or.inl within
  | body cut head length cutEq read declared missing within =>
      apply Or.inl
      have whole := congrArg List.length (append_of_split? cutEq)
      simp only [List.length_append] at whole
      omega

/-- A frame goes with all that stands before it, up to and with its NUL. -/
theorem exists_front_of_decode {frame : Frame} (found : decode limit buffer = .frame frame rest) :
    ∃ front, buffer = front ++ 0 :: rest := by
  rcases exists_isTrimmed buffer with ⟨run, trimmed⟩
  rcases decodeFrame_eq_frame_iff.mp found with ⟨cut, cutEq, taken⟩
  refine ⟨run ++ cut.head ++ cut.blank ++ frame.body, ?_⟩
  calc buffer
      _ = run ++ dropLineEnds buffer := trimmed.buffer_eq
      _ = run ++ (cut.head ++ cut.blank ++ cut.rest) := by rw [append_of_split? cutEq]
      _ = run ++ cut.head ++ cut.blank ++ frame.body ++ 0 :: rest := by
        simp only [taken.rest_eq, List.append_assoc]

/-- A violation does not go away when more bytes arrive. -/
theorem decode_append_of_violation {violation : Violation}
    (found : decode limit buffer = .fault (.protocol violation) rest) (more : List UInt8) :
    decode limit (rest ++ more) = .fault (.protocol violation) (rest ++ more) := by
  rcases decode_waiting_or_startsFrame limit buffer with waiting | starts
  · rw [waiting] at found
    cases found
  rcases decodeFrame_eq_fault found with ⟨rfl, ⟨cut, cutEq, refused⟩ | ⟨impossible, -⟩⟩
  · rw [decode_of_startsFrame (starts.append more)]
    exact decodeFrame_of_refused (split?_append cutEq more) (refused.append more)
  · cases impossible

/-! ## Whatever is found -/

/-- A look at a buffer does no damage there. -/
structure Preserves (limit : Nat) (buffer : List UInt8) : Prop where
  /-- Who waits drops the line ends at the front and nothing else, and what is left stays within the
  limit, unless it is half a line end. -/
  waiting : ∀ rest, decode limit buffer = .waiting rest →
    (∃ run, IsTrimmed buffer run rest) ∧ (rest.length ≤ limit ∨ rest = [13])
  /-- Who meets a fault drops the line ends at the front and nothing else. -/
  fault : ∀ fault rest, decode limit buffer = .fault fault rest → ∃ run, IsTrimmed buffer run rest
  /-- Who takes a frame leaves what stands behind a NUL. -/
  frame : ∀ frame rest, decode limit buffer = .frame frame rest →
    rest.length < buffer.length ∧ ∃ front, buffer = front ++ 0 :: rest
  /-- Who meets a violation meets it again, whatever has arrived by then. -/
  violation : ∀ violation rest, decode limit buffer = .fault (.protocol violation) rest →
    ∀ more, decode limit (rest ++ more) = .fault (.protocol violation) (rest ++ more)

/-- No look does any damage. -/
theorem decode_preserves (limit : Nat) (buffer : List UInt8) : Preserves limit buffer where
  waiting rest found := by
    rcases decodeFrame_eq_waiting found with ⟨rfl, awaits⟩
    exact ⟨exists_isTrimmed buffer, awaits.length_le⟩
  fault fault rest found := by
    rcases decodeFrame_eq_fault found with ⟨rfl, -⟩
    exact exists_isTrimmed buffer
  frame frame rest found := ⟨length_lt_of_decode found, exists_front_of_decode found⟩
  violation violation rest found := decode_append_of_violation found

end Stomp
end ExchangeGrid
