import ExchangeGrid.Stomp.Wire

namespace ExchangeGrid
namespace Stomp

/-!
# What a decoder answers

A look at a buffer ends in one of three ways, and this module says for each of them what the bytes
have to be.  Line ends come first: behind them there is nothing yet, or half a line end, or the
start of a frame.  A frame that is not taken is refused for what its head or its terminator says,
or it is not whole; and whatever is not taken stays in the buffer as it was.

Only one answer looks at how much has arrived so far: a buffer without a whole frame is given up
when it is longer than the limit.  It is kept apart from the refusals here.
-/

/-! ## Line ends between frames -/

/-- A buffer that starts with no line end, and not with half of one either. -/
structure StartsFrame (buffer : List UInt8) : Prop where
  ne_nil : buffer ≠ []
  ne_return : buffer ≠ [13]
  no_lineFeed : ∀ rest, buffer ≠ 10 :: rest
  no_pair : ∀ rest, buffer ≠ 13 :: 10 :: rest

theorem StartsFrame.of_ne {byte : UInt8} (noFeed : byte ≠ 10) (noReturn : byte ≠ 13)
    (rest : List UInt8) : StartsFrame (byte :: rest) := by
  refine ⟨List.cons_ne_nil _ _, ?_, ?_, ?_⟩
  · intro equal
    exact noReturn (List.cons.inj equal).1
  · intro other equal
    exact noFeed (List.cons.inj equal).1
  · intro other equal
    exact noReturn (List.cons.inj equal).1

/-- What a buffer starts with is not changed by what follows. -/
theorem StartsFrame.append {buffer : List UInt8} (starts : StartsFrame buffer)
    (more : List UInt8) : StartsFrame (buffer ++ more) := by
  obtain ⟨ne_nil, ne_return, no_lineFeed, no_pair⟩ := starts
  refine ⟨by simp [ne_nil], ?_, ?_, ?_⟩
  · intro single
    rcases List.append_eq_singleton_iff.mp single with ⟨empty, -⟩ | ⟨same, -⟩
    · exact ne_nil empty
    · exact ne_return same
  · intro rest equal
    rcases List.append_eq_cons_iff.mp equal with ⟨empty, -⟩ | ⟨tail, same, -⟩
    · exact ne_nil empty
    · exact no_lineFeed tail same
  · intro rest equal
    rcases List.append_eq_cons_iff.mp equal with ⟨empty, -⟩ | ⟨tail, same, tailEq⟩
    · exact ne_nil empty
    -- a lone carriage return is the one front that a line feed behind it would change
    rcases List.append_eq_cons_iff.mp tailEq.symm with ⟨empty, -⟩ | ⟨later, sameTail, -⟩
    · exact ne_return (empty ▸ same)
    · exact no_pair later (sameTail ▸ same)

/-- Nothing is dropped off the start of a frame. -/
theorem StartsFrame.dropLineEnds_eq {buffer : List UInt8} (starts : StartsFrame buffer) :
    dropLineEnds buffer = buffer := by
  unfold dropLineEnds
  split
  · exact absurd rfl (starts.no_lineFeed _)
  · exact absurd rfl (starts.no_pair _)
  · rfl

/-- Behind the line ends there is nothing, half a line end, or the start of a frame. -/
theorem dropLineEnds_cases (buffer : List UInt8) :
    (dropLineEnds buffer = [] ∨ dropLineEnds buffer = [13]) ∨
      StartsFrame (dropLineEnds buffer) := by
  fun_induction dropLineEnds buffer with
  | case1 rest inductionHypothesis => exact inductionHypothesis
  | case2 rest inductionHypothesis => exact inductionHypothesis
  | case3 buffer noLineFeed noPair =>
      by_cases enough : buffer = [] ∨ buffer = [13]
      · exact Or.inl enough
      · rw [not_or] at enough
        exact Or.inr ⟨enough.1, enough.2, noLineFeed, noPair⟩

theorem decode_of_startsFrame {limit : Nat} {buffer : List UInt8} (starts : StartsFrame buffer) :
    decode limit buffer = decodeFrame limit buffer := by
  unfold decode
  rw [starts.dropLineEnds_eq]

/-- Without the start of a frame a decoder waits. -/
theorem decode_waiting_or_startsFrame (limit : Nat) (buffer : List UInt8) :
    decode limit buffer = .waiting (dropLineEnds buffer) ∨ StartsFrame (dropLineEnds buffer) := by
  rcases dropLineEnds_cases buffer with enough | starts
  · apply Or.inl
    unfold decode decodeFrame
    rw [if_pos enough]
  · exact Or.inr starts

/-! ## The first blank line -/

/-- A line feed that a frame could start behind ends no head. -/
theorem splitFrom_cons {byte : UInt8} {before rest : List UInt8}
    (starts : byte = 10 → StartsFrame rest) :
    splitFrom before (byte :: rest) = splitFrom (byte :: before) rest := by
  rw [splitFrom.eq_def]
  split
  · rename_i equal
    cases equal
  · rename_i equal
    cases equal
    exact absurd rfl ((starts rfl).no_lineFeed _)
  · rename_i equal
    cases equal
    exact absurd rfl ((starts rfl).no_pair _)
  · rename_i equal
    cases equal
    rfl

/-! ## Frames that are refused -/

/-- Why no frame can be taken at a blank line, whatever else may arrive. -/
inductive Refused (limit : Nat) (cut : Split) : Fault → Prop
  | head (violation : Violation) (unread : readHead cut.head = .error violation) :
      Refused limit cut (.protocol violation)
  | length (head : Frame) (violation : Violation) (read : readHead cut.head = .ok head)
      (unread : declaredLength head = .error violation) :
      Refused limit cut (.protocol violation)
  | tooLarge (head : Frame) (length : Nat) (read : readHead cut.head = .ok head)
      (declared : declaredLength head = .ok (some length))
      (tooLong : limit < cut.head.length + cut.blank.length + length + 1) :
      Refused limit cut (.tooLarge limit)
  | unterminated (head : Frame) (length : Nat) (byte : UInt8) (tail : List UInt8)
      (read : readHead cut.head = .ok head)
      (declared : declaredLength head = .ok (some length))
      (within : cut.head.length + cut.blank.length + length + 1 ≤ limit)
      (behind : cut.rest.drop length = byte :: tail) (notNul : byte ≠ 0) :
      Refused limit cut (.protocol .missingTerminator)

theorem takeFrame_of_refused {limit : Nat} {cut : Split} {fault : Fault}
    (refused : Refused limit cut fault) (buffer : List UInt8) :
    takeFrame limit cut buffer = .fault fault buffer := by
  unfold takeFrame
  cases refused with
  | head violation unread => rw [unread]
  | length head violation read unread =>
      rw [read]
      dsimp only
      rw [unread]
  | tooLarge head length read declared tooLong =>
      rw [read]
      dsimp only
      rw [declared]
      exact if_pos tooLong
  | unterminated head length byte tail read declared within behind notNul =>
      rw [read]
      dsimp only
      rw [declared]
      dsimp only
      unfold takeMeasured
      dsimp only
      rw [if_neg (Nat.not_lt.mpr within), behind]
      split
      · rename_i equal
        cases equal
      · rename_i equal
        cases equal
        exact absurd rfl notNul
      · rfl

theorem waitWithin_eq_fault {limit length : Nat} {buffer rest : List UInt8} {fault : Fault}
    (found : waitWithin limit length buffer = .fault fault rest) :
    rest = buffer ∧ fault = .tooLarge limit ∧ limit < length := by
  unfold waitWithin at found
  split at found
  · rename_i tooLong
    cases found
    exact ⟨rfl, rfl, tooLong⟩
  · cases found

/-- A fault at a blank line refuses the frame, or gives up a buffer that has outgrown the limit. -/
theorem takeFrame_eq_fault {limit : Nat} {cut : Split} {buffer rest : List UInt8} {fault : Fault}
    (found : takeFrame limit cut buffer = .fault fault rest) :
    rest = buffer ∧
      (Refused limit cut fault ∨ fault = .tooLarge limit ∧ limit < buffer.length) := by
  unfold takeFrame at found
  split at found
  · rename_i violation unread
    cases found
    exact ⟨rfl, Or.inl (.head violation unread)⟩
  rename_i head read
  split at found
  · rename_i violation unread
    cases found
    exact ⟨rfl, Or.inl (.length head violation read unread)⟩
  · unfold takeTerminated at found
    split at found
    · obtain ⟨same, given⟩ := waitWithin_eq_fault found
      exact ⟨same, Or.inr given⟩
    · cases found
  · rename_i length declared
    unfold takeMeasured at found
    dsimp only at found
    split at found
    · rename_i tooLong
      cases found
      exact ⟨rfl, Or.inl (.tooLarge head length read declared tooLong)⟩
    rename_i within
    split at found
    · cases found
    · cases found
    · rename_i byte tail notNul behind
      cases found
      exact ⟨rfl, Or.inl (.unterminated head length byte tail read declared
        (Nat.le_of_not_lt within) behind notNul)⟩

/-- A fault leaves the buffer as it was. -/
theorem decodeFrame_eq_fault {limit : Nat} {buffer rest : List UInt8} {fault : Fault}
    (found : decodeFrame limit buffer = .fault fault rest) :
    rest = buffer ∧ ((∃ cut, split? buffer = some cut ∧ Refused limit cut fault) ∨
      fault = .tooLarge limit ∧ limit < buffer.length) := by
  unfold decodeFrame at found
  split at found
  · cases found
  split at found
  · obtain ⟨same, given⟩ := waitWithin_eq_fault found
    exact ⟨same, Or.inr given⟩
  · rename_i cut cutEq
    obtain ⟨same, refused | given⟩ := takeFrame_eq_fault found
    · exact ⟨same, Or.inl ⟨cut, cutEq, refused⟩⟩
    · exact ⟨same, Or.inr given⟩

theorem decodeFrame_of_refused {limit : Nat} {buffer : List UInt8} {cut : Split} {fault : Fault}
    (cutEq : split? buffer = some cut) (refused : Refused limit cut fault) :
    decodeFrame limit buffer = .fault fault buffer := by
  unfold decodeFrame
  have enough : ¬ (buffer = [] ∨ buffer = [13]) := by
    rintro (rfl | rfl) <;> cases cutEq
  rw [if_neg enough, cutEq]
  exact takeFrame_of_refused refused buffer

/-! ## Frames that are not whole -/

theorem waitWithin_eq_waiting {limit length : Nat} {buffer rest : List UInt8}
    (found : waitWithin limit length buffer = .waiting rest) : rest = buffer ∧ length ≤ limit := by
  unfold waitWithin at found
  split at found
  · cases found
  · rename_i within
    cases found
    exact ⟨rfl, Nat.le_of_not_lt within⟩

/-- What a decoder can wait for at the start of a buffer.  Only the first of these is not held
against the limit. -/
inductive Awaits (limit : Nat) (buffer : List UInt8) : Prop
  | start (few : buffer = [] ∨ buffer = [13])
  | blank (missing : split? buffer = none) (within : buffer.length ≤ limit)
  | terminator (cut : Split) (head : Frame) (cutEq : split? buffer = some cut)
      (read : readHead cut.head = .ok head) (undeclared : declaredLength head = .ok none)
      (missing : 0 ∉ cut.rest) (within : buffer.length ≤ limit)
  | body (cut : Split) (head : Frame) (length : Nat) (cutEq : split? buffer = some cut)
      (read : readHead cut.head = .ok head) (declared : declaredLength head = .ok (some length))
      (missing : cut.rest.length ≤ length)
      (within : cut.head.length + cut.blank.length + length + 1 ≤ limit)

theorem takeFrame_eq_waiting {limit : Nat} {cut : Split} {buffer rest : List UInt8}
    (cutEq : split? buffer = some cut) (found : takeFrame limit cut buffer = .waiting rest) :
    rest = buffer ∧ Awaits limit buffer := by
  unfold takeFrame at found
  split at found
  · cases found
  rename_i head read
  split at found
  · cases found
  · rename_i undeclared
    unfold takeTerminated at found
    split at found
    · rename_i nothing
      obtain ⟨same, within⟩ := waitWithin_eq_waiting found
      have whole : cut.rest.takeWhile (· != 0) = cut.rest := by
        have parts := List.takeWhile_append_dropWhile (p := (· != 0)) (l := cut.rest)
        rwa [nothing, List.append_nil] at parts
      have missing : 0 ∉ cut.rest := by
        intro member
        rw [← whole] at member
        simpa using List.all_eq_true.mp List.all_takeWhile 0 member
      exact ⟨same, .terminator cut head cutEq read undeclared missing within⟩
    · cases found
  · rename_i length declared
    unfold takeMeasured at found
    dsimp only at found
    split at found
    · cases found
    rename_i within
    split at found
    · rename_i nothing
      cases found
      have missing := List.drop_eq_nil_iff.mp nothing
      exact ⟨rfl, .body cut head length cutEq read declared missing (Nat.le_of_not_lt within)⟩
    · cases found
    · cases found

/-- Who waits leaves the buffer as it was. -/
theorem decodeFrame_eq_waiting {limit : Nat} {buffer rest : List UInt8}
    (found : decodeFrame limit buffer = .waiting rest) :
    rest = buffer ∧ Awaits limit buffer := by
  unfold decodeFrame at found
  split at found
  · rename_i few
    cases found
    exact ⟨rfl, .start few⟩
  split at found
  · rename_i missing
    obtain ⟨same, within⟩ := waitWithin_eq_waiting found
    exact ⟨same, .blank missing within⟩
  · rename_i cut cutEq
    exact takeFrame_eq_waiting cutEq found

end Stomp
end ExchangeGrid
