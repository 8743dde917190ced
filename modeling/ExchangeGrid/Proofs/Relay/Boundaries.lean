import ExchangeGrid.Proofs.Relay.Messages
import ExchangeGrid.Proofs.Stomp.Grammar

namespace ExchangeGrid
namespace Relay

open Stomp

/-!
# Where writes end

A session may write its bytes in pieces of any size, and the cutter looks at what has come so far.
It has two rules for the end of a frame, and only the blank line tells which of them is in force.
Until the blank line comes, it takes a NUL for the end.

So the messages do not depend on where the writes end as long as no head holds a NUL and declares
the length of a body at once.  `cuts_agree_iff` states that this is the only exception.  A frame of
that kind can be sent: escaping leaves a NUL in a header as it is.
-/

/-! ## The rule in force -/

/-- The blank line has come, and the head before it declares a length. -/
structure Declares (buffer : List UInt8) (cut : Split) (size : Nat) : Prop where
  cut_eq : split? buffer = some cut
  size_eq : declaredLength? cut.head = some size

/-- The head declares a length and holds a NUL, which looks like the end of the frame until the
blank line comes. -/
def IsEquivocal (buffer : List UInt8) : Prop :=
  ∃ cut size, Declares buffer cut size ∧ 0 ∈ cut.head

section
variable {buffer : List UInt8} {cut : Split} {size length : Nat}

theorem frameLength?_of_undeclared (undeclared : ∀ cut size, ¬ Declares buffer cut size) :
    frameLength? buffer = terminatedLength? buffer := by
  cases cutEq : split? buffer with
  | none => exact frameLength?_of_missing cutEq
  | some cut =>
      cases sizeEq : declaredLength? cut.head with
      | none => exact frameLength?_of_untold cutEq sizeEq
      | some size => exact (undeclared cut size ⟨cutEq, sizeEq⟩).elim

theorem Declares.frameLength?_eq (declares : Declares buffer cut size) :
    frameLength? buffer =
      if cut.head.length + cut.blank.length + size < buffer.length then
        some (cut.head.length + cut.blank.length + size + 1)
      else none :=
  frameLength?_of_told declares.cut_eq declares.size_eq

/-- What is declared stays declared. -/
theorem Declares.append (declares : Declares buffer cut size) (more : List UInt8) :
    Declares (buffer ++ more) { cut with rest := cut.rest ++ more } size :=
  ⟨split?_append declares.cut_eq more, declares.size_eq⟩

/-- A head declares its length whatever stands behind the blank line. -/
theorem Declares.replace (declares : Declares buffer cut size) (other : List UInt8) :
    Declares (cut.head ++ cut.blank ++ other) { cut with rest := other } size :=
  ⟨split?_replace declares.cut_eq other, declares.size_eq⟩

/-- The bytes of a frame with a declared length. -/
theorem Declares.take_eq (declares : Declares buffer cut size) :
    buffer.take (cut.head.length + cut.blank.length + size + 1) =
      cut.head ++ cut.blank ++ cut.rest.take (size + 1) := by
  have shape := append_of_split? declares.cut_eq
  rw [← shape, Nat.add_assoc, ← List.length_append, List.take_length_add_append]

theorem IsEquivocal.append (equivocal : IsEquivocal buffer) (more : List UInt8) :
    IsEquivocal (buffer ++ more) := by
  rcases equivocal with ⟨cut, size, declares, nul⟩
  exact ⟨_, size, declares.append more, nul⟩

theorem exists_of_terminatedLength? (found : terminatedLength? buffer = some length) :
    ∃ front rest, buffer = front ++ 0 :: rest ∧ 0 ∉ front ∧ length = front.length + 1 := by
  by_cases member : 0 ∈ buffer
  · rcases List.eq_append_cons_of_mem member with ⟨front, rest, rfl, absent⟩
    rw [terminatedLength?_append absent] at found
    exact ⟨front, rest, rfl, absent, (Option.some.inj found).symm⟩
  · rw [terminatedLength?_of_not_mem member] at found
    cases found

/-- A declaration that more bytes bring comes with the blank line, so all that was there before
stands in the head or the blank line. -/
theorem mem_head_of_declares {more : List UInt8}
    (undeclared : ∀ cut size, ¬ Declares buffer cut size)
    (declares : Declares (buffer ++ more) cut size) (nul : 0 ∈ buffer) : 0 ∈ cut.head := by
  cases before : split? buffer with
  | none =>
      have inFront := (front_of_split?_eq_none before declares.cut_eq).subset nul
      rcases List.mem_append.mp inFront with inHead | inBlank
      · exact inHead
      · exfalso
        revert inBlank
        rcases blank_cases_of_splitFrom declares.cut_eq with blank | blank <;> rw [blank] <;> decide
  | some early =>
      have same := split?_append before more
      rw [declares.cut_eq, Option.some.injEq] at same
      rw [same] at declares
      exact (undeclared early size ⟨before, declares.size_eq⟩).elim

/-- The end of a frame stays where it is, unless what follows makes it equivocal. -/
theorem frameLength?_append {more : List UInt8} (found : frameLength? buffer = some length)
    (calm : ¬ IsEquivocal (buffer ++ more)) : frameLength? (buffer ++ more) = some length := by
  by_cases told : ∃ cut size, Declares buffer cut size
  · rcases told with ⟨cut, size, declares⟩
    rw [declares.frameLength?_eq] at found
    rw [(declares.append more).frameLength?_eq]
    split at found
    · rename_i whole
      rw [← found, if_pos]
      rw [List.length_append]
      exact Nat.lt_add_right more.length whole
    · cases found
  · have undeclared : ∀ cut size, ¬ Declares buffer cut size :=
      fun cut size declares => told ⟨cut, size, declares⟩
    rw [frameLength?_of_undeclared undeclared] at found
    rcases exists_of_terminatedLength? found with ⟨front, rest, rfl, absent, rfl⟩
    -- If the blank line comes only now, the NUL that was found stands in the head.
    have later : ∀ cut size, ¬ Declares (front ++ 0 :: rest ++ more) cut size := by
      intro cut size declares
      have nul := mem_head_of_declares undeclared declares
        (List.mem_append_right front List.mem_cons_self)
      exact calm ⟨cut, size, declares, nul⟩
    rw [frameLength?_of_undeclared later, List.append_assoc, List.cons_append,
      terminatedLength?_append absent]

/-- A frame by itself is as long as it was in front of other bytes. -/
theorem frameLength?_take (found : frameLength? buffer = some length) :
    frameLength? (buffer.take length) = some length := by
  by_cases told : ∃ cut size, Declares buffer cut size
  · rcases told with ⟨cut, size, declares⟩
    rw [declares.frameLength?_eq] at found
    split at found
    · rename_i whole
      cases found
      rw [declares.take_eq, (declares.replace _).frameLength?_eq, ← declares.take_eq]
      apply if_pos
      rw [List.length_take_of_le whole]
      exact Nat.lt_succ_self _
    · cases found
  · have undeclared : ∀ cut size, ¬ Declares (buffer.take length) cut size := by
      intro cut size declares
      have whole := declares.append (buffer.drop length)
      rw [List.take_append_drop] at whole
      exact told ⟨_, size, whole⟩
    rw [frameLength?_of_undeclared fun cut size declares => told ⟨cut, size, declares⟩] at found
    rcases exists_of_terminatedLength? found with ⟨front, rest, rfl, absent, rfl⟩
    have isFront : (front ++ 0 :: rest).take (front.length + 1) = front ++ [0] :=
      List.take_length_add_append 1
    rw [isFront] at undeclared ⊢
    rw [frameLength?_of_undeclared undeclared, terminatedLength?_append absent]

/-- An equivocal frame that is whole is equivocal by itself. -/
theorem IsEquivocal.take (equivocal : IsEquivocal buffer)
    (found : frameLength? buffer = some length) : IsEquivocal (buffer.take length) := by
  rcases equivocal with ⟨cut, size, declares, nul⟩
  rw [declares.frameLength?_eq] at found
  split at found
  · cases found
    rw [declares.take_eq]
    exact ⟨_, size, declares.replace _, nul⟩
  · cases found

/-- Up to the NUL in its head an equivocal frame looks whole. -/
theorem IsEquivocal.exists_front (equivocal : IsEquivocal buffer) :
    ∃ front back, buffer = front ++ back ∧ frameLength? front = some front.length ∧
      frameLength? buffer ≠ some front.length := by
  rcases equivocal with ⟨cut, size, declares, nul⟩
  rcases List.eq_append_cons_of_mem nul with ⟨left, right, headEq, absent⟩
  have shape : buffer = (left ++ [0]) ++ (right ++ cut.blank ++ cut.rest) := by
    rw [← append_of_split? declares.cut_eq, headEq]
    simp only [List.append_assoc, List.cons_append, List.nil_append]
  have short : (left ++ [0]).length ≤ cut.head.length := by
    rw [headEq]
    simp only [List.length_append, List.length_cons, List.length_nil]
    omega
  have undeclared : ∀ cut size, ¬ Declares (left ++ [0]) cut size := by
    intro early other before
    have same := split?_append before.cut_eq (right ++ cut.blank ++ cut.rest)
    rw [← shape, declares.cut_eq, Option.some.injEq] at same
    have long := congrArg List.length (append_of_split? before.cut_eq)
    rw [same] at short
    rcases blank_cases_of_splitFrom before.cut_eq with blank | blank <;> rw [blank] at long <;>
      simp only [List.length_append, List.length_cons, List.length_nil] at long short <;> omega
  refine ⟨left ++ [0], _, shape, ?_, ?_⟩
  · rw [frameLength?_of_undeclared undeclared, terminatedLength?_append absent, List.length_append]
    rfl
  · rw [declares.frameLength?_eq]
    split
    · rw [ne_eq, Option.some.injEq]
      omega
    · exact nofun

end

/-! ## The first message of a buffer -/

section
variable {buffer : List UInt8} {length : Nat}

/-- A message is a line end or a frame. -/
theorem messageLength?_cases (found : messageLength? buffer = some length) :
    (∃ rest, buffer = 10 :: rest ∧ length = 1) ∨
      (∃ rest, buffer = 13 :: 10 :: rest ∧ length = 2) ∨
      (StartsFrame buffer ∧ frameLength? buffer = some length) := by
  unfold messageLength? at found
  split at found
  · cases found
  · cases found
    exact Or.inl ⟨_, rfl, rfl⟩
  · cases found
    exact Or.inr (Or.inl ⟨_, rfl, rfl⟩)
  · rename_i ne_nil no_lineFeed no_pair
    have ne_return : buffer ≠ [13] := by
      rintro rfl
      cases found
    refine Or.inr (Or.inr ⟨⟨?_, ne_return, ?_, ?_⟩, found⟩)
    · exact ne_nil
    · exact no_lineFeed
    · exact no_pair

/-- A message stays the same message when more bytes follow, unless they make it equivocal. -/
theorem messageLength?_append {more : List UInt8} (found : messageLength? buffer = some length)
    (calm : StartsFrame buffer → ¬ IsEquivocal (buffer ++ more)) :
    messageLength? (buffer ++ more) = some length := by
  rcases messageLength?_cases found with ⟨rest, rfl, rfl⟩ | ⟨rest, rfl, rfl⟩ | ⟨starts, whole⟩
  · rfl
  · rfl
  · rw [messageLength?_of_startsFrame (starts.append more)]
    exact frameLength?_append whole (calm starts)

/-- What starts a frame and is a whole one for the cutter starts a frame by itself. -/
theorem startsFrame_of_frameLength? {front : List UInt8} (starts : StartsFrame buffer)
    (isFront : front <+: buffer) (found : frameLength? front = some length) :
    StartsFrame front := by
  rcases isFront with ⟨back, rfl⟩
  refine ⟨?_, ?_, ?_, ?_⟩
  · rintro rfl
    cases found
  · rintro rfl
    cases found
  · rintro rest rfl
    exact starts.no_lineFeed _ rfl
  · rintro rest rfl
    exact starts.no_pair _ rfl

/-- A message by itself is the same message. -/
theorem messageLength?_take (found : messageLength? buffer = some length) :
    messageLength? (buffer.take length) = some length := by
  rcases messageLength?_cases found with ⟨rest, rfl, rfl⟩ | ⟨rest, rfl, rfl⟩ | ⟨starts, whole⟩
  · rfl
  · rfl
  · have alone := frameLength?_take whole
    have isFront := List.take_prefix length buffer
    rw [messageLength?_of_startsFrame (startsFrame_of_frameLength? starts isFront alone)]
    exact alone

theorem startsFrame_of_waits {cut : Split} (waits : messageLength? buffer = none)
    (cutEq : split? buffer = some cut) : StartsFrame buffer := by
  refine ⟨?_, ?_, ?_, ?_⟩
  · rintro rfl
    cases cutEq
  · rintro rfl
    cases cutEq
  · rintro rest rfl
    cases waits
  · rintro rest rfl
    cases waits

end

/-! ## All messages of a buffer -/

/-- The messages that were cut, and what is left. -/
def Cut.pieces (cut : Cut) : List (List UInt8) :=
  cut.messages ++ [cut.pending]

def Cut.after (earlier : List (List UInt8)) (cut : Cut) : Cut :=
  { cut with messages := earlier ++ cut.messages }

theorem Cut.after_injective (earlier : List (List UInt8)) : Function.Injective (after earlier) := by
  rintro ⟨first, left⟩ ⟨second, right⟩ same
  unfold after at same
  rw [mk.injEq, List.append_cancel_left_eq] at same
  exact congrArg₂ mk same.1 same.2

theorem Cutter.pushAll_cons (cutter : Cutter) (chunk : List UInt8) (chunks : List (List UInt8)) :
    cutter.pushAll (chunk :: chunks) =
      (Cutter.pushAll ⟨(cutter.push chunk).pending⟩ chunks).after (cutter.push chunk).messages :=
  rfl

theorem Cutter.pushAll_one (cutter : Cutter) (chunk : List UInt8) :
    cutter.pushAll [chunk] = cutter.push chunk :=
  congrArg (Cut.mk · (cutter.push chunk).pending) (List.append_nil _)

def Cut.IsCalm (cut : Cut) : Prop :=
  ∀ piece ∈ cut.pieces, ¬ IsEquivocal piece

theorem Cut.IsCalm.of_after {earlier : List (List UInt8)} {cut : Cut}
    (calm : (cut.after earlier).IsCalm) : cut.IsCalm := by
  intro piece member
  apply calm
  unfold pieces after
  rw [List.append_assoc]
  exact List.mem_append_right earlier member

section
variable {buffer : List UInt8} {length : Nat}

theorem cutAll_of_some (found : messageLength? buffer = some length) :
    cutAll buffer = (cutAll (buffer.drop length)).after [buffer.take length] := by
  rw [cutAll_eq, found]
  rfl

theorem cutAll_of_whole (found : messageLength? buffer = some buffer.length) :
    cutAll buffer = ⟨[buffer], []⟩ := by
  rw [cutAll_of_some found, List.take_length, List.drop_length, cutAll_of_none rfl]
  rfl

/-- Where no piece is equivocal, no frame at the front is. -/
theorem not_isEquivocal_of_isCalm (calm : (cutAll buffer).IsCalm) (starts : StartsFrame buffer) :
    ¬ IsEquivocal buffer := by
  intro equivocal
  cases found : messageLength? buffer with
  | none =>
      rw [cutAll_of_none found] at calm
      exact calm buffer List.mem_cons_self equivocal
  | some length =>
      rw [cutAll_of_some found] at calm
      rw [messageLength?_of_startsFrame starts] at found
      exact calm _ List.mem_cons_self (equivocal.take found)

/-- What was cut need not be looked at again when more bytes come. -/
theorem cutAll_append {more : List UInt8} (calm : (cutAll (buffer ++ more)).IsCalm) :
    cutAll (buffer ++ more) =
      (cutAll ((cutAll buffer).pending ++ more)).after (cutAll buffer).messages := by
  induction buffer using cutAll.induct with
  | case1 buffer waits =>
      rw [cutAll_of_none waits]
      rfl
  | case2 buffer length found inductionHypothesis =>
      have whole : messageLength? (buffer ++ more) = some length :=
        messageLength?_append found fun starts =>
          not_isEquivocal_of_isCalm calm (starts.append more)
      have inside := (messageLength?_bounds found).2
      have both := cutAll_of_some whole
      rw [List.drop_append_of_le_length inside, List.take_append_of_le_length inside] at both
      rw [both] at calm
      rw [both, inductionHypothesis calm.of_after, cutAll_of_some found]
      rfl

/-- Chunk by chunk or all at once is the same, when no piece is equivocal. -/
theorem pushAll_of_isCalm {pending : List UInt8} {chunks : List (List UInt8)}
    (waits : messageLength? pending = none)
    (calm : (cutAll (pending ++ chunks.flatten)).IsCalm) :
    Cutter.pushAll ⟨pending⟩ chunks = cutAll (pending ++ chunks.flatten) := by
  induction chunks generalizing pending with
  | nil =>
      rw [List.flatten_nil, List.append_nil, cutAll_of_none waits]
      rfl
  | cons chunk chunks inductionHypothesis =>
      rw [List.flatten_cons, ← List.append_assoc] at calm ⊢
      have both := cutAll_append calm
      rw [both] at calm
      have later := inductionHypothesis (messageLength?_pending (pending ++ chunk)) calm.of_after
      rw [both, Cutter.pushAll_cons, Cutter.push, later]

end

/-! ## Where writes end -/

/-- Bytes that give the same messages, and leave the same, in whatever chunks they come. -/
def IsSteady (bytes : List UInt8) : Prop :=
  ∀ chunks : List (List UInt8), chunks.flatten = bytes → Cutter.pushAll {} chunks = cutAll bytes

section
variable {bytes : List UInt8}

theorem pushAll_singleton (bytes : List UInt8) : Cutter.pushAll {} [bytes] = cutAll bytes := by
  rw [Cutter.pushAll_one, Cutter.push, List.nil_append]

/-- The messages of a front are the first ones of all bytes. -/
theorem IsSteady.front (steady : IsSteady bytes) {front back : List UInt8}
    (shape : bytes = front ++ back) : (cutAll front).messages <+: (cutAll bytes).messages := by
  have cuts := steady [front, back] (by rw [shape]; simp)
  rw [← cuts]
  exact ⟨_, rfl⟩

theorem IsSteady.not_isEquivocal (steady : IsSteady bytes) (starts : StartsFrame bytes) :
    ¬ IsEquivocal bytes := by
  intro equivocal
  rcases equivocal.exists_front with ⟨front, back, shape, looksWhole, otherwise⟩
  have isMessage : messageLength? front = some front.length := by
    have isFront : front <+: bytes := ⟨back, shape.symm⟩
    rw [messageLength?_of_startsFrame (startsFrame_of_frameLength? starts isFront looksWhole)]
    exact looksWhole
  have early := steady.front shape
  rw [cutAll_of_some isMessage, List.take_length] at early
  rw [← messageLength?_of_startsFrame starts] at otherwise
  cases found : messageLength? bytes with
  | none =>
      rw [cutAll_of_none found] at early
      exact List.cons_ne_nil front _ (List.prefix_nil.mp early)
  | some length =>
      rw [cutAll_of_some found] at early
      have same : front = bytes.take length := (List.cons_prefix_cons.mp early).1
      rw [same, List.length_take_of_le (messageLength?_bounds found).2] at otherwise
      exact otherwise found

theorem IsSteady.drop (steady : IsSteady bytes) {length : Nat}
    (found : messageLength? bytes = some length) : IsSteady (bytes.drop length) := by
  intro chunks whole
  have alone : cutAll (bytes.take length) = ⟨[bytes.take length], []⟩ := by
    apply cutAll_of_whole
    rw [List.length_take_of_le (messageLength?_bounds found).2]
    exact messageLength?_take found
  have cuts := steady (bytes.take length :: chunks) (by
    rw [List.flatten_cons, whole, List.take_append_drop])
  rw [Cutter.pushAll_cons, Cutter.push, List.nil_append, alone, cutAll_of_some found] at cuts
  exact Cut.after_injective _ cuts

/-- Bytes that come in any chunks alike hold nothing equivocal. -/
theorem IsSteady.isCalm (steady : IsSteady bytes) : (cutAll bytes).IsCalm := by
  induction bytes using cutAll.induct with
  | case1 bytes waits =>
      rw [cutAll_of_none waits]
      intro piece member equivocal
      rw [List.mem_singleton.mp member] at equivocal
      have starts : StartsFrame bytes := by
        rcases equivocal with ⟨cut, size, declares, -⟩
        exact startsFrame_of_waits waits declares.cut_eq
      exact steady.not_isEquivocal starts equivocal
  | case2 bytes length found inductionHypothesis =>
      have later := inductionHypothesis (steady.drop found)
      rw [cutAll_of_some found]
      intro piece member equivocal
      rcases List.mem_cons.mp member with rfl | behind
      · rcases messageLength?_cases found with ⟨rest, rfl, rfl⟩ | ⟨rest, rfl, rfl⟩ | ⟨starts, -⟩
        · rcases equivocal with ⟨cut, size, declares, -⟩
          cases declares.cut_eq
        · rcases equivocal with ⟨cut, size, declares, -⟩
          cases declares.cut_eq
        · have whole := equivocal.append (bytes.drop length)
          rw [List.take_append_drop] at whole
          exact steady.not_isEquivocal starts whole
      · exact later piece behind equivocal

/-- Bytes are cut into the same messages, and the same is left, however they are split into chunks
exactly when no piece of them has a NUL in a head that declares a length. -/
theorem cuts_agree_iff (bytes : List UInt8) :
    (∀ first second : List (List UInt8), first.flatten = bytes → second.flatten = bytes →
        Cutter.pushAll {} first = Cutter.pushAll {} second) ↔
      ∀ piece ∈ (cutAll bytes).pieces, ¬ IsEquivocal piece := by
  constructor
  · intro agree
    have steady : IsSteady bytes := fun chunks whole =>
      (agree chunks [bytes] whole (List.append_nil bytes)).trans (pushAll_singleton bytes)
    exact steady.isCalm
  · intro calm first second firstWhole secondWhole
    have steady : IsSteady bytes := by
      rintro chunks rfl
      exact pushAll_of_isCalm rfl calm
    rw [steady first firstWhole, steady second secondWhole]

end

/-- A frame that can be sent: a header has a NUL for its value, and the body is measured. -/
def nulHeaderFrame : Frame :=
  { command := .send, headers := [⟨"x", "\x00"⟩], body := [97, 0, 98] }

/-- Its bytes, written up to the NUL in the header first. -/
def nulHeaderWrites : List (List UInt8) :=
  [Utf8.bytes "SEND\nx:\x00", Utf8.bytes "\ncontent-length:3\n\na\x00b\x00"]

/-- Written at once the frame is one message, and in two pieces it is three. -/
theorem cuts_differ_nulHeader :
    nulHeaderFrame.Sendable ∧ nulHeaderWrites.flatten = encode nulHeaderFrame ∧
      Cutter.pushAll {} [encode nulHeaderFrame] = ⟨[encode nulHeaderFrame], []⟩ ∧
      Cutter.pushAll {} nulHeaderWrites =
        ⟨[Utf8.bytes "SEND\nx:\x00", [10], Utf8.bytes "content-length:3\n\na\x00b\x00"], []⟩ := by
  have whole : messageLength? (encode nulHeaderFrame) = some (encode nulHeaderFrame).length := by
    decide
  have early : cutAll (Utf8.bytes "SEND\nx:\x00") = ⟨[Utf8.bytes "SEND\nx:\x00"], []⟩ :=
    cutAll_of_whole (by decide)
  have feed : messageLength? (Utf8.bytes "\ncontent-length:3\n\na\x00b\x00") = some 1 := by decide
  have late : cutAll (Utf8.bytes "content-length:3\n\na\x00b\x00") =
      ⟨[Utf8.bytes "content-length:3\n\na\x00b\x00"], []⟩ := cutAll_of_whole (by decide)
  refine ⟨by decide, by decide, ?_, ?_⟩
  · rw [pushAll_singleton, cutAll_of_whole whole]
  · have behind : (Utf8.bytes "\ncontent-length:3\n\na\x00b\x00").drop 1 =
        Utf8.bytes "content-length:3\n\na\x00b\x00" := rfl
    unfold nulHeaderWrites
    rw [Cutter.pushAll_cons, Cutter.push, List.nil_append, early, pushAll_singleton,
      cutAll_of_some feed, behind, late]
    rfl

end Relay
end ExchangeGrid
