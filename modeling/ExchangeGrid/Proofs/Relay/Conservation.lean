import ExchangeGrid.Proofs.Relay.Boundaries
import ExchangeGrid.Proofs.Relay.Carriage
import ExchangeGrid.Proofs.Relay.WordSums
import Mathlib.Data.List.Induction

namespace ExchangeGrid
namespace Relay

open Stomp

/-!
# What a cutter keeps

A cutter only divides what it is given.  After every push the messages that it has cut, one behind
the other, and the bytes that it holds back are all the bytes that have come, in their order; no
message is empty, and what is held back is no message yet.  Nothing is asked of the bytes: heads
need not be text, lengths need not be numbers, and there need not be any frame at all.

That a push comes to an end is no matter of course.  `Cuts` is the cutting as a machine does it, in
rounds.  The machine would stop if it had to take more bytes off a buffer than there are, and it
would go on for ever if it took none.  `messageLengthWords_bounds` says that neither happens, and
`keeps_all_bytes` says what every push then leaves, as long as no sum is lost.
-/

/-! ## One push -/

/-- Cutting as a machine does it, round by round.  In each round it asks for the length of the first
message and takes that many bytes, which have to be there. -/
inductive Cuts (overflow : Overflow) : List UInt8 → Cut → Prop
  | stay {buffer : List UInt8} (waits : messageLengthWords overflow buffer = some none) :
      Cuts overflow buffer ⟨[], buffer⟩
  | round {buffer message behind : List UInt8} {length : Nat} {cut : Cut}
      (found : messageLengthWords overflow buffer = some (some length))
      (taken : splitAt? length buffer = some (message, behind))
      (later : Cuts overflow behind cut) : Cuts overflow buffer (cut.after [message])

section
variable {overflow : Overflow} {buffer : List UInt8} {length : Nat} {cut : Cut}

/-- No message is longer than the buffer, whether or not a declared length was added up as it should
be; and none is empty, since a place in a buffer is a word, and so is the next one. -/
theorem messageLengthWords_bounds
    (found : messageLengthWords overflow buffer = some (some length)) :
    length ≤ buffer.length ∧ (buffer.length < Decimal.wordBound → 0 < length) := by
  cases told : declared? buffer with
  | none =>
      rw [messageLengthWords_of_untold told] at found
      have bounds := messageLength?_bounds (Option.some.inj found)
      exact ⟨bounds.2, fun _ => bounds.1⟩
  | some place =>
      unfold messageLengthWords at found
      rw [told] at found
      simp only [Option.bind_eq_bind, Option.bind_eq_some_iff] at found
      rcases found with ⟨last, -, found⟩
      split at found
      · rcases Option.bind_eq_some_iff.mp found with ⟨total, totalEq, same⟩
        cases same
        have isSum := (Overflow.sum?_bounds totalEq).2
        omega
      · cases found

theorem cuts_of_cutAllWords (done : cutAllWords overflow buffer = some cut) :
    Cuts overflow buffer cut := by
  induction buffer using cutAllWords.induct overflow generalizing cut with
  | case1 buffer stops =>
      rw [cutAllWords, stops] at done
      cases done
  | case2 buffer waits =>
      rw [cutAllWords, waits] at done
      cases done
      exact .stay waits
  | case3 buffer length found shorter inductionHypothesis =>
      rw [cutAllWords, found] at done
      dsimp only at done
      rw [dif_pos shorter, Option.map_eq_some_iff] at done
      obtain ⟨later, laterEq, rfl⟩ := done
      have inside := (messageLengthWords_bounds found).1
      exact .round found (if_pos inside) (inductionHypothesis laterEq)
  | case4 buffer length found notShorter =>
      rw [cutAllWords, found] at done
      dsimp only at done
      rw [dif_neg notShorter] at done
      cases done

/-- A round that takes nothing is followed by the same round, so that no cutting which has come to
an end starts with one. -/
theorem Cuts.takes_some (cuts : Cuts overflow buffer cut) :
    messageLengthWords overflow buffer ≠ some (some 0) := by
  induction cuts with
  | stay waits =>
      rw [waits]
      exact nofun
  | round found taken later inductionHypothesis =>
      intro nothing
      rw [found] at nothing
      cases nothing
      rcases splitAt?_eq_some taken with ⟨short, rfl⟩
      rw [List.eq_nil_of_length_eq_zero short, List.nil_append] at found
      exact inductionHypothesis found

theorem Cuts.cutAllWords_eq (cuts : Cuts overflow buffer cut) :
    cutAllWords overflow buffer = some cut := by
  induction cuts with
  | stay waits => rw [cutAllWords, waits]
  | round found taken later inductionHypothesis =>
      have takesSome := (Cuts.round found taken later).takes_some
      rcases splitAt?_eq_some taken with ⟨rfl, rfl⟩
      rw [found] at takesSome
      rw [cutAllWords, found]
      dsimp only
      rw [List.drop_left, List.take_left, inductionHypothesis, dif_pos]
      · rfl
      · rw [List.length_append]
        exact Nat.lt_add_of_pos_left (Nat.pos_of_ne_zero fun empty => takesSome (by rw [empty]))

/-- The cutter that runs cuts what is cut in rounds.  It gives nothing where the rounds stop, or
would come to no end. -/
theorem cutAllWords_eq_some_iff :
    cutAllWords overflow buffer = some cut ↔ Cuts overflow buffer cut :=
  ⟨cuts_of_cutAllWords, Cuts.cutAllWords_eq⟩

theorem Cuts.flatten_eq (cuts : Cuts overflow buffer cut) :
    cut.messages.flatten ++ cut.pending = buffer := by
  induction cuts with
  | stay waits => rfl
  | round found taken later inductionHypothesis =>
      rw [(splitAt?_eq_some taken).2, ← inductionHypothesis]
      exact List.append_assoc _ _ _

theorem Cuts.ne_nil (cuts : Cuts overflow buffer cut) : ∀ message ∈ cut.messages, message ≠ [] := by
  induction cuts with
  | stay waits => exact nofun
  | round found taken later inductionHypothesis =>
      refine List.forall_mem_cons.mpr ⟨?_, inductionHypothesis⟩
      rintro rfl
      have empty := (splitAt?_eq_some taken).1
      rw [← empty] at found
      exact (Cuts.round found (empty ▸ taken) later).takes_some found

/-- Cutting only ends where nothing more can be cut. -/
theorem Cuts.waits (cuts : Cuts overflow buffer cut) :
    messageLengthWords overflow cut.pending = some none := by
  induction cuts with
  | stay waits => exact waits
  | round found taken later inductionHypothesis => exact inductionHypothesis

end

/-! ## All pushes -/

/-- One push behind others: what is cut now comes behind what was cut before. -/
def Cut.pushWords (overflow : Overflow) (cut : Cut) (chunk : List UInt8) : Option Cut :=
  (Cutter.pushWords overflow ⟨cut.pending⟩ chunk).map (Cut.after cut.messages)

/-- Push chunks one after the other, as a machine does, and gather what is cut. -/
def pushAllWords (overflow : Overflow) (chunks : List (List UInt8)) : Option Cut :=
  chunks.foldlM (Cut.pushWords overflow) ⟨[], []⟩

/-- What holds of the messages that were cut, and of the bytes held back, after some pushes. -/
structure Keeps (overflow : Overflow) (pushed : List (List UInt8)) (cut : Cut) : Prop where
  flatten_eq : cut.messages.flatten ++ cut.pending = pushed.flatten
  ne_nil : ∀ message ∈ cut.messages, message ≠ []
  waits : messageLengthWords overflow cut.pending = some none

/-- Chunks that a machine can take in.  A buffer is no longer than a word can say.  Neither is the
frame whose head is held back: its declared length is small enough to be added up.  A frame that was
cut lay in a buffer, so nothing has to be asked of its length. -/
structure Fits (chunks : List (List UInt8)) : Prop where
  buffer : ∀ pushed chunk, pushed ++ [chunk] <+: chunks →
    ((Cutter.pushAll {} pushed).pending ++ chunk).length < Decimal.wordBound
  declared : ∀ pushed start length, pushed <+: chunks →
    declared? (Cutter.pushAll {} pushed).pending = some (start, length) →
      start + length < Decimal.wordBound

section
variable {overflow : Overflow} {pushed chunks : List (List UInt8)} {chunk : List UInt8}

theorem keeps_nil (overflow : Overflow) : Keeps overflow [] ⟨[], []⟩ :=
  ⟨rfl, nofun, messageLengthWords_of_untold rfl⟩

/-- One push keeps what the pushes before it have kept. -/
theorem Keeps.concat {cut now : Cut} (keeps : Keeps overflow pushed cut)
    (cuts : Cuts overflow (cut.pending ++ chunk) now) :
    Keeps overflow (pushed ++ [chunk]) (now.after cut.messages) where
  flatten_eq := by
    calc (cut.messages ++ now.messages).flatten ++ now.pending
      _ = cut.messages.flatten ++ (now.messages.flatten ++ now.pending) := by
        rw [List.flatten_append, List.append_assoc]
      _ = (cut.messages.flatten ++ cut.pending) ++ chunk := by
        rw [cuts.flatten_eq, List.append_assoc]
      _ = (pushed ++ [chunk]).flatten := by
        rw [keeps.flatten_eq, List.flatten_append, List.flatten_singleton]
  ne_nil := by
    intro message member
    rcases List.mem_append.mp member with before | new
    · exact keeps.ne_nil message before
    · exact cuts.ne_nil message new
  waits := cuts.waits

theorem pushAllWords_concat (pushed : List (List UInt8)) (chunk : List UInt8) :
    pushAllWords overflow (pushed ++ [chunk]) =
      (pushAllWords overflow pushed).bind (·.pushWords overflow chunk) := by
  unfold pushAllWords
  rw [List.foldlM_append]
  simp only [List.foldlM_cons, List.foldlM_nil, bind_pure, Option.bind_eq_bind]

/-- Pushes that have come to an end keep everything, also those in which a sum was lost: a message
may then end in the wrong place, but nothing goes missing. -/
theorem keeps_of_pushAllWords {cut : Cut} (done : pushAllWords overflow pushed = some cut) :
    Keeps overflow pushed cut := by
  induction pushed using List.reverseRecOn generalizing cut with
  | nil =>
      cases done
      exact keeps_nil overflow
  | append_singleton pushed chunk inductionHypothesis =>
      rw [pushAllWords_concat] at done
      obtain ⟨before, beforeEq, last⟩ := Option.bind_eq_some_iff.mp done
      obtain ⟨now, nowEq, rfl⟩ := Option.map_eq_some_iff.mp last
      exact (inductionHypothesis beforeEq).concat (cutAllWords_eq_some_iff.mp nowEq)

/-- What a machine cuts of the bytes that the writer of a relay takes is a front of what the client
has written, with or without lost sums. -/
theorem Keeps.front_of_run {pongWait pingPeriod : Nat} {events : List Event} {last : Relay}
    {cut : Cut} (keeps : Keeps overflow ((start pongWait pingPeriod).reads events) cut)
    (run : (start pongWait pingPeriod).run? events = some last) :
    cut.messages.flatten <+: writes events := by
  have drained := drained_of_run run (drained_start pongWait pingPeriod)
  rw [List.nil_append] at drained
  have taken_front : cut.messages.flatten <+: last.written.take last.drained := by
    rw [← drained.flatten_eq, ← keeps.flatten_eq]
    exact List.prefix_append _ _
  have written : last.written = writes events := (history_of_run run).2
  rw [written] at taken_front
  exact taken_front.trans (List.take_prefix _ _)

theorem pushAll_concat (pushed : List (List UInt8)) (chunk : List UInt8) :
    Cutter.pushAll {} (pushed ++ [chunk]) =
      (Cutter.push ⟨(Cutter.pushAll {} pushed).pending⟩ chunk).after
        (Cutter.pushAll {} pushed).messages := by
  rw [Cutter.pushAll_append, Cutter.pushAll_one]
  rfl

/-- A machine cuts what whole numbers tell it to cut. -/
theorem Fits.pushWords_eq (fits : Fits chunks) (inside : pushed ++ [chunk] <+: chunks) :
    Cutter.pushWords overflow ⟨(Cutter.pushAll {} pushed).pending⟩ chunk =
      some (Cutter.push ⟨(Cutter.pushAll {} pushed).pending⟩ chunk) := by
  apply cutAllWords_eq_cutAll (fits.buffer pushed chunk inside)
  intro start length found
  apply fits.declared (pushed ++ [chunk]) start length inside
  rw [pushAll_concat]
  exact found

theorem fits_nil : Fits [] where
  buffer := by
    intro pushed chunk inside
    exact absurd (List.prefix_nil.mp inside) (List.append_ne_nil_of_right_ne_nil pushed nofun)
  declared := by
    intro pushed start length inside found
    rw [List.prefix_nil.mp inside] at found
    cases found

/-- Chunks fit if each of them does behind those before it. -/
theorem Fits.concat (fits : Fits chunks)
    (machine : ((Cutter.pushAll {} chunks).pending ++ chunk).length < Decimal.wordBound)
    (declared : ∀ start length,
      declared? (Cutter.pushAll {} (chunks ++ [chunk])).pending = some (start, length) →
        start + length < Decimal.wordBound) : Fits (chunks ++ [chunk]) where
  buffer := by
    intro pushed other inside
    rcases List.prefix_concat_iff.mp inside with same | before
    · rcases List.append_inj' same rfl with ⟨rfl, sameChunk⟩
      cases sameChunk
      exact machine
    · exact fits.buffer pushed other before
  declared := by
    intro pushed start length inside
    rcases List.prefix_concat_iff.mp inside with rfl | before
    · exact declared start length
    · exact fits.declared pushed start length before

theorem Fits.cuts (fits : Fits chunks) (inside : pushed ++ [chunk] <+: chunks) :
    Cuts overflow ((Cutter.pushAll {} pushed).pending ++ chunk)
      (Cutter.push ⟨(Cutter.pushAll {} pushed).pending⟩ chunk) :=
  cutAllWords_eq_some_iff.mp (fits.pushWords_eq inside)

theorem Fits.pushAllWords_eq (fits : Fits chunks) (inside : pushed <+: chunks) :
    pushAllWords overflow pushed = some (Cutter.pushAll {} pushed) := by
  induction pushed using List.reverseRecOn with
  | nil => rfl
  | append_singleton pushed chunk inductionHypothesis =>
      have before := inductionHypothesis ((List.prefix_append pushed [chunk]).trans inside)
      rw [pushAllWords_concat, before, pushAll_concat, Option.bind_some, Cut.pushWords,
        fits.pushWords_eq inside]
      rfl

/-- Each length that a cutter reports is at least one and no more than the buffer holds.  After
every push the messages cut so far and the bytes held back are all that was pushed, no message is
empty, and nothing more can be cut; and the next push comes to an end, with every message taken from
bytes that are there. -/
theorem keeps_all_bytes (overflow : Overflow) (fits : Fits chunks) :
    (∀ buffer length, buffer.length < Decimal.wordBound →
      messageLengthWords overflow buffer = some (some length) →
        0 < length ∧ length ≤ buffer.length) ∧
    ∀ pushed, pushed <+: chunks →
      pushAllWords overflow pushed = some (Cutter.pushAll {} pushed) ∧
      Keeps overflow pushed (Cutter.pushAll {} pushed) ∧
      ∀ chunk, pushed ++ [chunk] <+: chunks →
        Cuts overflow ((Cutter.pushAll {} pushed).pending ++ chunk)
          (Cutter.push ⟨(Cutter.pushAll {} pushed).pending⟩ chunk) := by
  constructor
  · intro buffer length machine found
    have bounds := messageLengthWords_bounds found
    exact ⟨bounds.2 machine, bounds.1⟩
  · intro pushed inside
    have done : pushAllWords overflow pushed = some (Cutter.pushAll {} pushed) :=
      fits.pushAllWords_eq inside
    exact ⟨done, keeps_of_pushAllWords done, fun chunk more => fits.cuts more⟩

end

/-- A frame up to the middle of its body, where a NUL stands. -/
def halvedFront : List UInt8 :=
  Utf8.bytes "SEND\ncontent-length:3\n\na\x00"

/-- The rest of the frame comes later, with line ends and the start of another frame behind it. -/
def halvedChunks : List (List UInt8) :=
  [halvedFront, Utf8.bytes "b\x00\r\n\nSE"]

/-- What is cut of them: the frame, and each line end. -/
def halvedCut : Cut :=
  ⟨[Utf8.bytes "SEND\ncontent-length:3\n\na\x00b\x00", [13, 10], [10]], Utf8.bytes "SE"⟩

theorem pushAll_halvedFront : Cutter.pushAll {} [halvedFront] = ⟨[], halvedFront⟩ := by
  rw [pushAll_singleton, cutAll_of_none (by decide)]

theorem pushAll_halvedChunks : Cutter.pushAll {} halvedChunks = halvedCut := by
  have both := pushAll_concat [halvedFront] (Utf8.bytes "b\x00\r\n\nSE")
  rw [pushAll_halvedFront, Cutter.push,
    cutAll_of_some (show messageLength? _ = some 27 by decide),
    cutAll_of_some (show messageLength? _ = some 2 by decide),
    cutAll_of_some (show messageLength? _ = some 1 by decide), cutAll_of_none (by decide)] at both
  exact both

theorem fits_halvedChunks : Fits halvedChunks := by
  have first : Fits [halvedFront] := by
    refine fits_nil.concat (by decide) ?_
    rw [List.nil_append, pushAll_halvedFront]
    intro start length found
    have known : declared? halvedFront = some (23, 3) := by decide
    rw [known] at found
    cases found
    decide
  refine first.concat ?_ ?_
  · rw [pushAll_halvedFront]
    decide
  · intro start length found
    have whole := pushAll_halvedChunks
    rw [halvedChunks] at whole
    rw [List.singleton_append, whole] at found
    cases found

theorem keeps_all_bytes_halved :
    Fits halvedChunks ∧ pushAllWords .stops halvedChunks = some halvedCut ∧
      Keeps .stops halvedChunks halvedCut := by
  have kept := (keeps_all_bytes .stops fits_halvedChunks).2 halvedChunks List.prefix_rfl
  rw [pushAll_halvedChunks] at kept
  exact ⟨fits_halvedChunks, kept.1, kept.2.1⟩

end Relay
end ExchangeGrid
