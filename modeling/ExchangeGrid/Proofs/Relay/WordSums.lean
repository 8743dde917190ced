import ExchangeGrid.Proofs.Relay.Messages
import ExchangeGrid.Proofs.Stomp.Grammar
import ExchangeGrid.Relay.Words

namespace ExchangeGrid

/-!
# Lengths that are no words

The length of a body comes from the other side, and may be as large as a word can be.  A reader and
a cutter add it to the place where the body starts before they compare anything.

Where the sums are words, both do what they do with whole numbers, and no byte is asked for that is
not there.  Where they are not, the frame is longer than any limit, but nobody notices:
`words_settle` says what happens instead.  A program that checks its sums stops.  One that does not
either takes the other side for a breaker of the protocol or stops at a byte that is not there, and
its cutter sends a part of the head for a message.
-/

namespace Stomp

/-! ## A reader -/

/-- What a reader comes to where the length of the frame is no word.  What is left of it decides:
it is taken for the length, and the byte before it for the end of the frame. -/
def astray (overflow : Overflow) (limit : Nat) (left : Nat) (buffer : List UInt8) :
    Option Decoded :=
  match overflow, left with
  | .stops, _ => none
  | .wraps, 0 => none
  | .wraps, left + 1 =>
    if limit < left + 1 then some (.fault (.tooLarge limit) buffer)
    else if buffer[left]? = some 0 then none
    else some (.fault (.protocol .missingTerminator) buffer)

section
variable {overflow : Overflow} {limit : Nat} {told : Declaration} {buffer rest : List UInt8}

theorem length_lt_of_declaration? (found : declaration? buffer = some told) :
    told.length < Decimal.wordBound := by
  rcases declaration?_eq_some found with ⟨-, -, declared⟩
  rcases declaredLength_eq_some_iff.mp declared with ⟨value, -, read⟩
  exact Decimal.lt_of_natural? (by decide) read

theorem start_le_of_declaration? (found : declaration? buffer = some told) :
    told.start ≤ buffer.length := by
  rw [← append_of_split? (declaration?_eq_some found).1, List.length_append, List.length_append]
  exact Nat.le_add_right _ _

theorem takeWords_stops (lost : Decimal.wordBound ≤ told.start + told.length + 1) :
    takeWords .stops limit told buffer = none := by
  unfold takeWords
  rcases Nat.lt_or_ge (told.start + told.length) Decimal.wordBound with fits | first
  · rw [Overflow.sum?_of_lt fits]
    simp only [Option.bind_eq_bind, Option.bind_some]
    rw [Overflow.sum?_stops lost, Option.bind_none]
  · rw [Overflow.sum?_stops first, Option.bind_eq_bind, Option.bind_none]

/-- Where the last sum alone is no word, nothing is left of it, and the byte before that place is
not there. -/
theorem takeWords_wraps_of_eq (machine : buffer.length < Decimal.wordBound)
    (lost : told.start + told.length + 1 = Decimal.wordBound) :
    takeWords .wraps limit told buffer = none := by
  have last : Overflow.wraps.sum? told.start told.length = some (told.start + told.length) :=
    Overflow.sum?_of_lt (by omega)
  have missing : buffer[told.start + told.length]? = none :=
    List.getElem?_eq_none (by omega)
  unfold takeWords
  rw [last]
  simp only [Option.bind_eq_bind, Option.bind_some]
  rw [Overflow.sum?_wraps_of_add (lost.trans (Nat.zero_add _).symm) (by decide)]
  simp only [Option.bind_some]
  rw [if_neg (Nat.not_lt_zero _), if_neg (Nat.not_lt_zero _), missing, Option.bind_none]

/-- Where already the first sum is no word, the byte that is looked at stands before the body. -/
theorem takeWords_wraps_of_lt {left : Nat} (found : declaration? buffer = some told)
    (machine : buffer.length < Decimal.wordBound)
    (lost : told.start + told.length = left + Decimal.wordBound) :
    takeWords .wraps limit told buffer =
      if limit < left + 1 then some (.fault (.tooLarge limit) buffer)
      else if buffer[left]? = some 0 then none
      else some (.fault (.protocol .missingTerminator) buffer) := by
  have short := length_lt_of_declaration? found
  have within := start_le_of_declaration? found
  have before : left < told.start := by omega
  unfold takeWords
  rw [Overflow.sum?_wraps_of_add lost (by omega)]
  simp only [Option.bind_eq_bind, Option.bind_some]
  rw [Overflow.sum?_of_lt (by omega)]
  simp only [Option.bind_some]
  by_cases tooLong : limit < left + 1
  · rw [if_pos tooLong, if_pos tooLong]
  rw [if_neg tooLong, if_neg tooLong, if_neg (by omega),
    List.getElem?_eq_getElem (Nat.lt_of_lt_of_le before within)]
  generalize buffer[left] = byte
  simp only [Option.bind_some, Option.some.injEq]
  by_cases isNul : byte = 0
  · have missing : takeBody? told.start told.length (left + 1) buffer = none := by
      rw [Option.eq_none_iff_forall_ne_some]
      rintro ⟨body, behind⟩ taken
      have holds := le_of_takeBody? taken
      omega
    rw [if_neg (fun other => other isNul), if_pos isNul, missing, Option.bind_none]
  · rw [if_pos isNul, if_neg isNul]

/-- What a machine comes to where the sums are no words. -/
theorem decodeWords_of_lost {left : Nat} (found : declaration? (dropLineEnds buffer) = some told)
    (machine : buffer.length < Decimal.wordBound)
    (lost : told.start + told.length + 1 = left + Decimal.wordBound) :
    decodeWords overflow limit buffer = astray overflow limit left (dropLineEnds buffer) := by
  have within := Nat.lt_of_le_of_lt (length_dropLineEnds_le buffer) machine
  rw [decodeWords_of_told found]
  cases overflow with
  | stops => exact takeWords_stops (lost ▸ Nat.le_add_left _ _)
  | wraps =>
      cases left with
      | zero => exact takeWords_wraps_of_eq within (lost.trans (Nat.zero_add _))
      | succ left => exact takeWords_wraps_of_lt found within (by omega)

/-- A frame whose end is no word is longer than any limit. -/
theorem decode_of_lost (found : declaration? (dropLineEnds buffer) = some told)
    (bounded : limit < Decimal.wordBound)
    (lost : Decimal.wordBound ≤ told.start + told.length + 1) :
    decode limit buffer = .fault (.tooLarge limit) (dropLineEnds buffer) := by
  rw [decode_of_declaration? found]
  unfold takeMeasured
  exact if_pos (Nat.lt_of_lt_of_le bounded lost)

/-- Frames that are read without outgrowing the limit are read likewise by a machine. -/
theorem drainWords_eq_drain (bounded : limit < Decimal.wordBound)
    (clean : (drain limit buffer).fault ≠ some (.tooLarge limit)) :
    drainWords overflow limit buffer = some (drain limit buffer) := by
  have looks {front : List UInt8}
      (other : ∀ rest, decode limit front ≠ .fault (.tooLarge limit) rest) :
      decodeWords overflow limit front = some (decode limit front) := by
    cases found : declaration? (dropLineEnds front) with
    | none => exact decodeWords_of_untold found
    | some told =>
        apply decodeWords_of_fits found
        apply Nat.lt_of_not_le
        intro lost
        exact other _ (decode_of_lost found bounded lost)
  induction buffer using drain.induct limit with
  | case1 buffer frame rest found inductionHypothesis =>
      rw [drain_of_frame found] at clean ⊢
      rw [drainWords_eq, looks (by simp [found]), found]
      dsimp only
      rw [inductionHypothesis clean]
      rfl
  | case2 buffer rest found =>
      rw [drainWords_eq, looks (by simp [found]), found, drain_of_waiting found]
  | case3 buffer fault rest found =>
      rw [drain_of_fault found] at clean ⊢
      have other (rest : List UInt8) : decode limit buffer ≠ .fault (.tooLarge limit) rest := by
        rw [found]
        intro same
        cases same
        exact clean rfl
      rw [drainWords_eq, looks other, found]

end
end Stomp

namespace Relay

open Stomp

/-! ## A cutter -/

section
variable {overflow : Overflow} {start length : Nat} {buffer : List UInt8}

/-- A cutter adds only what stands in a head. -/
theorem declared?_eq_some (found : declared? buffer = some (start, length)) :
    StartsFrame buffer ∧ ∃ cut, split? buffer = some cut ∧ declaredLength? cut.head = some length ∧
      start = cut.head.length + cut.blank.length := by
  unfold declared? at found
  split at found
  · cases found
  · cases found
  · cases found
  rename_i ne_nil no_lineFeed no_pair
  split at found
  · cases found
  rename_i cut cutEq
  rcases Option.map_eq_some_iff.mp found with ⟨size, sizeEq, same⟩
  cases same
  have ne_return : buffer ≠ [13] := by
    rintro rfl
    cases cutEq
  exact ⟨⟨ne_nil, ne_return, no_lineFeed, no_pair⟩, cut, cutEq, sizeEq, rfl⟩

theorem messageLength?_of_declared? (found : declared? buffer = some (start, length)) :
    messageLength? buffer =
      if start + length < buffer.length then some (start + length + 1) else none := by
  rcases declared?_eq_some found with ⟨starts, cut, cutEq, sizeEq, rfl⟩
  rw [messageLength?_of_startsFrame starts, frameLength?_of_told cutEq sizeEq]

/-- The place where the body starts lies in the buffer, and the length is a word. -/
theorem declared?_bounds (found : declared? buffer = some (start, length)) :
    start ≤ buffer.length ∧ length < Decimal.wordBound := by
  rcases declared?_eq_some found with ⟨-, cut, cutEq, sizeEq, rfl⟩
  constructor
  · rw [← append_of_split? cutEq, List.length_append, List.length_append]
    exact Nat.le_add_right _ _
  · unfold declaredLength? at sizeEq
    split at sizeEq
    · cases sizeEq
    split at sizeEq
    · cases sizeEq
    · exact Decimal.lt_of_natural? (by decide) sizeEq

theorem messageLengthWords_of_untold (untold : declared? buffer = none) :
    messageLengthWords overflow buffer = some (messageLength? buffer) := by
  unfold messageLengthWords
  rw [untold]

theorem messageLengthWords_of_fits (machine : buffer.length < Decimal.wordBound)
    (found : declared? buffer = some (start, length))
    (fits : start + length < Decimal.wordBound) :
    messageLengthWords overflow buffer = some (messageLength? buffer) := by
  unfold messageLengthWords
  rw [found, messageLength?_of_declared? found]
  simp only [Option.bind_eq_bind]
  rw [Overflow.sum?_of_lt fits, Option.bind_some]
  by_cases whole : start + length < buffer.length
  · rw [if_pos whole, if_pos whole, Overflow.sum?_of_lt (Nat.lt_of_le_of_lt whole machine),
      Option.bind_some]
  · rw [if_neg whole, if_neg whole]

/-- A frame whose end is no word has not arrived. -/
theorem messageLength?_of_lost (machine : buffer.length < Decimal.wordBound)
    (found : declared? buffer = some (start, length))
    (lost : Decimal.wordBound ≤ start + length) : messageLength? buffer = none := by
  rw [messageLength?_of_declared? found, if_neg]
  omega

/-- What a machine cuts where the end of a frame is no word. -/
theorem messageLengthWords_of_lost {left : Nat} (machine : buffer.length < Decimal.wordBound)
    (found : declared? buffer = some (start, length))
    (lost : start + length = left + Decimal.wordBound) :
    messageLengthWords overflow buffer =
      match overflow with
      | .stops => none
      | .wraps => some (some (left + 1)) := by
  rcases declared?_bounds found with ⟨within, short⟩
  unfold messageLengthWords
  rw [found]
  simp only [Option.bind_eq_bind]
  cases overflow with
  | stops => rw [Overflow.sum?_stops (lost ▸ Nat.le_add_left _ _), Option.bind_none]
  | wraps =>
      rw [Overflow.sum?_wraps_of_add lost (by omega), Option.bind_some, if_pos (by omega),
        Overflow.sum?_of_lt (by omega), Option.bind_some]

/-- Bytes are cut likewise by a machine, unless the end of what is left in the end is no word. -/
theorem cutAllWords_eq_cutAll (machine : buffer.length < Decimal.wordBound)
    (fits : ∀ start length, declared? (cutAll buffer).pending = some (start, length) →
      start + length < Decimal.wordBound) :
    cutAllWords overflow buffer = some (cutAll buffer) := by
  induction buffer using cutAll.induct with
  | case1 buffer waits =>
      rw [cutAll_of_none waits] at fits ⊢
      have same : messageLengthWords overflow buffer = some none := by
        rw [← waits]
        cases found : declared? buffer with
        | none => exact messageLengthWords_of_untold found
        | some place => exact messageLengthWords_of_fits machine found (fits _ _ found)
      rw [cutAllWords, same]
  | case2 buffer total found inductionHypothesis =>
      have bounds := messageLength?_bounds found
      rw [cutAll_eq, found] at fits ⊢
      have same : messageLengthWords overflow buffer = some (some total) := by
        rw [← found]
        cases told : declared? buffer with
        | none => exact messageLengthWords_of_untold told
        | some place =>
            apply messageLengthWords_of_fits machine told
            apply Nat.lt_of_not_le
            intro lost
            rw [messageLength?_of_lost machine told lost] at found
            cases found
      have shorter : (buffer.drop total).length < buffer.length := by
        rw [List.length_drop]
        omega
      rw [cutAllWords, same]
      dsimp only
      rw [dif_pos shorter, inductionHypothesis (Nat.lt_trans shorter machine) fits]
      rfl

end

/-! ## Both -/

/-- With a declared length, a reader and a cutter find what there is to be found wherever their sums
are words.  Wherever they are not, the frame is too large and has not arrived; but what is found is
decided by what is left of the sum. -/
theorem words_settle {buffer : List UInt8} {limit : Nat} (overflow : Overflow)
    (machine : buffer.length < Decimal.wordBound) (bounded : limit < Decimal.wordBound) :
    (∀ told, declaration? (dropLineEnds buffer) = some told →
      (told.start + told.length + 1 < Decimal.wordBound →
        decodeWords overflow limit buffer = some (decode limit buffer)) ∧
      ∀ left, told.start + told.length + 1 = left + Decimal.wordBound →
        decode limit buffer = .fault (.tooLarge limit) (dropLineEnds buffer) ∧
        decodeWords overflow limit buffer = astray overflow limit left (dropLineEnds buffer)) ∧
    (declaration? (dropLineEnds buffer) = none →
      decodeWords overflow limit buffer = some (decode limit buffer)) ∧
    (∀ start length, declared? buffer = some (start, length) →
      (start + length < Decimal.wordBound →
        messageLengthWords overflow buffer = some (messageLength? buffer)) ∧
      ∀ left, start + length = left + Decimal.wordBound →
        messageLength? buffer = none ∧
        messageLengthWords overflow buffer =
          match overflow with
          | .stops => none
          | .wraps => some (some (left + 1))) ∧
    (declared? buffer = none →
      messageLengthWords overflow buffer = some (messageLength? buffer)) := by
  refine ⟨?_, decodeWords_of_untold, ?_, messageLengthWords_of_untold⟩
  · intro told found
    refine ⟨decodeWords_of_fits found, ?_⟩
    intro left lost
    have outgrown := decode_of_lost found bounded (lost ▸ Nat.le_add_left _ _)
    exact ⟨outgrown, decodeWords_of_lost found machine lost⟩
  · intro start length found
    refine ⟨messageLengthWords_of_fits machine found, ?_⟩
    intro left lost
    have waits := messageLength?_of_lost machine found (lost ▸ Nat.le_add_left _ _)
    exact ⟨waits, messageLengthWords_of_lost machine found lost⟩

/-- A message that declares as many bytes as there are words behind its head, but for the one that
the NUL takes. -/
def boundlessBytes : List UInt8 :=
  Utf8.bytes "MESSAGE\ncontent-length:18446744073709551570\n\n\x00"

def boundless : Declaration where
  cut := ⟨Utf8.bytes "MESSAGE\ncontent-length:18446744073709551570", [10, 10], [0]⟩
  head := { command := .message, headers := [⟨"content-length", "18446744073709551570"⟩] }
  length := 18446744073709551570

theorem words_settle_boundless :
    boundlessBytes.length < Decimal.wordBound ∧ defaultLimit < Decimal.wordBound ∧
      declaration? (dropLineEnds boundlessBytes) = some boundless ∧
      boundless.start + boundless.length + 1 = 0 + Decimal.wordBound ∧
      decodeWords .wraps defaultLimit boundlessBytes =
        astray .wraps defaultLimit 0 (dropLineEnds boundlessBytes) := by
  have machine : boundlessBytes.length < Decimal.wordBound := by decide
  have bounded : defaultLimit < Decimal.wordBound := by decide
  have found : declaration? (dropLineEnds boundlessBytes) = some boundless := by rfl
  have lost : boundless.start + boundless.length + 1 = 0 + Decimal.wordBound := by decide
  refine ⟨machine, bounded, found, lost, ?_⟩
  exact (((words_settle .wraps machine bounded).1 boundless found).2 0 lost).2

/-- The sum of a parsed length need not be a word: however the program was built, a reader stops at
this message instead of refusing it as too large. -/
theorem stops_at_boundless :
    declaration? (dropLineEnds boundlessBytes) = some boundless ∧
      ¬ boundless.start + boundless.length + 1 < Decimal.wordBound ∧
      (∀ overflow, decodeWords overflow defaultLimit boundlessBytes = none) ∧
      decode defaultLimit boundlessBytes = .fault (.tooLarge defaultLimit) boundlessBytes := by
  refine ⟨by rfl, by decide, ?_, by rfl⟩
  intro overflow
  cases overflow with
  | stops => rfl
  | wraps => rfl

end Relay
end ExchangeGrid
