import ExchangeGrid.Proofs.Relay.Messages
import ExchangeGrid.Proofs.Stomp.Grammar

namespace ExchangeGrid
namespace Relay

open Stomp

/-!
# Cutter and decoder at the end of a frame

The cutter and the decoder look for the end of a frame each in its own way.  The cutter takes the
lines of a head as they stand, looks for one with the right beginning, and lets the length pass that
it cannot read; the decoder splits every line at its colon, undoes escapes, and refuses what it
cannot read.  For the cutter a NUL counts wherever it stands, and for the decoder only behind the
blank line.

`finds_same_end` states that they find the same end, or both none, wherever the decoder
meets no fault.  It asks that no NUL stands before the blank line and no backslash in the line that
declares the length, and nothing of the other lines, of the bytes behind the frame, or of the limit.
What the cutter makes of a frame that the decoder refuses is left open.
-/

/-! ## The declared length -/

/-- The first of some lines that begins like one that declares a length. -/
def lengthLine? (lines : List (List Char)) : Option (List Char) :=
  lines.find? fun line => (after? lengthMark line).isSome

theorem lengthLine?_cons_of_none {line : List Char} (plain : after? lengthMark line = none)
    (lines : List (List Char)) : lengthLine? (line :: lines) = lengthLine? lines := by
  unfold lengthLine?
  rw [List.find?_cons, plain]
  rfl

/-- Escaping leaves the name of the length header as it is. -/
theorem unreserved_lengthHeader : ∀ c ∈ lengthHeader.toList, c ∉ ['\\', '\n', '\r', ':'] := by
  have all : lengthHeader.toList.all (fun c => c ∉ ['\\', '\n', '\r', ':']) = true := by decide
  intro c member
  exact of_decide_eq_true (List.all_eq_true.mp all c member)

/-- A line begins like one that declares a length exactly when its header is named so, and without
a backslash what follows is the value of that header, but for blanks at its ends. -/
theorem after?_piece {command : Command} {piece line : List Char} {header : Header}
    (holds : HoldsLine piece line) (tells : SaysHeader command line header) :
    (header.name ≠ lengthHeader ∧ after? lengthMark piece = none) ∨
      (header.name = lengthHeader ∧ ∃ value, after? lengthMark piece = some value ∧
        ('\\' ∉ piece → Blank.strip value = Blank.strip header.value.toList)) := by
  rcases tells with ⟨name, raw, rfl, noColon, namesHeader, givesValue⟩
  have pieceShape : ∃ value, piece = name ++ ':' :: value ∧ raw ⊆ value ∧
      Blank.strip value = Blank.strip raw := by
    rcases holds with rfl | ⟨rfl, -⟩
    · refine ⟨raw ++ ['\r'], ?_, List.subset_append_left raw _, Blank.strip_concat rfl raw⟩
      rw [List.append_assoc, List.cons_append]
    · exact ⟨raw, rfl, List.Subset.refl raw, rfl⟩
  rcases pieceShape with ⟨value, rfl, within, stripped⟩
  have sameName : header.name = lengthHeader ↔ name = lengthHeader.toList :=
    namesHeader.eq_iff unreserved_lengthHeader
  have mark : lengthMark = lengthHeader.toList ++ [':'] := by decide
  have found := after?_append_colon (by decide : ':' ∉ lengthHeader.toList) noColon value
  simp only [← mark, ← sameName] at found
  by_cases isLength : header.name = lengthHeader
  · refine Or.inr ⟨isLength, value, found.trans (if_pos isLength), ?_⟩
    intro noBackslash
    rcases givesValue.eq_or with same | ⟨written, -⟩
    · rw [stripped, same]
    · have inPiece := List.mem_append_right name (List.mem_cons_of_mem ':' (within written))
      exact (noBackslash inPiece).elim
  · exact Or.inl ⟨isLength, found.trans (if_neg isLength)⟩

/-- The first line that declares a length, and the first header that does, agree on it. -/
theorem findSome?_pieces {command : Command} {pieces lines : List (List Char)}
    {headers : List Header} (held : List.Forall₂ HoldsLine pieces lines)
    (listed : List.Forall₂ (SaysHeader command) lines headers)
    (unescaped : ∀ line, lengthLine? pieces = some line → '\\' ∉ line) :
    (pieces.findSome? (after? lengthMark)).map Blank.strip =
      (headers.find? (·.name == lengthHeader)).map (Blank.strip ·.value.toList) := by
  induction held generalizing headers with
  | nil =>
      cases listed
      rfl
  | cons holds held inductionHypothesis =>
      cases listed with
      | cons tells listed =>
          rw [List.findSome?_cons, List.find?_cons]
          rcases after?_piece holds tells with ⟨other, plain⟩ | ⟨isLength, value, found, agrees⟩
          · rw [plain, beq_eq_false_iff_ne.mpr other]
            apply inductionHypothesis listed
            intro line first
            apply unescaped
            rw [lengthLine?_cons_of_none plain]
            exact first
          · rw [found, isLength, beq_self_eq_true]
            have first := unescaped _ (List.find?_cons_of_pos (by rw [found]; rfl))
            exact congrArg Option.some (agrees first)

theorem after?_firstPiece {command : Command} {piece : List Char}
    (holds : HoldsLine piece command.name.toList) : after? lengthMark piece = none := by
  rcases holds with rfl | ⟨rfl, -⟩ <;> cases command <;> decide

def headLines (head : List UInt8) : List (List Char) :=
  match Utf8.text? head with
  | none => []
  | some text => splitOn '\n' text.toList

/-- Where a head can be read, the cutter reads off the length that its first length header gives. -/
theorem declaredLength?_of_readHead {head : List UInt8} {frame : Frame}
    (read : readHead head = .ok frame)
    (unescaped : ∀ line, lengthLine? (headLines head) = some line → '\\' ∉ line) :
    declaredLength? head = (frame.header? lengthHeader).bind fun value =>
      Decimal.natural? Decimal.wordBound (Blank.strip value.toList) := by
  have bare : frame = { command := frame.command, headers := frame.headers } := by
    rw [← body_of_readHead read]
  rw [bare] at read
  rcases readHead_eq_ok_iff.mp read with ⟨first, pieces, lines, rfl, noFeed, held, listed⟩
  rcases List.forall_mem_cons.mp noFeed with ⟨noFirst, noPiece⟩
  unfold headLines at unescaped
  unfold declaredLength?
  rw [Utf8.text?_bytes] at unescaped ⊢
  dsimp only at unescaped ⊢
  rw [String.toList_ofList, splitOn_pieces noFirst noPiece] at unescaped ⊢
  cases held with
  | cons firstHolds held =>
      have plain := after?_firstPiece firstHolds
      rw [lengthLine?_cons_of_none plain] at unescaped
      have agrees := findSome?_pieces held listed unescaped
      rw [List.findSome?_cons, plain]
      dsimp only
      unfold Frame.header?
      cases lineFound : pieces.findSome? (after? lengthMark) <;>
        cases headerFound : frame.headers.find? (·.name == lengthHeader) <;>
        rw [lineFound, headerFound] at agrees
      · rfl
      · cases agrees
      · cases agrees
      · have same := Option.some.inj agrees
        dsimp only at same ⊢
        rw [same]
        rfl

/-- Both readers are told the same length. -/
theorem declaredLength?_eq {head : List UInt8} {frame : Frame} {told : Option Nat}
    (read : readHead head = .ok frame) (declared : declaredLength frame = .ok told)
    (unescaped : ∀ line, lengthLine? (headLines head) = some line → '\\' ∉ line) :
    declaredLength? head = told := by
  rw [declaredLength?_of_readHead read unescaped]
  cases told with
  | none =>
      rw [declaredLength_eq_none_iff.mp declared]
      rfl
  | some length =>
      rcases declaredLength_eq_some_iff.mp declared with ⟨value, header, reads⟩
      rw [header]
      exact reads

/-! ## The end of a frame -/

/-- What makes the readings of a buffer comparable: no NUL before the blank line, or anywhere while
there is none, and no backslash in the first line of the head that declares a length. -/
structure IsClear (buffer : List UInt8) : Prop where
  headless : split? buffer = none → 0 ∉ buffer
  nul_free : ∀ cut, split? buffer = some cut → 0 ∉ cut.head
  unescaped : ∀ cut line, split? buffer = some cut →
    lengthLine? (headLines cut.head) = some line → '\\' ∉ line

section
variable {limit : Nat} {buffer : List UInt8} {cut : Split}

theorem IsClear.zero_not_mem (clear : IsClear buffer) (cutEq : split? buffer = some cut) :
    0 ∉ cut.head ++ cut.blank := by
  rw [List.mem_append, not_or]
  refine ⟨clear.nul_free cut cutEq, ?_⟩
  rcases blank_cases_of_splitFrom cutEq with blank | blank <;> rw [blank] <;> decide

/-- The cutter finds the end of every frame that is taken. -/
theorem frameLength?_of_taken {frame : Frame} {rest : List UInt8} (clear : IsClear buffer)
    (cutEq : split? buffer = some cut) (taken : Taken limit cut frame rest) :
    frameLength? buffer = some (buffer.length - rest.length) := by
  have shape : buffer = cut.head ++ cut.blank ++ frame.body ++ 0 :: rest := by
    rw [← append_of_split? cutEq, taken.rest_eq, ← List.append_assoc]
  have size := congrArg List.length shape
  simp only [List.length_append, List.length_cons] at size
  have same {told : Option Nat} (declared : declaredLength frame = .ok told) :
      declaredLength? cut.head = told :=
    declaredLength?_eq taken.head_read declared fun line => clear.unescaped cut line cutEq
  rcases taken.ends with ⟨undeclared, noNul⟩ | ⟨declared, -⟩
  · have absent : 0 ∉ cut.head ++ cut.blank ++ frame.body :=
      fun member => (List.mem_append.mp member).elim (clear.zero_not_mem cutEq) noNul
    rw [frameLength?_of_untold cutEq (same undeclared), shape, terminatedLength?_append absent]
    simp only [List.length_append, List.length_cons, Option.some.injEq]
    omega
  · rw [frameLength?_of_told cutEq (same declared), if_pos (by omega)]
    congr 1
    omega

/-- The cutter waits where the decoder does. -/
theorem frameLength?_of_awaits (clear : IsClear buffer) (awaits : Awaits limit buffer) :
    frameLength? buffer = none := by
  cases awaits with
  | start few => rcases few with rfl | rfl <;> rfl
  | blank missing within =>
      rw [frameLength?_of_missing missing]
      exact terminatedLength?_of_not_mem (clear.headless missing)
  | terminator cut head cutEq read undeclared missing within =>
      have untold := declaredLength?_eq read undeclared fun line => clear.unescaped cut line cutEq
      rw [frameLength?_of_untold cutEq untold]
      apply terminatedLength?_of_not_mem
      rw [← append_of_split? cutEq]
      exact fun member => (List.mem_append.mp member).elim (clear.zero_not_mem cutEq) missing
  | body cut head length cutEq read declared missing within =>
      have told := declaredLength?_eq read declared fun line => clear.unescaped cut line cutEq
      rw [frameLength?_of_told cutEq told]
      apply if_neg
      rw [← append_of_split? cutEq]
      simp only [List.length_append]
      omega

theorem messageLength?_of_not_startsLineEnd (starts : ¬ StartsLineEnd buffer) :
    messageLength? buffer = frameLength? buffer := by
  unfold messageLength?
  split
  · rfl
  · exact (starts (Or.inl ⟨_, rfl⟩)).elim
  · exact (starts (Or.inr ⟨_, rfl⟩)).elim
  · rfl

theorem dropLineEnds_of_not_startsLineEnd (starts : ¬ StartsLineEnd buffer) :
    dropLineEnds buffer = buffer := by
  unfold dropLineEnds
  split
  · exact (starts (Or.inl ⟨_, rfl⟩)).elim
  · exact (starts (Or.inr ⟨_, rfl⟩)).elim
  · rfl

end

/-- Where a decoder meets no fault, the cutter finds the end of a frame exactly when the decoder
takes one, and after just as many bytes. -/
theorem finds_same_end {limit length : Nat} {buffer : List UInt8}
    (starts : ¬ StartsLineEnd buffer) (clear : IsClear buffer)
    (faultless : ∀ fault rest, decode limit buffer ≠ .fault fault rest) :
    messageLength? buffer = some length ↔
      ∃ frame rest, decode limit buffer = .frame frame rest ∧
        length + rest.length = buffer.length := by
  rw [messageLength?_of_not_startsLineEnd starts]
  unfold decode at faultless ⊢
  rw [dropLineEnds_of_not_startsLineEnd starts] at faultless ⊢
  cases found : decodeFrame limit buffer with
  | frame frame rest =>
      rcases decodeFrame_eq_frame_iff.mp found with ⟨cut, cutEq, taken⟩
      have shorter := length_lt_of_decodeFrame found
      rw [frameLength?_of_taken clear cutEq taken, Option.some.injEq]
      constructor
      · intro same
        exact ⟨frame, rest, rfl, by omega⟩
      · rintro ⟨other, behind, same, total⟩
        cases same
        omega
  | waiting rest =>
      rw [frameLength?_of_awaits clear (decodeFrame_eq_waiting found).2]
      constructor
      · exact nofun
      · rintro ⟨frame, behind, impossible, -⟩
        cases impossible
  | fault fault rest => exact (faultless fault rest found).elim

theorem split?_looseBytes : split? looseBytes =
    some ⟨Utf8.bytes "MESSAGE\r\n:x\\c:y\r\ncontent-length: +3 \ncontent-length:9", [10, 13, 10],
      Utf8.bytes "a\x00b\x00\nSEND"⟩ := rfl

/-- The head of these bytes has a backslash, but in a line that declares no length. -/
theorem isClear_looseBytes : IsClear looseBytes where
  headless missing := by
    rw [split?_looseBytes] at missing
    cases missing
  nul_free cut found := by
    rw [split?_looseBytes] at found
    cases found
    decide
  unescaped cut line found first := by
    rw [split?_looseBytes] at found
    cases found
    have isLine : line = "content-length: +3 ".toList := (Option.some.inj first).symm
    rw [isLine]
    decide

theorem finds_same_end_loose :
    ¬ StartsLineEnd looseBytes ∧ IsClear looseBytes ∧
      (∀ fault rest, decode 80 looseBytes ≠ .fault fault rest) ∧
      messageLength? looseBytes = some 60 := by
  have taken : decode 80 looseBytes = .frame looseFrame (Utf8.bytes "\nSEND") := rfl
  have faultless : ∀ fault rest, decode 80 looseBytes ≠ .fault fault rest := by
    intro fault rest
    rw [taken]
    exact nofun
  refine ⟨by decide, isClear_looseBytes, faultless, ?_⟩
  apply (finds_same_end (by decide) isClear_looseBytes faultless).mpr
  exact ⟨looseFrame, Utf8.bytes "\nSEND", taken, by decide⟩

end Relay
end ExchangeGrid
