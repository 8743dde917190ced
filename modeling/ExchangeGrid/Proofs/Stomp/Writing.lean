import ExchangeGrid.Proofs.Stomp.Answer

namespace ExchangeGrid
namespace Stomp

/-!
# What a written frame looks like

The bytes of a frame are the lines of its head, a blank line, the body and a NUL.  A reader finds
the head again by looking for the first blank line and then cutting at line feeds and at the first
colon of each line, so the lines have to keep out of its way.  Escaped headers always do.  Headers
of the opening exchange are written as they are, and only those that hold no line feed, no colon in
the name and no carriage return at the end are found again.

`split?_encode_append` and `readHead_headText` say what a reader finds in a written frame, with any
bytes behind it.  Much less is asked of a frame for its head to be found than for it to be read as
it was: `Frame.KeepsLines` is enough for the first, and `readHead_headText_of_lines` then leaves it
to the lines what is read from them.
-/

/-! ## Lines of a head -/

/-- A header as one line, without its line feed. -/
def Header.line (command : Command) (header : Header) : List Char :=
  headerText command header.name ++ ':' :: headerText command header.value

/-- The head of a frame as one text, without the line feed at its end. -/
def Frame.headText (frame : Frame) : List Char :=
  frame.command.name.toList ++ (frame.headers.map (Header.line frame.command)).flatMap ('\n' :: ·)

/-- The condition under which the header lines of a frame are found again.  Nothing is asked of
frames that escape their headers. -/
structure Frame.Plain (frame : Frame) : Prop where
  names : frame.command.escapes = false → ∀ header ∈ frame.headers,
    ':' ∉ header.name.toList ∧ '\n' ∉ header.name.toList
  values : frame.command.escapes = false → ∀ header ∈ frame.headers,
    '\n' ∉ header.value.toList ∧ header.value.toList.getLast? ≠ some '\r'

/-- What a reader relies on in the two texts of a header line. -/
structure Header.Legible (command : Command) (header : Header) : Prop where
  name_no_colon : ':' ∉ headerText command header.name
  name_no_feed : '\n' ∉ headerText command header.name
  value_no_feed : '\n' ∉ headerText command header.value
  value_no_return : (headerText command header.value).getLast? ≠ some '\r'

theorem not_mem_write_of_reserved {text : List Char} {c : Char}
    (reserved : c = '\n' ∨ c = '\r' ∨ c = ':') : c ∉ Escape.write text := by
  intro member
  rcases Escape.mem_of_mem_write member with inEscape | ⟨-, noFeed, noReturn, noColon⟩
  · rcases reserved with rfl | rfl | rfl <;> exact absurd inEscape (by decide)
  · rcases reserved with isFeed | isReturn | isColon
    · exact noFeed isFeed
    · exact noReturn isReturn
    · exact noColon isColon

theorem Frame.Plain.legible {frame : Frame} (plain : frame.Plain) {header : Header}
    (member : header ∈ frame.headers) : header.Legible frame.command := by
  cases escapes : frame.command.escapes with
  | false =>
      have name := plain.names escapes header member
      have value := plain.values escapes header member
      constructor <;> unfold headerText <;> rw [escapes, if_neg Bool.false_ne_true]
      · exact name.1
      · exact name.2
      · exact value.1
      · exact value.2
  | true =>
      constructor <;> unfold headerText <;> rw [escapes, if_pos rfl]
      · exact not_mem_write_of_reserved (Or.inr (Or.inr rfl))
      · exact not_mem_write_of_reserved (Or.inl rfl)
      · exact not_mem_write_of_reserved (Or.inl rfl)
      · intro last
        exact not_mem_write_of_reserved (Or.inr (Or.inl rfl)) (List.mem_of_getLast? last)

theorem readHeaderText_headerText (command : Command) (raw : String) :
    readHeaderText command (headerText command raw) = .ok raw.toList := by
  unfold readHeaderText headerText
  cases command.escapes with
  | false => rfl
  | true => exact Escape.read_write raw.toList

/-- A written header line is read as the header, if it is cut at the right colon. -/
theorem readHeader_line {command : Command} {header : Header}
    (noColon : ':' ∉ headerText command header.name) :
    readHeader command (header.line command) = .ok header := by
  unfold readHeader Header.line
  rw [splitOnce?_append noColon]
  dsimp only
  rw [readHeaderText_headerText, readHeaderText_headerText]
  show Except.ok (Header.mk _ _) = _
  rw [String.ofList_toList, String.ofList_toList]

theorem readHeaders_lines {command : Command} {headers : List Header}
    (noColon : ∀ header ∈ headers, ':' ∉ headerText command header.name) :
    readHeaders command (headers.map (Header.line command)) = .ok headers := by
  induction headers with
  | nil => rfl
  | cons header headers inductionHypothesis =>
      have first := readHeader_line (noColon header List.mem_cons_self)
      have later := inductionHypothesis fun other member =>
        noColon other (List.mem_cons_of_mem header member)
      rw [List.map_cons, readHeaders, first, later]
      rfl

theorem getLast?_line (command : Command) (header : Header) :
    (header.line command).getLast? =
      some ((headerText command header.value).getLast?.getD ':') := by
  unfold Header.line
  rw [List.getLast?_append, List.getLast?_cons]
  rfl

/-- No carriage return is taken off a written header line. -/
theorem dropReturn_line {command : Command} {header : Header} (legible : header.Legible command) :
    dropReturn (header.line command) = header.line command := by
  have noReturn : (header.line command).getLast? ≠ some '\r' := by
    rw [getLast?_line]
    have kept := legible.value_no_return
    cases last : (headerText command header.value).getLast? with
    | none => decide
    | some c =>
        rw [last] at kept
        exact kept
  unfold dropReturn
  rw [if_neg noReturn]

theorem feed_not_mem_line {command : Command} {header : Header} (legible : header.Legible command) :
    '\n' ∉ header.line command := by
  unfold Header.line
  rw [List.mem_append, List.mem_cons]
  rintro (inName | isColon | inValue)
  · exact legible.name_no_feed inName
  · exact absurd isColon (by decide)
  · exact legible.value_no_feed inValue

/-- The header lines of a frame are lines: no line feed stands in one of them. -/
def Frame.KeepsLines (frame : Frame) : Prop :=
  ∀ header ∈ frame.headers, '\n' ∉ header.line frame.command

theorem Frame.Plain.keepsLines {frame : Frame} (plain : frame.Plain) : frame.KeepsLines :=
  fun _ member => feed_not_mem_line (plain.legible member)

/-- The lines of a head are found again where a line feed stands. -/
theorem splitOn_headText {frame : Frame} (keeps : frame.KeepsLines) :
    splitOn '\n' frame.headText =
      frame.command.name.toList :: frame.headers.map (Header.line frame.command) := by
  have noFeed : '\n' ∉ frame.command.name.toList := by
    cases frame.command <;> decide
  apply splitOn_pieces noFeed
  intro line member
  obtain ⟨header, listed, rfl⟩ := List.mem_map.mp member
  exact keeps header listed

/-- The head of a written frame is read as its command and what its lines are read as. -/
theorem readHead_headText_of_lines {frame : Frame} {headers : List Header}
    (keeps : frame.KeepsLines)
    (reads : readHeaders frame.command
      ((frame.headers.map (Header.line frame.command)).map dropReturn) = .ok headers) :
    readHead (Utf8.bytes (String.ofList frame.headText)) =
      .ok { command := frame.command, headers } := by
  have name : dropReturn frame.command.name.toList = frame.command.name.toList := by
    cases frame.command <;> decide
  unfold readHead
  rw [Utf8.text?_bytes]
  dsimp only
  rw [String.toList_ofList, splitOn_headText keeps, List.map_cons, name]
  dsimp only
  rw [String.ofList_toList, Command.ofName?_name]
  dsimp only
  rw [reads]

/-- The head of a written frame is read as the frame without its body. -/
theorem readHead_headText {frame : Frame} (plain : frame.Plain) :
    readHead (Utf8.bytes (String.ofList frame.headText)) = .ok { frame with body := [] } := by
  have lines : (frame.headers.map (Header.line frame.command)).map dropReturn =
      frame.headers.map (Header.line frame.command) := by
    rw [List.map_map]
    apply List.map_congr_left
    intro header member
    exact dropReturn_line (plain.legible member)
  apply readHead_headText_of_lines plain.keepsLines
  rw [lines]
  exact readHeaders_lines fun _ member => (plain.legible member).name_no_colon

/-! ## The blank line behind the head -/

/-- Bytes without a line feed hold no blank line. -/
theorem splitFrom_line {line : List UInt8} (absent : 10 ∉ line) (before rest : List UInt8) :
    splitFrom before (line ++ rest) = splitFrom (line.reverse ++ before) rest := by
  induction line generalizing before with
  | nil => rfl
  | cons byte line inductionHypothesis =>
      rw [List.mem_cons, not_or] at absent
      have noFeed (isFeed : byte = 10) : StartsFrame (line ++ rest) := absurd isFeed.symm absent.1
      rw [List.cons_append, splitFrom_cons noFeed, inductionHypothesis absent.2,
        List.reverse_cons, List.append_assoc]
      rfl

/-- A line that could not be taken for a line end, nor its start for the half of one. -/
structure IsHeadLine (line : List UInt8) : Prop where
  no_feed : 10 ∉ line
  ne_nil : line ≠ []
  ne_return : line ≠ [13]

theorem IsHeadLine.startsFrame {line : List UInt8} (isLine : IsHeadLine line) :
    StartsFrame line := by
  refine ⟨isLine.ne_nil, isLine.ne_return, ?_, ?_⟩
  · rintro rest rfl
    exact isLine.no_feed List.mem_cons_self
  · rintro rest rfl
    exact isLine.no_feed (List.mem_cons_of_mem _ List.mem_cons_self)

/-- The first blank line stands behind the last line. -/
theorem splitFrom_lines {lines : List (List UInt8)} (isLine : ∀ line ∈ lines, IsHeadLine line)
    (before rest : List UInt8) :
    splitFrom before (lines.flatMap (10 :: ·) ++ 10 :: 10 :: rest) =
      some ⟨before.reverse ++ lines.flatMap (10 :: ·), [10, 10], rest⟩ := by
  induction lines generalizing before with
  | nil =>
      rw [List.flatMap_nil, List.append_nil]
      rfl
  | cons line lines inductionHypothesis =>
      have first := isLine line List.mem_cons_self
      have later := inductionHypothesis fun other member =>
        isLine other (List.mem_cons_of_mem line member)
      rw [List.flatMap_cons, List.append_assoc, List.cons_append,
        splitFrom_cons fun _ => first.startsFrame.append _, splitFrom_line first.no_feed, later]
      simp

theorem bytes_line (command : Command) (header : Header) :
    Utf8.bytes (String.ofList (header.line command)) =
      Utf8.bytes (String.ofList (headerText command header.name)) ++ 58 ::
        Utf8.bytes (String.ofList (headerText command header.value)) := by
  unfold Header.line
  rw [Utf8.bytes_append, Utf8.bytes_cons]
  rfl

theorem isHeadLine_line {command : Command} {header : Header}
    (noFeed : '\n' ∉ header.line command) :
    IsHeadLine (Utf8.bytes (String.ofList (header.line command))) := by
  have colon : 58 ∈ Utf8.bytes (String.ofList (header.line command)) := by
    rw [bytes_line]
    exact List.mem_append_right _ List.mem_cons_self
  refine ⟨Utf8.not_mem_bytes noFeed rfl (by decide), ?_, ?_⟩
  · intro empty
    rw [empty] at colon
    cases colon
  · intro onlyReturn
    rw [onlyReturn] at colon
    exact absurd colon (by decide)

theorem bytes_headText (frame : Frame) :
    Utf8.bytes (String.ofList frame.headText) =
      Utf8.bytes frame.command.name ++
        (frame.headers.map fun header =>
          Utf8.bytes (String.ofList (header.line frame.command))).flatMap (10 :: ·) := by
  unfold Frame.headText
  rw [Utf8.bytes_append, String.ofList_toList]
  apply congrArg (Utf8.bytes frame.command.name ++ ·)
  induction frame.headers with
  | nil => rfl
  | cons header headers inductionHypothesis =>
      simp only [List.map_cons, List.flatMap_cons, List.cons_append]
      rw [Utf8.bytes_cons, Utf8.bytes_append, inductionHypothesis]
      rfl

/-- The lines of a head, each ended by its line feed, are the lines each opened by one, and one
line feed more. -/
theorem head_eq (frame : Frame) :
    frame.head = Utf8.bytes (String.ofList frame.headText) ++ [10] := by
  rw [bytes_headText, List.append_assoc]
  unfold Frame.head
  apply congrArg (Utf8.bytes frame.command.name ++ ·)
  induction frame.headers with
  | nil => rfl
  | cons header headers inductionHypothesis =>
      have line : headerLine frame.command header =
          Utf8.bytes (String.ofList (header.line frame.command)) ++ [10] := by
        unfold headerLine
        rw [bytes_line, List.append_assoc]
        rfl
      simp only [List.map_cons, List.flatMap_cons, List.cons_append, List.append_assoc]
      rw [line, ← inductionHypothesis, List.append_assoc]
      rfl

theorem isHeadLine_name (command : Command) : IsHeadLine (Utf8.bytes command.name) := by
  cases command <;> exact ⟨by decide, by decide, by decide⟩

/-- The first blank line of a written frame stands behind its head. -/
theorem split?_headText {frame : Frame} (keeps : frame.KeepsLines) (rest : List UInt8) :
    split? (Utf8.bytes (String.ofList frame.headText) ++ 10 :: 10 :: rest) =
      some ⟨Utf8.bytes (String.ofList frame.headText), [10, 10], rest⟩ := by
  unfold split?
  rw [bytes_headText, List.append_assoc, splitFrom_line (isHeadLine_name frame.command).no_feed,
    splitFrom_lines]
  · simp
  · intro line member
    obtain ⟨header, listed, rfl⟩ := List.mem_map.mp member
    exact isHeadLine_line (keeps header listed)

/-! ## The length of the body -/

@[simp] theorem measured_command (frame : Frame) : frame.measured.command = frame.command := by
  unfold Frame.measured Frame.withHeader
  split <;> rfl

@[simp] theorem measured_body (frame : Frame) : frame.measured.body = frame.body := by
  unfold Frame.measured Frame.withHeader
  split <;> rfl

/-- What measures the body of a frame is left alone, and so is an empty body. -/
theorem measured_eq_self {frame : Frame}
    (settled : (frame.header? lengthHeader).isSome ∨ frame.body = []) : frame.measured = frame := by
  unfold Frame.measured
  apply if_pos
  rcases settled with told | empty
  · rw [told, Bool.or_true]
  · rw [empty]
    rfl

/-- A body that nothing measures gets its length. -/
theorem measured_of_untold {frame : Frame} (untold : frame.header? lengthHeader = none)
    (filled : frame.body ≠ []) :
    frame.measured =
      frame.withHeader lengthHeader (String.ofList (Decimal.digits frame.body.length)) := by
  unfold Frame.measured
  apply if_neg
  rw [untold, List.isEmpty_eq_false_iff.mpr filled]
  exact Bool.false_ne_true

theorem header?_measured_of_untold {frame : Frame} (untold : frame.header? lengthHeader = none)
    (filled : frame.body ≠ []) :
    frame.measured.header? lengthHeader =
      some (String.ofList (Decimal.digits frame.body.length)) := by
  rw [measured_of_untold untold filled]
  unfold Frame.header? at untold ⊢
  unfold Frame.withHeader
  rw [List.find?_append, Option.map_eq_none_iff.mp untold]
  rfl

/-- Measuring a body adds one header at most. -/
theorem mem_headers_measured {frame : Frame} {header : Header}
    (member : header ∈ frame.measured.headers) :
    header ∈ frame.headers ∨
      header = ⟨lengthHeader, String.ofList (Decimal.digits frame.body.length)⟩ := by
  unfold Frame.measured at member
  split at member
  · exact Or.inl member
  · exact (List.mem_append.mp member).imp_right List.mem_singleton.mp

/-- The text of a length holds nothing but digits. -/
theorem not_mem_digits {c : Char} (other : c.isDigit = false) (length : Nat) :
    c ∉ (String.ofList (Decimal.digits length)).toList := by
  rw [String.toList_ofList]
  intro member
  rw [Decimal.isDigit_of_mem_digits member] at other
  cases other

/-- The header that is added to measure a body is found again like the others. -/
theorem Frame.Plain.measured {frame : Frame} (plain : frame.Plain) : frame.measured.Plain := by
  constructor <;> rw [measured_command] <;> intro escapes header member <;>
    rcases mem_headers_measured member with listed | rfl
  · exact plain.names escapes header listed
  · exact (by decide : ':' ∉ lengthHeader.toList ∧ '\n' ∉ lengthHeader.toList)
  · exact plain.values escapes header listed
  · refine ⟨not_mem_digits rfl _, ?_⟩
    intro last
    exact not_mem_digits rfl _ (List.mem_of_getLast? last)

/-- A frame whose body ends where a reader of its head takes it to end. -/
def Frame.Sized (frame : Frame) : Prop :=
  (declaredLength frame = .ok none ∧ frame.body = []) ∨
    declaredLength frame = .ok (some frame.body.length)

theorem declaredLength_of_digits {frame : Frame} {length : Nat}
    (told : frame.header? lengthHeader = some (String.ofList (Decimal.digits length)))
    (small : length < Decimal.wordBound) : declaredLength frame = .ok (some length) := by
  have solid : Blank.strip (Decimal.digits length) = Decimal.digits length :=
    Blank.strip_eq_self fun _ member =>
      Blank.isBlank_of_isDigit (Decimal.isDigit_of_mem_digits member)
  unfold declaredLength
  rw [told]
  dsimp only
  rw [String.toList_ofList, solid, Decimal.natural?_digits small]

/-- The frames that are read back as they were sent: the header lines are found again, and a
length that the sender gives itself is the length of the body. -/
structure Frame.Sendable (frame : Frame) : Prop extends frame.Plain where
  length_told : ∀ value ∈ frame.header? lengthHeader,
    value = String.ofList (Decimal.digits frame.body.length)

instance (frame : Frame) : Decidable frame.Plain :=
  decidable_of_iff (_ ∧ _) ⟨fun both => ⟨both.1, both.2⟩, fun plain => ⟨plain.names, plain.values⟩⟩

instance (frame : Frame) : Decidable frame.Sendable :=
  decidable_of_iff (_ ∧ _)
    ⟨fun both => ⟨both.1, both.2⟩, fun sendable => ⟨sendable.toPlain, sendable.length_told⟩⟩

/-- In a sent frame the body is measured or empty. -/
theorem Frame.Sendable.header?_measured {frame : Frame} (sendable : frame.Sendable) :
    (frame.measured.header? lengthHeader = none ∧ frame.body = []) ∨
      frame.measured.header? lengthHeader =
        some (String.ofList (Decimal.digits frame.body.length)) := by
  cases told : frame.header? lengthHeader with
  | some value =>
      rw [measured_eq_self (.inl (told ▸ rfl)), told, sendable.length_told value told]
      exact Or.inr rfl
  | none =>
      by_cases empty : frame.body = []
      · rw [measured_eq_self (.inr empty)]
        exact Or.inl ⟨told, empty⟩
      · exact Or.inr (header?_measured_of_untold told empty)

theorem Frame.Sendable.sized {frame : Frame} (sendable : frame.Sendable)
    (small : frame.body.length < Decimal.wordBound) : frame.measured.Sized := by
  unfold Frame.Sized
  rw [measured_body]
  rcases sendable.header?_measured with ⟨untold, empty⟩ | told
  · refine Or.inl ⟨?_, empty⟩
    unfold declaredLength
    rw [untold]
  · exact Or.inr (declaredLength_of_digits told small)

/-! ## The bytes of a frame -/

theorem encode_eq (frame : Frame) :
    encode frame =
      Utf8.bytes (String.ofList frame.measured.headText) ++ 10 :: 10 :: (frame.body ++ [0]) := by
  unfold encode
  rw [head_eq, List.append_assoc]
  rfl

theorem encode_eq_cons (frame : Frame) :
    ∃ letter rest, encode frame = letter :: rest ∧ letter ≠ 10 ∧ letter ≠ 13 := by
  rw [encode_eq, bytes_headText, List.append_assoc, measured_command]
  cases frame.command <;> exact ⟨_, _, rfl, by decide, by decide⟩

/-- No part of a written frame can be taken for a line end between frames. -/
theorem startsFrame_of_front {frame : Frame} {front : List UInt8} (isFront : front <+: encode frame)
    (ne_nil : front ≠ []) : StartsFrame front := by
  obtain ⟨letter, rest, written, noFeed, noReturn⟩ := encode_eq_cons frame
  cases front with
  | nil => exact absurd rfl ne_nil
  | cons byte tail =>
      rw [written, List.cons_prefix_cons] at isFront
      rw [isFront.1]
      exact .of_ne noFeed noReturn tail

theorem startsFrame_encode (frame : Frame) : StartsFrame (encode frame) := by
  obtain ⟨letter, rest, written, noFeed, noReturn⟩ := encode_eq_cons frame
  rw [written]
  exact .of_ne noFeed noReturn rest

/-- The first blank line of a written frame parts its head from its body. -/
theorem split?_encode_append {frame : Frame} (keeps : frame.measured.KeepsLines)
    (rest : List UInt8) :
    split? (encode frame ++ rest) =
      some ⟨Utf8.bytes (String.ofList frame.measured.headText), [10, 10],
        frame.body ++ 0 :: rest⟩ := by
  have found := split?_headText keeps (frame.body ++ 0 :: rest)
  rw [← found, encode_eq]
  simp

theorem length_encode (frame : Frame) :
    (encode frame).length =
      (Utf8.bytes (String.ofList frame.measured.headText)).length + 2 + frame.body.length + 1 := by
  rw [encode_eq]
  simp only [List.length_append, List.length_cons, List.length_nil]
  omega

end Stomp
end ExchangeGrid
