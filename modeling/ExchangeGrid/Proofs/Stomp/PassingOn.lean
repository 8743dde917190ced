import ExchangeGrid.Proofs.Stomp.Grammar
import ExchangeGrid.Proofs.Stomp.RoundTrip

namespace ExchangeGrid
namespace Stomp

/-!
# Frames that are passed on

A decoder takes more spellings than an encoder writes.  Whoever passes a frame on writes it in the
encoder's way, and the question is whether the next reader finds the same frame there.

It does for every command whose headers are escaped.  The headers of the opening exchange are
written as they are, and of a carriage return at the end of a line a reader cannot know whether it
belongs to the value.  A sender can put one there all the same, by ending the line with two of them:
then `Frame.carried` says what the next reader finds.  `decode_encode_of_decode` states that nothing
else is ever lost, and that nothing is added but the length of a body nobody has measured.
-/

/-- A header behind its line.  Where nothing is escaped, a carriage return at the end of the value
has become a part of the line end. -/
def Header.carried (command : Command) (header : Header) : Header :=
  if command.escapes then header
  else { header with value := String.ofList (dropReturn header.value.toList) }

def Frame.carried (frame : Frame) : Frame :=
  { frame with headers := frame.headers.map (Header.carried frame.command) }

/-- The condition under which a frame can be written at all: its header lines are lines, and are cut
between name and value.  Nothing is asked of frames that escape their headers. -/
structure Frame.Writable (frame : Frame) : Prop where
  names : frame.command.escapes = false → ∀ header ∈ frame.headers,
    ':' ∉ header.name.toList ∧ '\n' ∉ header.name.toList
  values : frame.command.escapes = false → ∀ header ∈ frame.headers, '\n' ∉ header.value.toList

section
variable {command : Command} {header : Header} {frame : Frame}

/-! ## One line -/

theorem holdsLine_dropReturn (piece : List Char) : HoldsLine piece (dropReturn piece) :=
  dropReturn_eq_iff.mp rfl

/-- Only what is at the end of a line can be taken off there. -/
theorem dropReturn_append_cons {c : Char} (other : c ≠ '\r') (front text : List Char) :
    dropReturn (front ++ c :: text) = front ++ c :: dropReturn text := by
  rw [dropReturn_eq_iff]
  rcases holdsLine_dropReturn text with held | ⟨same, kept⟩
  · left
    conv_lhs => rw [held]
    rw [List.append_assoc, List.cons_append]
  · right
    rw [← same]
    refine ⟨rfl, ?_⟩
    rw [← same] at kept
    rw [List.getLast?_append, List.getLast?_cons]
    cases last : text.getLast? with
    | none => simpa using other
    | some d =>
        rw [last] at kept
        simpa using kept

theorem strip_dropReturn (text : List Char) : Blank.strip (dropReturn text) = Blank.strip text := by
  rcases holdsLine_dropReturn text with held | ⟨same, -⟩
  · conv_rhs => rw [held]
    exact (Blank.strip_concat rfl _).symm
  · rw [← same]

theorem dropReturn_eq_self_iff (text : List Char) :
    dropReturn text = text ↔ text.getLast? ≠ some '\r' := by
  constructor
  · intro same last
    rcases List.getLast?_eq_some_iff.mp last with ⟨front, rfl⟩
    rw [dropReturn, if_pos last, List.dropLast_concat] at same
    exact absurd (congrArg List.length same) (by simp)
  · intro kept
    exact if_neg kept

@[simp] theorem Header.carried_name (command : Command) (header : Header) :
    (header.carried command).name = header.name := by
  unfold Header.carried
  split <;> rfl

/-- A reader takes the header line of what is carried off the line that was written. -/
theorem dropReturn_line_eq (command : Command) (header : Header) :
    dropReturn (header.line command) = (header.carried command).line command := by
  unfold Header.line
  rw [dropReturn_append_cons (by decide), Header.carried_name]
  unfold Header.carried headerText
  cases command.escapes with
  | false =>
      simp only [Bool.false_eq_true, if_false, String.toList_ofList]
  | true =>
      have noReturn : '\r' ∉ Escape.write header.value.toList :=
        not_mem_write_of_reserved (.inr (.inl rfl))
      simp only [if_true]
      rw [(dropReturn_eq_self_iff _).mpr fun last => noReturn (List.mem_of_getLast? last)]

/-! ## All lines -/

theorem Frame.Writable.name_no_colon (writable : frame.Writable) (member : header ∈ frame.headers) :
    ':' ∉ headerText frame.command header.name := by
  unfold headerText
  cases escapes : frame.command.escapes with
  | false => exact (writable.names escapes header member).1
  | true => exact not_mem_write_of_reserved (.inr (.inr rfl))

theorem Frame.Writable.keepsLines (writable : frame.Writable) : frame.KeepsLines := by
  intro header member
  unfold Header.line headerText
  rw [List.mem_append, List.mem_cons]
  cases escapes : frame.command.escapes with
  | false =>
      have name := (writable.names escapes header member).2
      have value := writable.values escapes header member
      simp [name, value]
  | true =>
      have absent (text : List Char) : '\n' ∉ Escape.write text :=
        not_mem_write_of_reserved (.inl rfl)
      simp [absent]

/-- The header that is added to measure a body is a line like the others. -/
theorem Frame.Writable.measured (writable : frame.Writable) : frame.measured.Writable := by
  constructor <;> rw [measured_command] <;> intro escapes header member <;>
    rcases mem_headers_measured member with listed | rfl
  · exact writable.names escapes header listed
  · exact (by decide : ':' ∉ lengthHeader.toList ∧ '\n' ∉ lengthHeader.toList)
  · exact writable.values escapes header listed
  · exact not_mem_digits rfl _

/-- A written head is read as what is carried. -/
theorem readHead_headText_of_writable (writable : frame.Writable) :
    readHead (Utf8.bytes (String.ofList frame.headText)) =
      .ok { frame.carried with body := [] } := by
  apply readHead_headText_of_lines writable.keepsLines
  have lines : (frame.headers.map (Header.line frame.command)).map dropReturn =
      frame.carried.headers.map (Header.line frame.command) := by
    simp only [Frame.carried, List.map_map]
    apply List.map_congr_left
    intro header member
    exact dropReturn_line_eq frame.command header
  rw [lines]
  apply readHeaders_lines
  intro header member
  rcases List.mem_map.mp member with ⟨written, listed, rfl⟩
  rw [Header.carried_name]
  exact writable.name_no_colon listed

/-! ## The length of the body -/

theorem header?_carried (frame : Frame) (name : String) :
    frame.carried.header? name = (frame.headers.find? (·.name == name)).map fun header =>
      (header.carried frame.command).value := by
  unfold Frame.header? Frame.carried
  simp only [List.find?_map, Option.map_map]
  congr 2
  funext header
  simp

/-- What a value says of a length does not depend on a carriage return at its end. -/
theorem strip_value_carried (command : Command) (header : Header) :
    Blank.strip (header.carried command).value.toList = Blank.strip header.value.toList := by
  unfold Header.carried
  split
  · rfl
  · rw [String.toList_ofList, strip_dropReturn]

theorem Frame.EndsWell.carried (ends : frame.EndsWell) : frame.carried.EndsWell := by
  have length_told := ends.length_told
  have nul_free := ends.nul_free
  unfold Frame.header? at length_told nul_free
  constructor
  · intro value told
    rw [header?_carried] at told
    rcases Option.map_eq_some_iff.mp told with ⟨header, found, rfl⟩
    rw [strip_value_carried]
    apply length_told
    rw [found, Option.map_some]
  · intro untold
    rw [header?_carried, Option.map_eq_none_iff] at untold
    apply nul_free
    rw [untold, Option.map_none]

/-- Where a frame ends as its head says, it ends so when it is written. -/
theorem Frame.EndsWell.sized (ends : frame.EndsWell)
    (small : frame.body.length < Decimal.wordBound) : frame.measured.Sized := by
  unfold Frame.Sized
  cases told : frame.header? lengthHeader with
  | some value =>
      rw [measured_eq_self (.inl (told ▸ rfl))]
      exact Or.inr (declaredLength_eq_some_iff.mpr ⟨value, told, ends.length_told value told⟩)
  | none =>
      by_cases empty : frame.body = []
      · rw [measured_eq_self (.inr empty)]
        exact Or.inl ⟨declaredLength_eq_none_iff.mpr told, empty⟩
      · rw [measured_body]
        exact Or.inr (declaredLength_of_digits (header?_measured_of_untold told empty) small)

/-- The header that measures a body is carried as it is. -/
theorem carried_measured (frame : Frame) : frame.measured.carried = frame.carried.measured := by
  have told_iff : (frame.carried.header? lengthHeader).isSome =
      (frame.header? lengthHeader).isSome := by
    rw [header?_carried, Frame.header?, Option.isSome_map, Option.isSome_map]
  by_cases settled : (frame.header? lengthHeader).isSome ∨ frame.body = []
  · rw [measured_eq_self settled, measured_eq_self (told_iff ▸ settled)]
  · rcases not_or.mp settled with ⟨untold, filled⟩
    have alsoUntold : ¬ (frame.carried.header? lengthHeader).isSome := told_iff ▸ untold
    rw [Option.not_isSome_iff_eq_none] at untold alsoUntold
    have alsoFilled : frame.carried.body ≠ [] := filled
    rw [measured_of_untold untold filled, measured_of_untold alsoUntold alsoFilled]
    have solid : dropReturn (Decimal.digits frame.body.length) =
        Decimal.digits frame.body.length := by
      rw [dropReturn_eq_self_iff]
      intro last
      have digit := Decimal.isDigit_of_mem_digits (List.mem_of_getLast? last)
      exact absurd digit (by decide)
    have added : Header.carried frame.command
        ⟨lengthHeader, String.ofList (Decimal.digits frame.body.length)⟩ =
          ⟨lengthHeader, String.ofList (Decimal.digits frame.body.length)⟩ := by
      unfold Header.carried
      rw [String.toList_ofList, solid, ite_self]
    simp [Frame.carried, Frame.withHeader, added]

/-! ## What a reader has taken -/

/-- Headers that were read off lines can be written again. -/
theorem writable_of_lines {command : Command} {lines : List (List Char)} {headers : List Header}
    (noFeed : ∀ line ∈ lines, '\n' ∉ line)
    (listed : List.Forall₂ (SaysHeader command) lines headers)
    (escapes : command.escapes = false) :
    ∀ header ∈ headers, (':' ∉ header.name.toList ∧ '\n' ∉ header.name.toList) ∧
      '\n' ∉ header.value.toList := by
  induction listed with
  | nil => exact List.forall_mem_nil _
  | @cons line header lines headers said listed inductionHypothesis =>
      rcases List.forall_mem_cons.mp noFeed with ⟨here, behind⟩
      refine List.forall_mem_cons.mpr ⟨?_, inductionHypothesis behind⟩
      rcases said with ⟨name, value, rfl, noColon, saysName, saysValue⟩
      simp only [StandsFor, escapes, Bool.false_eq_true, if_false] at saysName saysValue
      subst saysName saysValue
      rw [List.mem_append, List.mem_cons, not_or, not_or] at here
      exact ⟨⟨noColon, here.1⟩, here.2.2⟩

theorem writable_of_saysHead {head : List UInt8}
    (said : SaysHead head frame.command frame.headers) : frame.Writable := by
  rcases said with ⟨first, pieces, lines, -, noFeed, held, listed⟩
  rw [forall₂_holdsLine_iff, List.map_cons, List.cons.injEq] at held
  have whole : ∀ line ∈ lines, '\n' ∉ line := by
    rw [← held.2, List.forall_mem_map]
    intro piece member inside
    apply noFeed piece (List.mem_cons_of_mem first member)
    rcases holdsLine_dropReturn piece with held | ⟨same, -⟩
    · rw [held]
      exact List.mem_append_left _ inside
    · rwa [← same] at inside
  have parts := writable_of_lines whole listed
  exact ⟨fun escapes header member => (parts escapes header member).1,
    fun escapes header member => (parts escapes header member).2⟩

end

section
variable {limit other : Nat} {buffer rest : List UInt8} {frame : Frame}

/-- What a decoder takes can be written, and ends as its head says. -/
theorem writable_of_decode (found : decode limit buffer = .frame frame rest) :
    frame.Writable ∧ frame.EndsWell ∧ frame.body.length ≤ buffer.length := by
  rcases decodeFrame_eq_frame_iff.mp found with ⟨cut, cutEq, taken⟩
  refine ⟨?_, ?_, ?_⟩
  · exact writable_of_saysHead (readHead_eq_ok_iff.mp taken.head_read)
  · exact Frame.endsWell_iff.mpr (taken.ends.imp_right And.left)
  · refine Nat.le_trans ?_ (length_dropLineEnds_le buffer)
    rw [← append_of_split? cutEq, taken.rest_eq]
    simp only [List.length_append]
    omega

/-- A frame is carried unchanged exactly where its headers are escaped or none of its values ends
in a carriage return. -/
theorem carried_eq_self_iff :
    frame.carried = frame ↔ frame.command.escapes = true ∨
      ∀ header ∈ frame.headers, header.value.toList.getLast? ≠ some '\r' := by
  have each : frame.carried = frame ↔
      ∀ header ∈ frame.headers, header.carried frame.command = header := by
    constructor
    · intro same header member
      have mapped : frame.headers.map (Header.carried frame.command) = frame.headers.map id :=
        (congrArg Frame.headers same).trans (List.map_id _).symm
      exact List.map_inj_left.mp mapped header member
    · intro same
      unfold Frame.carried
      rw [List.map_congr_left same, List.map_id']
  rw [each]
  cases escapes : frame.command.escapes with
  | true => simp [Header.carried, escapes]
  | false =>
      rw [or_iff_right Bool.false_ne_true]
      apply forall₂_congr
      intro header member
      rw [← dropReturn_eq_self_iff]
      constructor
      · intro same
        have values := congrArg (·.value.toList) same
        simpa [Header.carried, escapes] using values
      · intro same
        simp [Header.carried, escapes, same, String.ofList_toList]

/-- A frame that was read, and is written again, is read as what is carried of it, with the length
of its body if nothing told it, and nothing is left. -/
theorem decode_encode_of_decode (found : decode limit buffer = .frame frame rest)
    (machine : buffer.length < Decimal.wordBound) (room : (encode frame).length ≤ other) :
    decode other (encode frame) = .frame frame.carried.measured [] ∧
      (frame.carried = frame ↔ frame.command.escapes = true ∨
        ∀ header ∈ frame.headers, header.value.toList.getLast? ≠ some '\r') := by
  rcases writable_of_decode found with ⟨writable, ends, within⟩
  refine ⟨?_, carried_eq_self_iff⟩
  have sized : frame.carried.measured.Sized :=
    ends.carried.sized (Nat.lt_of_le_of_lt within machine)
  rw [← carried_measured] at sized ⊢
  have read := readHead_headText_of_writable writable.measured
  have arrives := decode_encode_append_of_readHead writable.measured.keepsLines read
    (measured_body frame) sized room []
  rwa [List.append_nil] at arrives

/-- A message as no encoder of ours writes it: the lines end in carriage return and line feed, a
colon of the value is not escaped, and the length is signed, padded and has zeros in front. -/
def foreignBytes : List UInt8 :=
  Utf8.bytes "MESSAGE\r\na:b:c\r\ncontent-length: +002\r\n\r\nhi\x00"

def foreignFrame : Frame :=
  { command := .message, headers := [⟨"a", "b:c"⟩, ⟨"content-length", " +002"⟩], body := [104, 105] }

theorem decode_encode_foreignFrame :
    decode defaultLimit foreignBytes = .frame foreignFrame [] ∧
      foreignBytes.length < Decimal.wordBound ∧
      (encode foreignFrame).length ≤ defaultLimit ∧
      decode defaultLimit (encode foreignFrame) = .frame foreignFrame.carried.measured [] ∧
      foreignFrame.carried.measured = foreignFrame := by
  have found : decode defaultLimit foreignBytes = .frame foreignFrame [] := by rfl
  have machine : foreignBytes.length < Decimal.wordBound := by decide
  have room : (encode foreignFrame).length ≤ defaultLimit := by decide
  refine ⟨found, machine, room, (decode_encode_of_decode found machine room).1, ?_⟩
  rw [(decode_encode_of_decode found machine room).2.mpr (.inl rfl)]
  rfl

/-- An answer to the opening whose only header line ends in two carriage returns. -/
def returnBytes : List UInt8 :=
  Utf8.bytes "CONNECTED\na:b\r\r\n\n\x00"

/-- The second carriage return belongs to the value, and is lost when the frame is passed on. -/
theorem decode_encode_ne_of_return :
    ∃ frame, decode defaultLimit returnBytes = .frame frame [] ∧
      frame.headers = [⟨"a", "b\r"⟩] ∧ frame.body = [] ∧
      decode defaultLimit (encode frame) ≠ .frame frame [] := by
  refine ⟨{ command := .connected, headers := [⟨"a", "b\r"⟩] }, by rfl, by rfl, by rfl, ?_⟩
  intro same
  have found : decode defaultLimit (encode { command := .connected, headers := [⟨"a", "b\r"⟩] }) =
      .frame { command := .connected, headers := [⟨"a", "b"⟩] } [] := by rfl
  rw [found] at same
  simp at same

end

end Stomp
end ExchangeGrid
