import ExchangeGrid.Proofs.Stomp.Limit
import Mathlib.Data.List.Forall2

namespace ExchangeGrid
namespace Stomp

/-!
# The grammar of frames

A frame on the wire is a head, a blank line, a body and a NUL.  The head is a text of lines: the
name of the command, and then one header a line.  This module says so without mentioning any way of
reading, and `decode_eq_frame_iff_isFrame` says that a decoder with room for its buffer takes a
frame exactly where the grammar has one, with the same parts.

The grammar is looser than what a sender writes.  Lines may end with a carriage return, a value may
hold colons, a name may be empty, and a length may be padded or declared more than once; but the
head always ends at the first line feed that another line end follows.
-/

/-! ## Header texts -/

/-- A text that is written in single characters other than the backslash, and in pairs of a
backslash and a character that says what is meant. -/
inductive Escape.Spells : List Char → List Char → Prop
  | done : Spells [] []
  | plain {raw text : List Char} (c : Char) (noBackslash : c ≠ '\\') (rest : Spells raw text) :
      Spells (c :: raw) (c :: text)
  | pair {raw text : List Char} (mark meant : Char) (known : meaning? mark = some meant)
      (rest : Spells raw text) : Spells ('\\' :: mark :: raw) (meant :: text)

theorem Escape.Spells.read_eq {raw text : List Char} (spells : Spells raw text) :
    read raw = .ok text := by
  induction spells with
  | done => rfl
  | plain c noBackslash rest inductionHypothesis =>
      rw [read_cons_of_ne noBackslash, inductionHypothesis]
      rfl
  | pair mark meant known rest inductionHypothesis =>
      rw [read, known]
      dsimp only
      rw [inductionHypothesis]

theorem Escape.spells_of_read {raw text : List Char} (reads : read raw = .ok text) :
    Spells raw text := by
  fun_induction read raw generalizing text with
  | case1 =>
      cases reads
      exact .done
  | case2 => cases reads
  | case3 => cases reads
  | case4 mark rest meant known later laterRead inductionHypothesis =>
      cases reads
      exact .pair mark meant known (inductionHypothesis laterRead)
  | case5 => cases reads
  | case6 c rest noEnd noPair later laterRead inductionHypothesis =>
      cases reads
      refine .plain c ?_ (inductionHypothesis laterRead)
      rintro rfl
      cases rest with
      | nil => exact noEnd rfl rfl
      | cons mark rest => exact noPair mark rest rfl rfl
  | case7 => cases reads

/-- An escaped text is read exactly when it is spelled in characters and pairs. -/
theorem Escape.read_eq_ok_iff {raw text : List Char} : read raw = .ok text ↔ Spells raw text :=
  ⟨spells_of_read, Spells.read_eq⟩

/-- Where a written text differs from what it stands for, a backslash was written for a reserved
character. -/
theorem Escape.Spells.eq_or {raw text : List Char} (spells : Spells raw text) :
    raw = text ∨ ('\\' ∈ raw ∧ ∃ c ∈ text, c ∈ ['\\', '\n', '\r', ':']) := by
  induction spells with
  | done => exact Or.inl rfl
  | plain c noBackslash rest inductionHypothesis =>
      rcases inductionHypothesis with same | ⟨written, d, member, reserved⟩
      · exact Or.inl (congrArg (c :: ·) same)
      · exact Or.inr ⟨List.mem_cons_of_mem c written, d, List.mem_cons_of_mem c member, reserved⟩
  | pair mark meant known rest inductionHypothesis =>
      refine Or.inr ⟨List.mem_cons_self, meant, List.mem_cons_self, ?_⟩
      unfold meaning? at known
      split at known <;> cases known <;> decide

/-- What a header text of a frame with some command stands for. -/
def StandsFor (command : Command) (raw : List Char) (text : String) : Prop :=
  if command.escapes then Escape.Spells raw text.toList else raw = text.toList

theorem readHeaderText_eq_ok_iff {command : Command} {raw : List Char} {text : String} :
    readHeaderText command raw = .ok text.toList ↔ StandsFor command raw text := by
  unfold readHeaderText StandsFor
  split
  · exact Escape.read_eq_ok_iff
  · rw [Except.ok.injEq]

theorem StandsFor.eq_or {command : Command} {raw : List Char} {text : String}
    (stands : StandsFor command raw text) :
    raw = text.toList ∨ ('\\' ∈ raw ∧ ∃ c ∈ text.toList, c ∈ ['\\', '\n', '\r', ':']) := by
  unfold StandsFor at stands
  split at stands
  · exact stands.eq_or
  · exact Or.inl stands

/-- A text without reserved characters is written in one way only. -/
theorem StandsFor.eq_iff {command : Command} {raw : List Char} {text plain : String}
    (stands : StandsFor command raw text)
    (unreserved : ∀ c ∈ plain.toList, c ∉ ['\\', '\n', '\r', ':']) :
    text = plain ↔ raw = plain.toList := by
  constructor
  · rintro rfl
    rcases stands.eq_or with same | ⟨-, c, member, reserved⟩
    · exact same
    · exact (unreserved c member reserved).elim
  · rintro rfl
    rcases stands.eq_or with same | ⟨written, -⟩
    · exact String.toList_inj.mp same.symm
    · exact (unreserved _ written (by decide)).elim

/-! ## Lines -/

/-- A line that says a header: a name and a value, with the first colon of the line between them. -/
def SaysHeader (command : Command) (line : List Char) (header : Header) : Prop :=
  ∃ name value, line = name ++ ':' :: value ∧ ':' ∉ name ∧
    StandsFor command name header.name ∧ StandsFor command value header.value

theorem readHeader_eq_ok_iff {command : Command} {line : List Char} {header : Header} :
    readHeader command line = .ok header ↔ SaysHeader command line header := by
  unfold readHeader
  constructor
  · intro reads
    split at reads
    · cases reads
    · rename_i name value cut
      cases nameReads : readHeaderText command name with
      | error violation =>
          rw [nameReads] at reads
          cases reads
      | ok nameText =>
          cases valueReads : readHeaderText command value with
          | error violation =>
              rw [nameReads, valueReads] at reads
              cases reads
          | ok valueText =>
              rw [nameReads, valueReads] at reads
              cases reads
              rcases splitOnce?_eq_some_iff.mp cut with ⟨shape, noColon⟩
              refine ⟨name, value, shape, noColon, ?_, ?_⟩ <;>
                rw [← readHeaderText_eq_ok_iff, String.toList_ofList]
              · exact nameReads
              · exact valueReads
  · rintro ⟨name, value, rfl, noColon, saysName, saysValue⟩
    rw [splitOnce?_append noColon]
    dsimp only
    rw [readHeaderText_eq_ok_iff.mpr saysName, readHeaderText_eq_ok_iff.mpr saysValue]
    show Except.ok (Header.mk _ _) = _
    rw [String.ofList_toList, String.ofList_toList]

theorem readHeaders_eq_ok_iff {command : Command} {lines : List (List Char)}
    {headers : List Header} :
    readHeaders command lines = .ok headers ↔ List.Forall₂ (SaysHeader command) lines headers := by
  induction lines generalizing headers with
  | nil =>
      rw [readHeaders, Except.ok.injEq, List.forall₂_nil_left_iff, eq_comm]
  | cons line lines inductionHypothesis =>
      rw [readHeaders, List.forall₂_cons_left_iff]
      constructor
      · intro reads
        cases first : readHeader command line with
        | error violation =>
            rw [first] at reads
            cases reads
        | ok header =>
            cases later : readHeaders command lines with
            | error violation =>
                rw [first, later] at reads
                cases reads
            | ok headers =>
                rw [first, later] at reads
                cases reads
                exact ⟨header, headers, readHeader_eq_ok_iff.mp first,
                  inductionHypothesis.mp later, rfl⟩
      · rintro ⟨header, headers, saysFirst, saysLater, rfl⟩
        rw [readHeader_eq_ok_iff.mpr saysFirst, inductionHypothesis.mpr saysLater]
        rfl

/-- A piece of a head and the line in it: one carriage return at the end of the piece, if there is
one, is no part of the line. -/
def HoldsLine (piece line : List Char) : Prop :=
  piece = line ++ ['\r'] ∨ (piece = line ∧ line.getLast? ≠ some '\r')

theorem dropReturn_eq_iff {piece line : List Char} :
    dropReturn piece = line ↔ HoldsLine piece line := by
  unfold dropReturn HoldsLine
  constructor
  · rintro rfl
    split
    · rename_i ends
      rcases List.getLast?_eq_some_iff.mp ends with ⟨front, rfl⟩
      rw [List.dropLast_concat]
      exact Or.inl rfl
    · rename_i other
      exact Or.inr ⟨rfl, other⟩
  · rintro (rfl | ⟨rfl, other⟩)
    · rw [List.getLast?_concat, if_pos rfl, List.dropLast_concat]
    · exact if_neg other

/-! ## Heads -/

/-- Bytes that say a command and headers: a text in pieces that line feeds part, of which the first
holds the name of the command and each other one a header. -/
def SaysHead (head : List UInt8) (command : Command) (headers : List Header) : Prop :=
  ∃ (first : List Char) (pieces lines : List (List Char)),
    head = Utf8.bytes (String.ofList (first ++ pieces.flatMap ('\n' :: ·))) ∧
    (∀ piece ∈ first :: pieces, '\n' ∉ piece) ∧
    List.Forall₂ HoldsLine (first :: pieces) (command.name.toList :: lines) ∧
    List.Forall₂ (SaysHeader command) lines headers

theorem Command.ofName?_eq_some_iff {name : String} {command : Command} :
    Command.ofName? name = some command ↔ command.name = name := by
  constructor
  · intro found
    unfold ofName? at found
    have named := List.find?_some found
    exact beq_iff_eq.mp named
  · rintro rfl
    exact ofName?_name command

theorem forall₂_holdsLine_iff {pieces lines : List (List Char)} :
    List.Forall₂ HoldsLine pieces lines ↔ pieces.map dropReturn = lines := by
  rw [← List.forall₂_eq_eq_eq, List.forall₂_map_left_iff]
  exact ⟨.imp fun _ _ => dropReturn_eq_iff.mpr, .imp fun _ _ => dropReturn_eq_iff.mp⟩

/-- The bytes before a blank line are read exactly when they say what is read. -/
theorem readHead_eq_ok_iff {head : List UInt8} {command : Command} {headers : List Header} :
    readHead head = .ok { command, headers } ↔ SaysHead head command headers := by
  unfold readHead SaysHead
  constructor
  · intro reads
    split at reads
    · cases reads
    rename_i text isText
    rcases exists_pieces '\n' text.toList with ⟨first, pieces, shape, noFirst, noPiece⟩
    rw [shape, splitOn_pieces noFirst noPiece, List.map_cons] at reads
    dsimp only at reads
    split at reads
    · cases reads
    rename_i found named
    split at reads
    · rename_i others listed
      cases reads
      refine ⟨first, pieces, pieces.map dropReturn, ?_, ?_, ?_, readHeaders_eq_ok_iff.mp listed⟩
      · rw [← shape, String.ofList_toList, Utf8.bytes_of_text? isText]
      · exact List.forall_mem_cons.mpr ⟨noFirst, noPiece⟩
      · rw [forall₂_holdsLine_iff, List.map_cons, Command.ofName?_eq_some_iff.mp named,
          String.toList_ofList]
    · cases reads
  · rintro ⟨first, pieces, lines, rfl, noFeed, held, listed⟩
    rcases List.forall_mem_cons.mp noFeed with ⟨noFirst, noPiece⟩
    rw [Utf8.text?_bytes]
    dsimp only
    rw [String.toList_ofList, splitOn_pieces noFirst noPiece, forall₂_holdsLine_iff.mp held]
    dsimp only
    rw [String.ofList_toList, Command.ofName?_name]
    dsimp only
    rw [readHeaders_eq_ok_iff.mpr listed]

/-! ## The first blank line -/

/-- Bytes that start with a line end: a line feed, with or without a carriage return before it. -/
def StartsLineEnd (bytes : List UInt8) : Prop :=
  [10] <+: bytes ∨ [13, 10] <+: bytes

instance (bytes : List UInt8) : Decidable (StartsLineEnd bytes) :=
  inferInstanceAs (Decidable (_ ∨ _))

/-- A buffer in three parts, of which the second is its first blank line: a line feed that another
line end follows, and that line end. -/
structure IsCut (buffer head blank rest : List UInt8) : Prop where
  buffer_eq : buffer = head ++ blank ++ rest
  blank_cases : blank = [10, 10] ∨ blank = [10, 13, 10]
  is_first : ∀ front back, buffer = front ++ 10 :: back → StartsLineEnd back →
    head.length ≤ front.length

theorem is_first_of_splitFrom {before buffer : List UInt8} {cut : Split}
    (found : splitFrom before buffer = some cut) {front back : List UInt8}
    (shape : buffer = front ++ 10 :: back) (starts : StartsLineEnd back) :
    cut.head.length ≤ before.length + front.length := by
  fun_induction splitFrom before buffer generalizing front with
  | case1 => cases found
  | case2 before rest =>
      cases found
      rw [List.length_reverse]
      exact Nat.le_add_right _ _
  | case3 before rest =>
      cases found
      rw [List.length_reverse]
      exact Nat.le_add_right _ _
  | case4 before byte rest noFeed noPair inductionHypothesis =>
      cases front with
      | nil =>
          cases shape
          rcases starts with ⟨later, rfl⟩ | ⟨later, rfl⟩
          · exact (noFeed later rfl rfl).elim
          · exact (noPair later rfl rfl).elim
      | cons first front =>
          cases shape
          have later := inductionHypothesis found rfl
          rw [List.length_cons] at later ⊢
          omega

theorem blank_cases_of_splitFrom {before buffer : List UInt8} {cut : Split}
    (found : splitFrom before buffer = some cut) :
    cut.blank = [10, 10] ∨ cut.blank = [10, 13, 10] := by
  fun_induction splitFrom before buffer with
  | case1 => cases found
  | case2 before rest =>
      cases found
      exact Or.inl rfl
  | case3 before rest =>
      cases found
      exact Or.inr rfl
  | case4 before byte rest noFeed noPair inductionHypothesis => exact inductionHypothesis found

/-- Where no blank line starts in the head, the search comes to the end of it. -/
theorem IsCut.splitFrom_eq {head blank rest : List UInt8}
    (isCut : IsCut (head ++ blank ++ rest) head blank rest) (before : List UInt8) :
    splitFrom before (head ++ blank ++ rest) = some ⟨before.reverse ++ head, blank, rest⟩ := by
  rcases isCut with ⟨-, blankCases, isFirst⟩
  induction head generalizing before with
  | nil =>
      rw [List.append_nil]
      rcases blankCases with rfl | rfl <;> rfl
  | cons byte head inductionHypothesis =>
      have goesOn (isFeed : byte = 10) : StartsFrame (head ++ blank ++ rest) := by
        have noLineEnd : ¬ StartsLineEnd (head ++ blank ++ rest) := fun starts =>
          absurd (isFirst [] _ (by rw [isFeed]; rfl) starts) (Nat.not_succ_le_zero _)
        have long : 2 ≤ (head ++ blank ++ rest).length := by
          simp only [List.length_append]
          rcases blankCases with rfl | rfl <;> simp only [List.length_cons, List.length_nil] <;>
            omega
        refine ⟨?_, ?_, ?_, ?_⟩
        · intro empty
          rw [empty] at long
          cases long
        · intro single
          rw [single] at long
          cases long with
          | step impossible => cases impossible
        · intro tail same
          exact noLineEnd (Or.inl ⟨tail, same.symm⟩)
        · intro tail same
          exact noLineEnd (Or.inr ⟨tail, same.symm⟩)
      have later := inductionHypothesis (byte :: before) fun front back shape starts =>
        Nat.le_of_succ_le_succ (isFirst (byte :: front) back (congrArg (byte :: ·) shape) starts)
      rw [List.cons_append, List.cons_append, splitFrom_cons goesOn, later]
      simp only [List.reverse_cons, List.append_assoc, List.singleton_append]

/-- A buffer is cut exactly at its first blank line. -/
theorem split?_eq_some_iff {buffer head blank rest : List UInt8} :
    split? buffer = some ⟨head, blank, rest⟩ ↔ IsCut buffer head blank rest := by
  constructor
  · intro found
    refine ⟨(append_of_split? found).symm, blank_cases_of_splitFrom found, ?_⟩
    intro front back shape starts
    have first := is_first_of_splitFrom found shape starts
    rwa [List.length_nil, Nat.zero_add] at first
  · intro isCut
    cases isCut.buffer_eq
    exact isCut.splitFrom_eq []

/-- Two bytes tell whether a line end comes first. -/
theorem startsLineEnd_append_iff {front : List UInt8} (long : 2 ≤ front.length)
    (more : List UInt8) : StartsLineEnd (front ++ more) ↔ StartsLineEnd front := by
  have within {mark : List UInt8} (short : mark.length ≤ 2) :
      mark <+: front ++ more ↔ mark <+: front := by
    constructor
    · intro leads
      exact List.prefix_of_prefix_length_le leads (List.prefix_append front more)
        (Nat.le_trans short long)
    · intro leads
      exact leads.trans (List.prefix_append front more)
  unfold StartsLineEnd
  rw [within (by decide), within (by decide)]

/-- What stands behind the first blank line has no part in its being the first. -/
theorem IsCut.replace {buffer head blank rest : List UInt8}
    (isCut : IsCut buffer head blank rest) (other : List UInt8) :
    IsCut (head ++ blank ++ other) head blank other := by
  refine ⟨rfl, isCut.blank_cases, ?_⟩
  intro front back shape starts
  by_contra early
  have leads : front ++ [10] <+: head ++ blank ++ other :=
    ⟨back, by rw [shape, List.append_assoc, List.singleton_append]⟩
  have inHead : front ++ [10] <+: head := by
    rw [List.append_assoc] at leads
    apply List.prefix_of_prefix_length_le leads (List.prefix_append head _)
    rw [List.length_append, List.length_singleton]
    omega
  rcases inHead with ⟨tail, rfl⟩
  have regroup (later : List UInt8) :
      front ++ [10] ++ tail ++ blank ++ later = front ++ 10 :: (tail ++ blank ++ later) := by
    simp only [List.append_assoc, List.cons_append, List.nil_append]
  have long : 2 ≤ (tail ++ blank).length := by
    rw [List.length_append]
    rcases isCut.blank_cases with rfl | rfl <;> simp only [List.length_cons, List.length_nil] <;>
      omega
  rw [regroup, List.append_cancel_left_eq, List.cons.injEq] at shape
  rw [← shape.2, startsLineEnd_append_iff long] at starts
  have first := isCut.is_first front _ (isCut.buffer_eq.trans (regroup rest))
    ((startsLineEnd_append_iff long rest).mpr starts)
  simp only [List.length_append, List.length_singleton] at first
  omega

theorem split?_replace {buffer : List UInt8} {cut : Split} (found : split? buffer = some cut)
    (other : List UInt8) :
    split? (cut.head ++ cut.blank ++ other) = some { cut with rest := other } :=
  split?_eq_some_iff.mpr ((split?_eq_some_iff.mp found).replace other)

/-- Bytes without a blank line, which more bytes complete, end in the head or in the blank line. -/
theorem front_of_split?_eq_none {front more : List UInt8} {cut : Split}
    (missing : split? front = none) (found : split? (front ++ more) = some cut) :
    front <+: cut.head ++ cut.blank := by
  have whole : cut.head ++ cut.blank <+: front ++ more := ⟨cut.rest, append_of_split? found⟩
  rcases List.prefix_or_prefix_of_prefix (List.prefix_append front more) whole with early | late
  · exact early
  · rcases late with ⟨tail, rfl⟩
    rw [split?_replace found] at missing
    cases missing

/-! ## Frames -/

/-- A frame with a length header has as many bytes in its body as the first such header says, and
one without has no NUL there. -/
structure Frame.EndsWell (frame : Frame) : Prop where
  length_told : ∀ value, frame.header? lengthHeader = some value →
    Decimal.natural? Decimal.wordBound (Blank.strip value.toList) = some frame.body.length
  nul_free : frame.header? lengthHeader = none → 0 ∉ frame.body

theorem declaredLength_eq_some_iff {frame : Frame} {length : Nat} :
    declaredLength frame = .ok (some length) ↔ ∃ value, frame.header? lengthHeader = some value ∧
      Decimal.natural? Decimal.wordBound (Blank.strip value.toList) = some length := by
  unfold declaredLength
  constructor
  · intro declared
    split at declared
    · cases declared
    · rename_i value told
      split at declared
      · cases declared
      · rename_i number reads
        cases declared
        exact ⟨value, told, reads⟩
  · rintro ⟨value, told, reads⟩
    rw [told]
    dsimp only
    rw [reads]

theorem Frame.endsWell_iff {frame : Frame} :
    frame.EndsWell ↔ (declaredLength frame = .ok none ∧ 0 ∉ frame.body) ∨
      declaredLength frame = .ok (some frame.body.length) := by
  rw [declaredLength_eq_none_iff, declaredLength_eq_some_iff]
  cases told : frame.header? lengthHeader with
  | none =>
      constructor
      · intro ends
        exact Or.inl ⟨rfl, ends.nul_free told⟩
      · rintro (⟨-, noNul⟩ | ⟨value, impossible, -⟩)
        · refine ⟨?_, fun _ => noNul⟩
          intro value impossible
          cases told.symm.trans impossible
        · cases impossible
  | some value =>
      constructor
      · intro ends
        exact Or.inr ⟨value, rfl, ends.length_told value told⟩
      · rintro (⟨impossible, -⟩ | ⟨other, same, reads⟩)
        · cases impossible
        · cases same
          refine ⟨?_, ?_⟩
          · intro other again
            cases told.symm.trans again
            exact reads
          · intro impossible
            cases told.symm.trans impossible

/-- A buffer that starts with a frame: its head up to the first blank line, the blank line, the
body, a NUL, and the rest. -/
structure IsFrame (buffer head blank : List UInt8) (frame : Frame) (rest : List UInt8) : Prop where
  isCut : IsCut buffer head blank (frame.body ++ 0 :: rest)
  head_says : SaysHead head frame.command frame.headers
  ends_well : frame.EndsWell

/-- A frame is taken at the first blank line exactly when the grammar has one there, if there is
room for the buffer. -/
theorem taken_iff {limit : Nat} {buffer head blank tail rest : List UInt8} {frame : Frame}
    (isCut : IsCut buffer head blank tail) (room : buffer.length ≤ limit) :
    Taken limit ⟨head, blank, tail⟩ frame rest ↔
      tail = frame.body ++ 0 :: rest ∧ SaysHead head frame.command frame.headers ∧
        frame.EndsWell := by
  rw [Frame.endsWell_iff, ← readHead_eq_ok_iff]
  constructor
  · rintro ⟨headRead, tailEq, ends⟩
    exact ⟨tailEq, headRead, ends.imp_right And.left⟩
  · rintro ⟨rfl, headRead, ends⟩
    refine ⟨headRead, rfl, ends.imp_right fun declared => ⟨declared, ?_⟩⟩
    rw [isCut.buffer_eq] at room
    simp only [List.length_append, List.length_cons] at room
    show head.length + blank.length + frame.body.length + 1 ≤ limit
    omega

/-- A decoder with room for its buffer takes a frame off the front of it exactly when the buffer is
that frame, as the grammar has it, and what is left. -/
theorem decode_eq_frame_iff_isFrame {limit : Nat} {buffer rest : List UInt8} {frame : Frame}
    (starts : ¬ StartsLineEnd buffer) (room : buffer.length ≤ limit) :
    decode limit buffer = .frame frame rest ↔
      ∃ head blank, IsFrame buffer head blank frame rest := by
  have same : dropLineEnds buffer = buffer := by
    unfold dropLineEnds
    split
    · exact absurd (Or.inl ⟨_, rfl⟩) starts
    · exact absurd (Or.inr ⟨_, rfl⟩) starts
    · rfl
  unfold decode
  rw [same, decodeFrame_eq_frame_iff]
  constructor
  · rintro ⟨⟨head, blank, tail⟩, cutEq, taken⟩
    have isCut := split?_eq_some_iff.mp cutEq
    rcases (taken_iff isCut room).mp taken with ⟨rfl, headSays, endsWell⟩
    exact ⟨head, blank, isCut, headSays, endsWell⟩
  · rintro ⟨head, blank, isCut, headSays, endsWell⟩
    exact ⟨_, split?_eq_some_iff.mpr isCut, (taken_iff isCut room).mpr ⟨rfl, headSays, endsWell⟩⟩

/-- A frame with a header of no name, a colon in a value, a padded length with a sign, and another
length behind it that does not count. -/
def looseFrame : Frame :=
  { command := .message
    headers := [⟨"", "x::y"⟩, ⟨"content-length", " +3 "⟩, ⟨"content-length", "9"⟩]
    body := [97, 0, 98] }

/-- Its bytes with line ends of both kinds, and the start of another frame behind them. -/
def looseBytes : List UInt8 :=
  Utf8.bytes "MESSAGE\r\n:x\\c:y\r\ncontent-length: +3 \ncontent-length:9\n\r\na\x00b\x00\nSEND"

theorem isFrame_loose : ¬ StartsLineEnd looseBytes ∧ looseBytes.length ≤ 80 ∧
    ∃ head blank, IsFrame looseBytes head blank looseFrame (Utf8.bytes "\nSEND") :=
  ⟨by decide, by decide, (decode_eq_frame_iff_isFrame (by decide) (by decide : _ ≤ 80)).mp rfl⟩

end Stomp
end ExchangeGrid
