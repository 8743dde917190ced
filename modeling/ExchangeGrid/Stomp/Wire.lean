import ExchangeGrid.Stomp.Escape
import ExchangeGrid.Text.Decimal
import ExchangeGrid.Text.Split

namespace ExchangeGrid
namespace Stomp

/-!
# Frames on the wire

`encode` writes one frame.  `decode` looks for one frame at the front of a buffer, after any
line ends that stand between frames: it answers with the frame and the bytes behind it, with
the news that more bytes are needed, or with a fault.  A body ends after as many bytes as the
first `content-length` header says, and otherwise at the first NUL.
-/

def lengthHeader : String := "content-length"

/-- A header text as it stands in a frame with some command. -/
def headerText (command : Command) (raw : String) : List Char :=
  if command.escapes then Escape.write raw.toList else raw.toList

/-- A header as one line, with its line feed. -/
def headerLine (command : Command) (header : Header) : List UInt8 :=
  Utf8.bytes (String.ofList (headerText command header.name)) ++ 58 ::
    (Utf8.bytes (String.ofList (headerText command header.value)) ++ [10])

/-- The headers a frame is sent with: a body that no header measures gets its length at the
end. -/
def Frame.measured (frame : Frame) : Frame :=
  if frame.body.isEmpty || (frame.header? lengthHeader).isSome then frame
  else frame.withHeader lengthHeader (String.ofList (Decimal.digits frame.body.length))

/-- The bytes of a frame up to its blank line. -/
def Frame.head (frame : Frame) : List UInt8 :=
  Utf8.bytes frame.command.name ++ 10 :: frame.headers.flatMap (headerLine frame.command)

def encode (frame : Frame) : List UInt8 :=
  frame.measured.head ++ 10 :: (frame.body ++ [0])

def dropLineEnds : List UInt8 → List UInt8
  | 10 :: rest => dropLineEnds rest
  | 13 :: 10 :: rest => dropLineEnds rest
  | buffer => buffer

theorem length_dropLineEnds_le (buffer : List UInt8) :
    (dropLineEnds buffer).length ≤ buffer.length := by
  fun_induction dropLineEnds buffer with
  | case1 rest ih => simp; omega
  | case2 rest ih => simp; omega
  | case3 => simp

/-- A buffer cut at its first blank line. -/
structure Split where
  head : List UInt8
  blank : List UInt8
  rest : List UInt8

/-- Find the first blank line, given the bytes before it in reverse order. -/
def splitFrom (before : List UInt8) : List UInt8 → Option Split
  | [] => none
  | 10 :: 10 :: rest => some ⟨before.reverse, [10, 10], rest⟩
  | 10 :: 13 :: 10 :: rest => some ⟨before.reverse, [10, 13, 10], rest⟩
  | byte :: rest => splitFrom (byte :: before) rest

/-- Cut a buffer at its first blank line: a line feed directly followed by another line end. -/
def split? (buffer : List UInt8) : Option Split :=
  splitFrom [] buffer

theorem append_of_splitFrom {before buffer : List UInt8} {cut : Split}
    (found : splitFrom before buffer = some cut) :
    cut.head ++ cut.blank ++ cut.rest = before.reverse ++ buffer := by
  fun_induction splitFrom before buffer with
  | case1 => cases found
  | case2 before rest => cases found; simp
  | case3 before rest => cases found; simp
  | case4 before byte rest _ _ ih =>
    rw [ih found]
    simp

/-- The parts of a cut, put together, are the buffer. -/
theorem append_of_split? {buffer : List UInt8} {cut : Split}
    (found : split? buffer = some cut) :
    cut.head ++ cut.blank ++ cut.rest = buffer := by
  simpa using append_of_splitFrom found

/-- A line without the carriage return at its end. -/
def dropReturn (line : List Char) : List Char :=
  if line.getLast? = some '\r' then line.dropLast else line

def readHeaderText (command : Command) (raw : List Char) : Except Violation (List Char) :=
  if command.escapes then Escape.read raw else .ok raw

def readHeader (command : Command) (line : List Char) : Except Violation Header :=
  match splitOnce? ':' line with
  | none => .error (.malformedHeader (String.ofList line))
  | some (name, value) => do
    let name ← readHeaderText command name
    let value ← readHeaderText command value
    .ok ⟨String.ofList name, String.ofList value⟩

/-- Read header lines until one is malformed. -/
def readHeaders (command : Command) : List (List Char) → Except Violation (List Header)
  | [] => .ok []
  | line :: lines => do
    let header ← readHeader command line
    let headers ← readHeaders command lines
    .ok (header :: headers)

/-- Read the bytes before the blank line: the command, then one header a line. -/
def readHead (head : List UInt8) : Except Violation Frame :=
  match Utf8.text? head with
  | none => .error .headNotText
  | some text =>
    match (splitOn '\n' text.toList).map dropReturn with
    | [] => .error (.unknownCommand "")
    | first :: lines =>
      match Command.ofName? (String.ofList first) with
      | none => .error (.unknownCommand (String.ofList first))
      | some command =>
        match readHeaders command lines with
        | .ok headers => .ok { command, headers }
        | .error e => .error e

/-- The length that the first `content-length` header of a head gives. -/
def declaredLength (head : Frame) : Except Violation (Option Nat) :=
  match head.header? lengthHeader with
  | none => .ok none
  | some value =>
    match Decimal.natural? Decimal.wordBound (Blank.strip value.toList) with
    | none => .error (.malformedLength value)
    | some length => .ok (some length)

/-- What a look at a buffer finds. -/
inductive Decoded
  | frame (frame : Frame) (rest : List UInt8)
  | waiting (rest : List UInt8)
  | fault (fault : Fault) (rest : List UInt8)

/-- The bytes that stay in the buffer. -/
def Decoded.rest : Decoded → List UInt8
  | .frame _ rest => rest
  | .waiting rest => rest
  | .fault _ rest => rest

/-- The largest frame that a decoder takes unless it is told otherwise. -/
def defaultLimit : Nat := 4 * 1024 * 1024

/-- Wait for more of a frame, unless what is known of its length passes the limit. -/
def waitWithin (limit length : Nat) (buffer : List UInt8) : Decoded :=
  if limit < length then .fault (.tooLarge limit) buffer else .waiting buffer

/-- Take the body of a frame whose length is declared. -/
def takeMeasured (limit length : Nat) (head : Frame) (cut : Split) (buffer : List UInt8) :
    Decoded :=
  let total := cut.head.length + cut.blank.length + length + 1
  if limit < total then .fault (.tooLarge limit) buffer
  else
    match cut.rest.drop length with
    | [] => .waiting buffer
    | 0 :: rest => .frame { head with body := cut.rest.take length } rest
    | _ :: _ => .fault (.protocol .missingTerminator) buffer

/-- Take the body of a frame that ends at its first NUL. -/
def takeTerminated (limit : Nat) (head : Frame) (cut : Split) (buffer : List UInt8) : Decoded :=
  match cut.rest.dropWhile (· != 0) with
  | [] => waitWithin limit buffer.length buffer
  | _ :: rest => .frame { head with body := cut.rest.takeWhile (· != 0) } rest

/-- Take a frame off a buffer that was cut at its first blank line. -/
def takeFrame (limit : Nat) (cut : Split) (buffer : List UInt8) : Decoded :=
  match readHead cut.head with
  | .error violation => .fault (.protocol violation) buffer
  | .ok head =>
    match declaredLength head with
    | .error violation => .fault (.protocol violation) buffer
    | .ok none => takeTerminated limit head cut buffer
    | .ok (some length) => takeMeasured limit length head cut buffer

/-- Look for a frame at the front of a buffer that starts with no line end. -/
def decodeFrame (limit : Nat) (buffer : List UInt8) : Decoded :=
  if buffer = [] ∨ buffer = [13] then .waiting buffer
  else
    match split? buffer with
    | none => waitWithin limit buffer.length buffer
    | some cut => takeFrame limit cut buffer

def decode (limit : Nat) (buffer : List UInt8) : Decoded :=
  decodeFrame limit (dropLineEnds buffer)

/-! ## When a frame is taken -/

/-- A head is read without a body. -/
theorem body_of_readHead {bytes : List UInt8} {head : Frame} (read : readHead bytes = .ok head) :
    head.body = [] := by
  unfold readHead at read
  split at read
  · cases read
  split at read
  · cases read
  split at read
  · cases read
  split at read
  · cases read
    rfl
  · cases read

/-- Bytes are cut at their first NUL in one way only. -/
theorem takeTerminated_eq_frame_iff {limit : Nat} {head frame : Frame} {cut : Split}
    {buffer rest : List UInt8} :
    takeTerminated limit head cut buffer = .frame frame rest ↔
      ∃ body, 0 ∉ body ∧ cut.rest = body ++ 0 :: rest ∧ frame = { head with body := body } := by
  constructor
  · intro found
    unfold takeTerminated at found
    split at found
    · unfold waitWithin at found
      split at found <;> cases found
    · rename_i byte tail tailEq
      cases found
      have isNul : byte = 0 := by
        have first := List.head_dropWhile_not (· != 0) (l := cut.rest) (by simp [tailEq])
        simpa [tailEq] using first
      refine ⟨cut.rest.takeWhile (· != 0), ?_, ?_, rfl⟩
      · intro member
        simpa using List.all_eq_true.mp List.all_takeWhile 0 member
      · rw [isNul] at tailEq
        rw [← tailEq, List.takeWhile_append_dropWhile]
  · rintro ⟨body, noNul, restEq, rfl⟩
    have passes : ∀ byte ∈ body, (byte != 0) = true := by
      intro byte member
      exact bne_iff_ne.mpr fun isNul => noNul (isNul ▸ member)
    unfold takeTerminated
    rw [restEq, List.dropWhile_append_of_pos passes, List.takeWhile_append_of_pos passes]
    simp

/-- A declared length is taken at its word, and held against the limit first. -/
theorem takeMeasured_eq_frame_iff {limit length : Nat} {head frame : Frame} {cut : Split}
    {buffer rest : List UInt8} :
    takeMeasured limit length head cut buffer = .frame frame rest ↔
      cut.head.length + cut.blank.length + length + 1 ≤ limit ∧
        ∃ body, body.length = length ∧ cut.rest = body ++ 0 :: rest ∧
          frame = { head with body := body } := by
  unfold takeMeasured
  dsimp only
  constructor
  · intro found
    split at found
    · cases found
    rename_i within
    refine ⟨Nat.le_of_not_lt within, ?_⟩
    split at found
    · cases found
    · rename_i tail tailEq
      cases found
      have long : length < cut.rest.length := by
        have shape := congrArg List.length tailEq
        simp only [List.length_drop, List.length_cons] at shape
        omega
      refine ⟨cut.rest.take length, List.length_take_of_le (Nat.le_of_lt long), ?_, rfl⟩
      rw [← tailEq, List.take_append_drop]
    · cases found
  · rintro ⟨within, body, rfl, restEq, rfl⟩
    rw [if_neg (Nat.not_lt.mpr within), restEq, List.drop_left, List.take_left]
    rfl

/-- What a frame taken off a cut buffer has to do with the bytes there.  Only a declared length is
held against the limit. -/
structure Taken (limit : Nat) (cut : Split) (frame : Frame) (rest : List UInt8) : Prop where
  head_read : readHead cut.head = .ok { frame with body := [] }
  rest_eq : cut.rest = frame.body ++ 0 :: rest
  ends : (declaredLength frame = .ok none ∧ 0 ∉ frame.body) ∨
    (declaredLength frame = .ok (some frame.body.length) ∧
      cut.head.length + cut.blank.length + frame.body.length + 1 ≤ limit)

theorem takeFrame_eq_frame_iff {limit : Nat} {cut : Split} {buffer rest : List UInt8}
    {frame : Frame} :
    takeFrame limit cut buffer = .frame frame rest ↔ Taken limit cut frame rest := by
  unfold takeFrame
  constructor
  · intro found
    split at found
    · cases found
    rename_i head headRead
    have bare : { head with body := [] } = head := by
      rw [← body_of_readHead headRead]
    split at found
    · cases found
    · rename_i undeclared
      obtain ⟨body, noNul, restEq, rfl⟩ := takeTerminated_eq_frame_iff.mp found
      exact ⟨headRead.trans (congrArg Except.ok bare.symm), restEq, Or.inl ⟨undeclared, noNul⟩⟩
    · rename_i declared
      obtain ⟨within, body, rfl, restEq, rfl⟩ := takeMeasured_eq_frame_iff.mp found
      exact ⟨headRead.trans (congrArg Except.ok bare.symm), restEq, Or.inr ⟨declared, within⟩⟩
  · rintro ⟨headRead, restEq, ends⟩
    rw [headRead]
    dsimp only
    rcases ends with ⟨undeclared, noNul⟩ | ⟨declared, within⟩
    · rw [show declaredLength { frame with body := [] } = .ok none from undeclared]
      exact takeTerminated_eq_frame_iff.mpr ⟨frame.body, noNul, restEq, rfl⟩
    · rw [show declaredLength { frame with body := [] } = .ok (some frame.body.length)
        from declared]
      exact takeMeasured_eq_frame_iff.mpr ⟨within, frame.body, rfl, restEq, rfl⟩

/-- A buffer that starts with no line end holds a whole frame exactly when one can be taken at its
first blank line. -/
theorem decodeFrame_eq_frame_iff {limit : Nat} {buffer rest : List UInt8} {frame : Frame} :
    decodeFrame limit buffer = .frame frame rest ↔
      ∃ cut, split? buffer = some cut ∧ Taken limit cut frame rest := by
  unfold decodeFrame
  constructor
  · intro found
    split at found
    · cases found
    split at found
    · unfold waitWithin at found
      split at found <;> cases found
    · rename_i cut cutEq
      exact ⟨cut, cutEq, takeFrame_eq_frame_iff.mp found⟩
  · rintro ⟨cut, cutEq, taken⟩
    have enough : ¬ (buffer = [] ∨ buffer = [13]) := by
      rintro (rfl | rfl) <;> cases cutEq
    rw [if_neg enough, cutEq]
    exact takeFrame_eq_frame_iff.mpr taken

theorem length_lt_of_decodeFrame {limit : Nat} {buffer rest : List UInt8} {frame : Frame}
    (found : decodeFrame limit buffer = .frame frame rest) : rest.length < buffer.length := by
  obtain ⟨cut, cutEq, taken⟩ := decodeFrame_eq_frame_iff.mp found
  have whole := congrArg List.length (append_of_split? cutEq)
  rw [taken.rest_eq] at whole
  simp only [List.length_append, List.length_cons] at whole
  omega

/-- A decoded frame takes at least one byte off the buffer. -/
theorem length_lt_of_decode {limit : Nat} {buffer rest : List UInt8} {frame : Frame}
    (found : decode limit buffer = .frame frame rest) : rest.length < buffer.length :=
  Nat.lt_of_lt_of_le (length_lt_of_decodeFrame found) (length_dropLineEnds_le buffer)

/-- The frames at the front of a buffer, the fault that ended them, and the bytes left. -/
structure Drained where
  frames : List Frame
  fault : Option Fault
  rest : List UInt8

/-- Decode until more bytes are needed or a fault is met. -/
def drain (limit : Nat) (buffer : List UInt8) : Drained :=
  match _found : decode limit buffer with
  | .frame frame rest =>
    let later := drain limit rest
    { later with frames := frame :: later.frames }
  | .waiting rest => ⟨[], none, rest⟩
  | .fault fault rest => ⟨[], some fault, rest⟩
termination_by buffer.length
decreasing_by exact length_lt_of_decode _found

theorem drain_eq (limit : Nat) (buffer : List UInt8) :
    drain limit buffer =
      match decode limit buffer with
      | .frame frame rest =>
        { drain limit rest with frames := frame :: (drain limit rest).frames }
      | .waiting rest => ⟨[], none, rest⟩
      | .fault fault rest => ⟨[], some fault, rest⟩ := by
  rw [drain]
  split <;> rename_i found <;> rw [found]

end Stomp
end ExchangeGrid
