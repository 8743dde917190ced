import ExchangeGrid.Relay.Cutter
import ExchangeGrid.Proofs.Stomp.Arrival
import ExchangeGrid.Proofs.Stomp.Writing

namespace ExchangeGrid
namespace Relay

open Stomp

/-!
# One message for each frame

The cutter does not read a frame.  It looks for the blank line itself, and for the length in the
lines as they stand on the wire, where a header may be escaped; and a NUL counts for it wherever it
stands.  The statements here show that on written frames it comes to the same ends as a reader
would, provided that no header holds a NUL.

A part of a frame is never cut: either its blank line has not arrived, and then it holds no NUL, or
the length of the body is known by then.
-/

/-! ## The length on the wire -/

theorem after?_append_colon {mark left : List Char} (markPlain : ':' ∉ mark)
    (leftPlain : ':' ∉ left) (right : List Char) :
    after? (mark ++ [':']) (left ++ ':' :: right) = if left = mark then some right else none := by
  induction mark generalizing left with
  | nil =>
      cases left with
      | nil => rfl
      | cons c left =>
          rw [List.mem_cons, not_or] at leftPlain
          rw [List.nil_append, List.cons_append, after?, if_neg leftPlain.1,
            if_neg (List.cons_ne_nil c left)]
  | cons m mark inductionHypothesis =>
      rw [List.mem_cons, not_or] at markPlain
      cases left with
      | nil =>
          rw [List.cons_append, List.nil_append, after?, if_neg (Ne.symm markPlain.1),
            if_neg (List.cons_ne_nil m mark).symm]
      | cons c left =>
          rw [List.mem_cons, not_or] at leftPlain
          rw [List.cons_append, List.cons_append, after?]
          by_cases same : m = c
          · rw [if_pos same, inductionHypothesis markPlain.2 leftPlain.2, same]
            simp only [List.cons.injEq, true_and]
          · rw [if_neg same, if_neg]
            intro equal
            exact same (List.cons.inj equal).1.symm

/-- Escaping makes no other name look like the name of the length header. -/
theorem headerText_eq_lengthHeader_iff {command : Command} {name : String} :
    headerText command name = lengthHeader.toList ↔ name = lengthHeader := by
  have plain : headerText command lengthHeader = lengthHeader.toList := by
    cases command <;> decide
  constructor
  · intro written
    have read := readHeaderText_headerText command name
    rw [written, ← plain, readHeaderText_headerText] at read
    exact (String.toList_inj.mp (Except.ok.inj read)).symm
  · rintro rfl
    exact plain

theorem after?_line {command : Command} {header : Header} (legible : header.Legible command) :
    after? lengthMark (header.line command) =
      if header.name = lengthHeader then some (headerText command header.value) else none := by
  have mark : lengthMark = lengthHeader.toList ++ [':'] := by decide
  unfold Header.line
  rw [mark, after?_append_colon (by decide) legible.name_no_colon]
  simp only [headerText_eq_lengthHeader_iff]

theorem findSome?_lines {command : Command} {headers : List Header}
    (legible : ∀ header ∈ headers, header.Legible command) :
    (headers.map (Header.line command)).findSome? (after? lengthMark) =
      (headers.find? (·.name == lengthHeader)).map (headerText command ·.value) := by
  induction headers with
  | nil => rfl
  | cons header headers inductionHypothesis =>
      have later := inductionHypothesis fun other member =>
        legible other (List.mem_cons_of_mem header member)
      rw [List.map_cons, List.findSome?_cons, after?_line (legible header List.mem_cons_self),
        List.find?_cons]
      by_cases same : header.name = lengthHeader
      · rw [if_pos same, beq_iff_eq.mpr same]
        rfl
      · rw [if_neg same, beq_eq_false_iff_ne.mpr same]
        exact later

/-- The cutter reads a length off the written header where a reader would look it up. -/
theorem declaredLength?_headText {frame : Frame} (plain : frame.Plain) :
    declaredLength? (Utf8.bytes (String.ofList frame.headText)) =
      (frame.header? lengthHeader).bind fun value =>
        Decimal.natural? Decimal.wordBound (Blank.strip (headerText frame.command value)) := by
  have name : after? lengthMark frame.command.name.toList = none := by
    cases frame.command <;> decide
  unfold declaredLength?
  rw [Utf8.text?_bytes]
  dsimp only
  rw [String.toList_ofList, splitOn_headText plain.keepsLines, List.findSome?_cons, name]
  dsimp only
  rw [findSome?_lines fun _ => plain.legible]
  unfold Frame.header?
  cases frame.headers.find? (·.name == lengthHeader) <;> rfl

/-- For the cutter, too, the body of a sent frame is measured or empty. -/
theorem declaredLength?_of_sendable {frame : Frame} (sendable : frame.Sendable)
    (small : frame.body.length < Decimal.wordBound) :
    (declaredLength? (Utf8.bytes (String.ofList frame.measured.headText)) = none ∧
        frame.body = []) ∨
      declaredLength? (Utf8.bytes (String.ofList frame.measured.headText)) =
        some frame.body.length := by
  have digit {c : Char} (member : c ∈ Decimal.digits frame.body.length) : c.isDigit = true :=
    Decimal.isDigit_of_mem_digits member
  rw [declaredLength?_headText sendable.toPlain.measured]
  rcases sendable.header?_measured with ⟨untold, empty⟩ | told
  · rw [untold]
    exact Or.inl ⟨rfl, empty⟩
  · have verbatim : headerText frame.measured.command
        (String.ofList (Decimal.digits frame.body.length)) = Decimal.digits frame.body.length := by
      unfold headerText
      rw [String.toList_ofList, Escape.write_eq_self, ite_self]
      intro c member
      refine ⟨?_, ?_, ?_, ?_⟩ <;> rintro rfl <;> exact absurd (digit member) (by decide)
    rw [told, Option.bind_some, verbatim,
      Blank.strip_eq_self fun _ member => Blank.isBlank_of_isDigit (digit member),
      Decimal.natural?_digits small]
    exact Or.inr rfl

/-! ## Heads without a NUL -/

def NulFree (frame : Frame) : Prop :=
  ∀ header ∈ frame.headers, '\x00' ∉ header.name.toList ∧ '\x00' ∉ header.value.toList

theorem nul_not_mem_headerText {command : Command} {raw : String} (absent : '\x00' ∉ raw.toList) :
    '\x00' ∉ headerText command raw := by
  unfold headerText
  split
  · intro member
    rcases Escape.mem_of_mem_write member with inEscape | ⟨inside, -⟩
    · exact absurd inEscape (by decide)
    · exact absent inside
  · exact absent

theorem NulFree.measured {frame : Frame} (free : NulFree frame) : NulFree frame.measured := by
  unfold Frame.measured
  split
  · exact free
  intro header member
  rcases List.mem_append.mp member with listed | added
  · exact free header listed
  · rw [List.mem_singleton.mp added, String.toList_ofList]
    refine ⟨(by decide : '\x00' ∉ lengthHeader.toList), ?_⟩
    intro inDigits
    exact absurd (Decimal.isDigit_of_mem_digits inDigits) (by decide)

theorem zero_not_mem_headText {frame : Frame} (free : NulFree frame) :
    0 ∉ Utf8.bytes (String.ofList frame.headText) := by
  have absent : '\x00' ∉ frame.headText := by
    unfold Frame.headText
    rw [List.mem_append]
    rintro (inName | inLines)
    · revert inName
      cases frame.command <;> decide
    obtain ⟨line, listed, inside⟩ := List.mem_flatMap.mp inLines
    obtain ⟨header, member, rfl⟩ := List.mem_map.mp listed
    unfold Header.line at inside
    rw [List.mem_cons, List.mem_append, List.mem_cons] at inside
    rcases inside with isFeed | inName | isColon | inValue
    · exact absurd isFeed (by decide)
    · exact nul_not_mem_headerText (free header member).1 inName
    · exact absurd isColon (by decide)
    · exact nul_not_mem_headerText (free header member).2 inValue
  exact Utf8.not_mem_bytes absent rfl (by decide)

/-! ## The first message of a buffer -/

theorem terminatedLength?_of_not_mem {buffer : List UInt8} (absent : 0 ∉ buffer) :
    terminatedLength? buffer = none := by
  unfold terminatedLength?
  rw [Option.map_eq_none_iff, List.findIdx?_eq_none_iff]
  intro byte member
  exact beq_eq_false_iff_ne.mpr fun isNul => absent (isNul ▸ member)

theorem terminatedLength?_append {front : List UInt8} (absent : 0 ∉ front) (rest : List UInt8) :
    terminatedLength? (front ++ 0 :: rest) = some (front.length + 1) := by
  have none_eq := Option.map_eq_none_iff.mp (terminatedLength?_of_not_mem absent)
  unfold terminatedLength?
  rw [List.findIdx?_append, none_eq]
  simp [List.findIdx?_cons]

section
variable {buffer : List UInt8} {cut : Split} {size : Nat}

theorem frameLength?_of_missing (missing : split? buffer = none) :
    frameLength? buffer = terminatedLength? buffer := by
  unfold frameLength?
  rw [missing]

theorem frameLength?_of_untold (cutEq : split? buffer = some cut)
    (untold : declaredLength? cut.head = none) :
    frameLength? buffer = terminatedLength? buffer := by
  unfold frameLength?
  rw [cutEq]
  dsimp only
  rw [untold]

theorem frameLength?_of_told (cutEq : split? buffer = some cut)
    (told : declaredLength? cut.head = some size) :
    frameLength? buffer =
      if cut.head.length + cut.blank.length + size < buffer.length then
        some (cut.head.length + cut.blank.length + size + 1)
      else none := by
  unfold frameLength?
  rw [cutEq]
  dsimp only
  rw [told]

end

theorem messageLength?_of_startsFrame {buffer : List UInt8} (starts : StartsFrame buffer) :
    messageLength? buffer = frameLength? buffer := by
  unfold messageLength?
  split
  · exact absurd rfl starts.ne_nil
  · exact absurd rfl (starts.no_lineFeed _)
  · exact absurd rfl (starts.no_pair _)
  · rfl

/-- What is asked of frames that are sent over a socket of messages.  The length of a body is a
machine word. -/
structure Cuttable (frame : Frame) : Prop extends frame.Sendable where
  nul_free : NulFree frame
  small : frame.body.length < Decimal.wordBound

instance (frame : Frame) : Decidable (NulFree frame) :=
  inferInstanceAs (Decidable (∀ header ∈ frame.headers, _))

instance (frame : Frame) : Decidable (Cuttable frame) :=
  decidable_of_iff (_ ∧ _ ∧ _)
    ⟨fun all => ⟨all.1, all.2.1, all.2.2⟩,
      fun cuttable => ⟨cuttable.toSendable, cuttable.nul_free, cuttable.small⟩⟩

/-- A written frame is a message, whatever stands behind it. -/
theorem messageLength?_encode_append {frame : Frame} (cuttable : Cuttable frame)
    (rest : List UInt8) :
    messageLength? (encode frame ++ rest) = some (encode frame).length := by
  have cutEq := split?_encode_append cuttable.toPlain.measured.keepsLines rest
  rw [messageLength?_of_startsFrame ((startsFrame_encode frame).append rest)]
  rcases declaredLength?_of_sendable cuttable.toSendable cuttable.small with
    ⟨undeclared, empty⟩ | declared
  · have absent : 0 ∉ Utf8.bytes (String.ofList frame.measured.headText) ++ [10, 10] := by
      rw [List.mem_append, not_or]
      exact ⟨zero_not_mem_headText cuttable.nul_free.measured, by decide⟩
    have shape : encode frame ++ rest =
        (Utf8.bytes (String.ofList frame.measured.headText) ++ [10, 10]) ++ 0 :: rest := by
      rw [encode_eq, empty]
      simp
    rw [frameLength?_of_untold cutEq undeclared, shape, length_encode, empty,
      terminatedLength?_append absent, List.length_append]
    rfl
  · rw [frameLength?_of_told cutEq declared, if_pos, length_encode]
    · rfl
    · rw [List.length_append, length_encode]
      simp only [List.length_cons, List.length_nil]
      omega

/-- As long as the blank line of a written frame has not arrived, no NUL has. -/
theorem zero_not_mem_of_split?_eq_none {frame : Frame} (cuttable : Cuttable frame)
    {front : List UInt8} (isFront : front <+: encode frame) (noBlank : split? front = none) :
    0 ∉ front := by
  have absent : 0 ∉ Utf8.bytes (String.ofList frame.measured.headText) ++ [10] := by
    rw [List.mem_append, not_or]
    exact ⟨zero_not_mem_headText cuttable.nul_free.measured, by decide⟩
  have shape : encode frame =
      (Utf8.bytes (String.ofList frame.measured.headText) ++ [10]) ++
        10 :: (frame.body ++ [0]) := by
    rw [encode_eq]
    simp
  rw [shape] at isFront
  rcases List.prefix_or_prefix_of_prefix isFront (List.prefix_append _ _) with part | whole
  · exact fun member => absent (part.subset member)
  obtain ⟨tail, rfl⟩ := whole
  rw [List.prefix_append_right_inj] at isFront
  cases tail with
  | nil =>
      rw [List.append_nil]
      exact absent
  | cons byte tail =>
      rw [(List.cons_prefix_cons.mp isFront).1, List.append_assoc] at noBlank
      have blank := split?_headText cuttable.toPlain.measured.keepsLines tail
      rw [List.singleton_append, blank] at noBlank
      cases noBlank

/-- A part of a written frame is no message yet. -/
theorem messageLength?_of_front {frame : Frame} (cuttable : Cuttable frame) {front : List UInt8}
    (isFront : front <+: encode frame) (isPart : front ≠ encode frame) :
    messageLength? front = none := by
  by_cases empty : front = []
  · rw [empty]
    rfl
  rw [messageLength?_of_startsFrame (startsFrame_of_front isFront empty)]
  cases blank : split? front with
  | none =>
      have absent := zero_not_mem_of_split?_eq_none cuttable isFront blank
      rw [frameLength?_of_missing blank, terminatedLength?_of_not_mem absent]
  | some cut =>
      obtain ⟨later, written⟩ := isFront
      have missing : later ≠ [] := by
        rintro rfl
        exact isPart ((List.append_nil front).symm.trans written)
      have whole := split?_append blank later
      have expected := split?_encode_append cuttable.toPlain.measured.keepsLines []
      rw [List.append_nil, ← written, whole, Option.some.injEq, Split.mk.injEq] at expected
      obtain ⟨sameHead, sameBlank, sameRest⟩ := expected
      have known := declaredLength?_of_sendable cuttable.toSendable cuttable.small
      rw [← sameHead] at known
      rcases known with ⟨undeclared, emptyBody⟩ | declared
      · rw [emptyBody] at sameRest
        rcases List.append_eq_singleton_iff.mp sameRest with ⟨nothing, -⟩ | ⟨-, nothing⟩
        · have arrived := append_of_split? blank
          rw [sameHead, sameBlank, nothing, List.append_nil] at arrived
          rw [frameLength?_of_untold blank undeclared, ← arrived]
          apply terminatedLength?_of_not_mem
          rw [List.mem_append, not_or]
          exact ⟨zero_not_mem_headText cuttable.nul_free.measured, by decide⟩
        · exact absurd nothing missing
      · have short : front.length < (encode frame).length := by
          rw [← written, List.length_append]
          exact Nat.lt_add_of_pos_right (List.length_pos_iff.mpr missing)
        rw [length_encode] at short
        rw [frameLength?_of_told blank declared, sameHead, sameBlank, if_neg]
        simp only [List.length_cons, List.length_nil]
        omega

/-! ## Chunk by chunk -/

/-- Push chunks one after the other, and gather what is cut. -/
def Cutter.pushAll (cutter : Cutter) : List (List UInt8) → Cut
  | [] => ⟨[], cutter.pending⟩
  | chunk :: chunks =>
    let now := cutter.push chunk
    let later := Cutter.pushAll ⟨now.pending⟩ chunks
    { later with messages := now.messages ++ later.messages }

theorem cutAll_encode_append {frame : Frame} (cuttable : Cuttable frame) (rest : List UInt8) :
    cutAll (encode frame ++ rest) =
      { cutAll rest with messages := encode frame :: (cutAll rest).messages } := by
  rw [cutAll_eq, messageLength?_encode_append cuttable]
  dsimp only
  rw [List.drop_left, List.take_left]

theorem cutAll_of_none {buffer : List UInt8} (waits : messageLength? buffer = none) :
    cutAll buffer = ⟨[], buffer⟩ := by
  rw [cutAll_eq, waits]

/-- What has been cut off the front of some written frames is the first of them, and what is held
back belongs to the others. -/
theorem cutAll_front {frames : List Frame} (cuttable : ∀ frame ∈ frames, Cuttable frame)
    {front later : List UInt8} (written : front ++ later = frames.flatMap encode) :
    ∃ cut held, frames = cut ++ held ∧ (cutAll front).messages = cut.map encode ∧
      (cutAll front).pending ++ later = held.flatMap encode := by
  induction frames generalizing front with
  | nil =>
      obtain ⟨noFront, noLater⟩ := List.append_eq_nil_iff.mp written
      rw [noFront, noLater]
      exact ⟨[], [], rfl, by rw [cutAll_of_none rfl]; rfl, by rw [cutAll_of_none rfl]; rfl⟩
  | cons frame frames inductionHypothesis =>
      have first := cuttable frame List.mem_cons_self
      have isFront : front <+: encode frame ++ frames.flatMap encode :=
        ⟨later, written.trans List.flatMap_cons⟩
      by_cases whole : encode frame <+: front
      · obtain ⟨behind, rfl⟩ := whole
        rw [List.flatMap_cons, List.append_assoc, List.append_cancel_left_eq] at written
        obtain ⟨cut, held, rfl, messages, pending⟩ := inductionHypothesis
          (fun other member => cuttable other (List.mem_cons_of_mem frame member)) written
        refine ⟨frame :: cut, held, rfl, ?_, ?_⟩
        · rw [cutAll_encode_append first, messages]
          rfl
        · rw [cutAll_encode_append first]
          exact pending
      · have part : front <+: encode frame :=
          (List.prefix_or_prefix_of_prefix isFront (List.prefix_append _ _)).resolve_right whole
        have waits : messageLength? front = none := by
          refine messageLength?_of_front first part ?_
          rintro rfl
          exact whole List.prefix_rfl
        rw [cutAll_of_none waits]
        exact ⟨[], frame :: frames, rfl, rfl, written⟩

/-- What is held back is no message yet. -/
theorem messageLength?_pending (buffer : List UInt8) :
    messageLength? (cutAll buffer).pending = none := by
  induction buffer using cutAll.induct with
  | case1 buffer waits =>
      rw [cutAll_of_none waits]
      exact waits
  | case2 buffer length found inductionHypothesis =>
      rw [cutAll_eq, found]
      exact inductionHypothesis

theorem pushAll_of_pending {frames : List Frame} (cuttable : ∀ frame ∈ frames, Cuttable frame)
    {pending : List UInt8} {chunks : List (List UInt8)} (waits : messageLength? pending = none)
    (written : pending ++ chunks.flatten = frames.flatMap encode) :
    Cutter.pushAll ⟨pending⟩ chunks = ⟨frames.map encode, []⟩ := by
  induction chunks generalizing frames pending with
  | nil =>
      rw [List.flatten_nil, List.append_nil] at written
      cases frames with
      | nil =>
          rw [written]
          rfl
      | cons frame frames =>
          have first := messageLength?_encode_append (cuttable frame List.mem_cons_self)
            (frames.flatMap encode)
          rw [← List.flatMap_cons, ← written, waits] at first
          cases first
  | cons chunk chunks inductionHypothesis =>
      rw [List.flatten_cons, ← List.append_assoc] at written
      obtain ⟨cut, held, rfl, messages, pending⟩ := cutAll_front cuttable written
      have later := inductionHypothesis
        (fun frame member => cuttable frame (List.mem_append_right cut member))
        (messageLength?_pending _) pending
      unfold Cutter.pushAll Cutter.push
      dsimp only
      rw [later, messages, List.map_append]

/-- However the bytes of some frames are cut into chunks, they leave as one message for each frame,
in order and unchanged, and nothing is held back. -/
theorem pushAll_flatMap_encode {frames : List Frame}
    (cuttable : ∀ frame ∈ frames, Cuttable frame) {chunks : List (List UInt8)}
    (written : chunks.flatten = frames.flatMap encode) :
    Cutter.pushAll {} chunks = ⟨frames.map encode, []⟩ :=
  pushAll_of_pending cuttable rfl written

/-- An opening frame without a body, and a frame whose measured body holds a NUL and a blank
line. -/
def innerNulFrames : List Frame :=
  [{ command := .connect, headers := [⟨"host", "h:1"⟩] },
    { command := .send, headers := [⟨"content-length", "4"⟩], body := [0, 10, 10, 1] }]

/-- Their bytes in chunks that end inside the first blank line and behind the NUL in the body. -/
def innerNulChunks : List (List UInt8) :=
  [Utf8.bytes "CONNECT\nhost:h:1\n", Utf8.bytes "\n\x00SEND\ncontent-length:4\n\n\x00",
    Utf8.bytes "\n\n\x01\x00"]

theorem pushAll_innerNulChunks :
    (∀ frame ∈ innerNulFrames, Cuttable frame) ∧
      innerNulChunks.flatten = innerNulFrames.flatMap encode ∧
      Cutter.pushAll {} innerNulChunks = ⟨innerNulFrames.map encode, []⟩ :=
  ⟨by decide, by decide, pushAll_flatMap_encode (by decide) (by decide)⟩

end Relay
end ExchangeGrid
