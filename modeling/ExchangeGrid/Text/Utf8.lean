namespace ExchangeGrid
namespace Utf8

/-!
# Texts and their bytes

A byte sequence is a list of bytes here, so that it can be cut, joined and compared by
induction.  `bytes` writes a text, `text?` reads one back and refuses bytes that are no text,
and `repair` reads any bytes at all, writing a replacement character for each longest piece
that begins no character.
-/

def bytes (text : String) : List UInt8 :=
  text.toByteArray.data.toList

def text? (input : List UInt8) : Option String :=
  String.fromUTF8? ⟨input.toArray⟩

/-- Reading what was written gives the text back. -/
theorem text?_bytes (text : String) : text? (bytes text) = some text := by
  have same : (⟨(bytes text).toArray⟩ : ByteArray) = text.toByteArray := by
    simp [bytes]
  unfold text? String.fromUTF8?
  simp [same, String.fromUTF8, text.isValidUTF8]

/-- Only the bytes of a text are read as that text. -/
theorem bytes_of_text? {input : List UInt8} {text : String}
    (read : text? input = some text) : bytes text = input := by
  unfold text? String.fromUTF8? at read
  split at read
  · cases read
    simp [bytes, String.fromUTF8]
  · cases read

/-- The bytes of a text are the bytes of its characters. -/
theorem bytes_ofList (text : List Char) :
    bytes (String.ofList text) = text.flatMap String.utf8EncodeChar := by
  unfold bytes
  rw [String.toByteArray_ofList, List.utf8Encode]
  simp

theorem bytes_append (first second : List Char) :
    bytes (String.ofList (first ++ second)) =
      bytes (String.ofList first) ++ bytes (String.ofList second) := by
  simp only [bytes_ofList, List.flatMap_append]

theorem bytes_cons (c : Char) (text : List Char) :
    bytes (String.ofList (c :: text)) =
      String.utf8EncodeChar c ++ bytes (String.ofList text) := by
  simp only [bytes_ofList, List.flatMap_cons]

/-- A byte of ASCII stands for itself: it is no part of another character. -/
theorem toNat_of_mem_utf8EncodeChar {c : Char} {byte : UInt8}
    (member : byte ∈ String.utf8EncodeChar c) (small : byte.toNat < 128) :
    c.toNat = byte.toNat := by
  revert member
  fun_cases String.utf8EncodeChar c <;> intro member
  · rename_i low
    have same : c.val.toNat = c.toNat := rfl
    rw [List.mem_singleton.mp member, UInt8.toNat_ofNat']
    omega
  all_goals
    simp only [List.mem_cons, List.not_mem_nil, or_false] at member
    rcases member with rfl | rfl | rfl | rfl
  all_goals
    rw [UInt8.toNat_ofNat'] at small
    omega

theorem not_mem_bytes {text : List Char} {c : Char} {byte : UInt8} (absent : c ∉ text)
    (same : c.toNat = byte.toNat) (small : byte.toNat < 128) :
    byte ∉ bytes (String.ofList text) := by
  intro member
  rw [bytes_ofList, List.mem_flatMap] at member
  obtain ⟨other, listed, inside⟩ := member
  have equal : other = c :=
    Char.toNat_inj.mp ((toNat_of_mem_utf8EncodeChar inside small).trans same.symm)
  exact absent (equal ▸ listed)

/-- What is known of a character after some of its bytes: the value so far, how many bytes
are still to come, and the range in which the next byte has to lie. -/
inductive Partial
  | none
  | some (value more low high : Nat)

/-- The character written for bytes that are no part of any character. -/
def replacement : Char := '\uFFFD'

def Partial.start (byte : UInt8) : Partial × List Char :=
  let b := byte.toNat
  if b < 0x80 then (.none, [Char.ofNat b])
  else if b < 0xC2 then (.none, [replacement])
  else if b < 0xE0 then (.some (b - 0xC0) 1 0x80 0xBF, [])
  else if b = 0xE0 then (.some 0 2 0xA0 0xBF, [])
  else if b = 0xED then (.some 0xD 2 0x80 0x9F, [])
  else if b < 0xF0 then (.some (b - 0xE0) 2 0x80 0xBF, [])
  else if b = 0xF0 then (.some 0 3 0x90 0xBF, [])
  else if b < 0xF4 then (.some (b - 0xF0) 3 0x80 0xBF, [])
  else if b = 0xF4 then (.some 4 3 0x80 0x8F, [])
  else (.none, [replacement])

/-- Take one more byte.  A byte that cannot go on ends the piece before it, which becomes one
replacement character, and is then taken as a first byte. -/
def Partial.next (state : Partial) (byte : UInt8) : Partial × List Char :=
  match state with
  | .none => Partial.start byte
  | .some value more low high =>
    if low ≤ byte.toNat ∧ byte.toNat ≤ high then
      let value := value * 64 + (byte.toNat - 0x80)
      if more ≤ 1 then (.none, [Char.ofNat value])
      else (.some value (more - 1) 0x80 0xBF, [])
    else
      let (state, out) := Partial.start byte
      (state, replacement :: out)

/-- The characters of any bytes, with the characters already read in reverse order. -/
def repairFrom (state : Partial) (done : List Char) : List UInt8 → List Char
  | [] =>
    match state with
    | .none => done.reverse
    | .some .. => (replacement :: done).reverse
  | byte :: rest =>
    let (state, out) := state.next byte
    repairFrom state (out.reverse ++ done) rest

/-- Read bytes as text, with a replacement character for every piece that is none. -/
def repair (input : List UInt8) : String :=
  String.ofList (repairFrom .none [] input)

/-- Whether bytes begin a character and do not end it.  No bytes begin every character. -/
def isUnfinished (input : List UInt8) : Bool :=
  go .none input
where
  go : Partial → List UInt8 → Bool
    | _, [] => true
    | state, byte :: rest =>
      match state.next byte with
      | (.some value more low high, []) => go (.some value more low high) rest
      | _ => false

/-- Whether bytes are the beginning of some text: a text, and perhaps a character that is not yet
whole. -/
def begins (input : List UInt8) : Bool :=
  (List.range 4).any fun tail =>
    let cut := input.length - tail
    (text? (input.take cut)).isSome && isUnfinished (input.drop cut)

end Utf8
end ExchangeGrid
