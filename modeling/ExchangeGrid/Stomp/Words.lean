import ExchangeGrid.Stomp.Wire

namespace ExchangeGrid
namespace Stomp

/-!
# Looking at a buffer in machine words

`decode` adds whole numbers.  A machine adds words, and a declared length may be as large as a word
can be, so that the place where the frame ends is no word any more.  What the machine does then
depends on how the program was built: it stops, or it goes on with what is left of the sum.

`decodeWords` is the look as a machine takes it.  It finds nothing where the program stops, be it at
an addition or because it reaches for bytes that are not there.  A frame that it does find is the
one that `decode` finds.
-/

/-- What a machine does when a sum is no word. -/
inductive Overflow
  | stops
  | wraps
  deriving DecidableEq, Repr

def Overflow.sum? (overflow : Overflow) (left right : Nat) : Option Nat :=
  if left + right < Decimal.wordBound then some (left + right)
  else
    match overflow with
    | .stops => none
    | .wraps => some ((left + right) % Decimal.wordBound)

/-- Take as many bytes off the front as are asked for.  The program stops if there are fewer. -/
def splitAt? (length : Nat) (bytes : List UInt8) : Option (List UInt8 × List UInt8) :=
  if length ≤ bytes.length then some (bytes.take length, bytes.drop length) else none

/-- Take a frame of some length off a buffer, and its body out of the frame: what was taken, and the
bytes behind it. -/
def takeBody? (start length total : Nat) (buffer : List UInt8) :
    Option (List UInt8 × List UInt8) := do
  let (whole, rest) ← splitAt? total buffer
  let (_, behind) ← splitAt? start whole
  let (body, _) ← splitAt? length behind
  some (body, rest)

/-- A buffer whose head was read and declares the length of the body. -/
structure Declaration where
  cut : Split
  head : Frame
  length : Nat

def Declaration.start (told : Declaration) : Nat :=
  told.cut.head.length + told.cut.blank.length

/-- The declared length that a look comes to, if it comes to one. -/
def declaration? (buffer : List UInt8) : Option Declaration :=
  match split? buffer with
  | none => none
  | some cut =>
    match readHead cut.head with
    | .error _ => none
    | .ok head =>
      match declaredLength head with
      | .ok (some length) => some ⟨cut, head, length⟩
      | _ => none

def takeWords (overflow : Overflow) (limit : Nat) (told : Declaration) (buffer : List UInt8) :
    Option Decoded := do
  let last ← overflow.sum? told.start told.length
  let total ← overflow.sum? last 1
  if limit < total then some (.fault (.tooLarge limit) buffer)
  else if buffer.length < total then some (.waiting buffer)
  else
    let byte ← buffer[last]?
    if byte ≠ 0 then some (.fault (.protocol .missingTerminator) buffer)
    else
      let (body, rest) ← takeBody? told.start told.length total buffer
      some (.frame { told.head with body } rest)

def decodeWords (overflow : Overflow) (limit : Nat) (buffer : List UInt8) : Option Decoded :=
  match declaration? (dropLineEnds buffer) with
  | none => some (decode limit buffer)
  | some told => takeWords overflow limit told (dropLineEnds buffer)

/-! ## Sums that are words -/

section
variable {overflow : Overflow} {left right limit : Nat} {told : Declaration}
  {buffer rest : List UInt8} {frame : Frame}

theorem Overflow.sum?_of_lt (fits : left + right < Decimal.wordBound) :
    overflow.sum? left right = some (left + right) :=
  if_pos fits

theorem Overflow.sum?_stops (lost : Decimal.wordBound ≤ left + right) :
    Overflow.stops.sum? left right = none :=
  if_neg (Nat.not_lt.mpr lost)

theorem Overflow.sum?_wraps (lost : Decimal.wordBound ≤ left + right) :
    Overflow.wraps.sum? left right = some ((left + right) % Decimal.wordBound) :=
  if_neg (Nat.not_lt.mpr lost)

theorem Overflow.sum?_wraps_of_add {rest : Nat} (lost : left + right = rest + Decimal.wordBound)
    (small : rest < Decimal.wordBound) : Overflow.wraps.sum? left right = some rest := by
  rw [Overflow.sum?_wraps (lost ▸ Nat.le_add_left _ _), lost, Nat.add_mod_right,
    Nat.mod_eq_of_lt small]

/-- A machine arrives at a word, which is the sum or falls short of it by all the words there are. -/
theorem Overflow.sum?_bounds {sum : Nat} (found : overflow.sum? left right = some sum) :
    sum < Decimal.wordBound ∧ (sum = left + right ∨ sum + Decimal.wordBound ≤ left + right) := by
  rcases Nat.lt_or_ge (left + right) Decimal.wordBound with fits | lost
  · rw [Overflow.sum?_of_lt fits, Option.some.injEq] at found
    exact ⟨found ▸ fits, Or.inl found.symm⟩
  · cases overflow with
    | stops =>
        rw [Overflow.sum?_stops lost] at found
        cases found
    | wraps =>
        rw [Overflow.sum?_wraps lost, Option.some.injEq, Nat.mod_eq_sub_mod lost] at found
        rw [← found]
        refine ⟨Nat.mod_lt _ (by decide), Or.inr ?_⟩
        exact Nat.le_trans (Nat.add_le_add_right (Nat.mod_le _ _) _)
          (Nat.le_of_eq (Nat.sub_add_cancel lost))

/-! ## Bytes that are there -/

theorem splitAt?_append (front behind : List UInt8) :
    splitAt? front.length (front ++ behind) = some (front, behind) := by
  unfold splitAt?
  rw [if_pos (by simp), List.take_left, List.drop_left]

theorem splitAt?_eq_some {length : Nat} {bytes front behind : List UInt8}
    (found : splitAt? length bytes = some (front, behind)) :
    front.length = length ∧ bytes = front ++ behind := by
  unfold splitAt? at found
  split at found
  · rename_i within
    cases found
    exact ⟨List.length_take_of_le within, (List.take_append_drop length bytes).symm⟩
  · cases found

theorem takeBody?_append (front body rest : List UInt8) (last : UInt8) :
    takeBody? front.length body.length (front.length + body.length + 1)
      (front ++ (body ++ last :: rest)) = some (body, rest) := by
  have whole : splitAt? (front.length + body.length + 1) (front ++ (body ++ last :: rest)) =
      some (front ++ (body ++ [last]), rest) := by
    have parts := splitAt?_append (front ++ (body ++ [last])) rest
    simpa [Nat.add_assoc] using parts
  unfold takeBody?
  rw [whole]
  simp only [Option.bind_eq_bind, Option.bind_some, splitAt?_append]

/-- A body is only taken out of a frame that holds it. -/
theorem le_of_takeBody? {start length total : Nat} {body : List UInt8}
    (found : takeBody? start length total buffer = some (body, rest)) : start + length ≤ total := by
  unfold takeBody? at found
  simp only [Option.bind_eq_bind, Option.bind_eq_some_iff, Prod.exists] at found
  rcases found with ⟨whole, other, wholeIs, front, behind, frontIs, inside, after, bodyIs, -⟩
  rcases splitAt?_eq_some wholeIs with ⟨wholeLong, -⟩
  rcases splitAt?_eq_some frontIs with ⟨frontLong, rfl⟩
  rcases splitAt?_eq_some bodyIs with ⟨bodyLong, rfl⟩
  simp only [List.length_append] at wholeLong
  omega

/-! ## A declared length -/

/-- What a declared length is read from. -/
theorem declaration?_eq_some (found : declaration? buffer = some told) :
    split? buffer = some told.cut ∧ readHead told.cut.head = .ok told.head ∧
      declaredLength told.head = .ok (some told.length) := by
  unfold declaration? at found
  split at found
  · cases found
  rename_i cut cutEq
  split at found
  · cases found
  rename_i head headRead
  split at found
  · rename_i length declared
    cases found
    exact ⟨cutEq, headRead, declared⟩
  · cases found

/-- The whole look comes down to the body where a length is declared. -/
theorem decode_of_declaration? (found : declaration? (dropLineEnds buffer) = some told) :
    decode limit buffer =
      takeMeasured limit told.length told.head told.cut (dropLineEnds buffer) := by
  have enough : ¬ (dropLineEnds buffer = [] ∨ dropLineEnds buffer = [13]) := by
    rintro (isNil | isReturn)
    · rw [isNil] at found
      cases found
    · rw [isReturn] at found
      cases found
  rcases declaration?_eq_some found with ⟨cutEq, headRead, declared⟩
  unfold decode decodeFrame takeFrame
  rw [if_neg enough]
  simp only [cutEq, headRead, declared]

/-- Where the sums are words, a machine takes the body as it is declared. -/
theorem takeWords_of_fits (parts : told.cut.head ++ told.cut.blank ++ told.cut.rest = buffer)
    (fits : told.start + told.length + 1 < Decimal.wordBound) :
    takeWords overflow limit told buffer =
      some (takeMeasured limit told.length told.head told.cut buffer) := by
  have start : told.start = (told.cut.head ++ told.cut.blank).length := List.length_append.symm
  unfold takeWords takeMeasured
  rw [Overflow.sum?_of_lt (Nat.lt_of_succ_lt fits)]
  simp only [Option.bind_eq_bind, Option.bind_some]
  rw [Overflow.sum?_of_lt fits, ← List.length_append, ← start]
  simp only [Option.bind_some]
  by_cases tooLong : limit < told.start + told.length + 1
  · rw [if_pos tooLong, if_pos tooLong]
  rw [if_neg tooLong, if_neg tooLong]
  have whole := congrArg List.length parts
  rw [List.length_append, ← start] at whole
  by_cases short : told.cut.rest.length ≤ told.length
  · rw [if_pos (by omega), List.drop_eq_nil_of_le short]
  · rw [Nat.not_le] at short
    rw [if_neg (by omega)]
    obtain ⟨body, byte, rest, restEq, bodyLong⟩ :
        ∃ body byte rest, told.cut.rest = body ++ byte :: rest ∧ body.length = told.length := by
      refine ⟨told.cut.rest.take told.length, told.cut.rest[told.length],
        told.cut.rest.drop (told.length + 1), ?_, List.length_take_of_le (Nat.le_of_lt short)⟩
      rw [← List.drop_eq_getElem_cons short, List.take_append_drop]
    have byteEq : buffer[told.start + told.length]? = some byte := by
      rw [← parts, restEq, start, ← bodyLong, ← List.length_append, ← List.append_assoc,
        List.getElem?_append_right (Nat.le_refl _), Nat.sub_self, List.getElem?_cons_zero]
    have taken := takeBody?_append (told.cut.head ++ told.cut.blank) body rest byte
    rw [← restEq, parts, ← start, bodyLong] at taken
    rw [byteEq, taken, restEq, ← bodyLong, List.drop_left, List.take_left]
    simp only [Option.bind_some]
    by_cases isNul : byte = 0
    · subst isNul
      rfl
    · rw [if_pos isNul]
      split
      · rename_i same
        cases same
      · rename_i same
        cases same
        exact absurd rfl isNul
      · rfl

/-- A machine takes no frame where the sums are no words: what is left of a sum is less than the
body alone. -/
theorem fits_of_takeWords (found : takeWords overflow limit told buffer = some (.frame frame rest)) :
    told.start + told.length + 1 < Decimal.wordBound := by
  unfold takeWords at found
  simp only [Option.bind_eq_bind, Option.bind_eq_some_iff] at found
  rcases found with ⟨last, lastEq, total, totalEq, found⟩
  split at found
  · cases found
  split at found
  · cases found
  rcases Option.bind_eq_some_iff.mp found with ⟨byte, -, taken⟩
  split at taken
  · cases taken
  rcases Option.bind_eq_some_iff.mp taken with ⟨⟨body, behind⟩, bodyEq, -⟩
  have holds := le_of_takeBody? bodyEq
  rcases Overflow.sum?_bounds lastEq with ⟨-, lastIs⟩
  rcases Overflow.sum?_bounds totalEq with ⟨totalWord, totalIs⟩
  have many : 1 < Decimal.wordBound := by decide
  omega

/-! ## Looks -/

theorem decodeWords_of_untold (untold : declaration? (dropLineEnds buffer) = none) :
    decodeWords overflow limit buffer = some (decode limit buffer) := by
  unfold decodeWords
  rw [untold]

theorem decodeWords_of_told (found : declaration? (dropLineEnds buffer) = some told) :
    decodeWords overflow limit buffer = takeWords overflow limit told (dropLineEnds buffer) := by
  unfold decodeWords
  rw [found]

/-- Where the sums are words, a machine finds what there is to be found. -/
theorem decodeWords_of_fits (found : declaration? (dropLineEnds buffer) = some told)
    (fits : told.start + told.length + 1 < Decimal.wordBound) :
    decodeWords overflow limit buffer = some (decode limit buffer) := by
  have parts := append_of_split? (declaration?_eq_some found).1
  rw [decodeWords_of_told found, takeWords_of_fits parts fits, decode_of_declaration? found]

/-- A frame that a machine finds is there. -/
theorem decode_of_decodeWords
    (taken : decodeWords overflow limit buffer = some (.frame frame rest)) :
    decode limit buffer = .frame frame rest := by
  cases found : declaration? (dropLineEnds buffer) with
  | none =>
      rw [decodeWords_of_untold found] at taken
      exact Option.some.inj taken
  | some told =>
      have fits : told.start + told.length + 1 < Decimal.wordBound := by
        rw [decodeWords_of_told found] at taken
        exact fits_of_takeWords taken
      rw [decodeWords_of_fits found fits] at taken
      exact Option.some.inj taken

/-- Decode until more bytes are needed, a fault is met, or the program stops. -/
def drainWords (overflow : Overflow) (limit : Nat) (buffer : List UInt8) : Option Drained :=
  match _taken : decodeWords overflow limit buffer with
  | none => none
  | some (.frame frame rest) =>
    (drainWords overflow limit rest).map fun later =>
      { later with frames := frame :: later.frames }
  | some (.waiting rest) => some ⟨[], none, rest⟩
  | some (.fault fault rest) => some ⟨[], some fault, rest⟩
termination_by buffer.length
decreasing_by exact length_lt_of_decode (decode_of_decodeWords _taken)

theorem drainWords_eq (overflow : Overflow) (limit : Nat) (buffer : List UInt8) :
    drainWords overflow limit buffer =
      match decodeWords overflow limit buffer with
      | none => none
      | some (.frame frame rest) =>
        (drainWords overflow limit rest).map fun later =>
          { later with frames := frame :: later.frames }
      | some (.waiting rest) => some ⟨[], none, rest⟩
      | some (.fault fault rest) => some ⟨[], some fault, rest⟩ := by
  rw [drainWords]
  split <;> rename_i taken <;> rw [taken]

end
end Stomp
end ExchangeGrid
