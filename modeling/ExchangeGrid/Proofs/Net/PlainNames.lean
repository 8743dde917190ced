import ExchangeGrid.Proofs.Net.Names

namespace ExchangeGrid
namespace Net
namespace Domain

/-!
# Names of letters, digits and hyphens

A name that needs no other characters is sent in small letters and is otherwise unchanged.  A label
in punycode is no exception: it is taken only if what it stands for would be written so.
-/

/-- Whether a character can stand in a name that needs no punycode: a letter, a digit, a hyphen, an
underscore, or the dot between two labels. -/
def IsNameChar (c : Char) : Prop :=
  c.isAlphanum = true ∨ c = '-' ∨ c = '_' ∨ c = '.'

instance (c : Char) : Decidable (IsNameChar c) :=
  inferInstanceAs (Decidable (_ ∨ _))

def lower (name : List Char) : List Char :=
  name.map Char.toLower

section
variable {name ascii label : List Char} {labels : List (List Char)} {c : Char}

/-! ## Characters -/

theorem isLow_of_le {last : Char} (low : IsLow last) (below : c.val ≤ last.val) :
    IsLow c :=
  Nat.lt_of_le_of_lt (UInt32.le_iff_toNat_le.mp below) low

theorem isLow_of_isNameChar (nameChar : IsNameChar c) : IsLow c := by
  rcases nameChar with letter | rfl | rfl | rfl
  · rcases Bool.or_eq_true_iff.mp letter with alpha | digit
    · rcases Bool.or_eq_true_iff.mp alpha with upper | small
      · exact isLow_of_le (by decide) (of_decide_eq_true upper).2
      · exact isLow_of_le (by decide) (of_decide_eq_true (Bool.and_eq_true_iff.mp small).2)
    · exact isLow_of_le (by decide) (of_decide_eq_true (Bool.and_eq_true_iff.mp digit).2)
  · decide
  · decide
  · decide

structure IsPlainChar (c : Char) : Prop where
  spelled : spell? c = some [c.toLower]
  small : IsNameChar c.toLower
  taken : isForbidden c.toLower = false

theorem isPlainChar_of_isNameChar (nameChar : IsNameChar c) : IsPlainChar c := by
  have listed : ∀ n < 128, IsNameChar (Char.ofNat n) →
      spell? (Char.ofNat n) = some [(Char.ofNat n).toLower] ∧
        IsNameChar (Char.ofNat n).toLower ∧ isForbidden (Char.ofNat n).toLower = false := by
    decide +kernel
  rcases forall_low (p := fun c => IsNameChar c → spell? c = some [c.toLower] ∧
    IsNameChar c.toLower ∧ isForbidden c.toLower = false) listed (isLow_of_isNameChar nameChar)
    nameChar with ⟨spelled, small, taken⟩
  exact ⟨spelled, small, taken⟩

theorem isNameChar_of_mem_lower (chars : ∀ c ∈ name, IsNameChar c) :
    ∀ c ∈ lower name, IsNameChar c := by
  intro c member
  rcases List.mem_map.mp member with ⟨d, listed, rfl⟩
  exact (isPlainChar_of_isNameChar (chars d listed)).small

/-! ## Labels -/

theorem joinersFit_of_low (before : List Char) (low : ∀ c ∈ label, IsLow c) :
    joinersFit before label = true := by
  induction label generalizing before with
  | nil => rfl
  | cons c label inductionHypothesis =>
      rcases List.forall_mem_cons.mp low with ⟨here, behind⟩
      have noJoiner : c ≠ '\u200C' ∧ c ≠ '\u200D' := by
        refine ⟨?_, ?_⟩
        · rintro rfl
          exact absurd here (by decide)
        · rintro rfl
          exact absurd here (by decide)
      rw [joinersFit, inductionHypothesis _ behind, Bool.and_true, joinerFits]
      rw [if_neg fun same => noJoiner.1 (eq_of_beq same), bne_iff_ne.mpr noJoiner.2, Bool.true_or]

theorem isWellFormed_of_low (low : ∀ c ∈ label, IsLow c) : isWellFormed label = true := by
  have noMark : (label.head?.map Mark.isMark).getD false = false := by
    cases label with
    | nil => rfl
    | cons c label =>
        rw [List.head?_cons, Option.map_some, Option.getD_some]
        refine forall_low (p := fun c => Mark.isMark c = false) ?_ (low c List.mem_cons_self)
        decide +kernel
  have small : label.all (·.toNat < 128) = true :=
    List.all_eq_true.mpr fun c member => decide_eq_true (low c member)
  rw [isWellFormed, noMark, joinersFit_of_low [] low, small]
  rfl

theorem directionsFit_of_low (low : ∀ label ∈ labels, ∀ c ∈ label, IsLow c) :
    directionsFit labels = true := by
  have noneLeftward : (labels.any fun label => label.any fun c => (Direction.of c).isLeftward) =
      false := by
    rw [List.any_eq_false]
    intro label listed leftward
    rcases List.any_eq_true.mp leftward with ⟨c, member, found⟩
    have rightward : (Direction.of c).isLeftward = false := by
      refine forall_low (p := fun c => (Direction.of c).isLeftward = false) ?_
        (low label listed c member)
      decide +kernel
    rw [rightward] at found
    cases found
  rw [directionsFit, noneLeftward]
  rfl

theorem encode_of_low (low : ∀ c ∈ label, IsLow c) : encode label = label :=
  if_pos (List.all_eq_true.mpr fun c member => decide_eq_true (low c member))

/-- A label is sent as it was written, also one in punycode. -/
theorem encode_of_meaning? {meant : List Char} (low : ∀ c ∈ label, IsLow c)
    (meaning : meaning? label = some meant) : encode meant = label := by
  unfold meaning? at meaning
  split at meaning
  next text found =>
      rw [after?_eq_some_iff] at found
      unfold decode? at meaning
      split at meaning
      next => cases meaning
      next =>
          split at meaning
          next => cases meaning
          next read =>
              dsimp only at meaning
              split at meaning
              next fits =>
                  cases meaning
                  simp only [Bool.and_eq_true, beq_iff_eq] at fits
                  -- What the punycode stands for is not ASCII, so it is written in punycode again.
                  rcases fits with ⟨⟨⟨written, beyond⟩, -⟩, -⟩
                  rcases List.any_eq_true.mp beyond with ⟨c, member, large⟩
                  have notSmall : ¬ meant.all (·.toNat < 128) = true := fun small =>
                    Nat.not_lt_of_le (of_decide_eq_true large)
                      (of_decide_eq_true (List.all_eq_true.mp small c member))
                  rw [encode, if_neg notSmall, written, found]
              next => cases meaning
  next =>
      cases meaning
      exact encode_of_low low

/-! ## Names -/

theorem labels?_of_name (chars : ∀ c ∈ name, IsNameChar c) :
    labels? name = (splitOn '.' (lower name)).mapM meaning? := by
  have spelled : name.mapM spell? = some (name.map fun c => [c.toLower]) := by
    rw [mapM_eq_some_iff, List.forall₂_map_right_iff, List.forall₂_same]
    exact fun c member => (isPlainChar_of_isNameChar (chars c member)).spelled
  have flat : (name.map fun c => [c.toLower]).flatten = lower name := by
    rw [← List.flatMap_def, ← List.map_eq_flatMap]
    rfl
  have low : ∀ c ∈ lower name, IsLow c := fun c member =>
    isLow_of_isNameChar (isNameChar_of_mem_lower chars c member)
  have taken : (lower name).any isForbidden = false := by
    rw [List.any_eq_false]
    intro c member
    rcases List.mem_map.mp member with ⟨d, listed, rfl⟩
    rw [(isPlainChar_of_isNameChar (chars d listed)).taken]
    exact Bool.false_ne_true
  unfold labels?
  rw [spelled]
  dsimp only
  rw [flat, composed_of_low low, taken]
  exact if_neg Bool.false_ne_true

theorem isLow_of_mem_piece (chars : ∀ c ∈ name, IsNameChar c) :
    ∀ label ∈ splitOn '.' (lower name), ∀ c ∈ label, IsLow c := fun _ listed c member =>
  isLow_of_isNameChar (isNameChar_of_mem_lower chars c (mem_of_mem_piece listed member))

theorem map_encode {pieces : List (List Char)} (low : ∀ piece ∈ pieces, ∀ c ∈ piece, IsLow c)
    (meant : pieces.mapM meaning? = some labels) : labels.map encode = pieces := by
  have related := mapM_eq_some_iff.mp meant
  clear meant
  induction related with
  | nil => rfl
  | cons here _ inductionHypothesis =>
      rcases List.forall_mem_cons.mp low with ⟨lowHere, lowBehind⟩
      rw [List.map_cons, encode_of_meaning? lowHere here, inductionHypothesis lowBehind]

/-- A name of plain labels is in small letters. -/
theorem lower_of_isPlain (chars : ∀ c ∈ name, IsNameChar c)
    (plain : (splitOn '.' name).all isPlain = true) : lower name = name := by
  have listed : ∀ n < 128, ((Char.ofNat n).isLower || (Char.ofNat n).isDigit ||
      Char.ofNat n == '-') = true → (Char.ofNat n).toLower = Char.ofNat n := by decide
  refine (List.map_congr_left fun c member => ?_).trans (List.map_id name)
  by_cases dot : c = '.'
  · rw [dot]
    rfl
  · rcases exists_piece_of_mem dot member with ⟨label, isLabel, inside⟩
    have small := List.all_eq_true.mp plain label isLabel
    rw [isPlain, Bool.and_eq_true, List.all_eq_true] at small
    exact forall_low (p := fun c => (c.isLower || c.isDigit || c == '-') = true → c.toLower = c)
      listed (isLow_of_isNameChar (chars c member)) (small.1 c inside)

/-- A name is sent in small letters. -/
theorem eq_lower_of_toAscii? (chars : ∀ c ∈ name, IsNameChar c)
    (accepted : toAscii? name = some ascii) : ascii = lower name := by
  unfold toAscii? at accepted
  split at accepted
  next plain =>
      cases accepted
      exact (lower_of_isPlain chars plain).symm
  next =>
      rw [labels?_of_name chars] at accepted
      split at accepted
      next => cases accepted
      next labels found =>
          split at accepted
          next =>
              cases accepted
              rw [map_encode (isLow_of_mem_piece chars) found, flatten_intersperse_splitOn]
          next => cases accepted

/-- A name without punycode is taken. -/
theorem toAscii?_of_name (chars : ∀ c ∈ name, IsNameChar c)
    (noCode : ∀ label ∈ splitOn '.' (lower name), ¬ punycodeMark <+: label) :
    toAscii? name = some (lower name) := by
  suffices accepted : (toAscii? name).isSome by
    rcases Option.isSome_iff_exists.mp accepted with ⟨ascii, found⟩
    rw [found, eq_lower_of_toAscii? chars found]
  have meant : (splitOn '.' (lower name)).mapM meaning? = some (splitOn '.' (lower name)) := by
    rw [mapM_eq_some_iff, List.forall₂_same]
    intro label listed
    unfold meaning?
    split
    next text found => exact (noCode label listed ⟨text, (after?_eq_some_iff.mp found).symm⟩).elim
    next => rfl
  have low := isLow_of_mem_piece chars
  have fits : ((splitOn '.' (lower name)).all isWellFormed &&
      directionsFit (splitOn '.' (lower name))) = true := by
    rw [Bool.and_eq_true, List.all_eq_true]
    exact ⟨fun label listed => isWellFormed_of_low (low label listed), directionsFit_of_low low⟩
  unfold toAscii?
  split
  next => rfl
  next =>
      rw [labels?_of_name chars, meant]
      dsimp only
      rw [if_pos fits]
      rfl

end
end Domain
end Net
end ExchangeGrid
