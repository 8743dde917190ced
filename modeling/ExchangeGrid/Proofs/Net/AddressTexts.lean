import ExchangeGrid.Proofs.Net.Hosts

namespace ExchangeGrid
namespace Net

/-!
# Addresses and their texts

Every address has one text that is canonical, and many others are read as it.  Here it is shown that
the canonical text is one of these, with or without a port.

Of eight groups the first longest run of zeros is left out.  A reader does not care which run that
was: it puts as many zeros there as are missing.  So all that matters is that what was left out were
zeros, which `liesIn_longestZeros` says.
-/

/-- Whether an address is one: four octets, or eight groups of sixteen bits. -/
def Address.IsProper : Address → Prop
  | .v4 octets => octets.length = 4 ∧ ∀ octet ∈ octets, octet < 256
  | .v6 groups => groups.length = 8 ∧ ∀ group ∈ groups, group < 65536

instance (address : Address) : Decidable address.IsProper := by
  cases address <;> exact inferInstanceAs (Decidable (_ ∧ _))

/-! ## Numbers -/

section
variable {p : Char → Bool} {front rest digits text : List Char} {value room : Nat}

/-- A front of which all passes a test is found again where the test fails behind it. -/
theorem takeWhile_take_append (passes : ∀ c ∈ front, p c) (short : front.length ≤ room)
    (stops : ∀ c ∈ rest.head?, p c = false) :
    ((front ++ rest).take room).takeWhile p = front := by
  have behind : (rest.take (room - front.length)).takeWhile p = [] := by
    cases rest with
    | nil => rw [List.take_nil, List.takeWhile_nil]
    | cons c rest =>
        cases room - front.length with
        | zero => rfl
        | succ more =>
            rw [List.take_succ_cons, List.takeWhile_cons_of_neg]
            exact Bool.eq_false_iff.mp (stops c rfl)
  rw [List.take_append, List.take_of_length_le short, List.takeWhile_append_of_pos passes, behind,
    List.append_nil]

theorem eq_zero_of_digitChar : ∀ digit < 10, Nat.digitChar digit = '0' → digit = 0 := by
  decide

/-- A number that is written with a zero in front is zero. -/
theorem eq_zero_of_head?_digits {number : Nat}
    (zero : (Decimal.digits number).head? = some '0') : number = 0 := by
  induction number using Nat.strongRecOn with
  | ind number inductionHypothesis =>
      unfold Decimal.digits at zero inductionHypothesis
      rw [Nat.toDigits_eq_if (by decide)] at zero
      split at zero
      next small =>
          exact eq_zero_of_digitChar number small (Option.some.inj zero)
      next large =>
          have shorter : number / 10 < number := Nat.div_lt_self (by omega) (by decide)
          rw [List.head?_append_of_ne_nil _ Nat.toDigits_ne_nil] at zero
          have nothing := inductionHypothesis _ shorter zero
          omega

theorem isOctet_digits {octet : Nat} (small : octet < 256) : IsOctet (Decimal.digits octet) octet where
  nonempty := Nat.toDigits_ne_nil
  isDigit c member := by
    rw [Decimal.digit?_of_isDigit (Decimal.isDigit_of_mem_digits member)]
    rfl
  written := Decimal.natural?_digits small
  unpadded zero := by
    rw [eq_zero_of_head?_digits zero]
    rfl

theorem mul_pow_le_of_extend {bound start : Nat}
    (written : Decimal.extend bound start digits = .ok value) :
    start * Nat.pow 10 digits.length ≤ value := by
  induction digits generalizing start with
  | nil =>
      rw [← Except.ok.inj written]
      exact Nat.le_of_eq (Nat.mul_one start)
  | cons c digits inductionHypothesis =>
      rcases Decimal.exists_of_extend written with ⟨digit, -, -, later⟩
      have longer : Nat.pow 10 (c :: digits).length = 10 * Nat.pow 10 digits.length := Nat.pow_succ'
      rw [longer, ← Nat.mul_assoc]
      exact Nat.le_trans (Nat.mul_le_mul_right _ (Nat.le_add_right _ _)) (inductionHypothesis later)

theorem eq_zero_of_digit? {c : Char} (zero : Decimal.digit? c = some 0) : c = '0' := by
  unfold Decimal.digit? at zero
  split at zero
  next inside =>
      have lower : '0'.toNat ≤ c.toNat := inside.1
      apply Char.toNat_inj.mp
      exact Nat.le_antisymm (Nat.sub_eq_zero_iff_le.mp (Option.some.inj zero)) lower
  next => cases zero

/-- Without a zero in front, every digit counts. -/
theorem IsOctet.pow_le {c : Char} (octet : IsOctet (c :: digits) value) (nonzero : c ≠ '0') :
    Nat.pow 10 digits.length ≤ value := by
  rcases Decimal.exists_of_extend octet.extend with ⟨digit, found, -, later⟩
  have positive : 0 < 0 * 10 + digit := by
    rw [Nat.zero_mul, Nat.zero_add]
    refine Nat.pos_of_ne_zero fun isZero => nonzero (eq_zero_of_digit? ?_)
    rw [found, isZero]
  exact Nat.le_trans (Nat.le_mul_of_pos_left _ positive) (mul_pow_le_of_extend later)

/-- An octet has at most three digits. -/
theorem IsOctet.length_le (octet : IsOctet digits value) : digits.length ≤ 3 := by
  cases digits with
  | nil => exact Nat.zero_le 3
  | cons c digits =>
      by_cases zero : c = '0'
      · rw [octet.unpadded (by rw [zero]; rfl)]
        decide
      · by_contra long
        rw [List.length_cons] at long
        have thousand : Nat.pow 10 3 ≤ Nat.pow 10 digits.length :=
          Nat.pow_le_pow_right (by decide) (by omega)
        have large : 1000 ≤ value := Nat.le_trans thousand (octet.pow_le zero)
        have small := octet.lt
        omega

/-- The character behind a number is none that could belong to it, nor a dot. -/
def StopsNumber (rest : List Char) : Prop :=
  ∀ c ∈ rest.head?, hexDigit? c = none ∧ c ≠ '.'

theorem stopsNumber_cons {c : Char} (noDigit : hexDigit? c = none) (noDot : c ≠ '.')
    (behind : List Char) : StopsNumber (c :: behind) := by
  rintro c ⟨⟩
  exact ⟨noDigit, noDot⟩

theorem StopsNumber.colon (behind : List Char) : StopsNumber (':' :: behind) :=
  stopsNumber_cons rfl (by decide) behind

theorem StopsNumber.digit? (stops : StopsNumber rest) :
    ∀ c ∈ rest.head?, (Decimal.digit? c).isSome = false := by
  intro c first
  cases found : Decimal.digit? c with
  | none => rfl
  | some digit =>
      have asHex := hexDigit?_of_digit? found
      rw [(stops c first).1] at asHex
      cases asHex

/-! ## The older family -/

theorem IsOctet.readOctet_append (octet : IsOctet digits value)
    (stops : ∀ c ∈ rest.head?, (Decimal.digit? c).isSome = false) :
    readOctet (digits ++ rest) = some (value, rest) := by
  have found := takeWhile_take_append octet.isDigit (Nat.le_succ_of_le octet.length_le) stops
  have filled : digits.isEmpty = false := List.isEmpty_eq_false_iff.mpr octet.nonempty
  have within : decide (digits.length > 3) = false :=
    decide_eq_false (Nat.not_lt.mpr octet.length_le)
  have unpadded : ¬ (digits.head? = some '0' ∧ digits.length ≠ 1) :=
    fun both => both.2 (octet.unpadded both.1)
  unfold readOctet
  dsimp only
  rw [found, filled, within, if_neg (by decide), if_neg unpadded, octet.written, List.drop_left]

theorem IsOctet.readDotOctet_append (octet : IsOctet digits value)
    (stops : ∀ c ∈ rest.head?, (Decimal.digit? c).isSome = false) :
    readDotOctet ('.' :: (digits ++ rest)) = some (value, rest) :=
  octet.readOctet_append stops

/-- Four octets are read back, whatever stands behind them but a digit. -/
theorem IsDotted.readV4_append {octets : List Nat} (dotted : IsDotted text octets)
    (stops : ∀ c ∈ rest.head?, (Decimal.digit? c).isSome = false) :
    readV4 (text ++ rest) = some (octets, rest) := by
  have dot (behind : List Char) : ∀ c ∈ ('.' :: behind).head?, (Decimal.digit? c).isSome = false := by
    rintro c ⟨⟩
    rfl
  cases dotted with
  | intro isFirst isSecond isThird isFourth =>
      unfold readV4
      simp only [List.flatMap_cons, List.flatMap_nil, List.append_nil, List.append_assoc,
        List.cons_append, isFirst.readOctet_append (dot _), isSecond.readDotOctet_append (dot _),
        isThird.readDotOctet_append (dot _), isFourth.readDotOctet_append stops,
        Option.bind_eq_bind, Option.bind_some]

theorem isDotted_octetsText {octets : List Nat} (proper : Address.IsProper (.v4 octets)) :
    IsDotted (octetsText octets) octets := by
  rcases proper with ⟨four, small⟩
  match octets, four with
  | [a, b, c, d], _ =>
      have dotted := IsDotted.intro (isOctet_digits (small a (by simp)))
        (isOctet_digits (small b (by simp))) (isOctet_digits (small c (by simp)))
        (isOctet_digits (small d (by simp)))
      simpa [octetsText] using dotted

/-- Where a number is followed by no dot, no octets are read. -/
theorem readV4_append_eq_none (noDot : '.' ∉ front) (stops : StopsNumber rest) :
    readV4 (front ++ rest) = none := by
  rw [Option.eq_none_iff_forall_ne_some]
  rintro ⟨octets, behind⟩ read
  rcases exists_of_readV4 read with ⟨used, dotted, spelled⟩
  cases dotted with
  | @intro first second third fourth a b c d isFirst =>
      -- The dot behind the first octet is not in front, and the octet ends no earlier.
      rw [List.flatMap_cons, List.cons_append, List.append_assoc] at spelled
      rcases List.append_eq_append_iff.mp spelled with ⟨more, rfl, behindFront⟩ | ⟨under, rfl, dot⟩
      · cases more with
        | nil =>
            rw [behindFront] at stops
            exact (stops '.' rfl).2 rfl
        | cons c more =>
            rw [behindFront] at stops
            have digit := isFirst.isDigit c (List.mem_append_right front List.mem_cons_self)
            rw [stops.digit? c rfl] at digit
            cases digit
      · cases under with
        | nil =>
            rw [List.nil_append] at dot
            rw [← dot] at stops
            exact (stops '.' rfl).2 rfl
        | cons c under =>
            rcases List.cons.inj dot with ⟨rfl, -⟩
            exact noDot (List.mem_append_right first List.mem_cons_self)

/-! ## Groups -/

theorem hexDigit?_digitChar : ∀ digit < 16, hexDigit? (Nat.digitChar digit) = some digit := by
  decide

/-- The digits of a group are hexadecimal. -/
theorem isHexDigit_of_mem_toDigits {number : Nat} :
    ∀ c ∈ Nat.toDigits 16 number, (hexDigit? c).isSome := by
  induction number using Nat.strongRecOn with
  | ind number inductionHypothesis =>
      rw [Nat.toDigits_eq_if (by decide)]
      split
      next small =>
          rw [List.forall_mem_singleton, hexDigit?_digitChar number small]
          rfl
      next large =>
          rw [List.forall_mem_append, List.forall_mem_singleton,
            hexDigit?_digitChar _ (Nat.mod_lt number (by decide))]
          exact ⟨inductionHypothesis _ (Nat.div_lt_self (by omega) (by decide)), rfl⟩

theorem foldl_toDigits (number : Nat) :
    (Nat.toDigits 16 number).foldl (fun value c => value * 16 + (hexDigit? c).getD 0) 0 =
      number := by
  induction number using Nat.strongRecOn with
  | ind number inductionHypothesis =>
      rw [Nat.toDigits_eq_if (by decide)]
      split
      next small =>
          rw [List.foldl_cons, List.foldl_nil, hexDigit?_digitChar number small]
          exact Nat.zero_add number
      next large =>
          have front := inductionHypothesis _ (Nat.div_lt_self (by omega) (by decide : 1 < 16))
          rw [List.foldl_append, front, List.foldl_cons, List.foldl_nil,
            hexDigit?_digitChar _ (Nat.mod_lt number (by decide))]
          exact Nat.div_add_mod' number 16

theorem not_mem_toDigits {c : Char} {number : Nat} (foreign : hexDigit? c = none) :
    c ∉ Nat.toDigits 16 number := by
  intro member
  have digit := isHexDigit_of_mem_toDigits c member
  rw [foreign] at digit
  cases digit

theorem StopsNumber.hexDigit? (stops : StopsNumber rest) :
    ∀ c ∈ rest.head?, (hexDigit? c).isSome = false := by
  intro c first
  rw [(stops c first).1]
  rfl

/-- A group is read back. -/
theorem readGroup_append {group : Nat} (small : group < 65536) (stops : StopsNumber rest) :
    readGroup (Nat.toDigits 16 group ++ rest) = some (group, rest) := by
  have short : (Nat.toDigits 16 group).length ≤ 4 :=
    (Nat.length_toDigits_le_iff (by decide) (by decide)).mpr small
  have found := takeWhile_take_append isHexDigit_of_mem_toDigits (Nat.le_succ_of_le short)
    stops.hexDigit?
  have filled : (Nat.toDigits 16 group).isEmpty = false :=
    List.isEmpty_eq_false_iff.mpr Nat.toDigits_ne_nil
  have within : decide ((Nat.toDigits 16 group).length > 4) = false :=
    decide_eq_false (Nat.not_lt.mpr short)
  unfold readGroup
  dsimp only
  rw [found, filled, within, if_neg (by decide), foldl_toDigits, List.drop_left]

/-- One of several groups is read back, and those behind it are read next. -/
theorem readGroups_append {first : Bool} {group : Nat} (small : group < 65536)
    (stops : StopsNumber rest)
    (separated : readSeparator first text = some (Nat.toDigits 16 group ++ rest)) :
    readGroups (room + 1) first text =
      { readGroups room false rest with values := group :: (readGroups room false rest).values } := by
  have noOctets : (if room = 0 then none else readV4 (Nat.toDigits 16 group ++ rest)) = none := by
    rw [readV4_append_eq_none (not_mem_toDigits rfl) stops, ite_self]
  rw [readGroups, separated]
  dsimp only
  rw [noOctets, readGroup_append small stops]

/-- No further group begins here, behind a colon or without one. -/
structure EndsGroups (rest : List Char) : Prop where
  stops : StopsNumber rest
  colon : ∀ behind, rest = ':' :: behind → StopsNumber behind

theorem readGroup_eq_none (stops : StopsNumber rest) : readGroup rest = none := by
  have found : (rest.take 5).takeWhile (fun c => (hexDigit? c).isSome) = [] :=
    takeWhile_take_append (List.forall_mem_nil _) (Nat.zero_le 5) stops.hexDigit?
  unfold readGroup
  dsimp only
  rw [found]
  rfl

theorem EndsGroups.readGroups (ends : EndsGroups rest) (room : Nat) (first : Bool) :
    readGroups room first rest = ⟨[], false, rest⟩ := by
  cases room with
  | zero => rfl
  | succ room =>
      rw [Net.readGroups]
      split
      next => rfl
      next inner separated =>
          have stops : StopsNumber inner := by
            cases first with
            | true =>
                cases separated
                exact ends.stops
            | false =>
                unfold readSeparator at separated
                rw [if_neg Bool.false_ne_true] at separated
                split at separated
                next =>
                    cases separated
                    exact ends.colon _ rfl
                next => cases separated
          have noOctets : (if room = 0 then none else readV4 inner) = none := by
            have none := readV4_append_eq_none List.not_mem_nil stops
            rw [List.nil_append] at none
            rw [none, ite_self]
          rw [noOctets, readGroup_eq_none stops]

def ledGroupsText (groups : List Nat) : List Char :=
  groups.flatMap fun group => ':' :: Nat.toDigits 16 group

theorem groupsText_cons (group : Nat) (groups : List Nat) :
    groupsText (group :: groups) = Nat.toDigits 16 group ++ ledGroupsText groups := by
  induction groups generalizing group with
  | nil => exact (List.append_nil _).trans (List.append_nil _).symm
  | cons next groups inductionHypothesis =>
      have later := inductionHypothesis next
      unfold groupsText at later ⊢
      rw [List.map_cons, List.map_cons, List.intersperse_cons_cons, ← List.map_cons,
        List.flatten_cons, List.flatten_cons, later]
      rfl

theorem StopsNumber.ledGroups (stops : StopsNumber rest) (groups : List Nat) :
    StopsNumber (ledGroupsText groups ++ rest) := by
  cases groups with
  | nil => exact stops
  | cons group groups => exact .colon _

section
variable {groups : List Nat}

theorem readGroups_ledGroups (small : ∀ group ∈ groups, group < 65536)
    (fits : groups.length ≤ room) (ends : EndsGroups rest) :
    readGroups room false (ledGroupsText groups ++ rest) = ⟨groups, false, rest⟩ := by
  induction groups generalizing room with
  | nil => exact ends.readGroups room false
  | cons group groups inductionHypothesis =>
      cases room with
      | zero => exact absurd fits (Nat.not_succ_le_zero _)
      | succ room =>
          rcases List.forall_mem_cons.mp small with ⟨smallFirst, smallLater⟩
          have later := inductionHypothesis smallLater (Nat.le_of_succ_le_succ fits)
          have separated : readSeparator false (ledGroupsText (group :: groups) ++ rest) =
              some (Nat.toDigits 16 group ++ (ledGroupsText groups ++ rest)) := by
            rw [← List.append_assoc]
            rfl
          rw [readGroups_append smallFirst (ends.stops.ledGroups groups) separated, later]

/-- Groups are read back. -/
theorem readGroups_groupsText (small : ∀ group ∈ groups, group < 65536)
    (fits : groups.length ≤ room) (ends : EndsGroups rest) :
    readGroups room true (groupsText groups ++ rest) = ⟨groups, false, rest⟩ := by
  cases groups with
  | nil => exact ends.readGroups room true
  | cons group groups =>
      cases room with
      | zero => exact absurd fits (Nat.not_succ_le_zero _)
      | succ room =>
          rcases List.forall_mem_cons.mp small with ⟨smallFirst, smallLater⟩
          have later := readGroups_ledGroups smallLater (Nat.le_of_succ_le_succ fits) ends
          rw [groupsText_cons, List.append_assoc,
            readGroups_append smallFirst (ends.stops.ledGroups groups) rfl, later]

/-! ## The newer family -/

theorem readV6_groupsText (proper : Address.IsProper (.v6 groups)) (ends : EndsGroups rest) :
    readV6 (groupsText groups ++ rest) = some (groups, rest) := by
  unfold readV6
  dsimp only
  rw [readGroups_groupsText proper.2 (Nat.le_of_eq proper.1) ends, if_pos proper.1]

theorem EndsGroups.omission (behind : List Char) : EndsGroups (':' :: ':' :: behind) where
  stops := .colon _
  colon _ := by
    rintro ⟨⟩
    exact .colon _

/-- Two colons are read as the zeros that are missing. -/
theorem readV6_of_readGroups {values : List Nat} {behind : List Char} (short : values.length < 8)
    (front : readGroups 8 true text = ⟨values, false, ':' :: ':' :: behind⟩) :
    readV6 text =
      let back := readGroups (7 - values.length) true behind
      some (values ++ List.replicate (8 - values.length - back.values.length) 0 ++ back.values,
        back.rest) := by
  unfold readV6
  dsimp only
  rw [front, if_neg (Nat.ne_of_lt short)]
  dsimp only
  rw [if_neg Bool.false_ne_true]
  rfl

/-- Groups around an omission are read back with zeros between them. -/
theorem readV6_omission {before after : List Nat} (smallBefore : ∀ group ∈ before, group < 65536)
    (smallAfter : ∀ group ∈ after, group < 65536) (omits : before.length + after.length < 8)
    (ends : EndsGroups rest) :
    readV6 (groupsText before ++ ':' :: ':' :: (groupsText after ++ rest)) =
      some (before ++ List.replicate (8 - before.length - after.length) 0 ++ after, rest) := by
  have front : readGroups 8 true (groupsText before ++ ':' :: ':' :: (groupsText after ++ rest)) =
      ⟨before, false, ':' :: ':' :: (groupsText after ++ rest)⟩ :=
    readGroups_groupsText smallBefore (by omega) (.omission _)
  rw [readV6_of_readGroups (by omega) front, readGroups_groupsText smallAfter (by omega) ends]

/-! ## The run that is left out -/

/-- A run that consists of zeros and stands where it says. -/
def Run.LiesIn (run : Run) (groups : List Nat) : Prop :=
  ∃ before after, groups = before ++ List.replicate run.length 0 ++ after ∧
    (run.length ≠ 0 → before.length = run.start)

/-- A run of zeros behind which nothing stands. -/
def Run.EndsIn (run : Run) (groups : List Nat) : Prop :=
  ∃ before, groups = before ++ List.replicate run.length 0 ∧
    (run.length ≠ 0 → before.length = run.start)

/-- What is known of the groups that were passed is so. -/
structure Passed (groups : List Nat) (state : Run × Run × Nat) : Prop where
  best : state.1.LiesIn groups
  current : state.2.1.EndsIn groups
  index : state.2.2 = groups.length

theorem Run.EndsIn.liesIn {run : Run} (ends : run.EndsIn groups) : run.LiesIn groups := by
  rcases ends with ⟨before, rfl, starts⟩
  exact ⟨before, [], (List.append_nil _).symm, starts⟩

theorem Run.LiesIn.concat {run : Run} (lies : run.LiesIn groups) (group : Nat) :
    run.LiesIn (groups ++ [group]) := by
  rcases lies with ⟨before, after, rfl, starts⟩
  exact ⟨before, after ++ [group], List.append_assoc _ _ _, starts⟩

/-- The longest run is the one that was, or the one that goes on. -/
theorem fst_longestZerosStep (state : Run × Run × Nat) (group : Nat) :
    (longestZerosStep state group).1 = (longestZerosStep state group).2.1 ∨
      (longestZerosStep state group).1 = state.1 :=
  ite_eq_or_eq _ _ _

theorem Passed.current_step {state : Run × Run × Nat} (passed : Passed groups state)
    (group : Nat) : (longestZerosStep state group).2.1.EndsIn (groups ++ [group]) := by
  rcases passed.current with ⟨before, spelled, starts⟩
  unfold longestZerosStep
  dsimp only
  split
  next zero =>
      refine ⟨before, ?_, fun _ => ?_⟩
      · rw [List.replicate_succ', ← List.append_assoc, ← spelled, zero]
      · dsimp only
        split
        next none =>
            rw [none, List.replicate_zero, List.append_nil] at spelled
            rw [← spelled, passed.index]
        next some => exact starts some
  next => exact ⟨groups ++ [group], (List.append_nil _).symm, fun none => absurd rfl none⟩

theorem Passed.step {state : Run × Run × Nat} (passed : Passed groups state) (group : Nat) :
    Passed (groups ++ [group]) (longestZerosStep state group) where
  best := by
    rcases fst_longestZerosStep state group with same | same
    · rw [same]
      exact (passed.current_step group).liesIn
    · rw [same]
      exact passed.best.concat group
  current := passed.current_step group
  index := by
    rw [List.length_append, List.length_singleton, ← passed.index]
    rfl

theorem Passed.foldl {state : Run × Run × Nat} (passed : Passed groups state) (more : List Nat) :
    Passed (groups ++ more) (more.foldl longestZerosStep state) := by
  induction more generalizing groups state with
  | nil =>
      rw [List.append_nil]
      exact passed
  | cons group more inductionHypothesis =>
      rw [List.append_cons]
      exact inductionHypothesis (passed.step group)

/-- The run that a text leaves out is one of zeros. -/
theorem liesIn_longestZeros (groups : List Nat) : (longestZeros groups).LiesIn groups := by
  have start : Passed [] (⟨0, 0⟩, ⟨0, 0⟩, 0) :=
    ⟨⟨[], [], rfl, fun _ => rfl⟩, ⟨[], rfl, fun _ => rfl⟩, rfl⟩
  exact (start.foldl groups).best

theorem readV6_shortGroupsText (proper : Address.IsProper (.v6 groups)) (ends : EndsGroups rest) :
    readV6 (shortGroupsText groups ++ rest) = some (groups, rest) := by
  rcases proper with ⟨eight, small⟩
  unfold shortGroupsText
  dsimp only
  split
  next => exact readV6_groupsText ⟨eight, small⟩ ends
  next long =>
      rcases liesIn_longestZeros groups with ⟨before, after, spelled, starts⟩
      generalize longestZeros groups = run at long spelled starts ⊢
      have starts := starts (by omega)
      subst spelled
      rcases List.forall_mem_append.mp small with ⟨smallFront, smallAfter⟩
      rcases List.forall_mem_append.mp smallFront with ⟨smallBefore, -⟩
      have front : (before ++ List.replicate run.length 0 ++ after).take run.start = before := by
        rw [List.append_assoc, ← starts, List.take_left]
      have back : (before ++ List.replicate run.length 0 ++ after).drop (run.start + run.length) =
          after := List.drop_left' (by rw [List.length_append, List.length_replicate, starts])
      rw [List.length_append, List.length_append, List.length_replicate] at eight
      have missing : 8 - before.length - after.length = run.length := by omega
      rw [front, back, List.append_assoc, List.cons_append, List.cons_append,
        readV6_omission smallBefore smallAfter (by omega) ends, missing]

/-! ## Addresses of the older family in the newer one -/

theorem isProper_octets {high low : Nat} (smallHigh : high < 65536) (smallLow : low < 65536) :
    Address.IsProper (.v4 [high / 256, high % 256, low / 256, low % 256]) := by
  refine ⟨rfl, ?_⟩
  simp only [List.forall_mem_cons, List.not_mem_nil, false_implies, implies_true, and_true]
  omega

theorem readV6_mapped {high low : Nat} (smallHigh : high < 65536) (smallLow : low < 65536)
    (stops : ∀ c ∈ rest.head?, (Decimal.digit? c).isSome = false) :
    readV6 ("::ffff:".toList ++ octetsText [high / 256, high % 256, low / 256, low % 256] ++ rest) =
      some ([0, 0, 0, 0, 0, 0xFFFF, high, low], rest) := by
  have octets := (isDotted_octetsText (isProper_octets smallHigh smallLow)).readV4_append stops
  rw [List.append_assoc]
  generalize octetsText [high / 256, high % 256, low / 256, low % 256] ++ rest = behind at octets ⊢
  have lastGroups : readGroups 6 false (':' :: behind) = ⟨[high, low], true, rest⟩ := by
    rw [readGroups, readSeparator, if_neg Bool.false_ne_true]
    dsimp only
    rw [if_neg (by decide), octets]
    dsimp only
    rw [Nat.div_add_mod', Nat.div_add_mod']
  have separated : readSeparator true ("ffff:".toList ++ behind) =
      some (Nat.toDigits 16 0xFFFF ++ ':' :: behind) := rfl
  have back : readGroups 7 true ("ffff:".toList ++ behind) = ⟨[0xFFFF, high, low], true, rest⟩ := by
    rw [readGroups_append (by decide) (.colon behind) separated, lastGroups]
  have front : readGroups 8 true ("::ffff:".toList ++ behind) =
      ⟨[], false, ':' :: ':' :: ("ffff:".toList ++ behind)⟩ :=
    (EndsGroups.omission _).readGroups 8 true
  rw [readV6_of_readGroups (by decide) front, List.length_nil, back]
  rfl

/-- The canonical text of eight groups is read as these groups. -/
theorem readV6_v6Text (proper : Address.IsProper (.v6 groups)) (ends : EndsGroups rest) :
    readV6 (v6Text groups ++ rest) = some (groups, rest) := by
  unfold v6Text
  split
  next high low =>
      rcases proper with ⟨-, small⟩
      exact readV6_mapped (small high (by simp)) (small low (by simp)) ends.stops.digit?
  next => exact readV6_shortGroupsText proper ends

end

/-! ## Addresses -/

theorem EndsGroups.nil : EndsGroups [] :=
  ⟨nofun, nofun⟩

theorem EndsGroups.bracket (behind : List Char) : EndsGroups (']' :: behind) where
  stops := stopsNumber_cons rfl (by decide) behind
  colon := nofun

/-- A text with a colon is not four octets and nothing else. -/
theorem readV4_ne_of_mem {octets : List Nat} (colon : ':' ∈ text) :
    readV4 text ≠ some (octets, []) := by
  intro read
  rcases exists_of_readV4 read with ⟨used, dotted, rfl⟩
  rw [List.append_nil] at colon
  exact absurd (dotted.digit_or_dot ':' colon) (by decide)

theorem mem_colon_of_readV6 {groups : List Nat} (read : readV6 text = some (groups, rest)) :
    ':' ∈ text := by
  rcases exists_of_readV6 read with ⟨used, rfl, -, two⟩
  exact List.mem_append_left rest (List.count_pos_iff.mp (Nat.lt_of_succ_lt two))

theorem IsDotted.parse? {octets : List Nat} (dotted : IsDotted text octets) :
    Address.parse? text = some (.v4 octets) := by
  have nothing : ∀ c ∈ ([] : List Char).head?, (Decimal.digit? c).isSome = false := nofun
  have read := dotted.readV4_append nothing
  rw [List.append_nil] at read
  unfold Address.parse?
  rw [read]

/-- An address is read back from its canonical text. -/
theorem Address.parse?_chars {address : Address} (proper : address.IsProper) :
    Address.parse? address.chars = some address := by
  cases address with
  | v4 octets => exact (isDotted_octetsText proper).parse?
  | v6 groups =>
      have read := readV6_v6Text proper .nil
      rw [List.append_nil] at read
      unfold Address.parse?
      dsimp only [Address.chars]
      split
      next octets found => exact absurd found (readV4_ne_of_mem (mem_colon_of_readV6 read))
      next => rw [read]

/-! ## Addresses with a port -/

theorem readPort?_digits {port : Nat} (small : port < Decimal.portBound) :
    readPort? (':' :: Decimal.digits port) = some port := by
  have noSign : '+' ∉ Decimal.digits port := fun member =>
    absurd (Decimal.isDigit_of_mem_digits member) (by decide)
  have read := Decimal.natural?_digits small
  unfold readPort?
  split
  next spelled =>
      rw [List.cons.inj spelled |>.2] at noSign
      exact absurd List.mem_cons_self noSign
  next spelled =>
      rw [← (List.cons.inj spelled).2]
      exact read
  next other => exact absurd rfl (other _)

/-- Behind four octets nothing but a port is read. -/
theorem Endpoint.parse?_of_readV4 {octets : List Nat} (read : readV4 text = some (octets, rest)) :
    Endpoint.parse? text = (readPort? rest).map fun port => ⟨.v4 octets, port, 0⟩ := by
  unfold Endpoint.parse?
  split
  next inner =>
      have stops := stopsNumber_cons rfl (by decide : '[' ≠ '.') inner
      have nothing := readV4_append_eq_none List.not_mem_nil stops
      exact nomatch nothing.symm.trans read
  next =>
      rw [read]
      dsimp only
      cases readPort? rest <;> rfl

/-- Behind eight groups in brackets nothing but a port is read. -/
theorem readBracketed_of_readV6 {groups : List Nat}
    (read : readV6 text = some (groups, ']' :: rest)) :
    readBracketed text = (readPort? rest).map fun port => ⟨.v6 groups, port, 0⟩ := by
  have noZone : readZone (']' :: rest) = some (0, ']' :: rest) := rfl
  unfold readBracketed
  simp only [read, noZone]
  cases readPort? rest <;> rfl

/-- An address and its port are read back from their canonical text. -/
theorem Endpoint.parse?_text {address : Address} {port : Nat} (proper : address.IsProper)
    (small : port < Decimal.portBound) :
    Endpoint.parse? (Endpoint.text ⟨address, port, 0⟩).toList = some ⟨address, port, 0⟩ := by
  cases address with
  | v4 octets =>
      have colon := StopsNumber.colon (Decimal.digits port)
      have read := (isDotted_octetsText proper).readV4_append colon.digit?
      dsimp only [Endpoint.text]
      rw [String.toList_ofList, Endpoint.parse?_of_readV4 read, readPort?_digits small]
      rfl
  | v6 groups =>
      have read := readV6_v6Text proper (.bracket (':' :: Decimal.digits port))
      have bracketed := readBracketed_of_readV6 read
      rw [readPort?_digits small] at bracketed
      dsimp only [Endpoint.text]
      rw [String.toList_ofList, if_pos rfl, List.append_nil, List.cons_append]
      exact bracketed

end
end Net
end ExchangeGrid
