import ExchangeGrid.Net.Address
import Mathlib.Data.List.TakeWhile

namespace ExchangeGrid
namespace Net

/-!
# What a literal address is written in

An address of the older family is read as four octets with dots between them, and one of the newer
as groups with colons.  Here it is said which characters these readers take from a text, so that the
readers around them can tell where a literal ends and that it is no name.
-/

def InAddress (c : Char) : Prop :=
  (hexDigit? c).isSome ∨ c = ':' ∨ c = '.'

instance (c : Char) : Decidable (InAddress c) :=
  inferInstanceAs (Decidable (_ ∨ _ ∨ _))

structure IsOctet (digits : List Char) (value : Nat) : Prop where
  nonempty : digits ≠ []
  isDigit : ∀ c ∈ digits, (Decimal.digit? c).isSome
  written : Decimal.natural? 256 digits = some value
  unpadded : digits.head? = some '0' → digits.length = 1

/-- Four octets with dots between them. -/
inductive IsDotted : List Char → List Nat → Prop
  | intro {first second third fourth : List Char} {a b c d : Nat} (isFirst : IsOctet first a)
      (isSecond : IsOctet second b) (isThird : IsOctet third c) (isFourth : IsOctet fourth d) :
      IsDotted (first ++ [second, third, fourth].flatMap ('.' :: ·)) [a, b, c, d]

section
variable {text rest : List Char} {c : Char}

theorem hexDigit?_of_digit? {value : Nat} (digit : Decimal.digit? c = some value) :
    hexDigit? c = some value := by
  unfold Decimal.digit? at digit
  split at digit
  next inside =>
      rw [hexDigit?, if_pos inside]
      exact digit
  next => cases digit

theorem inAddress_of_digit (digit : (Decimal.digit? c).isSome) : InAddress c := by
  rcases Option.isSome_iff_exists.mp digit with ⟨value, found⟩
  exact .inl (hexDigit?_of_digit? found ▸ rfl)

theorem takeWhile_take_append_drop (p : Char → Bool) (room : Nat) (text : List Char) :
    (text.take room).takeWhile p ++ text.drop ((text.take room).takeWhile p).length = text :=
  List.prefix_iff_eq_append.mp
    ((List.takeWhile_prefix p).trans (List.take_prefix room text))

/-! ## The older family -/

theorem exists_of_readOctet {value : Nat} (read : readOctet text = some (value, rest)) :
    ∃ digits, IsOctet digits value ∧ text = digits ++ rest := by
  unfold readOctet at read
  dsimp only at read
  split at read
  next => cases read
  next within =>
      split at read
      next => cases read
      next unpadded =>
          split at read
          next => cases read
          next found =>
              cases read
              refine ⟨_, ⟨?_, ?_, found, ?_⟩, (takeWhile_take_append_drop _ 4 text).symm⟩
              · intro none
                rw [none] at within
                exact within rfl
              · intro c member
                exact List.mem_takeWhile_imp (p := fun c => (Decimal.digit? c).isSome) member
              · exact fun zero => not_not.mp (not_and.mp unpadded zero)

theorem exists_of_readDotOctet {value : Nat} (read : readDotOctet text = some (value, rest)) :
    ∃ digits, IsOctet digits value ∧ text = '.' :: digits ++ rest := by
  unfold readDotOctet at read
  split at read
  next =>
      rcases exists_of_readOctet read with ⟨digits, octet, rfl⟩
      exact ⟨digits, octet, rfl⟩
  next => cases read

theorem exists_of_readV4 {octets : List Nat} (read : readV4 text = some (octets, rest)) :
    ∃ used, IsDotted used octets ∧ text = used ++ rest := by
  unfold readV4 at read
  simp only [Option.bind_eq_bind, Option.bind_eq_some_iff, Prod.exists, Option.some.injEq,
    Prod.mk.injEq] at read
  rcases read with ⟨a, _, readFirst, b, _, readSecond, c, _, readThird, d, _, readFourth, rfl, rfl⟩
  rcases exists_of_readOctet readFirst with ⟨first, isFirst, rfl⟩
  rcases exists_of_readDotOctet readSecond with ⟨second, isSecond, rfl⟩
  rcases exists_of_readDotOctet readThird with ⟨third, isThird, rfl⟩
  rcases exists_of_readDotOctet readFourth with ⟨fourth, isFourth, rfl⟩
  refine ⟨_, .intro isFirst isSecond isThird isFourth, ?_⟩
  simp only [List.flatMap_cons, List.flatMap_nil, List.append_nil, List.append_assoc,
    List.cons_append]

/-- Four octets are written in digits and dots. -/
theorem IsDotted.digit_or_dot {octets : List Nat} (dotted : IsDotted text octets) :
    ∀ c ∈ text, (Decimal.digit? c).isSome ∨ c = '.' := by
  cases dotted with
  | intro isFirst isSecond isThird isFourth =>
      intro c member
      simp only [List.flatMap_cons, List.flatMap_nil, List.append_nil, List.mem_append,
        List.mem_cons] at member
      rcases member with first | (rfl | second) | (rfl | third) | (rfl | fourth)
      · exact .inl (isFirst.isDigit c first)
      · exact .inr rfl
      · exact .inl (isSecond.isDigit c second)
      · exact .inr rfl
      · exact .inl (isThird.isDigit c third)
      · exact .inr rfl
      · exact .inl (isFourth.isDigit c fourth)

theorem IsDotted.inAddress {octets : List Nat} (dotted : IsDotted text octets) :
    ∀ c ∈ text, InAddress c := by
  intro c member
  rcases dotted.digit_or_dot c member with digit | rfl
  · exact inAddress_of_digit digit
  · exact .inr (.inr rfl)

/-! ## The newer family -/

/-- A text whose front was read as groups, with what is known of that front.  Every group but the
first has a colon before it, and four octets are the last two groups. -/
def Groups.ReadFrom (groups : Groups) (first : Bool) (text : List Char) : Prop :=
  ∃ used, text = used ++ groups.rest ∧ (∀ c ∈ used, InAddress c) ∧
    groups.values.length ≤ used.count ':' + first.toNat + groups.endsInV4.toNat

theorem exists_of_readGroup {value : Nat} (read : readGroup text = some (value, rest)) :
    ∃ digits, text = digits ++ rest ∧ ∀ c ∈ digits, InAddress c := by
  unfold readGroup at read
  dsimp only at read
  split at read
  next => cases read
  next =>
      cases read
      refine ⟨_, (takeWhile_take_append_drop _ 5 text).symm, fun c member => ?_⟩
      exact .inl (List.mem_takeWhile_imp (p := fun c => (hexDigit? c).isSome) member)

theorem exists_of_readSeparator {first : Bool} (read : readSeparator first text = some rest) :
    ∃ used, text = used ++ rest ∧ (∀ c ∈ used, InAddress c) ∧
      1 ≤ used.count ':' + first.toNat := by
  cases first with
  | true =>
      cases read
      exact ⟨[], rfl, nofun, Nat.le_refl 1⟩
  | false =>
      unfold readSeparator at read
      rw [if_neg Bool.false_ne_true] at read
      split at read
      next =>
          cases read
          refine ⟨[':'], rfl, ?_, Nat.le_refl 1⟩
          intro c member
          exact .inr (.inl (List.mem_singleton.mp member))
      next => cases read

/-- Nothing is read where no group stands. -/
theorem Groups.readFrom_nothing (first : Bool) (text : List Char) :
    (⟨[], false, text⟩ : Groups).ReadFrom first text :=
  ⟨[], rfl, nofun, Nat.zero_le _⟩

theorem readGroups_readFrom (room : Nat) (first : Bool) (text : List Char) :
    (readGroups room first text).ReadFrom first text := by
  -- On the room that is left; later groups are never first, so each brings its own colon.
  induction room generalizing first text with
  | zero => exact Groups.readFrom_nothing first text
  | succ room inductionHypothesis =>
      rw [readGroups]
      split
      next => exact Groups.readFrom_nothing first text
      next inner separated =>
          rcases exists_of_readSeparator separated with ⟨front, rfl, inFront, mark⟩
          split
          next a b c d rest found =>
              split at found
              next => cases found
              next =>
                  rcases exists_of_readV4 found with ⟨used, dotted, rfl⟩
                  refine ⟨front ++ used, (List.append_assoc _ _ _).symm, ?_, ?_⟩
                  · exact List.forall_mem_append.mpr ⟨inFront, dotted.inAddress⟩
                  · change 2 ≤ _ + 1
                    rw [List.count_append]
                    omega
          next =>
              split
              next => exact Groups.readFrom_nothing first _
              next value rest found =>
                  rcases exists_of_readGroup found with ⟨digits, rfl, inDigits⟩
                  rcases inductionHypothesis false rest with ⟨used, spelled, inUsed, bounded⟩
                  refine ⟨front ++ (digits ++ used), ?_, ?_, ?_⟩
                  · rw [List.append_assoc, List.append_assoc]
                    exact congrArg (fun tail => front ++ (digits ++ tail)) spelled
                  · exact List.forall_mem_append.mpr
                      ⟨inFront, List.forall_mem_append.mpr ⟨inDigits, inUsed⟩⟩
                  · rw [Bool.toNat_false] at bounded
                    rw [List.count_append, List.count_append]
                    change (readGroups room false rest).values.length + 1 ≤
                      _ + _ + (readGroups room false rest).endsInV4.toNat
                    omega

/-- What is read as groups is written in characters of addresses, and more than one of them is a
colon. -/
theorem exists_of_readV6 {groups : List Nat} (read : readV6 text = some (groups, rest)) :
    ∃ used, text = used ++ rest ∧ (∀ c ∈ used, InAddress c) ∧ 2 ≤ used.count ':' := by
  unfold readV6 at read
  dsimp only at read
  rcases readGroups_readFrom 8 true text with ⟨front, spelled, inFront, bounded⟩
  split at read
  next whole =>
      cases read
      have enough := Bool.toNat_le (readGroups 8 true text).endsInV4
      rw [whole, Bool.toNat_true] at bounded
      exact ⟨front, spelled, inFront, by omega⟩
  next =>
      split at read
      next => cases read
      next =>
          split at read
          next behind omitted =>
              cases read
              rcases readGroups_readFrom (7 - (readGroups 8 true text).values.length) true behind
                with ⟨back, spelledBack, inBack, -⟩
              refine ⟨front ++ ':' :: ':' :: back, ?_, ?_, ?_⟩
              · rw [omitted] at spelled
                rw [List.append_assoc, List.cons_append, List.cons_append]
                exact spelled.trans (congrArg (fun tail => front ++ ':' :: ':' :: tail) spelledBack)
              · refine List.forall_mem_append.mpr ⟨inFront, ?_⟩
                exact List.forall_mem_cons.mpr ⟨.inr (.inl rfl),
                  List.forall_mem_cons.mpr ⟨.inr (.inl rfl), inBack⟩⟩
              · rw [List.count_append, List.count_cons_self, List.count_cons_self]
                omega
          next => cases read

end
end Net
end ExchangeGrid
