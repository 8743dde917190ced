import ExchangeGrid.Net.Domain
import Mathlib.Data.List.Forall2

namespace ExchangeGrid
namespace Net
namespace Domain

/-!
# What becomes of plain characters

A name is folded, taken apart and composed before it is looked at, so what is said of the characters
of the outcome has to be carried back to those that were written.  For a character of ASCII that is
short: it is its own only part, it has no place as a mark, and it is never the second part of
another character.
-/

/-! ## Composed texts -/

def IsLow (c : Char) : Prop :=
  c.toNat < 128

instance (c : Char) : Decidable (IsLow c) :=
  inferInstanceAs (Decidable (c.toNat < 128))

theorem forall_low {p : Char → Prop} (each : ∀ n < 128, p (Char.ofNat n)) {c : Char}
    (low : IsLow c) : p c :=
  Char.ofNat_toNat c ▸ each c.toNat low

theorem forall_composites : ∀ entry ∈ composites,
    128 ≤ entry.1 ∧ entry.2.1 ≠ '['.toNat ∧ entry.2.1 ≠ ']'.toNat := by
  have listed : ∀ entry ∈ composites.toList,
      128 ≤ entry.1 ∧ entry.2.1 ≠ '['.toNat ∧ entry.2.1 ≠ ']'.toNat := by decide +kernel
  exact fun entry member => listed entry member.val

theorem classOf_of_low {c : Char} (low : IsLow c) : Mark.classOf c = 0 := by
  refine forall_low (p := fun c => Mark.classOf c = 0) ?_ low
  decide +kernel

theorem halves?_of_low {point : Nat} (low : point < 128) : halves? point = none := by
  unfold halves?
  cases found : Runs.last? Prod.fst composites point with
  | none => rfl
  | some entry =>
      have beyond : 128 ≤ entry.1 := (forall_composites entry (Runs.mem_of_last? found)).1
      exact if_neg (Nat.ne_of_gt (Nat.lt_of_lt_of_le low beyond))

theorem parts_of_low {c : Char} (low : IsLow c) : parts c = [c] := by
  have before : ¬ (firstSyllable ≤ c.toNat ∧ c.toNat < firstSyllable + syllableCount) :=
    fun inside => absurd (Nat.lt_of_le_of_lt inside.1 low) (by decide)
  have shallow : partsWithin 4 c.toNat = [Char.ofNat c.toNat] := by
    unfold partsWithin
    rw [halves?_of_low low]
  exact (if_neg before).trans (shallow.trans (congrArg (· :: []) (Char.ofNat_toNat c)))

theorem meet?_of_low {c : Char} (low : IsLow c) (state : Composition) : state.meet? c = none := by
  have uncomposed : ∀ first, composite? first c.toNat = none :=
    fun first => if_pos (Nat.lt_trans low (by decide))
  unfold Composition.meet?
  split
  · rfl
  · rw [uncomposed]
    rfl
  · rw [uncomposed]
    exact ite_self none

/-- A character of ASCII begins a new letter. -/
theorem add_of_low {c : Char} (low : IsLow c) (state : Composition) :
    state.add c = { done := state.reversed, letter := some c } := by
  rw [Composition.add, meet?_of_low low]
  exact if_pos (classOf_of_low low)

theorem sortIn_of_low {c : Char} (low : IsLow c) (done : List Char) :
    sortIn c done = c :: done := by
  cases done with
  | nil => rfl
  | cons last done =>
      refine if_neg fun placed => ?_
      rw [classOf_of_low low] at placed
      exact Nat.lt_irrefl 0 placed.1

section
variable {text : List Char}

theorem decomposed_of_low (low : ∀ c ∈ text, IsLow c) : decomposed text = text := by
  have parted : text.flatMap parts = text := by
    rw [List.flatMap_congr fun c member => parts_of_low (low c member)]
    exact List.flatMap_singleton' text
  have sorted : ∀ (rest done : List Char), (∀ c ∈ rest, IsLow c) →
      rest.foldl (fun done c => sortIn c done) done = rest.reverse ++ done := by
    intro rest
    induction rest with
    | nil => exact fun done _ => rfl
    | cons c rest inductionHypothesis =>
        intro done lows
        rcases List.forall_mem_cons.mp lows with ⟨here, behind⟩
        rw [List.foldl_cons, sortIn_of_low here, inductionHypothesis _ behind,
          List.reverse_cons, List.append_assoc]
        rfl
  rw [decomposed, parted, sorted text [] low, List.append_nil, List.reverse_reverse]

/-- A text of ASCII is composed as it is. -/
theorem composed_of_low (low : ∀ c ∈ text, IsLow c) : composed text = text := by
  have added : ∀ (rest : List Char) (state : Composition), (∀ c ∈ rest, IsLow c) →
      (rest.foldl Composition.add state).reversed = rest.reverse ++ state.reversed := by
    intro rest
    induction rest with
    | nil => exact fun state _ => rfl
    | cons c rest inductionHypothesis =>
        intro state lows
        rcases List.forall_mem_cons.mp lows with ⟨here, behind⟩
        rw [List.foldl_cons, inductionHypothesis _ behind, add_of_low here, List.reverse_cons,
          List.append_assoc]
        rfl
  rw [composed, decomposed_of_low low, added text {} low]
  exact (congrArg List.reverse (List.append_nil _)).trans (List.reverse_reverse text)

end

/-! ## Brackets -/

/-- A bracket is the first part of no character. -/
theorem composite?_of_bracket {c : Char} (bracket : c = '[' ∨ c = ']') (second : Nat) :
    composite? c.toNat second = none := by
  have noSyllable : syllable? c.toNat second = none := by
    rcases bracket with rfl | rfl <;>
      exact (if_neg fun initial => absurd initial.1 (by decide)).trans
        (if_neg fun opening => absurd opening.1 (by decide))
  have noEntry : composites.find? (·.2 == (c.toNat, second)) = none := by
    apply Array.find?_eq_none.mpr
    intro entry member same
    have first : entry.2.1 = c.toNat := congrArg Prod.fst (eq_of_beq same)
    rcases bracket with rfl | rfl
    · exact (forall_composites entry member).2.1 first
    · exact (forall_composites entry member).2.2 first
  unfold composite?
  rw [noSyllable, noEntry]
  exact ite_self none

/-- A character that is done with, or the last letter. -/
def Composition.Keeps (state : Composition) (c : Char) : Prop :=
  c ∈ state.done ∨ state.letter = some c

theorem Composition.Keeps.mem_reversed {state : Composition} {c : Char} (keeps : state.Keeps c) :
    c ∈ state.reversed := by
  rcases keeps with done | letter
  · exact List.mem_append_right _ done
  · rw [reversed, letter]
    exact List.mem_append_left _ (List.mem_append_right _ (List.mem_singleton_self c))

theorem Composition.meet?_of_alone {state : Composition} {c : Char} (last : state.letter = some c)
    (alone : ∀ second, composite? c.toNat second = none) (next : Char) :
    state.meet? next = none := by
  unfold meet?
  rw [last]
  cases state.marks with
  | nil => exact congrArg (Option.map Char.ofNat) (alone next.toNat)
  | cons mark marks =>
      dsimp only
      rw [alone]
      exact ite_self none

/-- A character that is composed with no other stays. -/
theorem Composition.Keeps.add {state : Composition} {c : Char} (keeps : state.Keeps c)
    (alone : ∀ second, composite? c.toNat second = none) (next : Char) :
    (state.add next).Keeps c := by
  unfold Composition.add
  split
  next letter met =>
      refine .inl (keeps.resolve_right fun last => ?_)
      rw [meet?_of_alone last alone] at met
      cases met
  next =>
      split
      · exact .inl keeps.mem_reversed
      · split
        next none =>
            refine .inl (List.mem_cons_of_mem next (keeps.resolve_right fun last => ?_))
            rw [last] at none
            cases none
        next => exact keeps

theorem mem_sortIn {c d : Char} {done : List Char} : d ∈ sortIn c done ↔ d = c ∨ d ∈ done := by
  induction done with
  | nil => exact List.mem_cons
  | cons last rest inductionHypothesis =>
      rw [sortIn]
      split
      · rw [List.mem_cons, inductionHypothesis, List.mem_cons, or_left_comm]
      · exact List.mem_cons

theorem mem_decomposed_of_low {c : Char} {text : List Char} (low : IsLow c) (member : c ∈ text) :
    c ∈ decomposed text := by
  have sorted : ∀ rest done : List Char, c ∈ rest ∨ c ∈ done →
      c ∈ rest.foldl (fun done c => sortIn c done) done := by
    intro rest
    induction rest with
    | nil => exact fun done present => present.resolve_left List.not_mem_nil
    | cons d rest inductionHypothesis =>
        intro done present
        rw [List.mem_cons] at present
        refine inductionHypothesis _ ?_
        rw [mem_sortIn]
        rcases present with (here | later) | before
        · exact .inr (.inl here)
        · exact .inl later
        · exact .inr (.inr before)
  refine List.mem_reverse.mpr (sorted _ [] (.inl (List.mem_flatMap.mpr ⟨c, member, ?_⟩)))
  rw [parts_of_low low]
  exact List.mem_singleton_self c

theorem mem_composed_of_bracket {c : Char} {text : List Char} (bracket : c = '[' ∨ c = ']')
    (member : c ∈ text) : c ∈ composed text := by
  have low : IsLow c := by rcases bracket with rfl | rfl <;> decide
  -- The invariant of the fold: the bracket is still to come, or it is kept.
  have added : ∀ (rest : List Char) (state : Composition), c ∈ rest ∨ state.Keeps c →
      (rest.foldl Composition.add state).Keeps c := by
    intro rest
    induction rest with
    | nil => exact fun state present => present.resolve_left List.not_mem_nil
    | cons next rest inductionHypothesis =>
        intro state present
        rw [List.mem_cons] at present
        refine inductionHypothesis _ ?_
        rcases present with (rfl | later) | keeps
        · rw [add_of_low low]
          exact .inr (.inr rfl)
        · exact .inl later
        · exact .inr (keeps.add (composite?_of_bracket bracket) next)
  have kept := added (decomposed text) {} (.inl (mem_decomposed_of_low low member))
  exact List.mem_reverse.mpr kept.mem_reversed

theorem mapM_eq_some_iff {α β : Type} {f : α → Option β} {items : List α} {results : List β} :
    items.mapM f = some results ↔ List.Forall₂ (fun item result => f item = some result) items
      results := by
  induction items generalizing results with
  | nil =>
      rw [List.mapM_nil, List.forall₂_nil_left_iff]
      exact ⟨fun same => (Option.some.inj same).symm, fun same => same ▸ rfl⟩
  | cons item items inductionHypothesis =>
      rw [List.mapM_cons, List.forall₂_cons_left_iff]
      cases here : f item with
      | none => exact ⟨nofun, fun ⟨_, _, found, _⟩ => nomatch found⟩
      | some result =>
          constructor
          · intro all
            cases behind : items.mapM f with
            | none =>
                rw [behind] at all
                cases all
            | some rest =>
                rw [behind] at all
                cases all
                exact ⟨result, rest, rfl, inductionHypothesis.mp behind, rfl⟩
          · rintro ⟨_, rest, found, related, rfl⟩
            cases found
            rw [inductionHypothesis.mpr related]
            rfl

theorem exists_of_mapM {α β : Type} {f : α → Option β} {items : List α} {results : List β}
    (all : items.mapM f = some results) {item : α} (member : item ∈ items) :
    ∃ result ∈ results, f item = some result := by
  have related := mapM_eq_some_iff.mp all
  clear all
  induction related with
  | nil => cases member
  | @cons _ result _ _ here _ inductionHypothesis =>
      rcases List.mem_cons.mp member with rfl | later
      · exact ⟨result, List.mem_cons_self, here⟩
      · rcases inductionHypothesis later with ⟨other, listed, found⟩
        exact ⟨other, List.mem_cons_of_mem result listed, found⟩

/-- No name that is sent had a bracket. -/
theorem not_mem_of_toAscii? {c : Char} {name ascii : List Char} (bracket : c = '[' ∨ c = ']')
    (accepted : toAscii? name = some ascii) : c ∉ name := by
  intro member
  unfold toAscii? at accepted
  split at accepted
  next plain =>
      have noDot : c ≠ '.' := by rcases bracket with rfl | rfl <;> decide
      rcases exists_piece_of_mem noDot member with ⟨label, listed, inside⟩
      have small := List.all_eq_true.mp plain label listed
      rw [isPlain, Bool.and_eq_true, List.all_eq_true] at small
      have letter := small.1 c inside
      rcases bracket with rfl | rfl <;> exact absurd letter (by decide)
  next =>
      have spelled : spell? c = some [c] := by
        rcases bracket with rfl | rfl <;> decide +kernel
      unfold labels? at accepted
      cases spellings : name.mapM spell? with
      | none =>
          rw [spellings] at accepted
          cases accepted
      | some rows =>
          have kept : c ∈ rows.flatten := by
            rcases exists_of_mapM spellings member with ⟨row, listed, found⟩
            rw [spelled] at found
            cases found
            exact List.mem_flatten.mpr ⟨[c], listed, List.mem_singleton_self c⟩
          have forbidden : (composed rows.flatten).any isForbidden = true := by
            refine List.any_eq_true.mpr ⟨c, mem_composed_of_bracket bracket kept, ?_⟩
            rcases bracket with rfl | rfl <;> decide
          rw [spellings] at accepted
          simp only [forbidden] at accepted
          cases accepted

end Domain
end Net
end ExchangeGrid
