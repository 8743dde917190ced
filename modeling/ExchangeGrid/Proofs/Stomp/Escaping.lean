import ExchangeGrid.Proofs.Stomp.Grammar
import ExchangeGrid.Proofs.Stomp.Writing
import Mathlib.Data.Set.Function

namespace ExchangeGrid
namespace Stomp
namespace Escape

/-!
# One written form for each header text

What a backslash means depends on all that stands before it: behind another backslash it may be the
second half of a pair.  So it takes the whole text to tell where its pairs are, and a text can be
read exactly when it can be cut, from its front, into single characters and known pairs.

A reader takes more than a sender writes.  A colon or a line end may also stand for itself in what
is read.  Among the texts without these characters, though, each that can be read is the written
form of what it stands for, and `write_read_inverse` says that writing and reading are then inverse
to each other.
-/

/-- A piece of an escaped text that stands for one character. -/
inductive IsSign : List Char → Prop
  | plain (c : Char) (noBackslash : c ≠ '\\') : IsSign [c]
  | pair (mark : Char) (known : mark ∈ ['\\', 'n', 'r', 'c']) : IsSign ['\\', mark]

/-- An escaped text that can be cut into pieces of this kind. -/
def IsSpelled (raw : List Char) : Prop :=
  ∃ signs : List (List Char), signs.flatten = raw ∧ ∀ sign ∈ signs, IsSign sign

/-- No character stands for itself that ends a header line or divides it. -/
def IsBare (raw : List Char) : Prop :=
  '\n' ∉ raw ∧ '\r' ∉ raw ∧ ':' ∉ raw

instance (raw : List Char) : Decidable (IsBare raw) :=
  inferInstanceAs (Decidable (_ ∧ _ ∧ _))

/-! ## What can be read -/

theorem exists_meaning?_iff {mark : Char} :
    (∃ meant, meaning? mark = some meant) ↔ mark ∈ ['\\', 'n', 'r', 'c'] := by
  constructor
  · rintro ⟨meant, known⟩
    unfold meaning? at known
    split at known
    · decide
    · decide
    · decide
    · decide
    · cases known
  · intro member
    simp only [List.mem_cons, List.not_mem_nil, or_false] at member
    rcases member with rfl | rfl | rfl | rfl
    · exact ⟨'\\', rfl⟩
    · exact ⟨'\n', rfl⟩
    · exact ⟨'\r', rfl⟩
    · exact ⟨':', rfl⟩

theorem Spells.isSpelled {raw text : List Char} (spells : Spells raw text) : IsSpelled raw := by
  induction spells with
  | done => exact ⟨[], rfl, nofun⟩
  | plain c noBackslash rest inductionHypothesis =>
      rcases inductionHypothesis with ⟨signs, rfl, all⟩
      exact ⟨[c] :: signs, rfl, List.forall_mem_cons.mpr ⟨.plain c noBackslash, all⟩⟩
  | pair mark meant known rest inductionHypothesis =>
      rcases inductionHypothesis with ⟨signs, rfl, all⟩
      have isSign := IsSign.pair mark (exists_meaning?_iff.mp ⟨meant, known⟩)
      exact ⟨['\\', mark] :: signs, rfl, List.forall_mem_cons.mpr ⟨isSign, all⟩⟩

/-- A piece stands for its character wherever it is put in front. -/
theorem IsSign.exists_spells {sign raw text : List Char} (isSign : IsSign sign)
    (rest : Spells raw text) : ∃ c, Spells (sign ++ raw) (c :: text) := by
  cases isSign with
  | plain c noBackslash => exact ⟨c, .plain c noBackslash rest⟩
  | pair mark known =>
      obtain ⟨meant, means⟩ := exists_meaning?_iff.mpr known
      exact ⟨meant, .pair mark meant means rest⟩

theorem IsSpelled.exists_spells {raw : List Char} (spelled : IsSpelled raw) :
    ∃ text, Spells raw text := by
  rcases spelled with ⟨signs, rfl, all⟩
  induction signs with
  | nil => exact ⟨[], .done⟩
  | cons sign signs inductionHypothesis =>
      rcases List.forall_mem_cons.mp all with ⟨isSign, others⟩
      obtain ⟨text, rest⟩ := inductionHypothesis others
      obtain ⟨c, spells⟩ := isSign.exists_spells rest
      exact ⟨c :: text, spells⟩

/-- A text can be read exactly when it can be cut into single characters and known pairs. -/
theorem exists_read_iff {raw : List Char} : (∃ text, read raw = .ok text) ↔ IsSpelled raw := by
  constructor
  · rintro ⟨text, reads⟩
    exact (spells_of_read reads).isSpelled
  · intro spelled
    obtain ⟨text, spells⟩ := spelled.exists_spells
    exact ⟨text, spells.read_eq⟩

/-! ## What is written -/

theorem isBare_write (text : List Char) : IsBare (write text) :=
  ⟨not_mem_write_of_reserved (Or.inl rfl), not_mem_write_of_reserved (Or.inr (Or.inl rfl)),
    not_mem_write_of_reserved (Or.inr (Or.inr rfl))⟩

theorem write_cons_of_meaning? {mark meant : Char} (known : meaning? mark = some meant)
    (text : List Char) : write (meant :: text) = '\\' :: mark :: write text := by
  unfold meaning? at known
  split at known <;> cases known <;> rfl

theorem IsBare.of_cons {c : Char} {raw : List Char} (bare : IsBare (c :: raw)) :
    (c ≠ '\n' ∧ c ≠ '\r' ∧ c ≠ ':') ∧ IsBare raw := by
  rcases bare with ⟨noFeed, noReturn, noColon⟩
  rw [List.mem_cons, not_or] at noFeed noReturn noColon
  exact ⟨⟨Ne.symm noFeed.1, Ne.symm noReturn.1, Ne.symm noColon.1⟩,
    noFeed.2, noReturn.2, noColon.2⟩

/-- A text in which nothing reserved stands for itself is the written form of what it spells. -/
theorem Spells.write_eq {raw text : List Char} (spells : Spells raw text) (bare : IsBare raw) :
    write text = raw := by
  induction spells with
  | done => rfl
  | plain c noBackslash rest inductionHypothesis =>
      rcases bare.of_cons with ⟨⟨noFeed, noReturn, noColon⟩, later⟩
      rw [write, inductionHypothesis later]
      all_goals assumption
  | pair mark meant known rest inductionHypothesis =>
      have later := bare.of_cons.2.of_cons.2
      rw [write_cons_of_meaning? known, inductionHypothesis later]

/-! ## Both -/

/-- What is written holds nothing reserved and is read back; what can be read are the texts that are
spelled in single characters and known pairs; and such a text without anything reserved is what is
written for what it stands for.  So writing is a bijection onto these texts. -/
theorem write_read_inverse :
    (∀ text, IsBare (write text) ∧ read (write text) = .ok text) ∧
      (∀ raw, (∃ text, read raw = .ok text) ↔ IsSpelled raw) ∧
      (∀ raw text, IsBare raw → read raw = .ok text → write text = raw) ∧
      Set.BijOn write Set.univ {raw | IsBare raw ∧ IsSpelled raw} := by
  have back : ∀ raw text, IsBare raw → read raw = .ok text → write text = raw :=
    fun raw text bare reads => (spells_of_read reads).write_eq bare
  refine ⟨fun text => ⟨isBare_write text, read_write text⟩, fun raw => exists_read_iff, back, ?_⟩
  refine ⟨?_, ?_, ?_⟩
  · intro text _
    exact ⟨isBare_write text, exists_read_iff.mp ⟨text, read_write text⟩⟩
  · intro first _ second _ same
    have reads := read_write first
    rw [same, read_write second] at reads
    exact (Except.ok.inj reads).symm
  · rintro raw ⟨bare, spelled⟩
    obtain ⟨text, reads⟩ := exists_read_iff.mpr spelled
    exact ⟨text, Set.mem_univ text, back raw text bare reads⟩

/-- Three backslashes and a letter: the first two are a pair, the third belongs to the letter. -/
def threeBackslashes : List Char :=
  ['\\', '\\', '\\', 'n']

theorem write_read_inverse_threeBackslashes :
    IsBare threeBackslashes ∧ read threeBackslashes = .ok ['\\', '\n'] ∧
      write ['\\', '\n'] = threeBackslashes := by
  have bare : IsBare threeBackslashes := by decide
  have reads : read threeBackslashes = .ok ['\\', '\n'] := rfl
  exact ⟨bare, reads, write_read_inverse.2.2.1 threeBackslashes ['\\', '\n'] bare reads⟩

/-- A colon that stands for itself is read, but it is not how a colon is written. -/
example : read [':'] = .ok [':'] ∧ write [':'] = ['\\', 'c'] := ⟨rfl, rfl⟩

end Escape
end Stomp
end ExchangeGrid
