namespace ExchangeGrid
namespace Decimal

/-!
# Whole numbers in decimal

`digits` writes a number, `natural?` reads one below a bound.  A reader that refuses says why:
the first thing wrong from the left is what it names, so a text that outgrows the bound before
its first foreign character is too large and not malformed.
-/

/-- Why a text is no whole number below the bound. -/
inductive Flaw
  | empty
  | notADigit
  | tooLarge
  deriving DecidableEq, Repr

def Flaw.message : Flaw → String
  | .empty => "cannot parse integer from empty string"
  | .notADigit => "invalid digit found in string"
  | .tooLarge => "number too large to fit in target type"

def digit? (c : Char) : Option Nat :=
  if '0' ≤ c ∧ c ≤ '9' then some (c.toNat - '0'.toNat) else none

/-- Append the digits of a text to a number that is already below the bound. -/
def extend (bound : Nat) : Nat → List Char → Except Flaw Nat
  | value, [] => .ok value
  | value, c :: rest =>
    match digit? c with
    | none => .error .notADigit
    | some d =>
      if value * 10 + d < bound then extend bound (value * 10 + d) rest
      else .error .tooLarge

/-- Read a whole number below the bound.  A leading plus is allowed before the first digit. -/
def natural (bound : Nat) : List Char → Except Flaw Nat
  | [] => .error .empty
  | '+' :: [] => .error .notADigit
  | '+' :: rest => extend bound 0 rest
  | text => extend bound 0 text

def natural? (bound : Nat) (text : List Char) : Option Nat :=
  match natural bound text with
  | .ok value => some value
  | .error _ => none

theorem natural_eq_ok_iff {bound : Nat} {text : List Char} {value : Nat} :
    natural bound text = .ok value ↔ natural? bound text = some value := by
  unfold natural?
  cases natural bound text with
  | ok other => rw [Except.ok.injEq, Option.some.injEq]
  | error flaw => exact ⟨nofun, nofun⟩

/-- The shortest decimal writing of a number. -/
def digits (n : Nat) : List Char :=
  Nat.toDigits 10 n

def portBound : Nat := Nat.pow 2 16

/-- Lengths and other machine words lie below this bound. -/
def wordBound : Nat := Nat.pow 2 64

theorem digit?_of_isDigit {c : Char} (digit : c.isDigit = true) :
    digit? c = some (c.toNat - '0'.toNat) := by
  simp only [Char.isDigit, Bool.and_eq_true, decide_eq_true_eq] at digit
  unfold digit?
  exact if_pos digit

theorem le_ofDigitChars (text : List Char) (value : Nat) :
    value ≤ Nat.ofDigitChars 10 text value := by
  induction text generalizing value with
  | nil => exact Nat.le_of_eq Nat.ofDigitChars_nil.symm
  | cons c rest inductionHypothesis =>
      rw [Nat.ofDigitChars_cons]
      have later := inductionHypothesis (10 * value + (c.toNat - '0'.toNat))
      omega

theorem extend_digits {bound : Nat} {text : List Char} {value : Nat}
    (digits : ∀ c ∈ text, c.isDigit = true) (small : Nat.ofDigitChars 10 text value < bound) :
    extend bound value text = .ok (Nat.ofDigitChars 10 text value) := by
  induction text generalizing value with
  | nil => rw [extend, Nat.ofDigitChars_nil]
  | cons c rest inductionHypothesis =>
      rw [Nat.ofDigitChars_cons] at small ⊢
      rw [Nat.mul_comm] at small ⊢
      have below := Nat.lt_of_le_of_lt (le_ofDigitChars rest _) small
      rw [extend, digit?_of_isDigit (digits c List.mem_cons_self)]
      dsimp only
      rw [if_pos below]
      exact inductionHypothesis (fun d member => digits d (List.mem_cons_of_mem c member)) small

theorem isDigit_of_mem_digits {n : Nat} {c : Char} (member : c ∈ digits n) : c.isDigit = true :=
  Nat.isDigit_of_mem_toDigits (by decide) (by decide) member

/-- A number below the bound is read back from its decimal writing. -/
theorem natural?_digits {bound n : Nat} (small : n < bound) :
    natural? bound (digits n) = some n := by
  have value : Nat.ofDigitChars 10 (digits n) 0 = n := Nat.ofDigitChars_ten_toDigits
  have read : extend bound 0 (digits n) = .ok n := by
    rw [extend_digits (fun _ => isDigit_of_mem_digits) (by rw [value]; exact small), value]
  have noSign : '+' ∉ digits n := fun member => absurd (isDigit_of_mem_digits member) (by decide)
  have unsigned : natural bound (digits n) = extend bound 0 (digits n) := by
    unfold natural
    split
    · rename_i empty
      exact absurd empty Nat.toDigits_ne_nil
    · rename_i equal
      rw [equal] at noSign
      exact absurd List.mem_cons_self noSign
    · rename_i equal
      rw [equal] at noSign
      exact absurd List.mem_cons_self noSign
    · rfl
  unfold natural?
  rw [unsigned, read]

/-- A number is read digit by digit. -/
theorem exists_of_extend {bound value result : Nat} {c : Char} {rest : List Char}
    (read : extend bound value (c :: rest) = .ok result) :
    ∃ digit, digit? c = some digit ∧ value * 10 + digit < bound ∧
      extend bound (value * 10 + digit) rest = .ok result := by
  rw [extend] at read
  split at read
  · cases read
  · rename_i digit found
    split at read
    · rename_i within
      exact ⟨digit, found, within, read⟩
    · cases read

theorem lt_of_extend {bound value result : Nat} {text : List Char} (small : value < bound)
    (read : extend bound value text = .ok result) : result < bound := by
  induction text generalizing value with
  | nil =>
      cases read
      exact small
  | cons c rest inductionHypothesis =>
      rcases exists_of_extend read with ⟨digit, -, within, later⟩
      exact inductionHypothesis within later

/-- What is read lies below the bound. -/
theorem lt_of_natural? {bound value : Nat} {text : List Char} (positive : 0 < bound)
    (read : natural? bound text = some value) : value < bound := by
  rw [← natural_eq_ok_iff] at read
  unfold natural at read
  split at read
  · cases read
  · cases read
  · exact lt_of_extend positive read
  · exact lt_of_extend positive read

theorem isSome_of_extend {bound value result : Nat} {text : List Char}
    (read : extend bound value text = .ok result) : ∀ c ∈ text, (digit? c).isSome := by
  induction text generalizing value with
  | nil => exact nofun
  | cons c rest inductionHypothesis =>
      rcases exists_of_extend read with ⟨digit, found, -, later⟩
      exact List.forall_mem_cons.mpr ⟨found ▸ rfl, inductionHypothesis later⟩

/-- Nothing but digits is read, and a plus. -/
theorem digit_or_plus_of_natural? {bound value : Nat} {text : List Char}
    (read : natural? bound text = some value) : ∀ c ∈ text, (digit? c).isSome ∨ c = '+' := by
  rw [← natural_eq_ok_iff] at read
  unfold natural at read
  split at read
  · cases read
  · cases read
  · exact List.forall_mem_cons.mpr ⟨.inr rfl, fun c member => .inl (isSome_of_extend read c member)⟩
  · exact fun c member => .inl (isSome_of_extend read c member)

end Decimal
end ExchangeGrid
