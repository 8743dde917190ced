namespace ExchangeGrid
namespace Blank

/-!
# White space

`isBlank` is the Unicode property White_Space, a set of twenty-five characters that no longer
grows.  `dropEnd` and `strip` take blanks off the ends of a text and leave those inside alone.
-/

/-- The characters with the property White_Space. -/
def isBlank (c : Char) : Bool :=
  let n := c.toNat
  (9 ≤ n && n ≤ 13) || n == 0x20 || n == 0x85 || n == 0xA0 || n == 0x1680
    || (0x2000 ≤ n && n ≤ 0x200A) || n == 0x2028 || n == 0x2029 || n == 0x202F
    || n == 0x205F || n == 0x3000

/-- A digit is no blank. -/
theorem isBlank_of_isDigit {c : Char} (digit : c.isDigit = true) : isBlank c = false := by
  simp only [Char.isDigit, Bool.and_eq_true, decide_eq_true_eq] at digit
  have low : 48 ≤ c.toNat := digit.1
  have high : c.toNat ≤ 57 := digit.2
  unfold isBlank
  simp
  omega

def dropEnd (text : List Char) : List Char :=
  (text.reverse.dropWhile isBlank).reverse

def strip (text : List Char) : List Char :=
  dropEnd (text.dropWhile isBlank)

/-- A text without blanks is left alone. -/
theorem strip_eq_self {text : List Char} (solid : ∀ c ∈ text, isBlank c = false) :
    strip text = text := by
  have kept (part : List Char) (inside : ∀ c ∈ part, c ∈ text) :
      part.dropWhile isBlank = part := by
    cases part with
    | nil => rfl
    | cons c rest =>
        have first := solid c (inside c List.mem_cons_self)
        rw [List.dropWhile_cons_of_neg (by rw [first]; exact Bool.false_ne_true)]
  unfold strip dropEnd
  rw [kept text fun _ => id, kept text.reverse fun _ => List.mem_reverse.mp, List.reverse_reverse]

/-- A blank at the end is stripped. -/
theorem strip_concat {c : Char} (blank : isBlank c = true) (text : List Char) :
    strip (text ++ [c]) = strip text := by
  unfold strip dropEnd
  rw [List.dropWhile_append]
  split
  · rename_i nothing
    rw [List.isEmpty_iff.mp nothing, List.dropWhile_cons_of_pos blank]
    rfl
  · rw [List.reverse_append, List.reverse_singleton, List.singleton_append,
      List.dropWhile_cons_of_pos blank]

theorem strip_append_left {left : List Char} (blank : ∀ c ∈ left, isBlank c = true)
    (text : List Char) : strip (left ++ text) = strip text := by
  unfold strip
  rw [List.dropWhile_append_of_pos blank]

theorem strip_append_right {right : List Char} (blank : ∀ c ∈ right, isBlank c = true)
    (text : List Char) : strip (text ++ right) = strip text := by
  induction right generalizing text with
  | nil => rw [List.append_nil]
  | cons c right inductionHypothesis =>
      rcases List.forall_mem_cons.mp blank with ⟨first, later⟩
      rw [List.append_cons, inductionHypothesis later, strip_concat first]

/-- What is stripped of nothing has no blank in front. -/
theorem dropWhile_of_strip {text : List Char} (kept : strip text = text) :
    text.dropWhile isBlank = text := by
  have shorter : (strip text).length ≤ (text.dropWhile isBlank).length := by
    have dropped := (List.dropWhile_suffix (l := (text.dropWhile isBlank).reverse) isBlank).length_le
    rw [List.length_reverse] at dropped
    unfold strip dropEnd
    rw [List.length_reverse]
    exact dropped
  rw [kept] at shorter
  have front := List.dropWhile_suffix (l := text) isBlank
  exact front.eq_of_length (Nat.le_antisymm front.length_le shorter)

/-- A text that is stripped of nothing may go on with what is not blank. -/
theorem strip_append {text more : List Char} (kept : strip text = text) (nonempty : text ≠ [])
    (solid : ∀ c ∈ more, isBlank c = false) : strip (text ++ more) = text ++ more := by
  have front := dropWhile_of_strip kept
  have filled : ¬ text.isEmpty = true := mt List.isEmpty_iff.mp nonempty
  unfold strip at kept ⊢
  rw [List.dropWhile_append, front, if_neg filled]
  rw [front] at kept
  rcases List.eq_nil_or_concat more with rfl | ⟨before, c, rfl⟩
  · rw [List.append_nil]
    exact kept
  · rw [List.concat_eq_append] at solid ⊢
    have last := solid c (List.mem_append_right before List.mem_cons_self)
    unfold dropEnd
    rw [← List.append_assoc, List.reverse_append, List.reverse_singleton, List.singleton_append,
      List.dropWhile_cons_of_neg (Bool.not_eq_true _ ▸ last), List.reverse_cons,
      List.reverse_reverse]

def trimEnd (text : String) : String :=
  String.ofList (dropEnd text.toList)

/-- The blanks that data formats allow between their parts: tab, line feed, form feed,
carriage return and space. -/
def isPlainBlank (byte : UInt8) : Bool :=
  byte == 9 || byte == 10 || byte == 12 || byte == 13 || byte == 32

end Blank
end ExchangeGrid
