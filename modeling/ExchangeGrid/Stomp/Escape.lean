import ExchangeGrid.Stomp.Fault

namespace ExchangeGrid
namespace Stomp
namespace Escape

/-!
# Escaped header texts

A header line ends at a line feed and is cut at its first colon, so names and values write
those characters, the carriage return and the backslash itself as two characters.  `write` and
`read` are inverse to each other on what `write` produces.
-/

/-- The text with reserved characters escaped. -/
def write : List Char → List Char
  | [] => []
  | '\\' :: rest => '\\' :: '\\' :: write rest
  | '\n' :: rest => '\\' :: 'n' :: write rest
  | '\r' :: rest => '\\' :: 'r' :: write rest
  | ':' :: rest => '\\' :: 'c' :: write rest
  | c :: rest => c :: write rest

/-- The character that an escape stands for. -/
def meaning? : Char → Option Char
  | '\\' => some '\\'
  | 'n' => some '\n'
  | 'r' => some '\r'
  | 'c' => some ':'
  | _ => none

def read : List Char → Except Violation (List Char)
  | [] => .ok []
  | ['\\'] => .error (.unknownEscape none)
  | '\\' :: c :: rest =>
    match meaning? c with
    | none => .error (.unknownEscape (some c))
    | some m =>
      match read rest with
      | .ok text => .ok (m :: text)
      | .error e => .error e
  | c :: rest =>
    match read rest with
    | .ok text => .ok (c :: text)
    | .error e => .error e

/-- A character other than a backslash is read as itself. -/
theorem read_cons_of_ne {c : Char} (plain : c ≠ '\\') (rest : List Char) :
    read (c :: rest) = (read rest).map (c :: ·) := by
  rw [read.eq_def]
  split
  · rename_i equal
    cases equal
  · rename_i equal
    cases equal
    exact absurd rfl plain
  · rename_i equal
    cases equal
    exact absurd rfl plain
  · rename_i equal
    cases equal
    cases read rest <;> rfl

/-- What was written is read back. -/
theorem read_write (text : List Char) : read (write text) = .ok text := by
  fun_induction write text with
  | case1 => rfl
  | case2 rest inductionHypothesis
  | case3 rest inductionHypothesis
  | case4 rest inductionHypothesis
  | case5 rest inductionHypothesis => simp only [read, meaning?, inductionHypothesis]
  | case6 c rest noBackslash noFeed noReturn noColon inductionHypothesis =>
      rw [read_cons_of_ne noBackslash, inductionHypothesis]
      rfl

/-- A character of a written text takes part in an escape, or stood in the text and needs none. -/
theorem mem_of_mem_write {text : List Char} {c : Char} (member : c ∈ write text) :
    c ∈ ['\\', 'n', 'r', 'c'] ∨ (c ∈ text ∧ c ≠ '\n' ∧ c ≠ '\r' ∧ c ≠ ':') := by
  fun_induction write text with
  | case1 => cases member
  | case2 rest inductionHypothesis
  | case3 rest inductionHypothesis
  | case4 rest inductionHypothesis
  | case5 rest inductionHypothesis =>
      rcases List.mem_cons.mp member with rfl | member
      · exact Or.inl (by decide)
      rcases List.mem_cons.mp member with rfl | later
      · exact Or.inl (by decide)
      · exact (inductionHypothesis later).imp_right fun ⟨inside, kept⟩ =>
          ⟨List.mem_cons_of_mem _ inside, kept⟩
  | case6 d rest noBackslash noFeed noReturn noColon inductionHypothesis =>
      rcases List.mem_cons.mp member with rfl | later
      · exact Or.inr ⟨List.mem_cons_self, noFeed, noReturn, noColon⟩
      · exact (inductionHypothesis later).imp_right fun ⟨inside, kept⟩ =>
          ⟨List.mem_cons_of_mem _ inside, kept⟩

/-- A text without reserved characters is written as it is. -/
theorem write_eq_self {text : List Char}
    (plain : ∀ c ∈ text, c ≠ '\\' ∧ c ≠ '\n' ∧ c ≠ '\r' ∧ c ≠ ':') : write text = text := by
  induction text with
  | nil => rfl
  | cons c rest inductionHypothesis =>
      obtain ⟨noBackslash, noFeed, noReturn, noColon⟩ := plain c List.mem_cons_self
      rw [write, inductionHypothesis fun d member => plain d (List.mem_cons_of_mem c member)]
      all_goals assumption

end Escape
end Stomp
end ExchangeGrid
