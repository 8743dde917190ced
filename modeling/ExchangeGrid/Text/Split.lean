namespace ExchangeGrid

/-!
# Cutting texts

The ways in which this library cuts a list of characters at a mark.  Nothing is lost by any of
them: the pieces with the marks put back are the text.
-/

def splitOn (mark : Char) : List Char → List (List Char)
  | [] => [[]]
  | c :: rest =>
    if c = mark then [] :: splitOn mark rest
    else
      match splitOn mark rest with
      | [] => [[c]]
      | piece :: pieces => (c :: piece) :: pieces

/-- Cut a text at its first occurrence of a mark. -/
def splitOnce? (mark : Char) : List Char → Option (List Char × List Char)
  | [] => none
  | c :: rest =>
    if c = mark then some ([], rest)
    else
      match splitOnce? mark rest with
      | none => none
      | some (left, right) => some (c :: left, right)

/-- Cut a text at its last occurrence of a mark. -/
def splitLast? (mark : Char) : List Char → Option (List Char × List Char)
  | [] => none
  | c :: rest =>
    match splitLast? mark rest with
    | some (left, right) => some (c :: left, right)
    | none => if c = mark then some ([], rest) else none

/-- What follows a given beginning, when a text begins so. -/
def after? : List Char → List Char → Option (List Char)
  | [], text => some text
  | _ :: _, [] => none
  | p :: ps, c :: rest => if p = c then after? ps rest else none

def occursIn (part : List Char) : List Char → Bool
  | [] => part.isEmpty
  | c :: rest => part.isPrefixOf (c :: rest) || occursIn part rest

theorem append_of_splitOnce? {mark : Char} {text left right : List Char}
    (cut : splitOnce? mark text = some (left, right)) : text = left ++ mark :: right := by
  induction text generalizing left with
  | nil => cases cut
  | cons c rest ih =>
    unfold splitOnce? at cut
    split at cut
    · rename_i same
      cases cut
      simp [same]
    · split at cut
      · cases cut
      · rename_i found
        cases cut
        simp [ih found]

theorem append_of_splitLast? {mark : Char} {text left right : List Char}
    (cut : splitLast? mark text = some (left, right)) : text = left ++ mark :: right := by
  induction text generalizing left with
  | nil => cases cut
  | cons c rest ih =>
    unfold splitLast? at cut
    split at cut
    · rename_i found
      cases cut
      simp [ih found]
    · split at cut
      · rename_i same
        cases cut
        simp [same]
      · cases cut

theorem splitOn_of_not_mem {mark : Char} {text : List Char} (absent : mark ∉ text) :
    splitOn mark text = [text] := by
  induction text with
  | nil => rfl
  | cons c rest inductionHypothesis =>
      rw [List.mem_cons, not_or] at absent
      rw [splitOn, if_neg (Ne.symm absent.1), inductionHypothesis absent.2]

/-- A text is first cut at the first mark in it. -/
theorem splitOn_append {mark : Char} {left : List Char} (absent : mark ∉ left)
    (right : List Char) : splitOn mark (left ++ mark :: right) = left :: splitOn mark right := by
  induction left with
  | nil => rw [List.nil_append, splitOn, if_pos rfl]
  | cons c rest inductionHypothesis =>
      rw [List.mem_cons, not_or] at absent
      rw [List.cons_append, splitOn, if_neg (Ne.symm absent.1), inductionHypothesis absent.2]

/-- Pieces without the mark are found again in the text in which a mark stands before each but the
first of them. -/
theorem splitOn_pieces {mark : Char} {first : List Char} {pieces : List (List Char)}
    (absentFirst : mark ∉ first) (absent : ∀ piece ∈ pieces, mark ∉ piece) :
    splitOn mark (first ++ pieces.flatMap (mark :: ·)) = first :: pieces := by
  induction pieces generalizing first with
  | nil => rw [List.flatMap_nil, List.append_nil, splitOn_of_not_mem absentFirst]
  | cons piece pieces inductionHypothesis =>
      have absentPiece := absent piece List.mem_cons_self
      rw [List.flatMap_cons, List.cons_append, splitOn_append absentFirst,
        inductionHypothesis absentPiece fun other member =>
          absent other (List.mem_cons_of_mem piece member)]

theorem splitOnce?_append {mark : Char} {left : List Char} (absent : mark ∉ left)
    (right : List Char) : splitOnce? mark (left ++ mark :: right) = some (left, right) := by
  induction left with
  | nil => rw [List.nil_append, splitOnce?, if_pos rfl]
  | cons c rest inductionHypothesis =>
      rw [List.mem_cons, not_or] at absent
      rw [List.cons_append, splitOnce?, if_neg (Ne.symm absent.1), inductionHypothesis absent.2]

/-- Every text is pieces without a mark, with the mark before each but the first of them. -/
theorem exists_pieces (mark : Char) (text : List Char) :
    ∃ (first : List Char) (pieces : List (List Char)),
      text = first ++ pieces.flatMap (mark :: ·) ∧ mark ∉ first ∧
        ∀ piece ∈ pieces, mark ∉ piece := by
  induction text with
  | nil => exact ⟨[], [], rfl, List.not_mem_nil, nofun⟩
  | cons c rest inductionHypothesis =>
      rcases inductionHypothesis with ⟨first, pieces, rfl, noFirst, noPiece⟩
      by_cases isMark : c = mark
      · refine ⟨[], first :: pieces, ?_, List.not_mem_nil, ?_⟩
        · rw [isMark]
          rfl
        · exact List.forall_mem_cons.mpr ⟨noFirst, noPiece⟩
      · refine ⟨c :: first, pieces, rfl, ?_, noPiece⟩
        exact List.not_mem_cons_of_ne_of_not_mem (Ne.symm isMark) noFirst

theorem exists_piece_of_mem {mark c : Char} {text : List Char} (other : c ≠ mark)
    (member : c ∈ text) : ∃ piece ∈ splitOn mark text, c ∈ piece := by
  rcases exists_pieces mark text with ⟨first, pieces, rfl, noFirst, noPiece⟩
  rw [splitOn_pieces noFirst noPiece]
  rcases List.mem_append.mp member with here | behind
  · exact ⟨first, List.mem_cons_self, here⟩
  · rcases List.mem_flatMap.mp behind with ⟨piece, listed, inside⟩
    have present := (List.mem_cons.mp inside).resolve_left other
    exact ⟨piece, List.mem_cons_of_mem first listed, present⟩

theorem mem_of_mem_piece {mark c : Char} {text piece : List Char}
    (listed : piece ∈ splitOn mark text) (member : c ∈ piece) : c ∈ text := by
  rcases exists_pieces mark text with ⟨first, pieces, rfl, noFirst, noPiece⟩
  rw [splitOn_pieces noFirst noPiece] at listed
  rcases List.mem_cons.mp listed with rfl | later
  · exact List.mem_append_left _ member
  · refine List.mem_append_right first (List.mem_flatMap.mpr ⟨piece, later, ?_⟩)
    exact List.mem_cons_of_mem mark member

/-- A text is cut at the first mark in it, and in no other place. -/
theorem splitOnce?_eq_some_iff {mark : Char} {text left right : List Char} :
    splitOnce? mark text = some (left, right) ↔ text = left ++ mark :: right ∧ mark ∉ left := by
  constructor
  · intro cut
    refine ⟨append_of_splitOnce? cut, ?_⟩
    induction text generalizing left with
    | nil => cases cut
    | cons c rest inductionHypothesis =>
        unfold splitOnce? at cut
        split at cut
        · cases cut
          exact List.not_mem_nil
        · rename_i noMark
          split at cut
          · cases cut
          · rename_i found
            cases cut
            exact List.not_mem_cons_of_ne_of_not_mem (Ne.symm noMark) (inductionHypothesis found)
  · rintro ⟨rfl, absent⟩
    exact splitOnce?_append absent right

/-- Only a text without the mark is not cut. -/
theorem splitOnce?_eq_none_iff {mark : Char} {text : List Char} :
    splitOnce? mark text = none ↔ mark ∉ text := by
  induction text with
  | nil => exact ⟨fun _ => List.not_mem_nil, fun _ => rfl⟩
  | cons c rest inductionHypothesis =>
      rw [splitOnce?, List.mem_cons, not_or]
      split
      next same => exact ⟨nofun, fun other => (other.1 same.symm).elim⟩
      next other =>
          cases later : splitOnce? mark rest with
          | some pieces =>
              rw [later] at inductionHypothesis
              exact ⟨nofun, fun absent => nomatch inductionHypothesis.mpr absent.2⟩
          | none => exact ⟨fun _ => ⟨Ne.symm other, inductionHypothesis.mp later⟩, fun _ => rfl⟩

theorem splitLast?_eq_none_iff {mark : Char} {text : List Char} :
    splitLast? mark text = none ↔ mark ∉ text := by
  induction text with
  | nil => exact ⟨fun _ => List.not_mem_nil, fun _ => rfl⟩
  | cons c rest inductionHypothesis =>
      rw [splitLast?, List.mem_cons, not_or]
      cases later : splitLast? mark rest with
      | some pieces =>
          rw [later] at inductionHypothesis
          exact ⟨nofun, fun absent => nomatch inductionHypothesis.mpr absent.2⟩
      | none =>
          have absent := inductionHypothesis.mp later
          dsimp only
          split
          next same => exact ⟨nofun, fun other => (other.1 same.symm).elim⟩
          next other => exact ⟨fun _ => ⟨Ne.symm other, absent⟩, fun _ => rfl⟩

theorem splitLast?_append {mark : Char} {right : List Char} (left : List Char)
    (absent : mark ∉ right) : splitLast? mark (left ++ mark :: right) = some (left, right) := by
  induction left with
  | nil =>
      rw [List.nil_append, splitLast?, splitLast?_eq_none_iff.mpr absent]
      exact if_pos rfl
  | cons c left inductionHypothesis => rw [List.cons_append, splitLast?, inductionHypothesis]

/-- A text is cut at the last mark in it, and in no other place. -/
theorem splitLast?_eq_some_iff {mark : Char} {text left right : List Char} :
    splitLast? mark text = some (left, right) ↔ text = left ++ mark :: right ∧ mark ∉ right := by
  constructor
  · intro cut
    refine ⟨append_of_splitLast? cut, ?_⟩
    induction text generalizing left with
    | nil => cases cut
    | cons c rest inductionHypothesis =>
        rw [splitLast?] at cut
        split at cut
        · rename_i later
          cases cut
          exact inductionHypothesis later
        · rename_i later
          split at cut
          · cases cut
            exact splitLast?_eq_none_iff.mp later
          · cases cut
  · rintro ⟨rfl, absent⟩
    exact splitLast?_append left absent

/-- What follows a beginning is the rest of the text. -/
theorem after?_eq_some_iff {beginning text rest : List Char} :
    after? beginning text = some rest ↔ text = beginning ++ rest := by
  induction beginning generalizing text with
  | nil => exact Option.some_inj
  | cons c beginning inductionHypothesis =>
      cases text with
      | nil => exact ⟨nofun, nofun⟩
      | cons d text =>
          rw [after?, List.cons_append, List.cons.injEq]
          split
          next same => rw [inductionHypothesis, and_iff_right same.symm]
          next other => exact ⟨nofun, fun both => (other both.1.symm).elim⟩

/-- The pieces of a text with the marks between them are the text. -/
theorem flatten_intersperse_splitOn (mark : Char) (text : List Char) :
    ((splitOn mark text).intersperse [mark]).flatten = text := by
  rcases exists_pieces mark text with ⟨first, pieces, rfl, noFirst, noPiece⟩
  rw [splitOn_pieces noFirst noPiece]
  clear noFirst noPiece
  induction pieces generalizing first with
  | nil => rfl
  | cons piece pieces inductionHypothesis =>
      rw [List.intersperse_cons_cons, List.flatten_cons, List.flatten_cons, inductionHypothesis]
      rfl

end ExchangeGrid
