import ExchangeGrid.Json.Shape
import Mathlib.Data.List.Forall2

namespace ExchangeGrid
namespace Json

/-!
# What a record holds

However a record is written, with its members by name in any order or in an array, it is read as one
member for each field, in the order of the fields.  Each has a value that the shape of its field was
read as, or the one that stands for a field that was left out.
-/

/-- A value that a field can have in a record that was read. -/
def Field.Admits (field : Field) (value : Value) : Prop :=
  (∃ dialect document, field.shape.read dialect document = some value) ∨
    field.default = some value ∨ field.shape.absent = some value

/-- A member of a record that belongs to a field. -/
def Field.Holds (field : Field) (member : String × Value) : Prop :=
  member.1 = field.name ∧ field.Admits member.2

/-- What is in a slot was read as the shape of its field says. -/
def Slot.IsRead (slot : Slot) : Prop :=
  ∀ value, slot.value = some value →
    ∃ dialect document, slot.field.shape.read dialect document = some value

def Slot.IsOf (field : Field) (slot : Slot) : Prop :=
  slot.field = field ∧ slot.IsRead

theorem isOf_fillSlot {dialect : Dialect} {name : String} {document : Document}
    {fields : List Field} {slots filled : List Slot} (isOf : List.Forall₂ Slot.IsOf fields slots)
    (fills : fillSlot dialect name document slots = some filled) :
    List.Forall₂ Slot.IsOf fields filled := by
  induction isOf generalizing filled with
  | nil =>
      cases fills
      exact .nil
  | @cons field slot fields slots here behind inductionHypothesis =>
      unfold fillSlot at fills
      split at fills
      · split at fills
        · rename_i value empty read
          cases fills
          refine .cons ⟨here.1, ?_⟩ behind
          intro other same
          cases same
          exact ⟨dialect, document, read⟩
        · cases fills
      · rcases Option.map_eq_some_iff.mp fills with ⟨later, fillsBehind, rfl⟩
        exact .cons here (inductionHypothesis fillsBehind)

theorem isOf_fillSlots {dialect : Dialect} {members : List (Option String × Document)}
    {fields : List Field} {slots filled : List Slot} (isOf : List.Forall₂ Slot.IsOf fields slots)
    (fills : fillSlots dialect slots members = some filled) :
    List.Forall₂ Slot.IsOf fields filled := by
  induction members generalizing slots with
  | nil =>
      cases fills
      exact isOf
  | cons member members inductionHypothesis =>
      rcases member with ⟨name, document⟩
      cases name with
      | none => cases fills
      | some name =>
          unfold fillSlots at fills
          split at fills
          · cases fills
          · rename_i between fillsHere
            exact inductionHypothesis (isOf_fillSlot isOf fillsHere) fills

theorem isOf_empty (fields : List Field) :
    List.Forall₂ Slot.IsOf fields (fields.map fun field => { field }) := by
  rw [List.forall₂_map_right_iff]
  exact List.forall₂_same.mpr fun field _ => ⟨rfl, nofun⟩

theorem Slot.IsOf.holds {field : Field} {slot : Slot} {member : String × Value}
    (isOf : slot.IsOf field) (contributes : slot.member = some member) : field.Holds member := by
  rcases isOf with ⟨rfl, isRead⟩
  unfold Slot.member at contributes
  rcases Option.map_eq_some_iff.mp contributes with ⟨value, chosen, rfl⟩
  refine ⟨rfl, ?_⟩
  cases filled : slot.value with
  | some given =>
      rw [filled] at chosen
      cases chosen
      exact Or.inl (isRead value filled)
  | none =>
      rw [filled] at chosen
      cases default : slot.field.default with
      | some given =>
          rw [default] at chosen
          cases chosen
          exact Or.inr (Or.inl default)
      | none =>
          rw [default] at chosen
          exact Or.inr (Or.inr chosen)

theorem holds_of_slots {fields : List Field} {slots : List Slot}
    {members : List (String × Value)} (isOf : List.Forall₂ Slot.IsOf fields slots)
    (contribute : slots.mapM Slot.member = some members) :
    List.Forall₂ Field.Holds fields members := by
  induction isOf generalizing members with
  | nil =>
      cases contribute
      exact .nil
  | @cons field slot fields slots here behind inductionHypothesis =>
      rw [List.mapM_cons] at contribute
      rcases Option.bind_eq_some_iff.mp contribute with ⟨member, first, rest⟩
      rcases Option.bind_eq_some_iff.mp rest with ⟨others, later, same⟩
      cases same
      exact .cons (here.holds first) (inductionHypothesis later)

theorem holds_of_positions {dialect : Dialect} {fields : List Field} {items : List Document}
    {members : List (String × Value)}
    (read : readPositions dialect fields items = some members) :
    List.Forall₂ Field.Holds fields members := by
  induction fields generalizing items members with
  | nil =>
      cases items with
      | nil =>
          cases read
          exact .nil
      | cons item items =>
          unfold readPositions at read
          split at read
          · cases read
            exact .nil
          · cases read
  | cons field fields inductionHypothesis =>
      cases items with
      | nil =>
          rcases Option.bind_eq_some_iff.mp read with ⟨value, default, rest⟩
          rcases Option.bind_eq_some_iff.mp rest with ⟨others, later, same⟩
          cases same
          exact .cons ⟨rfl, Or.inr (Or.inl default)⟩ (inductionHypothesis later)
      | cons item items =>
          rcases Option.bind_eq_some_iff.mp read with ⟨value, here, rest⟩
          rcases Option.bind_eq_some_iff.mp rest with ⟨others, later, same⟩
          cases same
          exact .cons ⟨rfl, Or.inl ⟨dialect, item, here⟩⟩ (inductionHypothesis later)

/-- A record that was read has one member for each field that is shown. -/
theorem exists_members_of_record {fields : List Field} {dialect : Dialect} {document : Document}
    {value : Value} (read : (Shape.record fields).read dialect document = some value) :
    ∃ members, List.Forall₂ Field.Holds fields members ∧
      value = .object ((members.zip fields).filterMap fun (member, field) =>
        if field.shown member.2 then some member else none) := by
  unfold Shape.record at read
  dsimp only at read
  split at read
  · split at read
    · cases read
    · rename_i slots fills
      rcases Option.map_eq_some_iff.mp read with ⟨members, contribute, rfl⟩
      exact ⟨members, holds_of_slots (isOf_fillSlots (isOf_empty fields) fills) contribute, rfl⟩
  · rcases Option.map_eq_some_iff.mp read with ⟨members, positions, rfl⟩
    exact ⟨members, holds_of_positions positions, rfl⟩
  · cases read

/-- A record of two fields that are always shown. -/
theorem exists_values_of_pair {first second : Field} {dialect : Dialect} {document : Document}
    {value : Value} (read : (Shape.record [first, second]).read dialect document = some value)
    (shownFirst : ∀ value, first.shown value = true)
    (shownSecond : ∀ value, second.shown value = true) :
    ∃ one other, value = .object [(first.name, one), (second.name, other)] ∧
      first.Admits one ∧ second.Admits other := by
  rcases exists_members_of_record read with ⟨members, holds, rfl⟩
  rcases List.forall₂_cons_left_iff.mp holds with ⟨⟨_, one⟩, rest, ⟨rfl, admitsOne⟩, behind, rfl⟩
  rcases List.forall₂_cons_left_iff.mp behind with ⟨⟨_, other⟩, more, ⟨rfl, admitsOther⟩, none, rfl⟩
  rw [List.forall₂_nil_left_iff.mp none]
  refine ⟨one, other, ?_, admitsOne, admitsOther⟩
  simp only [List.zip_cons_cons, List.zip_nil_left, List.filterMap_cons, List.filterMap_nil,
    shownFirst, shownSecond, if_true]

/-- A text that is one of some names, and no other stands for those that are not. -/
theorem mem_of_choice {names : List String} {dialect : Dialect} {document : Document}
    {value : Value} (read : (Shape.choice names).read dialect document = some value) :
    ∃ name ∈ names, value = .string name := by
  have picked {name : String} (pick : (if names.contains name then some (Value.string name)
      else (none : Option String).map .string) = some value) :
      ∃ name ∈ names, value = .string name := by
    split at pick
    · rename_i listed
      cases pick
      exact ⟨name, List.contains_iff_mem.mp listed, rfl⟩
    · cases pick
  unfold Shape.choice at read
  dsimp only at read
  split at read
  · exact picked read
  · split at read
    · exact picked read
    · cases read
  · cases read

theorem exists_string_of_read {dialect : Dialect} {document : Document} {value : Value}
    (read : Shape.string.read dialect document = some value) : ∃ text, value = .string text := by
  unfold Shape.string at read
  dsimp only at read
  split at read
  · rcases Option.map_eq_some_iff.mp read with ⟨text, -, rfl⟩
    exact ⟨text, rfl⟩
  · cases read

end Json
end ExchangeGrid
