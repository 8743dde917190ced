import ExchangeGrid.Error
import ExchangeGrid.Service.Node
import ExchangeGrid.Text.Decimal
import ExchangeGrid.Text.Quoted

namespace ExchangeGrid

/-!
# Picking nodes

A policy says which nodes of a list are candidates.  A picker goes through them one at a time: in
the order of the list, or in an order that is drawn at random, without ever coming back to one.
With each candidate it says whether another is left, so that a caller can tell its last try.

A picker keeps the whole list.  One that walks knows only the position it has come to, and looks
ahead for the next candidate; one that draws keeps the positions it has not drawn yet.
-/

/-- Which nodes are candidates, and in which order. -/
inductive Policy
  | ordered
  | random
  | positions (indices : List Nat)
  | named (names : List String)
  | satisfying (holds : ServiceNode → Bool)

namespace Policy

/-- A policy as its users write it down. -/
def text : Policy → String
  | ordered => "Ordered"
  | random => "Random"
  | positions indices => "Index(" ++ listText (indices.map toString) ++ ")"
  | named names => "Name(" ++ listText (names.map Quoted.text) ++ ")"
  | satisfying _ => "Predicate(..)"
where
  listText (items : List String) : String := "[" ++ String.intercalate ", " items ++ "]"

/-- What is missing when no node is left. -/
def missing : Policy → String
  | ordered | random => "any node"
  | positions indices =>
    "index [" ++ String.intercalate ", " (indices.map toString) ++ "]"
  | named names => String.intercalate ", " names
  | satisfying _ => "predicate"

/-- Whether the node at a position is a candidate. -/
def admits (policy : Policy) (index : Nat) (node : ServiceNode) : Bool :=
  match policy with
  | ordered | random => true
  | positions indices => indices.contains index
  | named names => names.contains node.name
  | satisfying holds => holds node

end Policy

/-- A candidate: its position, its node, and whether another is left. -/
structure Picked where
  index : Nat
  node : ServiceNode
  hasMore : Bool
  deriving Repr

/-! ## In the order of the list -/

/-- A walk through a list of nodes: which of them it stops at, what is missing when none is left,
and the position it has come to. -/
structure Walk where
  nodes : List ServiceNode
  admits : Nat → ServiceNode → Bool
  missing : String
  position : Nat := 0

namespace Walk

def nodesFrom (walk : Walk) (start : Nat) : List (ServiceNode × Nat) :=
  (walk.nodes.drop start).zipIdx start

def stopsAt (walk : Walk) (entry : ServiceNode × Nat) : Bool :=
  walk.admits entry.2 entry.1

def nextFrom? (walk : Walk) (start : Nat) : Option (ServiceNode × Nat) :=
  (walk.nodesFrom start).find? walk.stopsAt

/-- Go on to the next candidate, and look whether there is one behind it.  A walk that finds none
stays where it is. -/
def pick (walk : Walk) : Except Error Picked × Walk :=
  if walk.nodes.isEmpty then (.error .noNodes, walk)
  else
    match walk.nextFrom? walk.position with
    | none => (.error (.nodeNotFound walk.missing), walk)
    | some (node, index) =>
      (.ok ⟨index, node, (walk.nextFrom? (index + 1)).isSome⟩,
        { walk with position := index + 1 })

/-- The candidates that a walk has not come to, in their order. -/
def left (walk : Walk) : List (Nat × ServiceNode) :=
  ((walk.nodesFrom walk.position).filter walk.stopsAt).map Prod.swap

end Walk

/-! ## In an order that is drawn -/

/-- Take the item at a position out of a list and put the last one in its place. -/
def swapOut {α : Type} (slot : Nat) (items : List α) : Option (α × List α) :=
  match items[slot]?, items.getLast? with
  | some item, some last =>
    some (item, if slot + 1 = items.length then items.dropLast else (items.set slot last).dropLast)
  | _, _ => none

/-- The positions in a list of nodes that were not drawn yet.  Each number of `draws` chooses one
of those left, and the last one takes its place. -/
structure Lottery where
  nodes : List ServiceNode
  positions : List (Fin nodes.length)
  draws : List Nat

namespace Lottery

/-- Draw the next position.  Where none is left, no number is used up. -/
def pick (lottery : Lottery) : Except Error Picked × Lottery :=
  match swapOut (lottery.draws.headD 0 % lottery.positions.length) lottery.positions with
  | none => (.error .noNodes, lottery)
  | some (position, positions) =>
    (.ok ⟨position, lottery.nodes[position], !positions.isEmpty⟩,
      { lottery with positions, draws := lottery.draws.tail })

def left (lottery : Lottery) : List (Nat × ServiceNode) :=
  lottery.positions.map fun position => (position.val, lottery.nodes[position])

end Lottery

/-! ## Pickers -/

/-- Candidates that are gone through one at a time. -/
inductive Picker
  | inOrder (walk : Walk)
  | atRandom (lottery : Lottery)

namespace Picker

/-- The picker of a policy over a list of nodes.  `draws` are the random choices it will make. -/
def among (policy : Policy) (draws : List Nat) (nodes : List ServiceNode) : Picker :=
  match policy with
  | .random => .atRandom ⟨nodes, List.finRange nodes.length, draws⟩
  | _ => .inOrder ⟨nodes, policy.admits, policy.missing, 0⟩

/-- The next candidate, or why there is none, and the picker for the calls after this one. -/
def pick : Picker → Except Error Picked × Picker
  | inOrder walk => (walk.pick.1, inOrder walk.pick.2)
  | atRandom lottery => (lottery.pick.1, atRandom lottery.pick.2)

def left : Picker → List (Nat × ServiceNode)
  | inOrder walk => walk.left
  | atRandom lottery => lottery.left

end Picker

/-! ## What a pick leaves -/

/-- The items of a numbered list that pass a test are the first of them and those behind it. -/
theorem filter_zipIdx_of_find? {α : Type} {passes : α × Nat → Bool} {items : List α}
    {item : α} {start index : Nat}
    (found : (items.zipIdx start).find? passes = some (item, index)) :
    start ≤ index ∧ (items.zipIdx start).filter passes =
      (item, index) :: ((items.drop (index + 1 - start)).zipIdx (index + 1)).filter passes := by
  induction items generalizing start with
  | nil => cases found
  | cons first rest inductionHypothesis =>
      rw [List.zipIdx_cons] at found ⊢
      by_cases here : passes (first, start) = true
      · rw [List.find?_cons_of_pos here] at found
        cases found
        rw [List.filter_cons_of_pos here, Nat.add_sub_cancel_left]
        exact ⟨Nat.le_refl _, rfl⟩
      · rw [List.find?_cons_of_neg here] at found
        rcases inductionHypothesis found with ⟨behind, same⟩
        refine ⟨Nat.le_of_succ_le behind, ?_⟩
        rw [List.filter_cons_of_neg here, same, Nat.add_sub_add_right,
          Nat.sub_add_comm (Nat.le_of_succ_le behind), List.drop_succ_cons]

/-- A walk that stops at a candidate has left those behind it. -/
theorem Walk.left_of_next {walk : Walk} {node : ServiceNode} {index : Nat}
    (found : walk.nextFrom? walk.position = some (node, index)) :
    walk.left = (index, node) :: { walk with position := index + 1 }.left := by
  rcases filter_zipIdx_of_find? found with ⟨behind, whole⟩
  unfold left nodesFrom
  rw [whole, List.drop_drop, show walk.position + (index + 1 - walk.position) = index + 1 by omega]
  rfl

theorem Walk.left_eq_nil_iff (walk : Walk) :
    walk.left = [] ↔ walk.nextFrom? walk.position = none := by
  unfold left nextFrom?
  rw [List.map_eq_nil_iff, List.filter_eq_nil_iff, List.find?_eq_none]

theorem Walk.left_of_pick {walk rest : Walk} {picked : Picked}
    (found : walk.pick = (.ok picked, rest)) :
    walk.left = (picked.index, picked.node) :: rest.left := by
  unfold pick at found
  split at found
  · cases found
  split at found
  · cases found
  · rename_i next
    cases found
    exact left_of_next next

/-- What is taken out and what stays are the items there were. -/
theorem perm_of_swapOut {α : Type} {slot : Nat} {items rest : List α} {item : α}
    (taken : swapOut slot items = some (item, rest)) : items.Perm (item :: rest) := by
  unfold swapOut at taken
  split at taken
  · rename_i last found final
    cases taken
    rcases List.getLast?_eq_some_iff.mp final with ⟨front, rfl⟩
    split
    · rename_i atEnd
      rw [List.length_append, List.length_singleton, Nat.add_right_cancel_iff] at atEnd
      rw [atEnd, List.getElem?_concat_length] at found
      cases found
      rw [List.dropLast_concat]
      exact List.perm_append_singleton _ front
    · rename_i notAtEnd
      have inside := (List.getElem?_eq_some_iff.mp found).1
      rw [List.length_append, List.length_singleton] at notAtEnd inside
      have early : slot < front.length := by omega
      rw [List.getElem?_append_left early, List.getElem?_eq_getElem early] at found
      cases found
      rw [List.set_append, if_pos early, List.dropLast_concat,
        List.set_eq_take_append_cons_drop, if_pos early]
      have whole : front.take slot ++ front[slot] :: front.drop (slot + 1) = front := by
        rw [List.getElem_cons_drop, List.take_append_drop]
      -- Both lists are the rest of the front with the same two items more.
      have before := (List.perm_append_singleton last front).trans
        (.cons last (whole ▸ List.perm_middle))
      exact before.trans ((List.Perm.swap _ _ _).trans (.cons _ List.perm_middle.symm))
  · cases taken

theorem Lottery.perm_of_pick {lottery rest : Lottery} {picked : Picked}
    (found : lottery.pick = (.ok picked, rest)) :
    lottery.left.Perm ((picked.index, picked.node) :: rest.left) := by
  unfold pick at found
  split at found
  · cases found
  · rename_i taken
    cases found
    exact (perm_of_swapOut taken).map _

namespace Picker

/-- What is picked and what is left then are the candidates that were left before. -/
theorem perm_of_pick {picker rest : Picker} {picked : Picked}
    (found : picker.pick = (.ok picked, rest)) :
    picker.left.Perm ((picked.index, picked.node) :: rest.left) := by
  cases picker with
  | inOrder walk =>
      cases went : walk.pick with
      | mk answer later =>
          rw [pick, went] at found
          cases found
          exact .of_eq (Walk.left_of_pick went)
  | atRandom lottery =>
      cases drawn : lottery.pick with
      | mk answer later =>
          rw [pick, drawn] at found
          cases found
          exact Lottery.perm_of_pick drawn

theorem length_pick {picker rest : Picker} {picked : Picked}
    (found : picker.pick = (.ok picked, rest)) : rest.left.length < picker.left.length := by
  rw [(perm_of_pick found).length_eq]
  exact Nat.lt_succ_self _

/-- All candidates in the order in which they are picked, and the error after the last. -/
def all (picker : Picker) : List Picked × Error :=
  match found : picker.pick with
  | (.error error, _) => ([], error)
  | (.ok picked, rest) =>
    have := length_pick found
    let (later, error) := all rest
    (picked :: later, error)
termination_by picker.left.length

end Picker
end ExchangeGrid
