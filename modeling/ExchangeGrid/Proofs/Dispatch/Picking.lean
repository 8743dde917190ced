import ExchangeGrid.Service.Pick
import Mathlib.Data.List.Enum

namespace ExchangeGrid

/-!
# Picked nodes

Whatever the policy and the draws, a picker gives out only candidates of its list, each at its own
position.
-/

theorem Walk.mem_left {walk : Walk} {index : Nat} {node : ServiceNode}
    (member : (index, node) ∈ walk.left) :
    walk.nodes[index]? = some node ∧ walk.admits index node := by
  rcases List.mem_map.mp member with ⟨⟨other, position⟩, listed, same⟩
  cases same
  rcases List.mem_filter.mp listed with ⟨behind, stops⟩
  rcases List.mk_mem_zipIdx_iff_le_and_getElem?_sub.mp behind with ⟨reached, there⟩
  rw [List.getElem?_drop, Nat.add_sub_cancel' reached] at there
  exact ⟨there, stops⟩

theorem Lottery.mem_left {lottery : Lottery} {index : Nat} {node : ServiceNode}
    (member : (index, node) ∈ lottery.left) : lottery.nodes[index]? = some node := by
  rcases List.mem_map.mp member with ⟨position, -, same⟩
  cases same
  exact List.getElem?_eq_getElem position.isLt

namespace Picker

theorem mem_among {policy : Policy} {draws : List Nat} {nodes : List ServiceNode} {index : Nat}
    {node : ServiceNode} (member : (index, node) ∈ (among policy draws nodes).left) :
    nodes[index]? = some node ∧ policy.admits index node := by
  cases policy with
  | random => exact ⟨Lottery.mem_left member, rfl⟩
  | ordered | positions indices | named names | satisfying holds => exact Walk.mem_left member

/-- What is picked was left, and so was what is left then. -/
theorem subset_of_pick {picker rest : Picker} {picked : Picked}
    (found : picker.pick = (.ok picked, rest)) :
    (picked.index, picked.node) :: rest.left ⊆ picker.left :=
  (perm_of_pick found).symm.subset

end Picker
end ExchangeGrid
