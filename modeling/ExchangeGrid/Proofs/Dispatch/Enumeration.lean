import ExchangeGrid.Proofs.Dispatch.Picking
import Mathlib.Data.List.Range

namespace ExchangeGrid

/-!
# Every candidate once

Whoever calls a picker again and again is given each candidate of the list once, is told with each
of them whether another will come, and is told the same from then on when none is left.  A walk
finds that out by looking ahead from where it has come to, a lottery by looking at what it has not
drawn.

`answer` is what one call in a row of calls is told.  `exists_order` says what all calls are told,
by what is left in a picker, and `picks_each_candidate_once` says it by the policy and the list.
-/

/-! ## One call -/

theorem Walk.pick_of_left_eq_nil {walk : Walk} (done : walk.left = []) :
    walk.pick =
      (.error (if walk.nodes.isEmpty then .noNodes else .nodeNotFound walk.missing), walk) := by
  unfold pick
  rw [walk.left_eq_nil_iff.mp done]
  split <;> rfl

theorem Walk.exists_pick {walk : Walk} (remains : walk.left ≠ []) :
    ∃ picked rest, walk.pick = (.ok picked, rest) := by
  have known : walk.nodes.isEmpty = false := by
    rw [List.isEmpty_eq_false_iff]
    intro empty
    apply remains
    unfold left nodesFrom
    rw [empty, List.drop_nil]
    rfl
  unfold pick
  rw [known]
  cases next : walk.nextFrom? walk.position with
  | none => exact (remains (walk.left_eq_nil_iff.mpr next)).elim
  | some entry => exact ⟨_, _, rfl⟩

/-- A walk that looks ahead sees a candidate exactly when it has one left. -/
theorem Walk.hasMore_iff {walk rest : Walk} {picked : Picked}
    (found : walk.pick = (.ok picked, rest)) : picked.hasMore = true ↔ rest.left ≠ [] := by
  unfold pick at found
  split at found
  · cases found
  split at found
  · cases found
  · cases found
    rw [ne_eq, Walk.left_eq_nil_iff, Option.isSome_iff_ne_none]
    rfl

theorem Walk.same_of_pick {walk rest : Walk} {picked : Picked}
    (found : walk.pick = (.ok picked, rest)) :
    rest.nodes = walk.nodes ∧ rest.missing = walk.missing := by
  unfold pick at found
  split at found
  · cases found
  split at found
  · cases found
  · cases found
    exact ⟨rfl, rfl⟩

theorem swapOut_isSome {α : Type} {slot : Nat} {items : List α} (inside : slot < items.length) :
    ∃ item rest, swapOut slot items = some (item, rest) := by
  have known : items ≠ [] := List.ne_nil_of_length_pos (Nat.lt_of_le_of_lt slot.zero_le inside)
  unfold swapOut
  rw [List.getElem?_eq_getElem inside, List.getLast?_eq_some_getLast known]
  exact ⟨_, _, rfl⟩

theorem Lottery.pick_of_left_eq_nil {lottery : Lottery} (done : lottery.left = []) :
    lottery.pick = (.error .noNodes, lottery) := by
  unfold pick
  rw [List.map_eq_nil_iff.mp done]
  rfl

theorem Lottery.exists_pick {lottery : Lottery} (remains : lottery.left ≠ []) :
    ∃ picked rest, lottery.pick = (.ok picked, rest) := by
  have known : lottery.positions ≠ [] := fun empty => remains (List.map_eq_nil_iff.mpr empty)
  have inside := Nat.mod_lt (lottery.draws.headD 0) (List.length_pos_iff.mpr known)
  rcases swapOut_isSome inside with ⟨position, positions, taken⟩
  unfold pick
  rw [taken]
  exact ⟨_, _, rfl⟩

theorem Lottery.hasMore_iff {lottery rest : Lottery} {picked : Picked}
    (found : lottery.pick = (.ok picked, rest)) : picked.hasMore = true ↔ rest.left ≠ [] := by
  unfold pick at found
  split at found
  · cases found
  · cases found
    unfold left
    rw [ne_eq, List.map_eq_nil_iff, Bool.not_eq_true', List.isEmpty_eq_false_iff]

namespace Picker

/-- What a picker says when nothing is left in it. -/
def exhaustion : Picker → Error
  | inOrder walk => if walk.nodes.isEmpty then .noNodes else .nodeNotFound walk.missing
  | atRandom _ => .noNodes

/-- A call that finds nothing leaves the picker as it was. -/
theorem pick_of_left_eq_nil {picker : Picker} (done : picker.left = []) :
    picker.pick = (.error picker.exhaustion, picker) := by
  cases picker with
  | inOrder walk =>
      rw [pick, Walk.pick_of_left_eq_nil done]
      rfl
  | atRandom lottery =>
      rw [pick, Lottery.pick_of_left_eq_nil done]
      rfl

theorem exists_pick {picker : Picker} (remains : picker.left ≠ []) :
    ∃ picked rest, picker.pick = (.ok picked, rest) := by
  cases picker with
  | inOrder walk =>
      rcases Walk.exists_pick remains with ⟨picked, rest, found⟩
      exact ⟨picked, inOrder rest, by rw [pick, found]⟩
  | atRandom lottery =>
      rcases Lottery.exists_pick remains with ⟨picked, rest, found⟩
      exact ⟨picked, atRandom rest, by rw [pick, found]⟩

/-- What a pick that finds a candidate says, and what it leaves as it was. -/
structure Found (picker : Picker) (picked : Picked) (rest : Picker) : Prop where
  hasMore_iff : picked.hasMore = true ↔ rest.left ≠ []
  exhaustion_eq : rest.exhaustion = picker.exhaustion
  walks_on : ∀ walk, picker = inOrder walk →
    ∃ later, rest = inOrder later ∧ walk.left = (picked.index, picked.node) :: later.left

theorem found_of_pick {picker rest : Picker} {picked : Picked}
    (found : picker.pick = (.ok picked, rest)) : Found picker picked rest := by
  cases picker with
  | inOrder walk =>
      cases went : walk.pick with
      | mk answer later =>
          rw [pick, went] at found
          cases found
          rcases Walk.same_of_pick went with ⟨sameNodes, sameMissing⟩
          refine ⟨Walk.hasMore_iff went, ?_, ?_⟩
          · show (if later.nodes.isEmpty then _ else Error.nodeNotFound later.missing) = _
            rw [sameNodes, sameMissing]
            rfl
          · intro same equal
            cases equal
            exact ⟨later, rfl, Walk.left_of_pick went⟩
  | atRandom lottery =>
      cases drawn : lottery.pick with
      | mk answer later =>
          rw [pick, drawn] at found
          cases found
          refine ⟨Lottery.hasMore_iff drawn, rfl, ?_⟩
          intro walk impossible
          cases impossible

/-! ## Calls in a row -/

/-- What a call is told that comes after so many others. -/
def answer (picker : Picker) : (earlier : Nat) → Except Error Picked
  | 0 => picker.pick.1
  | earlier + 1 => picker.pick.2.answer earlier

/-- What a call is told when the candidates come in some order: the one whose turn it is, and
whether there is one behind it, or that none is left. -/
def turnOf (order : List (Nat × ServiceNode)) (error : Error) (earlier : Nat) :
    Except Error Picked :=
  match order[earlier]? with
  | some (index, node) => .ok ⟨index, node, order[earlier + 1]?.isSome⟩
  | none => .error error

theorem answer_of_left_eq_nil {picker : Picker} (done : picker.left = []) (earlier : Nat) :
    picker.answer earlier = .error picker.exhaustion := by
  induction earlier with
  | zero => rw [answer, pick_of_left_eq_nil done]
  | succ earlier inductionHypothesis =>
      rw [answer, pick_of_left_eq_nil done, inductionHypothesis]

/-- Calls in a row are told what is left in the picker, in some order, and then always the same.  A
walk keeps to its own order. -/
theorem exists_order (picker : Picker) : ∃ order : List (Nat × ServiceNode),
    order.Perm picker.left ∧ (∀ walk, picker = inOrder walk → order = walk.left) ∧
      ∀ earlier, picker.answer earlier = turnOf order picker.exhaustion earlier := by
  -- On the number of candidates left, which every pick makes smaller.
  induction counted : picker.left.length using Nat.strongRecOn generalizing picker with
  | ind size inductionHypothesis =>
      by_cases done : picker.left = []
      · refine ⟨[], done ▸ .refl [], ?_, answer_of_left_eq_nil done⟩
        rintro walk rfl
        exact done.symm
      rcases exists_pick done with ⟨picked, rest, found⟩
      have said := found_of_pick found
      rcases inductionHypothesis _ (counted ▸ length_pick found) rest rfl with
        ⟨order, perm, walks, told⟩
      refine ⟨(picked.index, picked.node) :: order, ?_, ?_, ?_⟩
      · exact (List.Perm.cons _ perm).trans (perm_of_pick found).symm
      · intro walk same
        rcases said.walks_on walk same with ⟨later, isRest, left⟩
        rw [walks later isRest, left]
      · intro earlier
        cases earlier with
        | zero =>
            have more : picked.hasMore = order[0]?.isSome := by
              rw [Bool.eq_iff_iff, said.hasMore_iff, ← List.head?_eq_getElem?, List.isSome_head?,
                ← List.length_pos_iff, ← List.length_pos_iff, perm.length_eq]
            rw [answer, found, turnOf, List.getElem?_cons_succ, ← more]
            rfl
        | succ earlier =>
            rw [answer, found, told, said.exhaustion_eq]
            rfl

end Picker

/-! ## By the policy and the list -/

/-- The positions of the candidates of a list, in ascending order. -/
def Policy.matching (policy : Policy) (nodes : List ServiceNode) : List Nat :=
  (List.range nodes.length).filter fun index => nodes[index]?.any (policy.admits index)

theorem Walk.map_fst_left (policy : Policy) (nodes : List ServiceNode) :
    (Walk.mk nodes policy.admits policy.missing 0).left.map Prod.fst = policy.matching nodes := by
  unfold left nodesFrom Policy.matching
  rw [List.drop_zero, List.map_map, show Prod.fst ∘ Prod.swap = @Prod.snd ServiceNode Nat from rfl,
    List.range_eq_range', ← List.zipIdx_map_snd 0 nodes, List.filter_map]
  apply congrArg
  apply List.filter_congr
  rintro ⟨node, index⟩ member
  rw [List.mem_zipIdx_iff_getElem?] at member
  rw [Function.comp_apply, member]
  rfl

theorem Lottery.map_fst_left (nodes : List ServiceNode) (draws : List Nat) :
    (Lottery.mk nodes (List.finRange nodes.length) draws).left.map Prod.fst =
      List.range nodes.length := by
  unfold left
  rw [List.map_map]
  exact List.map_coe_finRange_eq_range

namespace Picker

/-- Calls in a row go through positions of a list in some order, each of them with its node and with
the news whether the next call will find one too, and end in an error that stays. -/
structure Enumerates (picker : Picker) (nodes : List ServiceNode) (order : List Nat)
    (error : Error) : Prop where
  picks : ∀ earlier (inside : earlier < order.length), ∃ picked,
    picker.answer earlier = .ok picked ∧ picked.index = order[earlier] ∧
      nodes[picked.index]? = some picked.node ∧
      (picked.hasMore = true ↔ ∃ next, picker.answer (earlier + 1) = .ok next)
  ends : ∀ earlier, order.length ≤ earlier → picker.answer earlier = .error error

theorem exists_enumerates (policy : Policy) (draws : List Nat) (nodes : List ServiceNode) :
    ∃ order, (among policy draws nodes).Enumerates nodes order
        (among policy draws nodes).exhaustion ∧
      order.Perm ((among policy draws nodes).left.map Prod.fst) ∧
      ∀ walk, among policy draws nodes = inOrder walk → order = walk.left.map Prod.fst := by
  rcases exists_order (among policy draws nodes) with ⟨entries, perm, walks, told⟩
  refine ⟨entries.map Prod.fst, ⟨?_, ?_⟩, perm.map _, ?_⟩
  · intro earlier inside
    rw [List.length_map] at inside
    have listed := perm.subset (List.getElem_mem inside)
    refine ⟨⟨entries[earlier].1, entries[earlier].2, entries[earlier + 1]?.isSome⟩, ?_, ?_,
      (mem_among listed).1, ?_⟩
    · rw [told, turnOf, List.getElem?_eq_getElem inside]
    · rw [List.getElem_map]
    · rw [told, turnOf]
      cases entries[earlier + 1]? with
      | none => exact ⟨nofun, nofun⟩
      | some entry => exact ⟨fun _ => ⟨_, rfl⟩, fun _ => rfl⟩
  · intro earlier outside
    rw [List.length_map] at outside
    rw [told, turnOf, List.getElem?_eq_none outside]
  · intro walk same
    rw [walks walk same]

/-- Calls in a row are given every candidate once, each with its own node, and each time they are
told rightly whether the next call will be given one.  A walk gives out the matching positions in
ascending order, and a lottery all positions in some order, whatever is drawn.  Then every call is
told the same: that there are no nodes at all, or none that matches.  A lottery does not tell these
two apart. -/
theorem picks_each_candidate_once (policy : Policy) (draws : List Nat)
    (nodes : List ServiceNode) : ∃ order error,
      (among policy draws nodes).Enumerates nodes order error ∧
      (nodes = [] → order = [] ∧ error = .noNodes) ∧
      (policy = .random → order.Perm (List.range nodes.length) ∧ error = .noNodes) ∧
      (policy ≠ .random → order = policy.matching nodes ∧
        (nodes ≠ [] → error = .nodeNotFound policy.missing)) := by
  rcases exists_enumerates policy draws nodes with ⟨order, enumerates, perm, walks⟩
  refine ⟨order, _, enumerates, ?_⟩
  cases policy with
  | random =>
      rw [among, left, Lottery.map_fst_left] at perm
      refine ⟨?_, fun _ => ⟨perm, rfl⟩, fun walking => absurd rfl walking⟩
      rintro rfl
      exact ⟨perm.eq_nil, rfl⟩
  | ordered | positions indices | named names | satisfying holds =>
      have ascending := (walks _ rfl).trans (Walk.map_fst_left _ nodes)
      refine ⟨?_, nofun, fun _ => ⟨ascending, ?_⟩⟩
      · rintro rfl
        exact ⟨ascending, rfl⟩
      · intro known
        exact if_neg (List.isEmpty_iff.not.mpr known)

end Picker
end ExchangeGrid
