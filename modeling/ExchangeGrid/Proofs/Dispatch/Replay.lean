import ExchangeGrid.Proofs.Dispatch.Crew

namespace ExchangeGrid

/-!
# What a log makes of the nodes

Only a lookup raises the generation, and only a lookup changes more of the nodes than a secret.  So
two lists of one generation are the same list but for secrets, and nothing was looked up in between.
-/

namespace ServiceNode

def blank (node : ServiceNode) : ServiceNode :=
  { node with secret := "" }

theorem blank_eq_self {node : ServiceNode} (none : node.secret = "") : node.blank = node := by
  unfold blank
  rw [← none]

theorem map_blank_eq_self {nodes : List ServiceNode} (none : ∀ node ∈ nodes, node.secret = "") :
    nodes.map blank = nodes := by
  conv_rhs => rw [← List.map_id nodes]
  apply List.map_congr_left
  intro node member
  exact blank_eq_self (none node member)

theorem map_blank_set {nodes : List ServiceNode} {index : Nat} {node : ServiceNode}
    (there : nodes[index]? = some node) (secret : String) :
    (nodes.set index { node with secret }).map blank = nodes.map blank := by
  rcases List.getElem?_eq_some_iff.mp there with ⟨bound, rfl⟩
  have within : index < (nodes.map blank).length := by
    rw [List.length_map]
    exact bound
  rw [List.map_set]
  change (nodes.map blank).set index nodes[index].blank = _
  rw [← List.getElem_map blank (h := within)]
  exact List.set_getElem_self within

end ServiceNode

namespace NodeSet

open ServiceNode

/-- The node at a position is the one that a secret was exchanged for, and the list is still the one
it was exchanged under. -/
structure IsCurrent (set : NodeSet) (generation index : Nat) (name : String)
    (node : ServiceNode) : Prop where
  there : set.nodes[index]? = some node
  sameList : set.generation = generation
  sameName : node.name = name

/-- A secret is kept with the node it belongs to, and nothing else changes; where there is no such
node, nothing changes at all. -/
theorem store_cases (set : NodeSet) (generation index : Nat) (name secret : String) :
    (∃ node, set.IsCurrent generation index name node ∧
      set.store generation index name secret =
        { set with nodes := set.nodes.set index { node with secret } }) ∨
    (¬∃ node, set.IsCurrent generation index name node) ∧
      set.store generation index name secret = set := by
  unfold store
  cases there : set.nodes[index]? with
  | none =>
      refine Or.inr ⟨?_, rfl⟩
      rintro ⟨node, current⟩
      cases there.symm.trans current.there
  | some node =>
      by_cases same : set.generation = generation ∧ node.name = name
      · exact Or.inl ⟨node, ⟨there, same.1, same.2⟩, if_pos same⟩
      · refine Or.inr ⟨?_, if_neg same⟩
        rintro ⟨other, current⟩
        cases there.symm.trans current.there
        exact same ⟨current.sameList, current.sameName⟩

theorem generation_store (set : NodeSet) (generation index : Nat) (name secret : String) :
    (set.store generation index name secret).generation = set.generation := by
  rcases set.store_cases generation index name secret with ⟨node, -, stored⟩ | ⟨-, same⟩
  · rw [stored]
  · rw [same]

theorem map_blank_store (set : NodeSet) (generation index : Nat) (name secret : String) :
    (set.store generation index name secret).nodes.map blank = set.nodes.map blank := by
  rcases set.store_cases generation index name secret with ⟨node, current, stored⟩ | ⟨-, same⟩
  · rw [stored]
    exact map_blank_set current.there secret
  · rw [same]

end NodeSet

def Answered.Replaces (service : Nat) (said : Answered) : Prop :=
  ∃ nodes, said.question = .replaceNodes service nodes

section
variable {service : Nat} {set : NodeSet} {said : Answered}

/-- What is not a lookup changes nothing, or keeps a secret at most. -/
theorem alter_of_not_replaces (keeps : ¬said.Replaces service) :
    said.alter service set = set ∨ ∃ generation index name secret,
      said.question = .storeSecret service generation index name secret ∧
        said.alter service set = set.store generation index name secret := by
  rcases said with ⟨question, answer⟩
  cases question with
  | replaceNodes other nodes =>
      refine Or.inl (if_neg ?_)
      rintro rfl
      exact keeps ⟨nodes, rfl⟩
  | storeSecret other generation index name secret =>
      by_cases same : other = service
      · subst same
        exact Or.inr ⟨generation, index, name, secret, rfl, if_pos rfl⟩
      · exact Or.inl (if_neg same)
  | _ => exact Or.inl rfl

theorem generation_alter_of_replaces (replaces : said.Replaces service) :
    (said.alter service set).generation = set.generation + 1 := by
  rcases said with ⟨question, answer⟩
  rcases replaces with ⟨nodes, rfl⟩
  simp only [Answered.alter, if_true, NodeSet.replace]

theorem generation_alter_of_not_replaces (keeps : ¬said.Replaces service) :
    (said.alter service set).generation = set.generation := by
  rcases alter_of_not_replaces keeps with same | ⟨generation, index, name, secret, -, stored⟩
  · rw [same]
  · rw [stored, NodeSet.generation_store]

theorem map_blank_alter (keeps : ¬said.Replaces service) :
    (said.alter service set).nodes.map ServiceNode.blank = set.nodes.map ServiceNode.blank := by
  rcases alter_of_not_replaces keeps with same | ⟨generation, index, name, secret, -, stored⟩
  · rw [same]
  · rw [stored, NodeSet.map_blank_store]

variable {ι : Type} {log : List (ι × Answered)}

theorem generation_le_setAfter : set.generation ≤ (setAfter service set log).generation := by
  induction log generalizing set with
  | nil => exact Nat.le_refl _
  | cons entry log inductionHypothesis =>
      refine Nat.le_trans ?_ inductionHypothesis
      by_cases replaces : entry.2.Replaces service
      · rw [generation_alter_of_replaces replaces]
        exact Nat.le_succ _
      · exact Nat.le_of_eq (generation_alter_of_not_replaces replaces).symm

/-- Where the generation is the same, nothing was looked up in between. -/
theorem not_replaces_of_generation_eq
    (same : (setAfter service set log).generation = set.generation) :
    ∀ entry ∈ log, ¬entry.2.Replaces service := by
  induction log generalizing set with
  | nil => exact List.forall_mem_nil _
  | cons entry log inductionHypothesis =>
      have keeps : ¬entry.2.Replaces service := by
        intro replaces
        have raised : set.generation + 1 ≤ (setAfter service set (entry :: log)).generation := by
          rw [← generation_alter_of_replaces replaces]
          exact generation_le_setAfter
        rw [same] at raised
        exact Nat.not_succ_le_self _ raised
      rw [List.forall_mem_cons]
      refine ⟨keeps, inductionHypothesis (same.trans ?_)⟩
      exact (generation_alter_of_not_replaces keeps).symm

theorem map_blank_setAfter (keep : ∀ entry ∈ log, ¬entry.2.Replaces service) :
    (setAfter service set log).nodes.map ServiceNode.blank =
      set.nodes.map ServiceNode.blank := by
  induction log generalizing set with
  | nil => rfl
  | cons entry log inductionHypothesis =>
      rw [List.forall_mem_cons] at keep
      exact (inductionHypothesis keep.2).trans (map_blank_alter keep.1)

/-- A position stays that of its name as long as nothing is looked up. -/
theorem name_of_findIdx? {name : String} {index : Nat} {node : ServiceNode}
    (found : set.nodes.findIdx? (·.name == name) = some index)
    (keep : ∀ entry ∈ log, ¬entry.2.Replaces service)
    (there : (setAfter service set log).nodes[index]? = some node) : node.name = name := by
  rcases List.findIdx?_eq_some_iff_getElem.mp found with ⟨bound, named, -⟩
  have blanks : (setAfter service set log).nodes.map ServiceNode.blank =
      set.nodes.map ServiceNode.blank := map_blank_setAfter keep
  have sameBlank := congrArg (fun nodes : List ServiceNode => nodes[index]?) blanks
  simp only [List.getElem?_map, there, List.getElem?_eq_getElem bound, Option.map_some,
    Option.some.injEq] at sameBlank
  have sameName := congrArg ServiceNode.name sameBlank
  exact Eq.trans sameName (eq_of_beq named)

end
end ExchangeGrid
