import ExchangeGrid.Proofs.Dispatch.Conduct

namespace ExchangeGrid
namespace PubSub

/-!
# What subscriptions ask

A subscription is made on nodes of the list that was read, like a call.  All that an endpoint does
for it is neutral, but for the dial; and that shows the secret it was given.
-/

open ExchangeGrid.Action

namespace Endpoint

/-- To open a session with some credentials, or to do nothing that matters here. -/
def MayConnect (url user secret : String) (question : Question) : Prop :=
  question = .dial url user secret ∨ question.IsNeutral

section
variable {endpoint : Endpoint} {user secret : String} {past : List Answered}

theorem complies_openSession : Complies (fun _ => MayConnect endpoint.url user secret) past
    (endpoint.openSession user secret) fun _ _ => True := by
  unfold openSession
  rw [complies_bind, complies_dial]
  refine ⟨Or.inl rfl, ?_⟩
  intro answer
  cases answer with
  | error error => trivial
  | ok session =>
      dsimp only
      rw [complies_bind, complies_ask]
      refine ⟨Or.inr trivial, ?_⟩
      intro answer
      cases answer with
      | ok greeted =>
          dsimp only
          rw [complies_bind, complies_ask]
          refine ⟨Or.inr trivial, fun _ => ?_⟩
          dsimp only
          rw [complies_bind, complies_emit]
          exact ⟨Or.inr trivial, fun _ => trivial⟩
      | error failure =>
          cases failure with
          | cancelled =>
              dsimp only
              rw [complies_bind, complies_ask]
              exact ⟨Or.inr trivial, fun _ => trivial⟩
          | fault text =>
              dsimp only
              rw [complies_bind, complies_ask]
              exact ⟨Or.inr trivial, fun _ => trivial⟩

theorem complies_answers {url : String} {session : Nat} :
    Complies (fun _ => MayConnect url user secret) past (answers session) fun _ _ => True := by
  unfold answers
  rw [complies_bind, complies_ask]
  refine ⟨Or.inr trivial, ?_⟩
  intro closed
  cases closed with
  | true => trivial
  | false => exact ⟨Or.inr trivial, fun _ => trivial⟩

theorem complies_usableSession : Complies (fun _ => MayConnect endpoint.url user secret) past
    (endpoint.usableSession user secret) fun _ _ => True := by
  unfold usableSession
  rw [complies_bind, complies_ask]
  refine ⟨Or.inr trivial, ?_⟩
  intro kept
  cases kept with
  | none => exact complies_openSession
  | some session =>
      apply complies_answers.bind
      · intro more alive _
        cases alive with
        | true =>
            rw [if_pos rfl, complies_bind, complies_emit]
            exact ⟨Or.inr trivial, fun _ => trivial⟩
        | false =>
            rw [if_neg Bool.false_ne_true, complies_bind, complies_ask]
            refine ⟨Or.inr trivial, fun _ => ?_⟩
            dsimp only
            rw [complies_bind, complies_ask]
            exact ⟨Or.inr trivial, fun _ => complies_openSession⟩
      · intros
        trivial

theorem complies_connect : Complies (fun _ => MayConnect endpoint.url user secret) past
    (endpoint.connect user secret) fun _ _ => True := by
  unfold connect
  rw [complies_bind, complies_enterEndpoint]
  refine ⟨Or.inr trivial, ?_⟩
  intro answer
  cases answer with
  | error error => trivial
  | ok entered =>
      dsimp only
      rw [complies_bind, complies_outcome]
      apply complies_usableSession.imp
      intro more result _
      dsimp only
      rw [complies_bind, complies_ask]
      exact ⟨Or.inr trivial, fun _ => trivial⟩

end
end Endpoint

namespace Carrier

open Dispatcher

section
variable {carrier : Carrier} {aims : List Answered → Nat → Prop} {past later : List Answered}
  {set : NodeSet}

theorem proper_endpoint {url : String} :
    Complies (carrier.dispatcher.Proper aims) past (carrier.endpoint url) fun _ result =>
      ∀ endpoint, result = .ok endpoint → endpoint.url = url := by
  unfold endpoint instanceOf
  rw [complies_bind, complies_bind, complies_ask]
  refine ⟨.neutral trivial, ?_⟩
  intro found
  cases found with
  | some id =>
      dsimp only
      rw [complies_pure]
      intro endpoint same
      cases same
      rfl
  | none =>
      dsimp only
      rw [complies_ask]
      refine ⟨.neutral trivial, ?_⟩
      intro id endpoint same
      cases same
      rfl

theorem proper_subscribeOn {picked : Picked} {topic : String}
    (chose : carrier.dispatcher.Chose aims past later set picked.index picked.node) :
    Complies (carrier.dispatcher.Proper aims) past
      (carrier.subscribeOn set.generation picked topic) fun _ _ => True := by
  unfold subscribeOn
  cases located : urlOf picked.node with
  | error error => trivial
  | ok url =>
      rw [complies_bind, complies_ofExcept]
      dsimp only
      rw [List.append_nil]
      apply proper_endpoint.bind
      · intro asked endpoint isAt
        apply (proper_secretOf (chose.append asked)).bind
        · intro more secret credential
          have asks : Complies (fun _ => Endpoint.MayConnect endpoint.url
              carrier.dispatcher.control.nodeName secret) []
              (endpoint.connect carrier.dispatcher.control.nodeName secret) fun _ _ => True :=
            Endpoint.complies_connect
          have connects : Complies (carrier.dispatcher.Proper aims) (past ++ asked ++ more)
              (endpoint.connect carrier.dispatcher.control.nodeName secret) fun _ _ => True := by
            apply Program.Complies.widen asks
            rintro later question (rfl | isNeutral)
            · rw [isAt endpoint rfl]
              apply Proper.dial (((chose.append asked).append more).append later) _ located
              apply (credential secret rfl).mono
              intro said member
              simp only [List.mem_append, member, or_true, true_or]
            · exact .neutral isNeutral
          apply connects.bind
          · intro dialled session _
            rw [complies_bind, complies_ask]
            refine ⟨.neutral trivial, ?_⟩
            intro answer
            cases answer <;> trivial
          · intros
            trivial
        · intros
          trivial
      · intros
        trivial

theorem proper_subscribeNodes {topic : String} {picker : Picker}
    (chose : ∀ entry ∈ picker.left,
      carrier.dispatcher.Chose aims past later set entry.1 entry.2) :
    Complies (carrier.dispatcher.Proper aims) past
      (carrier.subscribeNodes set.generation topic picker) fun _ _ => True := by
  induction counted : picker.left.length using Nat.strongRecOn generalizing picker past later with
  | ind size inductionHypothesis =>
      rw [subscribeNodes]
      split
      · trivial
      · rename_i picked rest found
        rw [complies_bind, complies_outcome]
        apply (proper_subscribeOn (chose _ (Picker.subset_of_pick found List.mem_cons_self))).imp
        intro more result _
        dsimp only
        split
        · trivial
        · trivial
        · split
          · have left : ∀ entry ∈ rest.left, carrier.dispatcher.Chose aims (past ++ more)
                (later ++ more) set entry.1 entry.2 := by
              intro entry member
              apply Chose.append
              exact chose entry (Picker.subset_of_pick found (List.mem_cons_of_mem _ member))
            exact inductionHypothesis _ (counted ▸ Picker.length_pick found) left rfl
          · trivial

theorem proper_subscribe {policy : Policy} {draws : List Nat} {topic : String}
    (aim : ∀ before index, aims before index) :
    Complies (carrier.dispatcher.Proper aims) past (carrier.subscribe policy draws topic)
      fun _ _ => True := by
  unfold subscribe
  apply proper_checkedSet.bind
  · intro more set read
    rcases read set rfl with ⟨before, rfl⟩
    have chose : ∀ entry ∈ (Picker.among policy draws set.nodes).left,
        carrier.dispatcher.Chose aims
          (past ++ (before ++ [⟨.readNodes carrier.dispatcher.id, set⟩])) [] set
          entry.1 entry.2 := by
      intro entry member
      refine ⟨⟨past ++ before, ?_, aim _ _⟩, (Picker.mem_among member).1⟩
      rw [List.append_assoc]
    exact proper_subscribeNodes chose
  · intros
    trivial

end
end Carrier
end PubSub
end ExchangeGrid
