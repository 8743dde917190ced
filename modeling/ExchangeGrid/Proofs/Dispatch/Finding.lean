import ExchangeGrid.Proofs.Dispatch.Control
import ExchangeGrid.Service.Dispatch
import Mathlib.Data.List.Induction

namespace ExchangeGrid

/-!
# Finding nodes

How far a caller has come that wants the nodes of a service is told by its answers alone: it is
outside until its turn comes, or it is turned away; when it has the turn it looks again; and only if
it misses the nodes then, it looks them up.  What it may ask goes by that.
-/

/-- How far a caller has come that wants the nodes of a service. -/
inductive Stand
  | outside
  | turnedAway
  | inside
  | missing
  | written
  | left

namespace Stand

def after (stand : Stand) : Answered → Stand
  | ⟨.enterLookup _, .ok ()⟩ => inside
  | ⟨.enterLookup _, .error _⟩ => turnedAway
  | ⟨.readNodes _, set⟩ =>
    match stand, set.nodes with
    | inside, [] => missing
    | _, _ => stand
  | ⟨.replaceNodes _ _, _⟩ =>
    match stand with
    | missing => written
    | _ => stand
  | ⟨.leaveLookup _, _⟩ =>
    match stand with
    | inside | missing | written => left
    | _ => stand
  | _ => stand

def HasTurn : Stand → Prop
  | inside | missing | written => True
  | outside | turnedAway | left => False

def IsOutside : Stand → Prop
  | outside | turnedAway => True
  | inside | missing | written | left => False

theorem hasTurn_after_readNodes (stand : Stand) (service : Nat) (set : NodeSet) :
    (stand.after ⟨.readNodes service, set⟩).HasTurn ↔ stand.HasTurn := by
  cases stand with
  | inside =>
      cases nodes : set.nodes with
      | nil =>
          simp only [after, nodes]
          rfl
      | cons node others =>
          simp only [after, nodes]
  | outside | turnedAway | missing | written | left => rfl

theorem hasTurn_after_replaceNodes (stand : Stand) (service : Nat) (nodes : List ServiceNode)
    (answer : Unit) : (stand.after ⟨.replaceNodes service nodes, answer⟩).HasTurn ↔
      stand.HasTurn := by
  cases stand <;> rfl

theorem after_leaveLookup {stand : Stand} (hasTurn : stand.HasTurn) (service : Nat)
    (answer : Unit) : stand.after ⟨.leaveLookup service, answer⟩ = left := by
  cases stand with
  | inside | missing | written => rfl
  | outside | turnedAway | left => exact hasTurn.elim

end Stand

def standOf (past : List Answered) : Stand :=
  past.foldl Stand.after .outside

theorem standOf_concat (past : List Answered) (said : Answered) :
    standOf (past ++ [said]) = (standOf past).after said :=
  List.foldl_append

/-- Who was never given the turn is still outside. -/
theorem isOutside_standOf {past : List Answered}
    (never : ∀ service, ⟨.enterLookup service, .ok ()⟩ ∉ past) : (standOf past).IsOutside := by
  induction past using List.reverseRecOn with
  | nil => trivial
  | append_singleton past said inductionHypothesis =>
      have before : (standOf past).IsOutside :=
        inductionHypothesis fun service member => never service (List.mem_append_left _ member)
      rw [standOf_concat]
      rcases said with ⟨question, answer⟩
      cases question with
      | enterLookup service =>
          cases answer with
          | ok entered =>
              exact (never service (List.mem_append_right _ (List.mem_singleton_self _))).elim
          | error error => trivial
      | readNodes | replaceNodes | leaveLookup =>
          cases stand : standOf past with
          | outside | turnedAway => trivial
          | inside | missing | written | left =>
              rw [stand] at before
              exact before.elim
      | _ => exact before

/-- Who is to come in was never given the turn. -/
theorem not_mem_of_outside {past : List Answered} (outside : standOf past = .outside)
    (service : Nat) (entered : Unit) : ⟨.enterLookup service, .ok entered⟩ ∉ past := by
  induction past using List.reverseRecOn with
  | nil => exact List.not_mem_nil
  | append_singleton past said inductionHypothesis =>
      rw [standOf_concat] at outside
      rcases said with ⟨question, answer⟩
      have before : standOf past = .outside := by
        cases question with
        | enterLookup other => cases answer <;> cases outside
        | readNodes other =>
            cases stand : standOf past with
            | outside => rfl
            | inside =>
                rw [stand] at outside
                simp only [Stand.after] at outside
                split at outside <;> cases outside
            | turnedAway | missing | written | left =>
                rw [stand] at outside
                cases outside
        | replaceNodes | leaveLookup =>
            cases stand : standOf past with
            | outside => rfl
            | inside | turnedAway | missing | written | left =>
                rw [stand] at outside
                cases outside
        | _ => exact outside
      intro member
      rcases List.mem_append.mp member with earlier | now
      · exact inductionHypothesis before earlier
      · cases List.mem_singleton.mp now
        cases outside

/-- Posts do not take a caller anywhere. -/
theorem standOf_append {past later : List Answered}
    (posts : ∀ said ∈ later, said.question.IsPost) : standOf (past ++ later) = standOf past := by
  induction later generalizing past with
  | nil => rw [List.append_nil]
  | cons said later inductionHypothesis =>
      rw [List.append_cons, inductionHypothesis fun said member =>
        posts said (List.mem_cons_of_mem _ member), standOf_concat]
      have isPost := posts said List.mem_cons_self
      rcases said with ⟨question, answer⟩
      cases question with
      | post url payload auth => rfl
      | _ => cases isPost

namespace Dispatcher

/-- What a caller may ask that wants the nodes of a service. -/
def MayFind (service : Nat) (past : List Answered) : Question → Prop
  | .readNodes other => other = service ∧ (standOf past = .outside ∨ standOf past = .inside)
  | .enterLookup other => other = service ∧ standOf past = .outside
  | .post _ _ _ => standOf past = .missing
  | .replaceNodes other _ => other = service ∧ standOf past = .missing
  | .emit _ => standOf past = .written
  | .leaveLookup other => other = service ∧ (standOf past).HasTurn
  | _ => False

/-- What it comes to when a caller wants the nodes of a service. -/
structure Found (service : Dispatcher) (past : List Answered)
    (result : Except Error (List ServiceNode)) : Prop where
  known : ∀ nodes, result = .ok nodes → nodes ≠ []
  unavailable : ∀ text, result = .error (.serviceUnavailable text) →
    (∃ reply, service.control.Posted "ServiceLookup" (Controller.lookupPayload service.name)
      .configured (.ok reply) past ∧ reply.listing = .ok []) ∨
    service.control.Posted "ServiceLookup" (Controller.lookupPayload service.name)
      .configured (.error (.serviceUnavailable text)) past ∨
    ⟨.enterLookup service.id, .error (.serviceUnavailable text)⟩ ∈ past
  turnedAway : standOf past = .turnedAway →
    ∃ error, ⟨.enterLookup service.id, .error error⟩ ∈ past ∧ result = .error error

open ExchangeGrid.Action

section
variable {service : Dispatcher} {may : List Answered → Question → Prop} {past : List Answered}

/-- Who misses the nodes looks them up, and keeps its turn meanwhile. -/
theorem complies_lookUp_missing (missing : standOf past = .missing) :
    Complies (MayFind service.id) past service.lookUp fun later result =>
      (standOf (past ++ later)).HasTurn ∧
      (∀ nodes, result = .ok nodes → ∃ reply,
        service.control.Posted "ServiceLookup" (Controller.lookupPayload service.name)
          .configured (.ok reply) later ∧ reply.listing = .ok nodes) ∧
      (∀ text, result = .error (.serviceUnavailable text) →
        service.control.Posted "ServiceLookup" (Controller.lookupPayload service.name)
          .configured (.error (.serviceUnavailable text)) later) := by
  unfold lookUp
  rw [complies_bind]
  have asked : Complies (MayFind service.id) past (service.control.lookUp service.name)
      (service.control.LookedUp service.name) := by
    apply Controller.complies_lookUp
    intro later question before posts
    have still : standOf (past ++ later) = .missing := by
      rw [standOf_append fun said member => (before said member).isPost, missing]
    rcases posts with ⟨host, -, rfl⟩
    exact still
  apply asked.imp
  intro later result lookedUp
  have still : standOf (past ++ later) = .missing := by
    rw [standOf_append fun said member => (lookedUp.posts said member).isPost, missing]
  cases result with
  | error error =>
      refine ⟨?_, nofun, lookedUp.failed⟩
      rw [still]
      trivial
  | ok found =>
      dsimp only
      rw [complies_bind, complies_ask]
      refine ⟨⟨rfl, still⟩, ?_⟩
      intro replaced
      have wrote : standOf (past ++ later ++ [⟨.replaceNodes service.id found, replaced⟩]) =
          .written := by
        rw [standOf_concat, still]
        rfl
      dsimp only
      rw [complies_bind, complies_emit]
      refine ⟨wrote, ?_⟩
      intro told
      dsimp only
      rw [complies_pure, List.append_nil, List.singleton_append, ← List.append_assoc,
        List.append_cons, standOf_concat, wrote]
      refine ⟨trivial, ?_, nofun⟩
      intro nodes listed
      rcases lookedUp.listed nodes listed with ⟨reply, posted, lists⟩
      exact ⟨reply, posted.mono (List.subset_append_left _ _), lists⟩

/-- Who has the turn keeps it until the nodes are known or the lookup has failed. -/
theorem complies_lookUpOnce_inside (inside : standOf past = .inside) :
    Complies (MayFind service.id) past service.lookUpOnce fun later result =>
      (standOf (past ++ later)).HasTurn ∧ (∀ nodes, result = .ok nodes → nodes ≠ []) ∧
      ∀ text, result = .error (.serviceUnavailable text) →
        (∃ reply, service.control.Posted "ServiceLookup" (Controller.lookupPayload service.name)
          .configured (.ok reply) later ∧ reply.listing = .ok []) ∨
        service.control.Posted "ServiceLookup" (Controller.lookupPayload service.name)
          .configured (.error (.serviceUnavailable text)) later := by
  unfold lookUpOnce
  rw [complies_bind, complies_nodes]
  refine ⟨⟨rfl, Or.inr inside⟩, ?_⟩
  intro set
  have seen : standOf (past ++ [⟨.readNodes service.id, set⟩]) =
      Stand.inside.after ⟨.readNodes service.id, set⟩ := by
    rw [standOf_concat, inside]
  dsimp only
  cases found : set.nodes with
  | cons node nodes =>
      simp only [List.isEmpty_cons, Bool.not_false, if_true, complies_pure, List.append_nil]
      refine ⟨?_, ?_, nofun⟩
      · rw [seen]
        simp only [Stand.after, found]
        trivial
      · intro nodes known
        cases known
        exact List.cons_ne_nil _ _
  | nil =>
      have missing : standOf (past ++ [⟨.readNodes service.id, set⟩]) = .missing := by
        rw [seen]
        simp only [Stand.after, found]
      simp only [List.isEmpty_nil, Bool.not_true, Bool.false_eq_true, if_false]
      rw [complies_bind]
      apply (complies_lookUp_missing missing).imp
      rintro later result ⟨hasTurn, listed, failed⟩
      rw [List.append_assoc] at hasTurn
      cases result with
      | error error =>
          refine ⟨hasTurn, nofun, ?_⟩
          intro text unavailable
          exact Or.inr ((failed text unavailable).mono (List.subset_append_right _ _))
      | ok nodes =>
          rcases listed nodes rfl with ⟨reply, posted, lists⟩
          cases nodes with
          | cons node nodes =>
              simp only [List.isEmpty_cons, Bool.false_eq_true, if_false, complies_pure,
                List.append_nil]
              refine ⟨hasTurn, ?_, nofun⟩
              intro nodes known
              cases known
              exact List.cons_ne_nil _ _
          | nil =>
              simp only [List.isEmpty_nil, if_true, complies_throw, List.append_nil]
              refine ⟨hasTurn, nofun, ?_⟩
              intro text unavailable
              exact Or.inl ⟨reply, posted.mono (List.subset_append_right _ _), lists⟩

theorem complies_checkNodes :
    Complies (MayFind service.id) [] service.checkNodes service.Found := by
  unfold checkNodes
  rw [complies_bind, complies_nodes]
  refine ⟨⟨rfl, Or.inl rfl⟩, ?_⟩
  intro set
  have outside : standOf [⟨.readNodes service.id, set⟩] = .outside := rfl
  dsimp only
  split
  · rename_i known
    rw [complies_pure]
    refine ⟨?_, nofun, ?_⟩
    · intro nodes same
      cases same
      rw [Bool.not_eq_true', List.isEmpty_eq_false_iff] at known
      exact known
    · rw [List.append_nil, outside]
      exact nofun
  · rw [complies_bind, complies_enterLookup]
    refine ⟨⟨rfl, outside⟩, ?_⟩
    intro answer
    cases answer with
    | error error =>
        refine ⟨nofun, ?_, fun _ => ⟨error, ?_, rfl⟩⟩
        · intro text unavailable
          cases unavailable
          exact Or.inr (Or.inr (List.mem_cons_of_mem _ List.mem_cons_self))
        · exact List.mem_cons_of_mem _ List.mem_cons_self
    | ok entered =>
        have inside : standOf [⟨.readNodes service.id, set⟩, ⟨.enterLookup service.id, .ok entered⟩] =
            .inside := rfl
        dsimp only
        rw [complies_bind, complies_outcome]
        apply (complies_lookUpOnce_inside inside).imp
        rintro later result ⟨hasTurn, known, unavailable⟩
        dsimp only
        rw [complies_bind, complies_ask]
        refine ⟨⟨rfl, hasTurn⟩, ?_⟩
        intro answer
        dsimp only
        rw [complies_ofExcept, List.append_nil]
        refine ⟨known, ?_, ?_⟩
        · intro text missed
          have within : later ⊆ [⟨.readNodes service.id, set⟩] ++
              ([⟨.enterLookup service.id, .ok entered⟩] ++
                (later ++ [⟨.leaveLookup service.id, answer⟩])) := by
            intro said member
            simp only [List.mem_append, member, true_or, or_true]
          rcases unavailable text missed with ⟨reply, posted, lists⟩ | posted
          · exact Or.inl ⟨reply, posted.mono within, lists⟩
          · exact Or.inr (Or.inl (posted.mono within))
        · have gone : standOf ([⟨.readNodes service.id, set⟩, ⟨.enterLookup service.id, .ok entered⟩]
              ++ later ++ [⟨.leaveLookup service.id, answer⟩]) = .left := by
            rw [standOf_concat, Stand.after_leaveLookup hasTurn]
          intro away
          rw [← List.append_assoc, ← List.append_assoc] at away
          cases gone.symm.trans away

end

end Dispatcher
end ExchangeGrid
