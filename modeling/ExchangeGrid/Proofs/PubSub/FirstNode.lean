import ExchangeGrid.Proofs.PubSub.Trials

namespace ExchangeGrid
namespace PubSub

open ExchangeGrid.Action

/-!
# The first node that can be connected to

A subscription is tried on one candidate after the other, in the order in which they are picked.
Only two things end that before the last candidate: success, and being called off.  Any other
failure is forgotten as soon as there is another candidate, and that of the last one is what the
subscription comes to.

A `Plan` says of every candidate what becomes of it if it is tried, and so how far the trials get.
`tries_in_turn` states that the plans for the candidates of a policy tell all dialogues that a
subscription can have, and only these.
-/

/-! ## Plans -/

/-- Whether no other candidate is tried after what came of one. -/
def isFinal : Except Error Subscribed → Bool
  | .ok _ | .error .cancelled => true
  | .error _ => false

theorem isFinal_iff {outcome : Except Error Subscribed} :
    isFinal outcome ↔ (∃ subscribed, outcome = .ok subscribed) ∨ outcome = .error .cancelled := by
  constructor
  · intro final
    unfold isFinal at final
    split at final
    · exact Or.inl ⟨_, rfl⟩
    · exact Or.inr rfl
    · cases final
  · rintro (⟨subscribed, rfl⟩ | rfl) <;> rfl

theorem isFinal_of_ne {error : Error} (other : error ≠ .cancelled) :
    isFinal (.error error) = false := by
  rw [← Bool.not_eq_true, isFinal_iff]
  rintro (⟨subscribed, impossible⟩ | same)
  · cases impossible
  · exact other (Except.error.inj same)

/-- What becomes of candidates, each if it is tried, in the order in which they are picked. -/
abbrev Plan := List Trial

namespace Plan

/-- The trials that are made: all up to the first whose outcome is final. -/
def tried (plan : Plan) (topic : String) : Plan :=
  upTo (fun trial => isFinal (trial.outcome topic)) plan

/-- What comes of the plan: what came of the last trial that is made. -/
def result (plan : Plan) (topic : String) (nobody : Error) : Except Error Subscribed :=
  match (plan.tried topic).getLast? with
  | none => .error nobody
  | some trial => trial.outcome topic

def told (plan : Plan) (carrier : Carrier) (generation : Nat) (topic : String) : List Answered :=
  (plan.tried topic).flatMap fun trial => trial.told carrier generation topic

/-- With this plan a subscription asks just these questions and comes to this result. -/
structure Tells (plan : Plan) (carrier : Carrier) (generation : Nat) (topic : String)
    (nobody : Error) (told : List Answered) (result : Except Error Subscribed) : Prop where
  suits : ∀ trial ∈ plan.tried topic, trial.Suits carrier
  told_eq : told = plan.told carrier generation topic
  result_eq : result = plan.result topic nobody

variable {plan : Plan} {trial : Trial} {carrier : Carrier} {generation : Nat} {topic : String}
  {nobody : Error} {told : List Answered} {result : Except Error Subscribed}

theorem tried_cons (trial : Trial) (plan : Plan) (topic : String) :
    Plan.tried (trial :: plan) topic =
      if isFinal (trial.outcome topic) then [trial] else trial :: plan.tried topic :=
  upTo_cons _ trial plan

theorem result_of_tried {front : Plan} (tries : plan.tried topic = front ++ [trial]) :
    plan.result topic nobody = trial.outcome topic := by
  rw [Plan.result, tries, List.getLast?_concat]

theorem tells_nil :
    Plan.Tells [] carrier generation topic nobody told result ↔
      told = [] ∧ result = .error nobody := by
  have nothing : Plan.tried [] topic = [] := rfl
  constructor
  · intro tells
    exact ⟨tells.told_eq, tells.result_eq⟩
  · rintro ⟨told_eq, result_eq⟩
    refine ⟨?_, told_eq, result_eq⟩
    intro trial member
    rw [nothing] at member
    cases member

/-- Where the first trial is the last, it tells all. -/
theorem tells_cons_of_ends (ends : isFinal (trial.outcome topic) = false → plan = []) :
    Plan.Tells (trial :: plan) carrier generation topic nobody told result ↔
      trial.Suits carrier ∧ told = trial.told carrier generation topic ∧
        result = trial.outcome topic := by
  have tries : Plan.tried (trial :: plan) topic = [trial] := by
    rw [tried_cons]
    split
    next final => rfl
    next fails =>
        rw [ends (Bool.eq_false_iff.mpr fails)]
        rfl
  have whole : Plan.told (trial :: plan) carrier generation topic =
      trial.told carrier generation topic := by
    rw [Plan.told, tries, List.flatMap_singleton]
  have last : Plan.result (trial :: plan) topic nobody = trial.outcome topic := by
    rw [Plan.result, tries, List.getLast?_singleton]
  constructor
  · intro tells
    have suits : trial.Suits carrier := by
      apply tells.suits
      rw [tries]
      exact List.mem_singleton_self trial
    exact ⟨suits, tells.told_eq.trans whole, tells.result_eq.trans last⟩
  · rintro ⟨suits, told_eq, result_eq⟩
    refine ⟨?_, told_eq.trans whole.symm, result_eq.trans last.symm⟩
    intro other member
    rw [tries, List.mem_singleton] at member
    rw [member]
    exact suits

/-- Where the trials go on, the others tell the rest. -/
theorem tells_cons_of_onward (onward : isFinal (trial.outcome topic) = false) (more : plan ≠ []) :
    Plan.Tells (trial :: plan) carrier generation topic nobody told result ↔
      trial.Suits carrier ∧ ∃ later, told = trial.told carrier generation topic ++ later ∧
        plan.Tells carrier generation topic nobody later result := by
  have tries : Plan.tried (trial :: plan) topic = trial :: plan.tried topic := by
    rw [tried_cons, onward]
    rfl
  have others : plan.tried topic ≠ [] := upTo_eq_nil_iff.not.mpr more
  have whole : Plan.told (trial :: plan) carrier generation topic =
      trial.told carrier generation topic ++ plan.told carrier generation topic := by
    rw [Plan.told, tries, List.flatMap_cons, Plan.told]
  have last : Plan.result (trial :: plan) topic nobody = plan.result topic nobody := by
    rw [Plan.result, tries, List.getLast?_cons_of_ne_nil others, Plan.result]
  constructor
  · intro tells
    rcases List.forall_mem_cons.mp (tries ▸ tells.suits) with ⟨suits, behind⟩
    exact ⟨suits, _, whole ▸ tells.told_eq, behind, rfl, last ▸ tells.result_eq⟩
  · rintro ⟨suits, later, rfl, tells⟩
    refine ⟨?_, ?_, ?_⟩
    · rw [tries]
      exact List.forall_mem_cons.mpr ⟨suits, tells.suits⟩
    · rw [tells.told_eq, whole]
    · rw [tells.result_eq, last]

/-- A plan for some candidates is a trial of the first and, where that is not the end of it, a plan
for the others. -/
theorem exists_tells_cons_iff {picked : Picked} {order : List Picked} :
    (∃ plan : Plan, plan.map Trial.picked = picked :: order ∧
        plan.Tells carrier generation topic nobody told result) ↔
      ∃ (trial : Trial) (later : List Answered), trial.picked = picked ∧ trial.Suits carrier ∧
        told = trial.told carrier generation topic ++ later ∧
        if isFinal (trial.outcome topic) = false ∧ order ≠ [] then
          ∃ plan : Plan, plan.map Trial.picked = order ∧
            plan.Tells carrier generation topic nobody later result
        else later = [] ∧ result = trial.outcome topic := by
  constructor
  · rintro ⟨plan, inOrder, tells⟩
    rcases List.map_eq_cons_iff.mp inOrder with ⟨trial, plan, rfl, rfl, rfl⟩
    by_cases onward : isFinal (trial.outcome topic) = false ∧ plan ≠ []
    · rcases (tells_cons_of_onward onward.1 onward.2).mp tells with ⟨suits, later, rfl, behind⟩
      refine ⟨trial, later, rfl, suits, rfl, ?_⟩
      rw [if_pos ⟨onward.1, List.map_eq_nil_iff.not.mpr onward.2⟩]
      exact ⟨plan, rfl, behind⟩
    · have ends : isFinal (trial.outcome topic) = false → plan = [] := by
        intro fails
        by_contra more
        exact onward ⟨fails, more⟩
      rcases (tells_cons_of_ends ends).mp tells with ⟨suits, rfl, rfl⟩
      refine ⟨trial, [], rfl, suits, (List.append_nil _).symm, ?_⟩
      rw [if_neg fun both => both.2 (List.map_eq_nil_iff.mpr (ends both.1))]
      exact ⟨rfl, rfl⟩
  · rintro ⟨trial, later, rfl, suits, rfl, onward⟩
    split at onward
    next goesOn =>
        rcases onward with ⟨plan, rfl, tells⟩
        have more : plan ≠ [] := List.map_eq_nil_iff.not.mp goesOn.2
        exact ⟨trial :: plan, rfl,
          (tells_cons_of_onward goesOn.1 more).mpr ⟨suits, later, rfl, tells⟩⟩
    next ends =>
        rcases onward with ⟨rfl, rfl⟩
        -- The others are not tried, so any trial will do for each of them.
        let plan : Plan := order.map fun other => { trial with picked := other }
        have inOrder : plan.map Trial.picked = order := by
          rw [List.map_map]
          exact List.map_id order
        refine ⟨trial :: plan, congrArg (trial.picked :: ·) inOrder, ?_⟩
        refine (tells_cons_of_ends ?_).mpr ⟨suits, List.append_nil _, rfl⟩
        intro fails
        by_contra more
        refine ends ⟨fails, ?_⟩
        rw [← inOrder]
        exact List.map_eq_nil_iff.not.mpr more

end Plan

namespace Carrier

/-! ## Candidate by candidate -/

section
variable {carrier : Carrier} {generation : Nat} {topic : String} {picker rest : Picker}
  {picked : Picked} {told : List Answered} {result : Except Error Subscribed}

/-- What a subscription does after what came of a candidate. -/
def goOn (carrier : Carrier) (generation : Nat) (topic : String) (picked : Picked)
    (rest : Picker) : Except Error Subscribed → Action Subscribed
  | .ok subscribed => pure subscribed
  | .error .cancelled => throw .cancelled
  | .error error =>
    if picked.hasMore then carrier.subscribeNodes generation topic rest else throw error

theorem subscribeNodes_of_pick (found : picker.pick = (.ok picked, rest)) :
    carrier.subscribeNodes generation topic picker = (do
      carrier.goOn generation topic picked rest
        (← (carrier.subscribeOn generation picked topic).outcome)) := by
  rw [subscribeNodes]
  split
  next error other nothing =>
      rw [found] at nothing
      cases nothing
  next other later same =>
      rw [found] at same
      cases same
      rfl

theorem subscribeNodes_of_left_eq_nil (done : picker.left = []) :
    carrier.subscribeNodes generation topic picker = throw picker.exhaustion := by
  have nothing := Picker.pick_of_left_eq_nil done
  rw [subscribeNodes]
  split
  next error other same =>
      rw [nothing] at same
      cases same
      rfl
  next other later found =>
      rw [nothing] at found
      cases found

theorem yields_goOn {outcome : Except Error Subscribed} :
    (carrier.goOn generation topic picked rest outcome).Yields told result ↔
      if isFinal outcome = false ∧ picked.hasMore then
        (carrier.subscribeNodes generation topic rest).Yields told result
      else told = [] ∧ result = outcome := by
  cases outcome with
  | ok subscribed => exact Iff.rfl
  | error error =>
      by_cases calledOff : error = .cancelled
      · rw [calledOff]
        exact Iff.rfl
      · have continues : carrier.goOn generation topic picked rest (.error error) =
            if picked.hasMore then carrier.subscribeNodes generation topic rest
            else throw error := by
          unfold goOn
          split
          next impossible => cases impossible
          next same => exact (calledOff (Except.error.inj same)).elim
          next same => rw [Except.error.inj same]
        rw [continues, isFinal_of_ne calledOff]
        cases picked.hasMore <;> exact Iff.rfl

theorem yields_subscribeNodes_of_left_eq_nil (done : picker.left = []) :
    (carrier.subscribeNodes generation topic picker).Yields told result ↔
      told = [] ∧ result = .error picker.exhaustion := by
  rw [subscribeNodes_of_left_eq_nil done]
  exact yields_throw

/-- What is said on the trial of a candidate, and what comes after it. -/
theorem yields_subscribeNodes_of_pick (found : picker.pick = (.ok picked, rest)) :
    (carrier.subscribeNodes generation topic picker).Yields told result ↔
      ∃ (trial : Trial) (later : List Answered), trial.picked = picked ∧ trial.Suits carrier ∧
        told = trial.told carrier generation topic ++ later ∧
        if isFinal (trial.outcome topic) = false ∧ picked.hasMore then
          (carrier.subscribeNodes generation topic rest).Yields later result
        else later = [] ∧ result = trial.outcome topic := by
  rw [subscribeNodes_of_pick found]
  constructor
  · intro yields
    rcases yields_bind.mp yields with ⟨_, later, _, rfl, tried, onward⟩
    rcases yields_outcome.mp tried with ⟨_, subscribes, rfl⟩
    rcases yields_subscribeOn.mp subscribes with ⟨trial, same, suits, rfl, rfl⟩
    exact ⟨trial, later, same, suits, rfl, yields_goOn.mp onward⟩
  · rintro ⟨trial, later, same, suits, rfl, onward⟩
    have subscribes : (carrier.subscribeOn generation picked topic).Yields
        (trial.told carrier generation topic) (trial.outcome topic) :=
      yields_subscribeOn.mpr ⟨trial, same, suits, rfl, rfl⟩
    have tried := yields_outcome.mpr ⟨_, subscribes, rfl⟩
    exact yields_bind.mpr ⟨_, later, _, rfl, tried, yields_goOn.mpr onward⟩

/-- A subscription goes through the candidates of its picker as some plan for them says. -/
theorem yields_subscribeNodes :
    (carrier.subscribeNodes generation topic picker).Yields told result ↔
      ∃ plan : Plan, plan.map Trial.picked = picker.all.1 ∧
        plan.Tells carrier generation topic picker.exhaustion told result := by
  -- On the number of candidates left, which every pick makes smaller.
  induction counted : picker.left.length using Nat.strongRecOn generalizing picker told with
  | ind size inductionHypothesis =>
      by_cases done : picker.left = []
      · rw [yields_subscribeNodes_of_left_eq_nil done, Picker.all_of_left_eq_nil done]
        constructor
        · intro same
          exact ⟨[], rfl, Plan.tells_nil.mpr same⟩
        · rintro ⟨plan, none, tells⟩
          rw [List.map_eq_nil_iff.mp none] at tells
          exact Plan.tells_nil.mp tells
      rcases Picker.exists_pick done with ⟨picked, rest, found⟩
      have said := Picker.found_of_pick found
      have smaller := counted ▸ Picker.length_pick found
      have hasMore_iff : picked.hasMore = true ↔ rest.all.1 ≠ [] :=
        said.hasMore_iff.trans (Picker.all_eq_nil_iff rest).not.symm
      have others (later : List Answered) :
          (carrier.subscribeNodes generation topic rest).Yields later result ↔
            ∃ plan : Plan, plan.map Trial.picked = rest.all.1 ∧
              plan.Tells carrier generation topic rest.exhaustion later result :=
        inductionHypothesis _ smaller rfl
      rw [yields_subscribeNodes_of_pick found, Picker.all_of_pick found, ← said.exhaustion_eq,
        Plan.exists_tells_cons_iff]
      simp only [hasMore_iff, others]

end

/-! ## Whole subscriptions -/

section
variable {carrier : Carrier} {policy : Policy} {draws : List Nat} {topic : String}
  {told : List Answered} {result : Except Error Subscribed}

theorem yields_subscribe :
    (carrier.subscribe policy draws topic).Yields told result ↔
      (∃ error, carrier.dispatcher.checkedSet.Yields told (.error error) ∧
        result = .error error) ∨
      ∃ before later set, carrier.dispatcher.checkedSet.Yields before (.ok set) ∧
        told = before ++ later ∧ ∃ plan : Plan,
          plan.map Trial.picked = (Picker.among policy draws set.nodes).all.1 ∧
          plan.Tells carrier set.generation topic
            (Picker.among policy draws set.nodes).exhaustion later result := by
  unfold Carrier.subscribe
  constructor
  · intro yields
    rcases yields_bind.mp yields with ⟨before, later, first, rfl, checked, onward⟩
    cases first with
    | error error =>
        rcases onward with ⟨rfl, rfl⟩
        rw [List.append_nil]
        exact Or.inl ⟨error, checked, rfl⟩
    | ok set =>
        have tells := yields_subscribeNodes.mp onward
        exact Or.inr ⟨before, later, set, checked, rfl, tells⟩
  · rintro (⟨error, checked, rfl⟩ | ⟨before, later, set, checked, rfl, tells⟩)
    · exact yields_bind.mpr ⟨told, [], _, (List.append_nil told).symm, checked, rfl, rfl⟩
    · have onward := yields_subscribeNodes.mpr tells
      exact yields_bind.mpr ⟨before, later, .ok set, rfl, checked, onward⟩

end

theorem urlOf_eq_ok_iff {node : ServiceNode} {url : String} :
    urlOf node = .ok url ↔ node.property? wsUrlKey = some (.string url) ∧ url ≠ "" := by
  unfold urlOf
  split
  next missing =>
      rw [missing]
      exact ⟨nofun, nofun⟩
  next empty =>
      rw [empty]
      constructor
      · exact nofun
      · rintro ⟨same, notEmpty⟩
        cases same
        exact (notEmpty rfl).elim
  next text notEmpty given =>
      rw [given, Except.ok.injEq, Option.some.injEq, Json.Value.string.injEq]
      constructor
      · rintro rfl
        refine ⟨rfl, ?_⟩
        rintro rfl
        exact notEmpty rfl
      · exact And.left
  next value noEmpty noText given =>
      rw [given]
      constructor
      · exact nofun
      · rintro ⟨same, -⟩
        cases same
        exact (noText _ rfl).elim

/-- A subscription is tried on candidates in turn, and ends as it should. -/
structure TriesInTurn (carrier : Carrier) (policy : Policy) (draws : List Nat) (topic : String) :
    Prop where
  /-- What a subscription asks and comes to: no nodes can be had, or candidates are tried as some
  plan for all of them says. -/
  dialogue_iff : ∀ told result,
    (carrier.subscribe policy draws topic).Yields told result ↔
      (∃ error, carrier.dispatcher.checkedSet.Yields told (.error error) ∧
        result = .error error) ∨
      ∃ before later set, carrier.dispatcher.checkedSet.Yields before (.ok set) ∧
        told = before ++ later ∧ ∃ plan : Plan,
          plan.map Trial.picked = (Picker.among policy draws set.nodes).all.1 ∧
          plan.Tells carrier set.generation topic
            (Picker.among policy draws set.nodes).exhaustion later result
  /-- Each candidate has one place in the order of trials. -/
  each_once : ∀ nodes,
    ((Picker.among policy draws nodes).all.1.map Picked.index).Nodup ∧
    ((Picker.among policy draws nodes).all.1.map fun picked => (picked.index, picked.node)).Perm
      (Picker.among policy draws nodes).left
  /-- The first trial that succeeds or is called off is the last, and what came of it counts. -/
  stops : ∀ (front : Plan) (trial : Trial) (rest : Plan) nobody,
    (∀ earlier ∈ front, isFinal (earlier.outcome topic) = false) →
    isFinal (trial.outcome topic) →
    Plan.tried (front ++ trial :: rest) topic = front ++ [trial] ∧
      Plan.result (front ++ trial :: rest) topic nobody = trial.outcome topic
  /-- Where there is no such trial, all candidates are tried, and the failure of the last counts. -/
  ends : ∀ (front : Plan) (trial : Trial) nobody,
    (∀ candidate ∈ front ++ [trial], isFinal (candidate.outcome topic) = false) →
    Plan.tried (front ++ [trial]) topic = front ++ [trial] ∧
      Plan.result (front ++ [trial]) topic nobody = trial.outcome topic
  /-- Nothing but success and being called off is final. -/
  isFinal_iff : ∀ outcome, isFinal outcome ↔
    (∃ subscribed, outcome = .ok subscribed) ∨ outcome = .error .cancelled
  /-- A node takes connections where its property is a text that is not empty. -/
  usable_iff : ∀ node url, urlOf node = .ok url ↔
    node.property? wsUrlKey = some (.string url) ∧ url ≠ ""
  /-- A candidate that does not say where it takes connections is not asked anything. -/
  unusable : ∀ (trial : Trial) generation error, urlOf trial.picked.node = .error error →
    trial.told carrier generation topic = [] ∧ trial.outcome topic = .error error
  /-- Without a candidate nothing is tried, and the error is that of the picker. -/
  unmatched : ∀ nodes generation told result, (Picker.among policy draws nodes).left = [] →
    ((carrier.subscribeNodes generation topic (Picker.among policy draws nodes)).Yields told
        result ↔
      told = [] ∧ ∃ error, (Picker.among policy draws nodes).pick.1 = .error error ∧
        result = .error error)

/-- Failover between the nodes of a carrier is exact. -/
theorem tries_in_turn (carrier : Carrier) (policy : Policy) (draws : List Nat) (topic : String) :
    carrier.TriesInTurn policy draws topic where
  dialogue_iff _ _ := yields_subscribe
  each_once nodes := ⟨Picker.nodup_all policy draws nodes, Picker.perm_all _⟩
  stops _ _ _ _ onward final :=
    ⟨upTo_of_first onward final, Plan.result_of_tried (upTo_of_first onward final)⟩
  ends _ _ _ onward :=
    ⟨upTo_of_none onward, Plan.result_of_tried (upTo_of_none onward)⟩
  isFinal_iff _ := PubSub.isFinal_iff
  usable_iff _ _ := urlOf_eq_ok_iff
  unusable trial generation error refused := by
    rw [Trial.told, Trial.outcome, refused]
    exact ⟨rfl, rfl⟩
  unmatched nodes generation told result done := by
    rw [yields_subscribeNodes_of_left_eq_nil done, Picker.pick_of_left_eq_nil done]
    constructor
    · rintro ⟨rfl, rfl⟩
      exact ⟨rfl, _, rfl, rfl⟩
    · rintro ⟨rfl, error, same, rfl⟩
      rw [Except.error.inj same]
      exact ⟨rfl, rfl⟩

end Carrier
end PubSub
end ExchangeGrid
