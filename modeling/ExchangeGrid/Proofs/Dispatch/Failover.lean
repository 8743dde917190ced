import ExchangeGrid.Proofs.Dispatch.Control
import ExchangeGrid.Proofs.Dispatch.Enumeration
import ExchangeGrid.Proofs.Dispatch.Reception

namespace ExchangeGrid

/-!
# From node to node

A call visits the candidates of a policy in the order in which they are picked, each of them at most
once, up to the first visit that is final.  `Picker.all` is that order.

`yields_callNodes` states that the receptions of the candidates tell all the dialogues that a call
can have while it is not called off, and only these.  It follows from what one visit says and what
comes after it, on the candidates that are left.
-/

/-! ## The order of visits -/

namespace Picker

theorem all_of_left_eq_nil {picker : Picker} (done : picker.left = []) :
    picker.all = ([], picker.exhaustion) := by
  have nothing := pick_of_left_eq_nil done
  rw [all]
  split
  next error rest found =>
      rw [nothing] at found
      cases found
      rfl
  next picked rest found =>
      rw [nothing] at found
      cases found

theorem all_of_pick {picker rest : Picker} {picked : Picked}
    (found : picker.pick = (.ok picked, rest)) :
    picker.all = (picked :: rest.all.1, rest.all.2) := by
  rw [all]
  split
  next error other nothing =>
      rw [found] at nothing
      cases nothing
  next other later same =>
      rw [found] at same
      cases same
      rfl

/-- What is picked in the end is all that was left. -/
theorem perm_all (picker : Picker) :
    (picker.all.1.map fun picked => (picked.index, picked.node)).Perm picker.left := by
  induction counted : picker.left.length using Nat.strongRecOn generalizing picker with
  | ind size inductionHypothesis =>
      by_cases done : picker.left = []
      · rw [all_of_left_eq_nil done, done]
        exact .refl []
      · rcases exists_pick done with ⟨picked, rest, found⟩
        have later := inductionHypothesis _ (counted ▸ length_pick found) rest rfl
        rw [all_of_pick found]
        exact (List.Perm.cons _ later).trans (perm_of_pick found).symm

theorem all_eq_nil_iff (picker : Picker) : picker.all.1 = [] ↔ picker.left = [] := by
  have perm := perm_all picker
  constructor
  · intro none
    rw [none] at perm
    exact perm.symm.eq_nil
  · intro none
    rw [none] at perm
    exact List.map_eq_nil_iff.mp perm.eq_nil

/-- Every candidate is picked once. -/
theorem nodup_all (policy : Policy) (draws : List Nat) (nodes : List ServiceNode) :
    ((among policy draws nodes).all.1.map Picked.index).Nodup := by
  have perm := (perm_all (among policy draws nodes)).map Prod.fst
  rw [List.map_map] at perm
  refine perm.symm.nodup ?_
  cases policy with
  | random =>
      rw [among, left, Lottery.map_fst_left]
      exact List.nodup_range
  | ordered | positions indices | named names | satisfying holds =>
      exact (Walk.map_fst_left _ nodes).symm ▸ List.nodup_range.filter _

theorem exhaustion_ne {picker : Picker} {call : String} :
    picker.exhaustion ≠ .allNodesFailed call := by
  cases picker with
  | inOrder walk =>
      rw [exhaustion]
      split <;> exact nofun
  | atRandom lottery => exact nofun

end Picker

/-! ## Visit by visit -/

namespace Dispatcher

open ExchangeGrid.Action

section
variable {service : Dispatcher} {generation : Nat} {told : List Answered}

theorem yields_provision {index : Nat} {name : String} {result : Except Error String} :
    (service.provision generation index name).Yields told result ↔
      ∃ posts secret, (service.control.exchangeSecret name).Yields posts secret ∧
        told = posts ++ keptTold service generation index name secret ∧
        result = provided name secret := by
  unfold provision
  rw [yields_bind]
  constructor
  · rintro ⟨posts, later, first, rfl, exchanged, rest⟩
    rcases yields_outcome.mp exchanged with ⟨secret, exchanges, rfl⟩
    refine ⟨posts, secret, exchanges, ?_⟩
    cases secret with
    | error error => cases error <;> rcases rest with ⟨rfl, rfl⟩ <;> exact ⟨rfl, rfl⟩
    | ok secret =>
        dsimp only at rest
        rcases yields_bind.mp rest with ⟨_, _, _, rfl, stored, rest⟩
        rcases yields_ask.mp stored with ⟨_, rfl, rfl⟩
        rcases yields_bind.mp rest with ⟨_, _, _, rfl, emitted, rest⟩
        rcases yields_emit.mp emitted with ⟨rfl, rfl⟩
        rcases rest with ⟨rfl, rfl⟩
        exact ⟨rfl, rfl⟩
  · rintro ⟨posts, secret, exchanges, rfl, rfl⟩
    refine ⟨posts, _, .ok secret, rfl, yields_outcome.mpr ⟨secret, exchanges, rfl⟩, ?_⟩
    cases secret with
    | error error => cases error <;> exact ⟨rfl, rfl⟩
    | ok secret =>
        dsimp only
        refine yields_bind.mpr ⟨_, _, _, rfl, yields_ask.mpr ⟨(), rfl, rfl⟩, ?_⟩
        exact yields_bind.mpr ⟨_, _, _, rfl, yields_emit.mpr ⟨rfl, rfl⟩, rfl, rfl⟩

theorem yields_secretOf {picked : Picked} {result : Except Error String} :
    (service.secretOf generation picked.index picked.node).Yields told result ↔
      ∃ posts secret, (picked.node.hasSecret = false →
          (service.control.exchangeSecret picked.node.name).Yields posts secret) ∧
        told = Welcome.secretTold ⟨posts, secret, .error .noNodes⟩ service generation picked ∧
        result = Welcome.credential ⟨posts, secret, .error .noNodes⟩ picked.node := by
  unfold secretOf Welcome.secretTold Welcome.credential
  cases kept : picked.node.hasSecret with
  | true =>
      constructor
      · rintro ⟨rfl, rfl⟩
        exact ⟨[], .ok "", nofun, rfl, rfl⟩
      · rintro ⟨posts, secret, -, rfl, rfl⟩
        exact ⟨rfl, rfl⟩
  | false =>
      apply yields_provision.trans
      constructor
      · rintro ⟨posts, secret, exchanges, same⟩
        exact ⟨posts, secret, fun _ => exchanges, same⟩
      · rintro ⟨posts, secret, exchanges, same⟩
        exact ⟨posts, secret, exchanges rfl, same⟩

/-- Nobody was told that the work was called off. -/
def IsCalm (told : List Answered) : Prop :=
  ∀ answer : Bool, ⟨.isCancelled, answer⟩ ∈ told → answer = false

theorem isCalm_append {front back : List Answered} :
    IsCalm (front ++ back) ↔ IsCalm front ∧ IsCalm back := by
  simp only [IsCalm, List.mem_append, or_imp, forall_and]

theorem isCalm_nil : IsCalm [] :=
  fun _ member => (List.not_mem_nil member).elim

theorem isCalm_cons {told : List Answered} :
    IsCalm (⟨.isCancelled, false⟩ :: told) ↔ IsCalm told := by
  constructor
  · intro calm answer member
    exact calm answer (List.mem_cons_of_mem _ member)
  · intro calm answer member
    rcases List.mem_cons.mp member with now | later
    · cases now
      rfl
    · exact calm answer later

/-- All that is asked for an exchange is posts. -/
theorem isPost_of_exchange {name : String} {posts : List Answered} {secret : Except Error String}
    (exchanges : (service.control.exchangeSecret name).Yields posts secret) :
    ∀ said ∈ posts, said.question.IsPost := by
  have complies : Complies (fun _ _ => True) [] (service.control.exchangeSecret name)
      (service.control.Exchanged name) := Controller.complies_exchangeSecret fun _ _ _ _ => trivial
  intro said member
  exact ((Program.Complies.ends_of_yields complies exchanges).posts said member).isPost

theorem isCalm_exchange {name : String} {posts : List Answered} {secret : Except Error String}
    (exchanges : (service.control.exchangeSecret name).Yields posts secret) : IsCalm posts :=
  fun _ member => (isPost_of_exchange exchanges _ member).elim

theorem isCalm_told {welcome : Welcome} {call : String} {payload : Json.Value} {picked : Picked}
    (suits : welcome.Suits service picked.node) :
    IsCalm (welcome.told service generation call payload picked) := by
  have kept : ∀ name secret, IsCalm (keptTold service generation picked.index name secret) := by
    intro name secret answer member
    cases secret <;> simp [keptTold] at member
  intro answer member
  rcases List.mem_cons.mp member with now | later
  · cases now
    rfl
  · cases based : picked.node.propertyText? restBaseUrlKey with
    | none =>
        rw [based] at later
        cases later
    | some base =>
        rw [based] at later
        rcases List.mem_append.mp later with exchanged | posted
        · unfold Welcome.secretTold at exchanged
          cases has : picked.node.hasSecret with
          | true =>
              rw [has] at exchanged
              cases exchanged
          | false =>
              rw [has] at exchanged
              rcases List.mem_append.mp exchanged with exchanged | stored
              · exact isCalm_exchange (suits (by rw [based]; rfl) has) answer exchanged
              · exact kept _ _ answer stored
        · unfold Welcome.requestTold at posted
          split at posted
          · cases posted
          · cases List.mem_singleton.mp posted

section
variable {call : String} {payload : Json.Value} {picker rest : Picker} {picked : Picked}
  {result : Except Error Reply}

/-- What a call does with the answer of a candidate. -/
def take (service : Dispatcher) (generation : Nat) (call : String) (payload : Json.Value)
    (picked : Picked) (rest : Picker) : Except Error Reply → Action Reply
  | .ok reply => pure reply
  | .error error =>
    if error.isTransport && picked.hasMore then service.callNodes generation call payload rest
    else throw error

/-- What a call does with a candidate that has a base address. -/
def serve (service : Dispatcher) (generation : Nat) (call : String) (payload : Json.Value)
    (picked : Picked) (rest : Picker) (base : String) : Action Reply := do
  let secret ← service.secretOf generation picked.index picked.node
  service.take generation call payload picked rest (← (Action.post (callUrl base call) payload
    (.basic service.control.nodeName secret)).outcome)

/-- What a call does with a candidate that has none. -/
def pass (service : Dispatcher) (generation : Nat) (call : String) (payload : Json.Value)
    (picked : Picked) (rest : Picker) : Action Reply :=
  if picked.hasMore then service.callNodes generation call payload rest
  else throw (.allNodesFailed call)

def tryNode (service : Dispatcher) (generation : Nat) (call : String) (payload : Json.Value)
    (picked : Picked) (rest : Picker) : Action Reply :=
  match picked.node.propertyText? restBaseUrlKey with
  | none => service.pass generation call payload picked rest
  | some base => service.serve generation call payload picked rest base

theorem callNodes_of_pick (found : picker.pick = (.ok picked, rest)) :
    service.callNodes generation call payload picker =
      (do Action.checkCancelled; service.tryNode generation call payload picked rest) := by
  rw [callNodes]
  congr 1
  funext quiet
  split
  next error other nothing =>
      rw [found] at nothing
      cases nothing
  next other later same =>
      rw [found] at same
      cases same
      rfl

theorem callNodes_of_left_eq_nil (done : picker.left = []) :
    service.callNodes generation call payload picker =
      (do Action.checkCancelled; throw picker.exhaustion) := by
  have nothing := Picker.pick_of_left_eq_nil done
  rw [callNodes]
  congr 1
  funext quiet
  split
  next error other same =>
      rw [nothing] at same
      cases same
      rfl
  next other later found =>
      rw [nothing] at found
      cases found

/-- While it is not called off, a call that looks whether it was goes on. -/
theorem yields_checkCancelled_bind {action : Action Reply} :
    (do Action.checkCancelled; action : Action Reply).Yields told result ∧ IsCalm told ↔
      ∃ later, told = ⟨.isCancelled, false⟩ :: later ∧ action.Yields later result ∧
        IsCalm later := by
  constructor
  · rintro ⟨yields, calm⟩
    rcases yields_bind.mp yields with ⟨_, later, _, rfl, looked, yields⟩
    rcases yields_checkCancelled.mp looked with ⟨answer, rfl, rfl⟩
    have quiet : answer = false := calm answer List.mem_cons_self
    subst quiet
    exact ⟨later, rfl, yields, (isCalm_append.mp calm).2⟩
  · rintro ⟨later, rfl, yields, calm⟩
    refine ⟨?_, ?_⟩
    · exact yields_bind.mpr ⟨_, later, _, rfl, yields_checkCancelled.mpr ⟨false, rfl, rfl⟩, yields⟩
    · exact isCalm_cons.mpr calm

/-- What a call says after a visit that comes out so, and what it comes to. -/
def Follows (service : Dispatcher) (generation : Nat) (call : String) (payload : Json.Value)
    (picked : Picked) (rest : Picker) (later : List Answered) (result : Except Error Reply)
    (visit : Visit) : Prop :=
  if visit.isFinal = false ∧ picked.hasMore then
    (service.callNodes generation call payload rest).Yields later result
  else later = [] ∧ result = visit.result call

theorem yields_take {reply : Except Error Reply} :
    (service.take generation call payload picked rest reply).Yields told result ↔
      service.Follows generation call payload picked rest told result (.ofReply reply) := by
  unfold take Visit.ofReply
  cases reply with
  | ok reply => exact yields_pure
  | error error =>
      dsimp only
      cases error.isTransport with
      | true =>
          unfold Follows
          cases picked.hasMore <;> exact Iff.rfl
      | false => exact yields_throw

theorem yields_pass :
    (service.pass generation call payload picked rest).Yields told result ↔
      service.Follows generation call payload picked rest told result .passedOver := by
  unfold pass Follows
  cases picked.hasMore <;> exact Iff.rfl

theorem yields_serve {base : String} :
    (service.serve generation call payload picked rest base).Yields told result ↔
      ∃ (welcome : Welcome) (later : List Answered), (picked.node.hasSecret = false →
          (service.control.exchangeSecret picked.node.name).Yields welcome.posts welcome.secret) ∧
        told = welcome.secretTold service generation picked ++
          welcome.requestTold service call payload base picked.node ++ later ∧
        service.Follows generation call payload picked rest later result
          (welcome.served picked.node) := by
  unfold serve Welcome.requestTold Welcome.served
  constructor
  · intro yields
    rcases yields_bind.mp yields with ⟨_, _, _, rfl, given, yields⟩
    rcases yields_secretOf.mp given with ⟨posts, secret, exchanges, rfl, rfl⟩
    cases shown : Welcome.credential ⟨posts, secret, .error .noNodes⟩ picked.node with
    | error error =>
        rw [shown] at yields
        rcases yields with ⟨rfl, rfl⟩
        refine ⟨⟨posts, secret, .error .noNodes⟩, [], exchanges, ?_, ?_⟩
        · simp only [shown, List.append_nil]
        · simp only [shown]
          exact ⟨rfl, rfl⟩
    | ok credential =>
        rw [shown] at yields
        dsimp only at yields
        rcases yields_bind.mp yields with ⟨_, later, _, rfl, answered, onward⟩
        rcases yields_outcome.mp answered with ⟨reply, posted, rfl⟩
        rcases yields_post.mp posted with rfl
        have same : Welcome.credential ⟨posts, secret, reply⟩ picked.node = .ok credential := shown
        refine ⟨⟨posts, secret, reply⟩, later, exchanges, ?_, ?_⟩
        · simp only [same, List.append_assoc]
          rfl
        · simp only [same]
          exact yields_take.mp onward
  · rintro ⟨welcome, later, exchanges, rfl, follows⟩
    have given : (service.secretOf generation picked.index picked.node).Yields
        (welcome.secretTold service generation picked) (welcome.credential picked.node) :=
      yields_secretOf.mpr ⟨welcome.posts, welcome.secret, exchanges, rfl, rfl⟩
    refine yields_bind.mpr ⟨_, _, _, List.append_assoc _ _ later, given, ?_⟩
    cases shown : welcome.credential picked.node with
    | error error =>
        rw [shown] at follows
        rcases follows with ⟨rfl, rfl⟩
        exact ⟨rfl, rfl⟩
    | ok credential =>
        rw [shown] at follows
        refine yields_bind.mpr ⟨_, later, .ok welcome.reply, rfl, ?_, yields_take.mpr follows⟩
        exact yields_outcome.mpr ⟨welcome.reply, yields_post.mpr rfl, rfl⟩

/-- What is said on the visit to a candidate, and what comes after it. -/
theorem yields_tryNode :
    (service.tryNode generation call payload picked rest).Yields told result ↔
      ∃ (welcome : Welcome) (later : List Answered), welcome.Suits service picked.node ∧
        ⟨.isCancelled, false⟩ :: told =
          welcome.told service generation call payload picked ++ later ∧
        service.Follows generation call payload picked rest later result
          (welcome.visit picked.node) := by
  unfold tryNode Welcome.told Welcome.visit Welcome.Suits
  cases picked.node.propertyText? restBaseUrlKey with
  | none =>
      constructor
      · intro yields
        exact ⟨⟨[], .ok "", .error .noNodes⟩, told, nofun, rfl, yields_pass.mp yields⟩
      · rintro ⟨welcome, later, -, same, follows⟩
        cases same
        exact yields_pass.mpr follows
  | some base =>
      apply yields_serve.trans
      constructor
      · rintro ⟨welcome, later, exchanges, rfl, follows⟩
        exact ⟨welcome, later, fun _ => exchanges, rfl, follows⟩
      · rintro ⟨welcome, later, exchanges, same, follows⟩
        exact ⟨welcome, later, exchanges rfl, (List.cons.inj same).2, follows⟩

theorem yields_callNodes_of_left_eq_nil (done : picker.left = []) :
    (service.callNodes generation call payload picker).Yields told result ∧ IsCalm told ↔
      told = [⟨.isCancelled, false⟩] ∧ result = .error picker.exhaustion := by
  rw [callNodes_of_left_eq_nil done, yields_checkCancelled_bind]
  constructor
  · rintro ⟨later, rfl, ⟨rfl, rfl⟩, -⟩
    exact ⟨rfl, rfl⟩
  · rintro ⟨rfl, rfl⟩
    exact ⟨[], rfl, ⟨rfl, rfl⟩, isCalm_nil⟩

theorem yields_callNodes_of_pick (found : picker.pick = (.ok picked, rest)) :
    (service.callNodes generation call payload picker).Yields told result ∧ IsCalm told ↔
      ∃ (welcome : Welcome) (later : List Answered), welcome.Suits service picked.node ∧
        told = welcome.told service generation call payload picked ++ later ∧
        service.Follows generation call payload picked rest later result
          (welcome.visit picked.node) ∧ IsCalm later := by
  rw [callNodes_of_pick found, yields_checkCancelled_bind]
  constructor
  · rintro ⟨after, rfl, yields, calm⟩
    rcases yields_tryNode.mp yields with ⟨welcome, later, suits, same, follows⟩
    have whole : IsCalm (⟨.isCancelled, false⟩ :: after) := isCalm_cons.mpr calm
    rw [same] at whole ⊢
    exact ⟨welcome, later, suits, rfl, follows, (isCalm_append.mp whole).2⟩
  · rintro ⟨welcome, later, suits, rfl, follows, calm⟩
    refine ⟨_, rfl, yields_tryNode.mpr ⟨welcome, later, suits, rfl, follows⟩, ?_⟩
    exact isCalm_cons.mp (isCalm_append.mpr ⟨isCalm_told suits, calm⟩)

/-- A call that is not called off goes through the candidates of its picker as some reception
says. -/
theorem yields_callNodes (nodup : (picker.all.1.map Picked.index).Nodup) :
    (service.callNodes generation call payload picker).Yields told result ∧ IsCalm told ↔
      ∃ reception : Reception, reception.Tells service generation call payload picker.all.1
        picker.exhaustion told result := by
  -- On the number of candidates left, which every pick makes smaller.
  induction counted : picker.left.length using Nat.strongRecOn generalizing picker told with
  | ind size inductionHypothesis =>
      by_cases done : picker.left = []
      · rw [yields_callNodes_of_left_eq_nil done, Picker.all_of_left_eq_nil done]
        constructor
        · intro same
          exact ⟨fun _ => ⟨[], .ok "", .error .noNodes⟩, Reception.tells_nil.mpr same⟩
        · rintro ⟨reception, tells⟩
          exact Reception.tells_nil.mp tells
      rcases Picker.exists_pick done with ⟨picked, rest, found⟩
      have said := Picker.found_of_pick found
      have smaller := counted ▸ Picker.length_pick found
      rw [Picker.all_of_pick found] at nodup ⊢
      rcases List.nodup_cons.mp nodup with ⟨fresh, distinct⟩
      have hasMore_iff := said.hasMore_iff.trans (Picker.all_eq_nil_iff rest).not.symm
      have others (later : List Answered) :
          (service.callNodes generation call payload rest).Yields later result ∧ IsCalm later ↔
            ∃ reception : Reception, reception.Tells service generation call payload rest.all.1
              rest.exhaustion later result :=
        inductionHypothesis _ smaller distinct rfl
      rw [yields_callNodes_of_pick found, ← said.exhaustion_eq]
      constructor
      · rintro ⟨welcome, later, suits, rfl, follows, calm⟩
        unfold Follows at follows
        split at follows
        next onward =>
            rcases onward with ⟨onward, more⟩
            rcases (others later).mp ⟨follows, calm⟩ with ⟨reception, tells⟩
            exact ⟨_, tells.update fresh suits onward (hasMore_iff.mp more)⟩
        next ends =>
            rcases follows with ⟨rfl, rfl⟩
            refine ⟨fun _ => welcome, (Reception.tells_cons_of_ends ?_).mpr ⟨suits, ?_, rfl⟩⟩
            · intro onward
              by_contra more
              exact ends ⟨onward, hasMore_iff.mpr more⟩
            · exact List.append_nil _
      · rintro ⟨reception, tells⟩
        by_cases onward : (reception.visit picked).isFinal = false ∧ picked.hasMore
        · have more := hasMore_iff.mp onward.2
          rcases (Reception.tells_cons_of_onward onward.1 more).mp tells with
            ⟨suits, later, rfl, behind⟩
          rcases (others later).mpr ⟨reception, behind⟩ with ⟨yields, calm⟩
          refine ⟨reception picked.index, later, suits, rfl, ?_, calm⟩
          exact (if_pos onward).mpr yields
        · have ends : (reception.visit picked).isFinal = false → rest.all.1 = [] := by
            intro goesOn
            by_contra more
            exact onward ⟨goesOn, hasMore_iff.mpr more⟩
          rcases (Reception.tells_cons_of_ends ends).mp tells with ⟨suits, rfl, rfl⟩
          refine ⟨reception picked.index, [], suits, (List.append_nil _).symm, ?_, isCalm_nil⟩
          exact (if_neg onward).mpr ⟨rfl, rfl⟩

end

/-! ## Whole calls -/

variable {call : String} {payload : Json.Value} {policy : Policy} {draws : List Nat}
  {result : Except Error Reply}

theorem yields_call :
    (service.call call payload policy draws).Yields told result ∧ IsCalm told ↔
      (∃ error, service.checkedSet.Yields told (.error error) ∧ IsCalm told ∧
        result = .error error) ∨
      ∃ before later set, service.checkedSet.Yields before (.ok set) ∧ IsCalm before ∧
        told = before ++ later ∧ ∃ reception : Reception,
          reception.Tells service set.generation call payload
            (Picker.among policy draws set.nodes).all.1
            (Picker.among policy draws set.nodes).exhaustion later result := by
  unfold Dispatcher.call
  constructor
  · rintro ⟨yields, calm⟩
    rcases yields_bind.mp yields with ⟨before, later, first, rfl, checked, onward⟩
    rcases isCalm_append.mp calm with ⟨calmBefore, calmLater⟩
    cases first with
    | error error =>
        rcases onward with ⟨rfl, rfl⟩
        rw [List.append_nil]
        exact .inl ⟨error, checked, calmBefore, rfl⟩
    | ok set =>
        have tells := (yields_callNodes (Picker.nodup_all _ _ _)).mp ⟨onward, calmLater⟩
        exact .inr ⟨before, later, set, checked, calmBefore, rfl, tells⟩
  · rintro (⟨error, checked, calm, rfl⟩ | ⟨before, later, set, checked, calm, rfl, tells⟩)
    · exact ⟨yields_bind.mpr ⟨told, [], _, (List.append_nil told).symm, checked, rfl, rfl⟩, calm⟩
    · rcases (yields_callNodes (Picker.nodup_all _ _ _)).mpr tells with ⟨onward, calmLater⟩
      refine ⟨yields_bind.mpr ⟨before, later, .ok set, rfl, checked, onward⟩, ?_⟩
      exact isCalm_append.mpr ⟨calm, calmLater⟩

/-- Calls go from one candidate to the next, and end as they should. -/
structure FailsOver (service : Dispatcher) (call : String) (payload : Json.Value) (policy : Policy)
    (draws : List Nat) : Prop where
  /-- What a call asks and comes to while it is not called off: no nodes can be had, or candidates
  are visited as some reception says. -/
  dialogue_iff : ∀ told result,
    ((service.call call payload policy draws).Yields told result ∧ IsCalm told) ↔
      (∃ error, service.checkedSet.Yields told (.error error) ∧ IsCalm told ∧
        result = .error error) ∨
      ∃ before later set, service.checkedSet.Yields before (.ok set) ∧ IsCalm before ∧
        told = before ++ later ∧ ∃ reception : Reception,
          reception.Tells service set.generation call payload
            (Picker.among policy draws set.nodes).all.1
            (Picker.among policy draws set.nodes).exhaustion later result
  /-- Each candidate has one place in the order of visits. -/
  each_once : ∀ nodes,
    ((Picker.among policy draws nodes).all.1.map Picked.index).Nodup ∧
    ((Picker.among policy draws nodes).all.1.map fun picked => (picked.index, picked.node)).Perm
      (Picker.among policy draws nodes).left
  /-- The first final visit is the last, and its outcome is that of the call. -/
  stops : ∀ (reception : Reception) front picked rest nobody,
    (∀ earlier ∈ front, (reception.visit earlier).isFinal = false) →
    (reception.visit picked).isFinal →
    reception.visited (front ++ picked :: rest) = front ++ [picked] ∧
      reception.result call (front ++ picked :: rest) nobody =
        (reception.visit picked).result call
  /-- Without a final visit all candidates are visited, and what came of the last counts. -/
  ends : ∀ (reception : Reception) front picked nobody,
    (∀ candidate ∈ front ++ [picked], (reception.visit candidate).isFinal = false) →
    reception.visited (front ++ [picked]) = front ++ [picked] ∧
      reception.result call (front ++ [picked]) nobody = (reception.visit picked).result call
  /-- All nodes have failed exactly when no visit is final and the last candidate, which would have
  been asked next, has no base address. -/
  allNodesFailed_iff : ∀ (reception : Reception) nodes,
    (∀ index, (reception index).reply ≠ .error (.allNodesFailed call)) →
    (reception.result call (Picker.among policy draws nodes).all.1
        (Picker.among policy draws nodes).exhaustion = .error (.allNodesFailed call) ↔
      ∃ front last, (Picker.among policy draws nodes).all.1 = front ++ [last] ∧
        (∀ earlier ∈ front, (reception.visit earlier).isFinal = false) ∧
        last.node.propertyText? restBaseUrlKey = none)
  /-- A request goes to the base address joined to the call by one slash, which is added where the
  base address does not end in one. -/
  joins : ∀ base, ∃ stem, callUrl base call = stem ++ call ∧ stem.toList.getLast? = some '/' ∧
    (if base.toList.getLast? = some '/' then stem = base else stem = base ++ "/")

theorem exists_callUrl (base call : String) : ∃ stem, callUrl base call = stem ++ call ∧
    stem.toList.getLast? = some '/' ∧
    (if base.toList.getLast? = some '/' then stem = base else stem = base ++ "/") := by
  unfold callUrl
  split
  next ends => exact ⟨base, rfl, ends, rfl⟩
  next lacks =>
      refine ⟨base ++ "/", rfl, ?_, rfl⟩
      rw [String.toList_append]
      exact List.getLast?_concat

/-- Failover is exact. -/
theorem fails_over (service : Dispatcher) (call : String) (payload : Json.Value) (policy : Policy)
    (draws : List Nat) : service.FailsOver call payload policy draws where
  dialogue_iff _ _ := yields_call
  each_once nodes := ⟨Picker.nodup_all policy draws nodes, Picker.perm_all _⟩
  stops _ _ _ _ _ onward final :=
    ⟨Reception.visited_of_final onward final, Reception.result_of_final onward final⟩
  ends _ _ _ _ onward :=
    ⟨Reception.visited_of_onward onward, Reception.result_of_onward onward⟩
  allNodesFailed_iff _ _ answers := Reception.result_eq_iff answers Picker.exhaustion_ne
  joins base := exists_callUrl base call

end
end Dispatcher
end ExchangeGrid
