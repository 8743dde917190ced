import ExchangeGrid.Proofs.Dispatch.Crew
import ExchangeGrid.Proofs.Dispatch.Finding

namespace ExchangeGrid
namespace Dispatcher

/-!
# One lookup at a time

Any number of callers may want the nodes of a service while none is known.  Nobody else writes while
one of them has the turn, so what it missed is missing as long as it waits for replies.  That is the
invariant; that lookups neither overlap nor follow one that has found nodes comes from it.
-/

variable {ι : Type} [DecidableEq ι]

/-- Callers that all want the nodes of one service. -/
def finders (service : Dispatcher) (sets : Nat → NodeSet) :
    Crew fun _ : ι => Except Error (List ServiceNode) :=
  Crew.start sets fun _ => service.checkNodes.run

/-- The one who has the turn is inside, what it missed is missing still, and nodes that were found
are not lost. -/
structure Orderly (service : Nat) (crew : Crew fun _ : ι => Except Error (List ServiceNode)) :
    Prop where
  holder : ∀ who, crew.turns service = some who ↔
    (crew.running who).isSome ∧ (standOf (crew.past who)).HasTurn
  missing : ∀ who, (crew.running who).isSome → standOf (crew.past who) = .missing →
    (crew.sets service).nodes = []
  stored : ∀ who nodes answer, (who, ⟨.replaceNodes service nodes, answer⟩) ∈ crew.log →
    nodes ≠ [] → (crew.sets service).nodes ≠ []

section
variable {service : Nat} {crew : Crew fun _ : ι => Except Error (List ServiceNode)}

theorem Orderly.eq_of_hasTurn (orderly : Orderly service crew) {who other : ι}
    (running : (crew.running who).isSome) (hasTurn : (standOf (crew.past who)).HasTurn)
    (otherRunning : (crew.running other).isSome) (others : (standOf (crew.past other)).HasTurn) :
    other = who := by
  have mine := (orderly.holder who).mpr ⟨running, hasTurn⟩
  have theirs := (orderly.holder other).mpr ⟨otherRunning, others⟩
  exact Option.some.inj (theirs.symm.trans mine)

/-- Who gets an answer has the turn afterwards if its stand says so. -/
theorem Orderly.pass_self (orderly : Orderly service crew) {who : ι} {question : Question}
    (running : (crew.running who).isSome) (mayFind : MayFind service (crew.past who) question)
    (answer : question.Answer) :
    Answered.pass who service (crew.turns service) ⟨question, answer⟩ = some who ↔
      ((standOf (crew.past who)).after ⟨question, answer⟩).HasTurn := by
  have holds : crew.turns service = some who ↔ (standOf (crew.past who)).HasTurn :=
    (orderly.holder who).trans (and_iff_right running)
  cases question with
  | readNodes other => exact holds.trans (Stand.hasTurn_after_readNodes _ other answer).symm
  | enterLookup other =>
      rcases mayFind with ⟨rfl, outside⟩
      cases answer with
      | ok entered => simp only [Answered.pass, if_true, Stand.after, Stand.HasTurn]
      | error error =>
          rw [outside] at holds
          exact holds
  | post url payload auth => exact holds
  | replaceNodes other nodes =>
      exact holds.trans (Stand.hasTurn_after_replaceNodes _ other nodes answer).symm
  | emit event => exact holds
  | leaveLookup other =>
      rcases mayFind with ⟨rfl, hasTurn⟩
      rw [Stand.after_leaveLookup hasTurn]
      simp only [Answered.pass, if_true, Stand.HasTurn, reduceCtorEq]
  | _ => exact mayFind.elim

/-- The others have the turn as before. -/
theorem Orderly.pass_other (orderly : Orderly service crew) {who other : ι} (different : other ≠ who)
    {question : Question} {wish answer : question.Answer} (running : (crew.running who).isSome)
    (mayFind : MayFind service (crew.past who) question)
    (replies : crew.reply? question wish = some answer) :
    Answered.pass who service (crew.turns service) ⟨question, answer⟩ = some other ↔
      crew.turns service = some other := by
  have notBoth : crew.turns service = some who → crew.turns service ≠ some other := by
    intro mine theirs
    exact different (Option.some.inj (theirs.symm.trans mine))
  cases question with
  | enterLookup service =>
      rcases mayFind with ⟨rfl, outside⟩
      cases answer with
      | ok entered =>
          rw [Crew.vacant_of_reply replies]
          simp only [Answered.pass, if_true, Option.some.injEq, different.symm, reduceCtorEq]
      | error error => rfl
  | leaveLookup service =>
      rcases mayFind with ⟨rfl, hasTurn⟩
      have mine := (orderly.holder who).mpr ⟨running, hasTurn⟩
      simp only [Answered.pass, if_true, reduceCtorEq, notBoth mine]
  | readNodes | post | replaceNodes | emit => rfl
  | _ => exact mayFind.elim

/-- Nodes change only while they are missing, and at the hand of the one who misses them. -/
theorem Orderly.nodes_alter (orderly : Orderly service crew) {who : ι} {question : Question}
    (running : (crew.running who).isSome) (mayFind : MayFind service (crew.past who) question)
    (answer : question.Answer) :
    Answered.alter service (crew.sets service) ⟨question, answer⟩ = crew.sets service ∨
      ∃ nodes, question = .replaceNodes service nodes ∧ standOf (crew.past who) = .missing ∧
        (crew.sets service).nodes = [] ∧
        (Answered.alter service (crew.sets service) ⟨question, answer⟩).nodes = nodes := by
  cases question with
  | replaceNodes other nodes =>
      rcases mayFind with ⟨rfl, missing⟩
      refine Or.inr ⟨nodes, rfl, missing, orderly.missing who running missing, ?_⟩
      simp only [Answered.alter, if_true, NodeSet.replace]
  | readNodes | enterLookup | post | emit | leaveLookup => exact Or.inl rfl
  | _ => exact mayFind.elim

/-- Whoever misses the nodes after an answer has just read that there are none, or missed them
before. -/
theorem Orderly.missing_answer (orderly : Orderly service crew) {who : ι} {question : Question}
    {wish answer : question.Answer} (running : (crew.running who).isSome)
    (mayFind : MayFind service (crew.past who) question)
    (replies : crew.reply? question wish = some answer)
    (missing : (standOf (crew.past who)).after ⟨question, answer⟩ = .missing) :
    (Answered.alter service (crew.sets service) ⟨question, answer⟩).nodes = [] := by
  cases question with
  | readNodes other =>
      rcases mayFind with ⟨rfl, outside | inside⟩
      · rw [outside] at missing
        cases missing
      · cases replies
        rw [inside] at missing
        cases nodes : (crew.sets other).nodes with
        | nil => exact nodes
        | cons node rest =>
            simp only [Stand.after, nodes] at missing
            cases missing
  | enterLookup other => cases answer <;> cases missing
  | post url payload auth => exact orderly.missing who running missing
  | replaceNodes other nodes =>
      rw [mayFind.2] at missing
      cases missing
  | emit event => exact orderly.missing who running missing
  | leaveLookup other =>
      rw [Stand.after_leaveLookup mayFind.2] at missing
      cases missing
  | _ => exact mayFind.elim

theorem Orderly.answer (orderly : Orderly service crew) {who : ι} {question : Question}
    {next : question.Answer → Program (Except Error (List ServiceNode))}
    {wish answer : question.Answer} (asks : crew.running who = some (.ask question next))
    (mayFind : MayFind service (crew.past who) question)
    (replies : crew.reply? question wish = some answer) :
    Orderly service (crew.resume who ⟨question, answer⟩ (next answer)) := by
  have running : (crew.running who).isSome := by
    rw [asks]
    rfl
  have altered := orderly.nodes_alter running mayFind answer
  refine ⟨?_, ?_, ?_⟩
  · intro other
    by_cases same : other = who
    · subst same
      rw [Crew.running_resume_self, Crew.past_resume_self, standOf_concat]
      exact (orderly.pass_self running mayFind answer).trans (and_iff_right rfl).symm
    · rw [Crew.running_resume_of_ne crew same, Crew.past_resume_of_ne crew same]
      exact (orderly.pass_other same running mayFind replies).trans (orderly.holder other)
  · intro other otherRunning missing
    by_cases same : other = who
    · subst same
      rw [Crew.past_resume_self, standOf_concat] at missing
      exact orderly.missing_answer running mayFind replies missing
    · rw [Crew.running_resume_of_ne crew same] at otherRunning
      rw [Crew.past_resume_of_ne crew same] at missing
      rcases altered with unchanged | ⟨nodes, -, mine, -, -⟩
      · exact (congrArg NodeSet.nodes unchanged).trans (orderly.missing other otherRunning missing)
      · refine (same (orderly.eq_of_hasTurn running ?_ otherRunning ?_)).elim
        · rw [mine]
          trivial
        · rw [missing]
          trivial
  · intro other nodes told member found
    change (Answered.alter service (crew.sets service) ⟨question, answer⟩).nodes ≠ []
    rcases List.mem_append.mp member with before | now
    · have known := orderly.stored other nodes told before found
      rcases altered with unchanged | ⟨-, -, -, unknown, -⟩
      · rw [unchanged]
        exact known
      · exact (known unknown).elim
    · cases List.mem_singleton.mp now
      rcases mayFind with ⟨-, missing⟩
      simp only [Answered.alter, if_true, NodeSet.replace]
      exact found

theorem Orderly.drop (orderly : Orderly service crew) (who : ι) :
    Orderly service (crew.drop who) := by
  refine ⟨?_, ?_, orderly.stored⟩
  · intro other
    change (if crew.turns service = some who then none else crew.turns service) = some other ↔ _
    by_cases same : other = who
    · subst same
      rw [Crew.running_drop_self]
      by_cases mine : crew.turns service = some other
      · simp only [if_pos mine, reduceCtorEq, Option.isSome_none, Bool.false_eq_true, false_and]
      · rw [if_neg mine]
        simp only [mine, Option.isSome_none, Bool.false_eq_true, false_and]
    · rw [Crew.running_drop_of_ne crew same]
      refine Iff.trans ?_ (orderly.holder other)
      by_cases mine : crew.turns service = some who
      · rw [if_pos mine, mine]
        simp only [reduceCtorEq, Option.some.injEq, Ne.symm same]
      · rw [if_neg mine]
  · intro other running missing
    by_cases same : other = who
    · subst same
      rw [Crew.running_drop_self] at running
      cases running
    · rw [Crew.running_drop_of_ne crew same] at running
      exact orderly.missing other running missing

end

/-- What is known of callers that all want the nodes of one service. -/
theorem orderly_of_run (service : Dispatcher) (sets : Nat → NodeSet) (moves : List (Move ι)) :
    Orderly service.id ((service.finders sets).run moves) ∧
      Crew.Follows (fun _ => MayFind service.id) (fun _ => service.Found)
        ((service.finders sets).run moves) := by
  refine Crew.run_induction (motive := fun crew => Orderly service.id crew ∧
    Crew.Follows (fun _ => MayFind service.id) (fun _ => service.Found) crew) ?_ ?_ moves
  · refine ⟨⟨?_, ?_, ?_⟩, ?_⟩
    · intro who
      refine ⟨nofun, ?_⟩
      rintro ⟨-, hasTurn⟩
      exact hasTurn.elim
    · exact nofun
    · exact nofun
    · exact Crew.follows_of_run sets (fun _ => complies_checkNodes) []
  · rintro crew later stepped ⟨orderly, follows⟩
    refine ⟨?_, follows.step stepped⟩
    cases stepped with
    | answer asks replies => exact orderly.answer asks (follows.may_of_asks ⟨_, asks⟩) replies
    | drop who => exact orderly.drop who

section
variable {service : Dispatcher} {crew : Crew fun _ : ι => Except Error (List ServiceNode)}

/-- Whoever waits for a reply has missed the nodes, and has the turn. -/
theorem missing_of_awaitsReply
    (follows : Crew.Follows (fun _ => MayFind service.id) (fun _ => service.Found) crew) {who : ι}
    (awaits : crew.AwaitsReply who) :
    (crew.running who).isSome ∧ standOf (crew.past who) = .missing := by
  rcases awaits with ⟨url, payload, auth, asks⟩
  refine ⟨?_, follows.may_of_asks asks⟩
  rcases asks with ⟨next, running⟩
  rw [running]
  rfl

/-- Nothing follows after a caller was turned away. -/
theorem turnedAway_of_mem
    (follows : Crew.Follows (fun _ => MayFind service.id) (fun _ => service.Found) crew) {who : ι}
    {error : Error} (member : ⟨.enterLookup service.id, .error error⟩ ∈ crew.past who) :
    standOf (crew.past who) = .turnedAway ∧
      ∀ entered, ⟨.enterLookup service.id, .ok entered⟩ ∉ crew.past who := by
  rcases List.append_of_mem member with ⟨before, after, split⟩
  have outside : standOf before = .outside := (follows.may_of_past_eq split).2
  have away : standOf (before ++ [⟨.enterLookup service.id, .error error⟩]) = .turnedAway :=
    standOf_concat before _
  cases after with
  | nil =>
      rw [split]
      refine ⟨away, ?_⟩
      intro entered among
      rcases List.mem_append.mp among with earlier | now
      · exact not_mem_of_outside outside service.id entered earlier
      · cases List.mem_singleton.mp now
  | cons next later =>
      rw [List.append_cons] at split
      have mayFind := follows.may_of_past_eq split
      rcases next with ⟨question, answer⟩
      cases question <;>
        simp only [MayFind, away, Stand.HasTurn, reduceCtorEq, or_self, and_false] at mayFind

/-- Who never had the turn has posted nothing and changed nothing. -/
theorem idle_of_not_mem
    (follows : Crew.Follows (fun _ => MayFind service.id) (fun _ => service.Found) crew) {who : ι}
    (never : ⟨.enterLookup service.id, .ok ()⟩ ∉ crew.past who) :
    (standOf (crew.past who)).IsOutside ∧
      ∀ said ∈ crew.past who, ¬said.question.IsPost ∧ ∀ id set, said.alter id set = set := by
  have neverAny : ∀ other, ⟨.enterLookup other, .ok ()⟩ ∉ crew.past who := by
    intro other member
    rcases List.append_of_mem member with ⟨before, after, split⟩
    have same : other = service.id := (follows.may_of_past_eq split).1
    exact never (same ▸ member)
  refine ⟨isOutside_standOf neverAny, ?_⟩
  intro said member
  rcases List.append_of_mem member with ⟨before, after, split⟩
  have outside : (standOf before).IsOutside := by
    apply isOutside_standOf
    intro other earlier
    apply neverAny other
    rw [split]
    exact List.mem_append_left _ earlier
  have mayFind := follows.may_of_past_eq split
  rcases said with ⟨question, answer⟩
  cases question with
  | readNodes | enterLookup => exact ⟨not_false, fun _ _ => rfl⟩
  | post url payload auth =>
      rw [show standOf before = .missing from mayFind] at outside
      exact outside.elim
  | replaceNodes other nodes =>
      rw [mayFind.2] at outside
      exact outside.elim
  | emit event =>
      rw [show standOf before = .written from mayFind] at outside
      exact outside.elim
  | leaveLookup other =>
      have hasTurn := mayFind.2
      cases stand : standOf before with
      | outside | turnedAway =>
          rw [stand] at hasTurn
          exact hasTurn.elim
      | inside | missing | written | left =>
          rw [stand] at outside
          exact outside.elim
  | _ => exact mayFind.elim

end

/-- What callers can rely on that all want the nodes of one service. -/
structure SingleFlight (service : Dispatcher)
    (crew : Crew fun _ : ι => Except Error (List ServiceNode)) : Prop where
  /-- No two lookups are under way at once. -/
  alone : ∀ who other, crew.AwaitsReply who → crew.AwaitsReply other → who = other
  /-- Once a lookup has found nodes, nothing is looked up any more. -/
  settled : ∀ who nodes answer, (who, ⟨.replaceNodes service.id nodes, answer⟩) ∈ crew.log →
    nodes ≠ [] → ∀ other, ¬crew.AwaitsReply other
  nonempty : ∀ who nodes, crew.Returned who (.ok nodes) → nodes ≠ []
  /-- A service is unavailable only to those whose own lookup has listed no node. -/
  unavailable : ∀ who text, crew.Returned who (.error (.serviceUnavailable text)) → ∃ reply,
    service.control.Posted "ServiceLookup" (Controller.lookupPayload service.name) .configured
      (.ok reply) (crew.past who) ∧ reply.listing = .ok []
  /-- Who never got the turn, whether it still waits, was dropped or turned away, has looked nothing
  up and changed nothing. -/
  idle : ∀ who, ⟨.enterLookup service.id, .ok ()⟩ ∉ crew.past who →
    ¬crew.AwaitsReply who ∧
      ∀ said ∈ crew.past who, ¬said.question.IsPost ∧ ∀ id set, said.alter id set = set
  /-- Who was called off while it waited never gets the turn, and says so. -/
  calledOff : ∀ who error, ⟨.enterLookup service.id, .error error⟩ ∈ crew.past who →
    ⟨.enterLookup service.id, .ok ()⟩ ∉ crew.past who ∧
      ∀ result, crew.Returned who result → result = .error .cancelled

theorem single_flight (service : Dispatcher) (sets : Nat → NodeSet) (moves : List (Move ι)) :
    SingleFlight service ((service.finders sets).run moves) := by
  rcases orderly_of_run service sets moves with ⟨orderly, follows⟩
  have truthful : Crew.Truthful sets ((service.finders sets).run moves) :=
    Crew.truthful_of_run sets _ moves
  generalize (service.finders sets).run moves = crew at orderly follows truthful
  refine ⟨?_, ?_, ?_, ?_, ?_, ?_⟩
  · intro who other awaits others
    rcases missing_of_awaitsReply follows awaits with ⟨running, stand⟩
    rcases missing_of_awaitsReply follows others with ⟨otherRunning, otherStand⟩
    apply orderly.eq_of_hasTurn otherRunning _ running
    · rw [stand]
      trivial
    · rw [otherStand]
      trivial
  · intro who nodes answer stored found other awaits
    rcases missing_of_awaitsReply follows awaits with ⟨running, stand⟩
    exact orderly.stored who nodes answer stored found (orderly.missing other running stand)
  · intro who nodes returned
    exact (follows.ends_of_returned returned).known nodes rfl
  · intro who text returned
    rcases (follows.ends_of_returned returned).unavailable text rfl with
      listed | ⟨host, -, failed⟩ | failed
    · exact listed
    · cases truthful.isGenuine_of_mem_past failed
    · cases truthful.isGenuine_of_mem_past failed
  · intro who never
    rcases idle_of_not_mem follows never with ⟨outside, idle⟩
    refine ⟨?_, idle⟩
    intro awaits
    rw [(missing_of_awaitsReply follows awaits).2] at outside
    exact outside
  · intro who error member
    rcases turnedAway_of_mem follows member with ⟨away, never⟩
    refine ⟨never (), ?_⟩
    intro result returned
    rcases (follows.ends_of_returned returned).turnedAway away with ⟨reason, told, rfl⟩
    have isCancelled : decide (reason = .cancelled) = true := truthful.isGenuine_of_mem_past told
    rw [of_decide_eq_true isCancelled]

/-- Two callers, of whom the second has to wait: only the first looks the nodes up. -/
example :
    let service : Dispatcher := ⟨⟨[⟨"ctl", 8910⟩], "me", none⟩, 0, "s"⟩
    let crew := (service.finders fun _ => {}).run
      [.told true "", .told false "", .told true "", .told false "", .told true "",
        .told true "\x7b\"services\":[\x7b\"nodeName\":\"a\"\x7d]\x7d", .told true "", .told true "",
        .told true "", .told false "", .told false "", .told false ""]
    crew.Returned true (.ok [{ name := "a" }]) ∧ crew.Returned false (.ok [{ name := "a" }]) ∧
      (crew.past false).map (·.question) =
        [.readNodes 0, .enterLookup 0, .readNodes 0, .leaveLookup 0] := by
  refine ⟨rfl, rfl, rfl⟩

end Dispatcher
end ExchangeGrid
