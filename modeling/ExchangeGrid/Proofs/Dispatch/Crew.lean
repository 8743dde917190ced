import ExchangeGrid.Proofs.Dispatch.Compliance
import Mathlib.Logic.Function.Basic
import Mathlib.Data.List.Induction

namespace ExchangeGrid

/-!
# Crews

A crew is any number of programs of one client that are at work together.  They share the nodes of
the services and the turns to look them up; all else that they ask is answered from outside, and of
these answers nothing is assumed but how a post and a wait can fail.  One move answers the next
question of one program, and nothing comes between a question and its answer.  A member that its
caller drops asks nothing more, and gives back the turn it holds.
-/

/-- What becomes of the nodes of a service when a question is answered. -/
def Answered.alter (service : Nat) (set : NodeSet) : Answered → NodeSet
  | ⟨.replaceNodes other nodes, _⟩ => if other = service then set.replace nodes else set
  | ⟨.storeSecret other generation index name secret, _⟩ =>
    if other = service then set.store generation index name secret else set
  | _ => set

/-- Whether the surroundings can give such an answer: a post fails in transport or is called off, and
a wait for a turn fails only when it is called off. -/
def Answered.isGenuine : Answered → Bool
  | ⟨.post _ _ _, .error error⟩ => error.isTransport || error = .cancelled
  | ⟨.enterLookup _, .error error⟩ => error = .cancelled
  | _ => true

/-- What becomes of the turn to look a service up when a question of `who` is answered. -/
def Answered.pass {ι : Type} (who : ι) (service : Nat) (turn : Option ι) : Answered → Option ι
  | ⟨.enterLookup other, .ok ()⟩ => if other = service then some who else turn
  | ⟨.leaveLookup other, _⟩ => if other = service then none else turn
  | _ => turn

/-- The programs at work, what they share, and what each of them was answered so far, in the order
in which it happened. -/
structure Crew {ι : Type} (Result : ι → Type) where
  sets : Nat → NodeSet
  turns : Nat → Option ι
  log : List (ι × Answered)
  running : (who : ι) → Option (Program (Result who))

/-- What may happen next: a question is answered, with what the surroundings would like the answer
to be, or a member is dropped. -/
inductive Move (ι : Type)
  | answer (who : ι) (wish : (question : Question) → question.Answer)
  | drop (who : ι)

/-- The plainest answer to a question, where a post is answered with some reply. -/
def Question.plainAnswer (reply : Reply) : (question : Question) → question.Answer
  | .post _ _ _ => .ok reply
  | .isCancelled | .pause _ | .isClosed _ | .probe _ | .farewell _ => false
  | .find _ _ | .readSession _ | .close _ => none
  | .findOrMake _ _ => 0
  | .instances _ => []
  | .readNodes _ => {}
  | .equip _ | .enterLookup _ | .enterEndpoint _ _ | .handshake _ _ | .unsubscribe _ _ => .ok ()
  | .dial _ _ _ => .ok 0
  | .subscribe _ _ => .ok ""
  | .emit _ | .replaceNodes _ _ | .storeSecret _ _ _ _ _ | .leaveLookup _ | .leaveEndpoint _
  | .keepSession _ _ | .release _ | .awaitEnd _ => ()

/-- A member is told the plainest answer; where it has posted, that is success with a body. -/
def Move.told {ι : Type} (who : ι) (body : String) : Move ι :=
  .answer who (Question.plainAnswer ⟨200, Utf8.bytes body⟩)

/-! ## Logs -/

section Logs

variable {ι : Type}

/-- The nodes of a service after what a log tells. -/
def setAfter (service : Nat) (set : NodeSet) (log : List (ι × Answered)) : NodeSet :=
  log.foldl (fun set entry => entry.2.alter service set) set

theorem setAfter_append (service : Nat) (set : NodeSet) (front back : List (ι × Answered)) :
    setAfter service set (front ++ back) = setAfter service (setAfter service set front) back :=
  List.foldl_append

/-- An entry of a longer log is its last one or was there before. -/
theorem concat_eq_append_cons {α : Type} {log front back : List α} {entry last : α}
    (split : log ++ [last] = front ++ entry :: back) :
    (log = front ∧ last = entry ∧ back = []) ∨
      ∃ earlier, log = front ++ entry :: earlier ∧ back = earlier ++ [last] := by
  induction back using List.reverseRecOn with
  | nil =>
      rcases List.append_inj' split rfl with ⟨same, lasts⟩
      exact Or.inl ⟨same, List.singleton_inj.mp lasts, rfl⟩
  | append_singleton earlier other =>
      rw [← List.cons_append, ← List.append_assoc] at split
      rcases List.append_inj' split rfl with ⟨same, lasts⟩
      exact Or.inr ⟨earlier, same, by rw [lasts]⟩

variable [DecidableEq ι]

def pastOf (who : ι) (log : List (ι × Answered)) : List Answered :=
  log.filterMap fun entry => if entry.1 = who then some entry.2 else none

theorem pastOf_concat_self (who : ι) (log : List (ι × Answered)) (said : Answered) :
    pastOf who (log ++ [(who, said)]) = pastOf who log ++ [said] := by
  simp only [pastOf, List.filterMap_append, List.filterMap_cons, if_true, List.filterMap_nil]

theorem pastOf_concat_of_ne {who other : ι} (different : other ≠ who) (log : List (ι × Answered))
    (said : Answered) : pastOf who (log ++ [(other, said)]) = pastOf who log := by
  simp only [pastOf, List.filterMap_append, List.filterMap_cons, if_neg different,
    List.filterMap_nil, List.append_nil]

theorem mem_of_mem_pastOf {who : ι} {log : List (ι × Answered)} {said : Answered}
    (member : said ∈ pastOf who log) : (who, said) ∈ log := by
  rcases List.mem_filterMap.mp member with ⟨⟨other, heard⟩, listed, kept⟩
  by_cases same : other = who
  · rw [if_pos same] at kept
    cases kept
    exact same ▸ listed
  · rw [if_neg same] at kept
    cases kept

theorem pastOf_subset (who : ι) {log whole : List (ι × Answered)} (part : log.Sublist whole) :
    pastOf who log ⊆ pastOf who whole :=
  (part.filterMap _).subset

/-- Where the answers to one member stand in a log of all. -/
theorem pastOf_eq_append_cons {who : ι} {log : List (ι × Answered)} {before after : List Answered}
    {said : Answered} (told : pastOf who log = before ++ said :: after) :
    ∃ front back, log = front ++ (who, said) :: back ∧ pastOf who front = before ∧
      pastOf who back = after := by
  rcases List.filterMap_eq_append_iff.mp told with ⟨front, rest, rfl, isBefore, told⟩
  rcases List.filterMap_eq_cons_iff.mp told with ⟨skipped, ⟨other, heard⟩, back, rfl, none, kept, isAfter⟩
  by_cases same : other = who
  · rw [if_pos same] at kept
    cases kept
    subst same
    refine ⟨front ++ skipped, back, ?_, ?_, isAfter⟩
    · rw [List.append_assoc]
    · unfold pastOf
      rw [List.filterMap_append, isBefore, List.filterMap_eq_nil_iff.mpr none, List.append_nil]
  · rw [if_neg same] at kept
    cases kept

end Logs

namespace Crew

variable {ι : Type} {Result : ι → Type}

/-- All programs before their first question. -/
def start (sets : Nat → NodeSet) (programs : (who : ι) → Program (Result who)) : Crew Result :=
  ⟨sets, fun _ => none, [], fun who => some (programs who)⟩

/-- The answer to a question, if there can be one now: what is shared is told as it is, and a turn is
given only when nobody has it.  All other answers come as the surroundings like. -/
def reply? (crew : Crew Result) (question : Question) (wish : question.Answer) :
    Option question.Answer :=
  match question, wish with
  | .readNodes service, _ => some (crew.sets service)
  | .enterLookup service, .ok () => if crew.turns service = none then some (.ok ()) else none
  | question, wish => if Answered.isGenuine ⟨question, wish⟩ then some wish else none

theorem isGenuine_of_reply {crew : Crew Result} {question : Question}
    {wish answer : question.Answer} (replies : crew.reply? question wish = some answer) :
    Answered.isGenuine ⟨question, answer⟩ := by
  unfold reply? at replies
  split at replies
  · rfl
  · split at replies <;> cases replies
    rfl
  · split at replies
    · cases replies
      assumption
    · cases replies

theorem vacant_of_reply {crew : Crew Result} {service : Nat} {wish : Except Error Unit}
    {entered : Unit} (replies : crew.reply? (.enterLookup service) wish = some (.ok entered)) :
    crew.turns service = none := by
  by_contra taken
  cases wish with
  | ok wished =>
      simp only [reply?, if_neg taken] at replies
      cases replies
  | error error =>
      simp only [reply?] at replies
      split at replies <;> cases replies

variable [DecidableEq ι]

def resume (crew : Crew Result) (who : ι) (said : Answered) (program : Program (Result who)) :
    Crew Result where
  sets := fun service => said.alter service (crew.sets service)
  turns := fun service => said.pass who service (crew.turns service)
  log := crew.log ++ [(who, said)]
  running := Function.update crew.running who (some program)

def drop (crew : Crew Result) (who : ι) : Crew Result :=
  { crew with
    turns := fun service => if crew.turns service = some who then none else crew.turns service
    running := Function.update crew.running who none }

/-- What a move leads to.  Nothing happens where it is not possible. -/
def after (crew : Crew Result) : Move ι → Crew Result
  | .answer who wish =>
    match crew.running who with
    | some (.ask question next) =>
      match crew.reply? question (wish question) with
      | some answer => crew.resume who ⟨question, answer⟩ (next answer)
      | none => crew
    | _ => crew
  | .drop who => crew.drop who

def run (crew : Crew Result) (moves : List (Move ι)) : Crew Result :=
  moves.foldl after crew

def past (crew : Crew Result) (who : ι) : List Answered :=
  pastOf who crew.log

/-- The question that a member has asked and waits to be answered. -/
def Asks (crew : Crew Result) (who : ι) (question : Question) : Prop :=
  ∃ next, crew.running who = some (.ask question next)

def AwaitsReply (crew : Crew Result) (who : ι) : Prop :=
  ∃ url payload auth, crew.Asks who (.post url payload auth)

def Returned (crew : Crew Result) (who : ι) (result : Result who) : Prop :=
  crew.running who = some (.done result)

/-! ## Steps -/

/-- What a move can do, if it does anything. -/
inductive Step (crew : Crew Result) : Crew Result → Prop
  | answer {who : ι} {question : Question} {next : question.Answer → Program (Result who)}
      {wish answer : question.Answer} (asks : crew.running who = some (.ask question next))
      (replies : crew.reply? question wish = some answer) :
      Step crew (crew.resume who ⟨question, answer⟩ (next answer))
  | drop (who : ι) : Step crew (crew.drop who)

theorem after_cases (crew : Crew Result) (move : Move ι) :
    crew.after move = crew ∨ crew.Step (crew.after move) := by
  cases move with
  | answer who wish =>
      rcases asks : crew.running who with _ | ⟨result⟩ | ⟨question, next⟩
      · simp only [after, asks, true_or]
      · simp only [after, asks, true_or]
      · cases replies : crew.reply? question (wish question) with
        | none => simp only [after, asks, replies, true_or]
        | some answer =>
            simp only [after, asks, replies]
            exact Or.inr (Step.answer asks replies)
  | drop who => exact Or.inr (Step.drop who)

/-- What holds at the start and is kept by every step holds after every run. -/
theorem run_induction {motive : Crew Result → Prop} {first : Crew Result} (atStart : motive first)
    (step : ∀ crew later, crew.Step later → motive crew → motive later) (moves : List (Move ι)) :
    motive (first.run moves) := by
  induction moves using List.reverseRecOn with
  | nil => exact atStart
  | append_singleton moves move inductionHypothesis =>
      have split : first.run (moves ++ [move]) = (first.run moves).after move := by
        unfold run
        rw [List.foldl_append]
        rfl
      rw [split]
      rcases (first.run moves).after_cases move with same | stepped
      · rw [same]
        exact inductionHypothesis
      · exact step _ _ stepped inductionHypothesis

theorem running_resume_self (crew : Crew Result) (who : ι) (said : Answered)
    (program : Program (Result who)) : (crew.resume who said program).running who = some program := by
  simp only [resume, Function.update_self]

theorem running_resume_of_ne (crew : Crew Result) {who other : ι} (different : other ≠ who)
    (said : Answered) (program : Program (Result who)) :
    (crew.resume who said program).running other = crew.running other := by
  simp only [resume, Function.update_of_ne different]

theorem running_drop_self (crew : Crew Result) (who : ι) : (crew.drop who).running who = none := by
  simp only [drop, Function.update_self]

theorem running_drop_of_ne (crew : Crew Result) {who other : ι} (different : other ≠ who) :
    (crew.drop who).running other = crew.running other := by
  simp only [drop, Function.update_of_ne different]

theorem past_resume_self (crew : Crew Result) (who : ι) (said : Answered)
    (program : Program (Result who)) :
    (crew.resume who said program).past who = crew.past who ++ [said] :=
  pastOf_concat_self who crew.log said

theorem past_resume_of_ne (crew : Crew Result) {who other : ι} (different : other ≠ who)
    (said : Answered) (program : Program (Result who)) :
    (crew.resume who said program).past other = crew.past other :=
  pastOf_concat_of_ne (Ne.symm different) crew.log said

/-! ## Compliance of a crew -/

/-- Every member complies with its own rule, and did so whenever it asked. -/
structure Follows (may : ι → List Answered → Question → Prop)
    (ends : (who : ι) → List Answered → Result who → Prop) (crew : Crew Result) : Prop where
  running : ∀ who program, crew.running who = some program →
    program.Complies (may who) (crew.past who) fun later result =>
      ends who (crew.past who ++ later) result
  noted : ∀ front who said back, crew.log = front ++ (who, said) :: back →
    may who (pastOf who front) said.question

variable {may : ι → List Answered → Question → Prop}
  {ends : (who : ι) → List Answered → Result who → Prop} {crew : Crew Result}

theorem Follows.step {later : Crew Result} (follows : Follows may ends crew)
    (stepped : crew.Step later) : Follows may ends later := by
  cases stepped with
  | @answer who question next wish answer asks replies =>
      have complies := follows.running who _ asks
      constructor
      · intro other program found
        by_cases same : other = who
        · subst same
          rw [running_resume_self] at found
          cases found
          rw [past_resume_self]
          simp only [List.append_assoc, List.cons_append, List.nil_append]
          exact complies.2 answer
        · rw [running_resume_of_ne crew same] at found
          rw [past_resume_of_ne crew same]
          exact follows.running other program found
      · intro front other said back split
        rcases concat_eq_append_cons split with ⟨same, entry, -⟩ | ⟨earlier, before, -⟩
        · cases entry
          rw [← same]
          exact complies.1
        · exact follows.noted front other said earlier before
  | drop who =>
      constructor
      · intro other program found
        by_cases same : other = who
        · subst same
          rw [running_drop_self] at found
          cases found
        · rw [running_drop_of_ne crew same] at found
          exact follows.running other program found
      · exact follows.noted

theorem follows_of_run (sets : Nat → NodeSet) {programs : (who : ι) → Program (Result who)}
    (comply : ∀ who, (programs who).Complies (may who) [] (ends who)) (moves : List (Move ι)) :
    Follows may ends ((start sets programs).run moves) := by
  apply run_induction
  · constructor
    · intro who program found
      cases found
      exact comply who
    · intro front who said back split
      cases (List.append_eq_nil_iff.mp split.symm).2
  · intro crew later stepped follows
    exact follows.step stepped

/-- A question that waits for its answer may be asked. -/
theorem Follows.may_of_asks (follows : Follows may ends crew) {who : ι} {question : Question}
    (asks : crew.Asks who question) : may who (crew.past who) question := by
  rcases asks with ⟨next, asks⟩
  exact (follows.running who _ asks).1

/-- A question that was answered could be asked after the answers before it. -/
theorem Follows.may_of_past_eq (follows : Follows may ends crew) {who : ι}
    {before after : List Answered} {said : Answered}
    (split : crew.past who = before ++ said :: after) : may who before said.question := by
  rcases pastOf_eq_append_cons split with ⟨front, back, log, isBefore, -⟩
  rw [← isBefore]
  exact follows.noted front who said back log

theorem Follows.ends_of_returned (follows : Follows may ends crew) {who : ι} {result : Result who}
    (returned : crew.Returned who result) : ends who (crew.past who) result := by
  have complies := follows.running who _ returned
  change ends who (crew.past who ++ []) result at complies
  rw [List.append_nil] at complies
  exact complies

/-! ## What is shared -/

/-- What members were told of the nodes, and what is kept of them, is what the log makes of them, and
all that they were told the surroundings can say. -/
structure Truthful (sets : Nat → NodeSet) (crew : Crew Result) : Prop where
  sets_eq : ∀ service, crew.sets service = setAfter service (sets service) crew.log
  told : ∀ front who service set back,
    crew.log = front ++ (who, ⟨.readNodes service, set⟩) :: back →
      set = setAfter service (sets service) front
  genuine : ∀ entry ∈ crew.log, entry.2.isGenuine

theorem Truthful.isGenuine_of_mem_past {sets : Nat → NodeSet} {crew : Crew Result}
    (truthful : Truthful sets crew) {who : ι} {said : Answered} (member : said ∈ crew.past who) :
    said.isGenuine :=
  truthful.genuine (who, said) (mem_of_mem_pastOf member)

theorem truthful_of_run (sets : Nat → NodeSet) (programs : (who : ι) → Program (Result who))
    (moves : List (Move ι)) : Truthful sets ((start sets programs).run moves) := by
  apply run_induction
  · refine ⟨fun service => rfl, ?_, List.forall_mem_nil _⟩
    intro front who service set back split
    cases (List.append_eq_nil_iff.mp split.symm).2
  · intro crew later stepped truthful
    cases stepped with
    | @answer who question next wish answer asks replies =>
        refine ⟨?_, ?_, ?_⟩
        · intro service
          change Answered.alter service (crew.sets service) ⟨question, answer⟩ = _
          rw [truthful.sets_eq]
          exact (setAfter_append service (sets service) crew.log [(who, ⟨question, answer⟩)]).symm
        · intro front other service set back split
          rcases concat_eq_append_cons split with ⟨same, entry, -⟩ | ⟨earlier, before, -⟩
          · cases entry
            cases replies
            rw [← same]
            exact truthful.sets_eq service
          · exact truthful.told front other service set earlier before
        · intro entry member
          rcases List.mem_append.mp member with before | now
          · exact truthful.genuine entry before
          · rw [List.mem_singleton.mp now]
            exact isGenuine_of_reply replies
    | drop who => exact ⟨truthful.sets_eq, truthful.told, truthful.genuine⟩

end Crew

/-- A dispatcher with one control host, for crews whose runs are played move by move. -/
def Dispatcher.sample : Dispatcher :=
  ⟨⟨[⟨"ctl", 8910⟩], "me", none⟩, 0, "s"⟩

end ExchangeGrid
