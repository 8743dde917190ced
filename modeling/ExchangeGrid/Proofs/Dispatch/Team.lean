import ExchangeGrid.Proofs.Dispatch.Crew
import ExchangeGrid.Proofs.Dispatch.Dialogue
import Mathlib.Logic.Relation

namespace ExchangeGrid

/-!
# Programs in any surroundings

The programs of a crew share the nodes of services.  Those of a team share whatever their
surroundings keep for them: it is said there how a question can be answered and what becomes of what
is kept, what becomes of it when a member is dropped, and what else may happen to it.

What a member was answered is always the beginning of a dialogue of its own program, and all of one
once it has returned (`goes_of_reaches`, `yields_of_returned`).  So what is known of the dialogues
of a program alone holds of it among any others.
-/

/-! ## Unfinished dialogues -/

namespace Program

/-- A program that is answered so asks just these questions and then still is to do the rest. -/
def Goes {α : Type} : Program α → List Answered → Program α → Prop
  | done value, told, rest => told = [] ∧ rest = done value
  | ask question next, told, rest => (told = [] ∧ rest = ask question next) ∨
    ∃ answer later, told = ⟨question, answer⟩ :: later ∧ (next answer).Goes later rest

variable {α : Type} {program rest : Program α} {told : List Answered}

theorem goes_nil (program : Program α) : program.Goes [] program := by
  cases program with
  | done value => exact ⟨rfl, rfl⟩
  | ask question next => exact .inl ⟨rfl, rfl⟩

/-- One more question and its answer. -/
theorem Goes.concat {question : Question} {next : question.Answer → Program α}
    (goes : program.Goes told (ask question next)) (answer : question.Answer) :
    program.Goes (told ++ [⟨question, answer⟩]) (next answer) := by
  induction program generalizing told with
  | done value => cases goes.2
  | ask other following inductionHypothesis =>
      rcases goes with ⟨rfl, same⟩ | ⟨reply, later, rfl, goes⟩
      · cases same
        exact .inr ⟨answer, [], rfl, goes_nil (next answer)⟩
      · exact .inr ⟨reply, _, rfl, inductionHypothesis reply goes⟩

/-- What is still to do complies as the whole program does. -/
theorem Complies.of_goes {may : List Answered → Question → Prop} {past : List Answered}
    {ends : List Answered → α → Prop} (complies : program.Complies may past ends)
    (goes : program.Goes told rest) :
    rest.Complies may (past ++ told) fun later => ends (told ++ later) := by
  induction program generalizing told past ends with
  | done value =>
      rcases goes with ⟨rfl, rfl⟩
      exact complies
  | ask question next inductionHypothesis =>
      rcases goes with ⟨rfl, rfl⟩ | ⟨answer, later, rfl, goes⟩
      · rw [List.append_nil]
        exact complies
      · have further := inductionHypothesis answer (complies.2 answer) goes
        rw [List.append_assoc] at further
        exact further

theorem exists_yields (program : Program α) : ∃ told value, program.Yields told value := by
  induction program with
  | done value => exact ⟨[], value, rfl, rfl⟩
  | ask question next inductionHypothesis =>
      have answer := question.plainAnswer ⟨200, []⟩
      rcases inductionHypothesis answer with ⟨told, value, yields⟩
      exact ⟨_, value, answer, told, rfl, yields⟩

/-- What was said so far and what is said later makes one dialogue. -/
theorem Goes.append {more : List Answered} {value : α} (goes : program.Goes told rest)
    (yields : rest.Yields more value) : program.Yields (told ++ more) value := by
  induction program generalizing told with
  | done other =>
      rcases goes with ⟨rfl, rfl⟩
      exact yields
  | ask question next inductionHypothesis =>
      rcases goes with ⟨rfl, rfl⟩ | ⟨answer, later, rfl, goes⟩
      · exact yields
      · exact ⟨answer, later ++ more, rfl, inductionHypothesis answer goes⟩

theorem yields_of_goes {value : α} (goes : program.Goes told (done value)) :
    program.Yields told value := by
  have whole : program.Yields (told ++ []) value := goes.append ⟨rfl, rfl⟩
  rwa [List.append_nil] at whole

end Program

/-! ## Teams -/

/-- What programs share: which answers a question of a member can have and what is kept then, what
is kept when a member is dropped, and what else may become of what is kept. -/
structure Surroundings (ι State : Type) where
  answers : State → ι → Answered → State → Prop
  dropped : State → ι → State
  passes : State → State → Prop

/-- The programs at work, what is kept for them, and what each of them was answered so far, in the
order in which it happened. -/
structure Team (State : Type) {ι : Type} (Result : ι → Type) where
  state : State
  log : List (ι × Answered)
  running : (who : ι) → Option (Program (Result who))

namespace Team

variable {ι State : Type} {Result : ι → Type}

def start (state : State) (programs : (who : ι) → Program (Result who)) : Team State Result :=
  ⟨state, [], fun who => some (programs who)⟩

def Returned (team : Team State Result) (who : ι) (result : Result who) : Prop :=
  team.running who = some (.done result)

def Asks (team : Team State Result) (who : ι) (question : Question) : Prop :=
  ∃ next, team.running who = some (.ask question next)

variable [DecidableEq ι]

def past (team : Team State Result) (who : ι) : List Answered :=
  pastOf who team.log

def resume (team : Team State Result) (who : ι) (said : Answered) (program : Program (Result who))
    (state : State) : Team State Result where
  state
  log := team.log ++ [(who, said)]
  running := Function.update team.running who (some program)

def drop (team : Team State Result) (who : ι) (state : State) : Team State Result :=
  { team with state, running := Function.update team.running who none }

variable {surroundings : Surroundings ι State} {team : Team State Result}

theorem running_resume_self {who : ι} {said : Answered} {program : Program (Result who)}
    {state : State} : (team.resume who said program state).running who = some program :=
  Function.update_self ..

theorem running_resume_of_ne {who other : ι} (different : other ≠ who) {said : Answered}
    {program : Program (Result who)} {state : State} :
    (team.resume who said program state).running other = team.running other :=
  Function.update_of_ne different ..

theorem past_resume_self {who : ι} {said : Answered} {program : Program (Result who)}
    {state : State} : (team.resume who said program state).past who = team.past who ++ [said] :=
  pastOf_concat_self who team.log said

theorem past_resume_of_ne {who other : ι} (different : other ≠ who) {said : Answered}
    {program : Program (Result who)} {state : State} :
    (team.resume who said program state).past other = team.past other :=
  pastOf_concat_of_ne (Ne.symm different) team.log said

theorem running_drop_self {who : ι} {state : State} : (team.drop who state).running who = none :=
  Function.update_self ..

theorem running_drop_of_ne {who other : ι} (different : other ≠ who) {state : State} :
    (team.drop who state).running other = team.running other :=
  Function.update_of_ne different ..

/-- What can happen next: a question is answered, a member that has not returned is dropped, or
something becomes of what is kept. -/
inductive Step (surroundings : Surroundings ι State) (team : Team State Result) :
    Team State Result → Prop
  | answer {who : ι} {question : Question} {next : question.Answer → Program (Result who)}
      {answer : question.Answer} {later : State}
      (asks : team.running who = some (.ask question next))
      (answered : surroundings.answers team.state who ⟨question, answer⟩ later) :
      Step surroundings team (team.resume who ⟨question, answer⟩ (next answer) later)
  | drop {who : ι} {question : Question} (asks : team.Asks who question) :
      Step surroundings team (team.drop who (surroundings.dropped team.state who))
  | pass {later : State} (passes : surroundings.passes team.state later) :
      Step surroundings team { team with state := later }

/-- An answer to a question that a member has asked. -/
theorem step_answer (who : ι) (question : Question) (answer : question.Answer) (later : State)
    {next : question.Answer → Program (Result who)}
    (asks : team.running who = some (.ask question next))
    (answered : surroundings.answers team.state who ⟨question, answer⟩ later) :
    Step surroundings team (team.resume who ⟨question, answer⟩ (next answer) later) :=
  .answer asks answered

/-- What can be the case after some time. -/
abbrev Reaches (surroundings : Surroundings ι State) :
    Team State Result → Team State Result → Prop :=
  Relation.ReflTransGen (Step surroundings)

theorem past_prefix_of_reaches {later : Team State Result}
    (reaches : Reaches surroundings team later) (who : ι) : team.past who <+: later.past who := by
  induction reaches with
  | refl => exact List.prefix_rfl
  | tail _ step inductionHypothesis =>
      cases step with
      | @answer other question next answer later asks answered =>
          by_cases own : who = other
          · subst own
            rw [past_resume_self]
            exact inductionHypothesis.trans (List.prefix_append _ _)
          · rw [past_resume_of_ne own]
            exact inductionHypothesis
      | drop | pass => exact inductionHypothesis

/-- On the way from one moment to another, a question of a member was answered when something was
the case. -/
def Heard (surroundings : Surroundings ι State) (first last : Team State Result) (who : ι)
    (said : Answered) (holds : Team State Result → Prop) : Prop :=
  ∃ (before : Team State Result) (next : said.question.Answer → Program (Result who))
    (later : State),
    Reaches surroundings first before ∧ before.running who = some (.ask said.question next) ∧
      surroundings.answers before.state who said later ∧
      Reaches surroundings (before.resume who said (next said.answer) later) last ∧ holds before

/-- Every answer was given at some moment, when the member had been given those before it. -/
theorem heard_of_past {first : Team State Result} (new : first.log = [])
    (reaches : Reaches surroundings first team) {who : ι} {said : Answered}
    {front back : List Answered} (told : team.past who = front ++ said :: back) :
    Heard surroundings first team who said fun before => before.past who = front := by
  induction reaches generalizing back with
  | refl =>
      rw [past, new] at told
      cases front <;> cases told
  | @tail middle last reaches step inductionHypothesis =>
      have earlier : ∀ {back : List Answered}, middle.past who = front ++ said :: back →
          Heard surroundings first last who said fun before => before.past who = front := by
        intro back told
        rcases inductionHypothesis told with
          ⟨before, next, later, from_, asks, answered, onward, is⟩
        exact ⟨before, next, later, from_, asks, answered, onward.tail step, is⟩
      cases step with
      | @answer other question next answer later asks answered =>
          by_cases own : who = other
          · subst own
            rw [past_resume_self] at told
            rcases concat_eq_append_cons told with ⟨same, rfl, -⟩ | ⟨before, split, -⟩
            · exact ⟨middle, next, later, reaches, asks, answered, .refl, same⟩
            · exact earlier split
          · rw [past_resume_of_ne own] at told
            exact earlier told
      | drop | pass => exact earlier told

theorem Heard.mem_past {first : Team State Result} {who : ι} {said : Answered}
    {holds : Team State Result → Prop} (heard : Heard surroundings first team who said holds) :
    said ∈ team.past who := by
  rcases heard with ⟨before, next, later, -, -, -, onward, -⟩
  refine (past_prefix_of_reaches onward who).subset ?_
  rw [past_resume_self]
  exact List.mem_append_right _ List.mem_cons_self

/-! ## Members alone -/

section
variable {state : State} {programs : (who : ι) → Program (Result who)}

/-- A member has begun a dialogue of its own program; unless it was dropped, it goes on with that.
-/
theorem exists_goes_of_reaches (reaches : Reaches surroundings (start state programs) team)
    (who : ι) : ∃ rest, (programs who).Goes (team.past who) rest ∧
      ∀ program, team.running who = some program → program = rest := by
  induction reaches with
  | refl => exact ⟨programs who, (programs who).goes_nil, fun _ same => (Option.some.inj same).symm⟩
  | tail _ step inductionHypothesis =>
      rcases inductionHypothesis with ⟨rest, goes, same⟩
      cases step with
      | @answer other question next answer later asks answered =>
          by_cases own : who = other
          · subst own
            rw [past_resume_self, running_resume_self]
            cases same _ asks
            exact ⟨_, goes.concat answer, fun _ same => (Option.some.inj same).symm⟩
          · rw [past_resume_of_ne own, running_resume_of_ne own]
            exact ⟨rest, goes, same⟩
      | @drop other question asks =>
          by_cases own : who = other
          · subst own
            rw [running_drop_self]
            exact ⟨rest, goes, nofun⟩
          · rw [running_drop_of_ne own]
            exact ⟨rest, goes, same⟩
      | pass passes => exact ⟨rest, goes, same⟩

theorem goes_of_reaches (reaches : Reaches surroundings (start state programs) team) {who : ι}
    {program : Program (Result who)} (running : team.running who = some program) :
    (programs who).Goes (team.past who) program := by
  rcases exists_goes_of_reaches reaches who with ⟨rest, goes, same⟩
  exact same program running ▸ goes

/-- Who has returned had a whole dialogue. -/
theorem yields_of_returned (reaches : Reaches surroundings (start state programs) team) {who : ι}
    {result : Result who} (returned : team.Returned who result) :
    (programs who).Yields (team.past who) result :=
  Program.yields_of_goes (goes_of_reaches reaches returned)

/-- What a member was answered is a front of a whole dialogue. -/
theorem exists_yields_of_reaches (reaches : Reaches surroundings (start state programs) team)
    (who : ι) : ∃ more value, (programs who).Yields (team.past who ++ more) value := by
  rcases exists_goes_of_reaches reaches who with ⟨rest, goes, -⟩
  rcases rest.exists_yields with ⟨more, value, yields⟩
  exact ⟨more, value, goes.append yields⟩

/-- A question that waits for its answer may be asked. -/
theorem may_of_asks {may : ι → List Answered → Question → Prop}
    {ends : (who : ι) → List Answered → Result who → Prop}
    (comply : ∀ who, (programs who).Complies (may who) [] (ends who))
    (reaches : Reaches surroundings (start state programs) team) {who : ι} {question : Question}
    (asks : team.Asks who question) : may who (team.past who) question := by
  rcases asks with ⟨next, asks⟩
  exact ((comply who).of_goes (goes_of_reaches reaches asks)).1

end

end Team
end ExchangeGrid
