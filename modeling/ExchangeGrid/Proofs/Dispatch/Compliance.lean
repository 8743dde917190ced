import ExchangeGrid.Service.Dispatch

namespace ExchangeGrid

/-!
# What a program may ask

A program is judged by the questions it asks.  Whether a question is proper may depend on what the
program was answered before, but on nothing else: a program knows of its surroundings only what it
was told.  So a rule of conduct says what may be asked after which answers, and a program complies
with it if it does so whatever it is told.  Programs that are put together from others comply as
their parts do.
-/

/-- A question together with the answer that was given. -/
structure Answered where
  question : Question
  answer : question.Answer

namespace Program

/-- From some past on, a program asks only what it may, and it ends as `ends` says of what it was
answered since then. -/
def Complies {α : Type} (may : List Answered → Question → Prop) :
    List Answered → Program α → (List Answered → α → Prop) → Prop
  | _, done value, ends => ends [] value
  | past, ask question next, ends =>
    may past question ∧ ∀ answer, Complies may (past ++ [⟨question, answer⟩]) (next answer)
      fun later value => ends (⟨question, answer⟩ :: later) value

variable {α β : Type} {may : List Answered → Question → Prop} {past : List Answered}

theorem complies_andThen {program : Program α} {next : α → Program β}
    {ends : List Answered → β → Prop} :
    (program.andThen next).Complies may past ends ↔
      program.Complies may past fun first value =>
        (next value).Complies may (past ++ first) fun later => ends (first ++ later) := by
  induction program generalizing past ends with
  | done value =>
      rw [andThen, Complies, List.append_nil]
      rfl
  | ask question rest inductionHypothesis =>
      rw [andThen, Complies, Complies]
      apply and_congr_right'
      apply forall_congr'
      intro answer
      rw [inductionHypothesis answer]
      simp only [List.append_assoc, List.cons_append, List.nil_append]

theorem Complies.imp {program : Program α} {ends others : List Answered → α → Prop}
    (complies : program.Complies may past ends)
    (implies : ∀ later value, ends later value → others later value) :
    program.Complies may past others := by
  induction program generalizing past ends others with
  | done value => exact implies [] value complies
  | ask question rest inductionHypothesis =>
      refine ⟨complies.1, fun answer => ?_⟩
      apply inductionHypothesis answer (complies.2 answer)
      intro later value
      exact implies (⟨question, answer⟩ :: later) value

/-- A program that asks only what is always allowed complies with any rule that allows as much. -/
theorem Complies.widen {allowed : Question → Prop} {program : Program α} {earlier : List Answered}
    {ends : List Answered → α → Prop}
    (complies : program.Complies (fun _ question => allowed question) earlier ends)
    (widens : ∀ more question, allowed question → may (past ++ more) question) :
    program.Complies may past ends := by
  induction program generalizing past earlier ends with
  | done value => exact complies
  | ask question rest inductionHypothesis =>
      refine ⟨?_, fun answer => ?_⟩
      · have mayNow := widens [] question complies.1
        rw [List.append_nil] at mayNow
        exact mayNow
      · apply inductionHypothesis answer (complies.2 answer)
        intro more other isAllowed
        rw [List.append_assoc]
        exact widens ([⟨question, answer⟩] ++ more) other isAllowed

end Program

namespace Action

/-- An action complies as the program does that it is. -/
def Complies {α : Type} (may : List Answered → Question → Prop) (past : List Answered)
    (action : Action α) (ends : List Answered → Except Error α → Prop) : Prop :=
  Program.Complies may past action.run ends

variable {α β : Type} {may : List Answered → Question → Prop} {past : List Answered}

section
variable {ends : List Answered → Except Error α → Prop}

theorem complies_pure {value : α} : Complies may past (pure value) ends ↔ ends [] (.ok value) :=
  Iff.rfl

theorem complies_throw {error : Error} :
    Complies may past (throw error) ends ↔ ends [] (.error error) :=
  Iff.rfl

theorem complies_ofExcept {result : Except Error α} :
    Complies may past (ofExcept result) ends ↔ ends [] result :=
  Iff.rfl

theorem Complies.imp {action : Action α} {others : List Answered → Except Error α → Prop}
    (complies : Complies may past action ends)
    (implies : ∀ later result, ends later result → others later result) :
    Complies may past action others :=
  Program.Complies.imp complies implies

end

theorem complies_ask {question : Question}
    {ends : List Answered → Except Error question.Answer → Prop} :
    Complies may past (ask question) ends ↔
      may past question ∧ ∀ answer, ends [⟨question, answer⟩] (.ok answer) :=
  Iff.rfl

theorem complies_post {url : String} {payload : Json.Value} {auth : Auth}
    {ends : List Answered → Except Error Reply → Prop} :
    Complies may past (post url payload auth) ends ↔
      may past (.post url payload auth) ∧
        ∀ answer, ends [⟨.post url payload auth, answer⟩] answer :=
  Iff.rfl

theorem complies_nodes {service : Dispatcher}
    {ends : List Answered → Except Error (List ServiceNode) → Prop} :
    Complies may past service.nodes ends ↔
      may past (.readNodes service.id) ∧
        ∀ set : NodeSet, ends [⟨.readNodes service.id, set⟩] (.ok set.nodes) :=
  Iff.rfl

theorem complies_emit {event : Event} {ends : List Answered → Except Error Unit → Prop} :
    Complies may past (emit event) ends ↔
      may past (.emit event) ∧ ∀ answer : Unit, ends [⟨.emit event, answer⟩] (.ok answer) :=
  Iff.rfl

theorem complies_enterLookup {service : Nat} {ends : List Answered → Except Error Unit → Prop} :
    Complies may past (attempt (Program.question (.enterLookup service))) ends ↔
      may past (.enterLookup service) ∧
        ∀ answer : Except Error Unit, ends [⟨.enterLookup service, answer⟩] answer :=
  Iff.rfl

theorem complies_enterEndpoint {endpoint : Nat} {patient : Bool}
    {ends : List Answered → Except Error Unit → Prop} :
    Complies may past (attempt (Program.question (.enterEndpoint endpoint patient))) ends ↔
      may past (.enterEndpoint endpoint patient) ∧ ∀ answer : Except Error Unit,
        ends [⟨.enterEndpoint endpoint patient, answer⟩] answer :=
  Iff.rfl

theorem complies_dial {url user secret : String} {ends : List Answered → Except Error Nat → Prop} :
    Complies may past (attempt (Program.question (.dial url user secret))) ends ↔
      may past (.dial url user secret) ∧ ∀ answer : Except Error Nat,
        ends [⟨.dial url user secret, answer⟩] answer :=
  Iff.rfl

/-- Where the first action fails, nothing more is asked. -/
theorem complies_bind {action : Action α} {next : α → Action β}
    {ends : List Answered → Except Error β → Prop} :
    Complies may past (action >>= next) ends ↔
      Complies may past action fun first result =>
        match result with
        | .ok value => Complies may (past ++ first) (next value) fun later => ends (first ++ later)
        | .error error => ends first (.error error) := by
  have unfolded : Complies may past (action >>= next) ends ↔
      Program.Complies may past action.run fun first result =>
        Program.Complies may (past ++ first) (ExceptT.bindCont next result) fun later =>
          ends (first ++ later) :=
    Program.complies_andThen
  rw [unfolded]
  apply iff_of_eq
  apply congrArg (Program.Complies may past action.run)
  funext first result
  cases result with
  | ok value => rfl
  | error error =>
      change ends (first ++ []) (.error error) = ends first (.error error)
      rw [List.append_nil]

theorem Complies.bind {action : Action α} {next : α → Action β}
    {ends : List Answered → Except Error α → Prop} {others : List Answered → Except Error β → Prop}
    (first : Complies may past action ends)
    (succeeds : ∀ later value, ends later (.ok value) →
      Complies may (past ++ later) (next value) fun more => others (later ++ more))
    (fails : ∀ later error, ends later (.error error) → others later (.error error)) :
    Complies may past (action >>= next) others := by
  rw [complies_bind]
  apply first.imp
  intro later result ended
  cases result with
  | ok value => exact succeeds later value ended
  | error error => exact fails later error ended

theorem complies_outcome {action : Action α}
    {ends : List Answered → Except Error (Except Error α) → Prop} :
    Complies may past action.outcome ends ↔
      Complies may past action fun later result => ends later (.ok result) := by
  have unfolded : Complies may past action.outcome ends ↔
      Program.Complies may past action.run fun first result => ends (first ++ []) (.ok result) :=
    Program.complies_andThen
  rw [unfolded]
  simp only [List.append_nil, Complies]

theorem complies_checkCancelled {ends : List Answered → Except Error Unit → Prop} :
    Complies may past checkCancelled ends ↔
      may past .isCancelled ∧ ∀ answer : Bool,
        ends [⟨.isCancelled, answer⟩] (if answer then .error .cancelled else .ok ()) := by
  unfold checkCancelled
  rw [complies_bind, complies_ask]
  apply and_congr_right'
  apply forall_congr'
  intro answer
  cases answer <;> rfl

end Action
end ExchangeGrid
