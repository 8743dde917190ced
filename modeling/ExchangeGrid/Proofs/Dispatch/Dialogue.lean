import ExchangeGrid.Proofs.Dispatch.Compliance

namespace ExchangeGrid

/-!
# What a program comes to

A program that is given one answer after the other asks its questions in turn and is done in the
end.  `Yields` says with which answers to which questions it is done, and with what value.  Nothing
is said of where the answers come from, so whatever happens between a program and its surroundings
is one such dialogue, and every dialogue is one that some surroundings can have with it.
-/

namespace Program

/-- A program that is answered so asks just these questions and is done with this value. -/
def Yields {α : Type} : Program α → List Answered → α → Prop
  | done value, told, result => told = [] ∧ result = value
  | ask question next, told, result =>
    ∃ answer later, told = ⟨question, answer⟩ :: later ∧ (next answer).Yields later result

theorem yields_andThen {α β : Type} {program : Program α} {next : α → Program β}
    {told : List Answered} {result : β} :
    (program.andThen next).Yields told result ↔
      ∃ front back value, told = front ++ back ∧ program.Yields front value ∧
        (next value).Yields back result := by
  induction program generalizing told with
  | done value =>
      constructor
      · intro yields
        exact ⟨[], told, value, rfl, ⟨rfl, rfl⟩, yields⟩
      · rintro ⟨front, back, other, rfl, ⟨rfl, rfl⟩, yields⟩
        exact yields
  | ask question rest inductionHypothesis =>
      constructor
      · rintro ⟨answer, later, rfl, yields⟩
        rcases (inductionHypothesis answer).mp yields with ⟨front, back, value, rfl, first, second⟩
        exact ⟨_, back, value, rfl, ⟨answer, front, rfl, first⟩, second⟩
      · rintro ⟨front, back, value, rfl, ⟨answer, later, rfl, first⟩, second⟩
        refine ⟨answer, later ++ back, rfl, ?_⟩
        exact (inductionHypothesis answer).mpr ⟨later, back, value, rfl, first, second⟩

/-- What a rule says of every way in which a program can end, it says of a dialogue. -/
theorem Complies.ends_of_yields {α : Type} {may : List Answered → Question → Prop}
    {past told : List Answered} {program : Program α} {ends : List Answered → α → Prop} {value : α}
    (complies : program.Complies may past ends) (yields : program.Yields told value) :
    ends told value := by
  induction program generalizing past told ends with
  | done other =>
      rcases yields with ⟨rfl, rfl⟩
      exact complies
  | ask question rest inductionHypothesis =>
      rcases yields with ⟨answer, later, rfl, yields⟩
      have ended := inductionHypothesis answer (complies.2 answer) yields
      exact ended

/-- Every program complies with the rule that says of it what it yields. -/
theorem complies_yields {α : Type} (program : Program α) (past : List Answered) :
    program.Complies (fun _ _ => True) past program.Yields := by
  induction program generalizing past with
  | done value => exact ⟨rfl, rfl⟩
  | ask question next inductionHypothesis =>
      refine ⟨trivial, fun answer => ?_⟩
      refine (inductionHypothesis answer _).imp ?_
      intro later value yields
      exact ⟨answer, later, rfl, yields⟩

end Program

namespace Action

def Yields {α : Type} (action : Action α) (told : List Answered) (result : Except Error α) : Prop :=
  Program.Yields action.run told result

variable {α β : Type} {told : List Answered}

theorem yields_pure {value : α} {result : Except Error α} :
    Yields (pure value) told result ↔ told = [] ∧ result = .ok value :=
  Iff.rfl

theorem yields_throw {error : Error} {result : Except Error α} :
    Yields (throw error) told result ↔ told = [] ∧ result = .error error :=
  Iff.rfl

theorem yields_ask {question : Question} {result : Except Error question.Answer} :
    Yields (ask question) told result ↔
      ∃ answer, told = [⟨question, answer⟩] ∧ result = .ok answer := by
  constructor
  · rintro ⟨answer, later, rfl, rfl, rfl⟩
    exact ⟨answer, rfl, rfl⟩
  · rintro ⟨answer, rfl, rfl⟩
    exact ⟨answer, [], rfl, rfl, rfl⟩

theorem yields_emit {event : Event} {result : Except Error Unit} :
    Yields (emit event) told result ↔ told = [⟨.emit event, ()⟩] ∧ result = .ok () := by
  unfold emit
  rw [yields_ask]
  exact ⟨fun ⟨_, told, result⟩ => ⟨told, result⟩, fun ⟨told, result⟩ => ⟨(), told, result⟩⟩

theorem yields_post {url : String} {payload : Json.Value} {auth : Auth}
    {result : Except Error Reply} :
    Yields (post url payload auth) told result ↔ told = [⟨.post url payload auth, result⟩] := by
  constructor
  · rintro ⟨answer, later, rfl, rfl, rfl⟩
    rfl
  · rintro rfl
    exact ⟨result, [], rfl, rfl, rfl⟩

/-- Where the first action fails, nothing more is asked. -/
theorem yields_bind {action : Action α} {next : α → Action β} {result : Except Error β} :
    Yields (action >>= next) told result ↔
      ∃ front back first, told = front ++ back ∧ Yields action front first ∧
        match first with
        | .ok value => Yields (next value) back result
        | .error error => back = [] ∧ result = .error error := by
  have unfolded : Yields (action >>= next) told result ↔
      ∃ front back first, told = front ++ back ∧ Program.Yields action.run front first ∧
        Program.Yields (ExceptT.bindCont next first) back result :=
    Program.yields_andThen
  rw [unfolded]
  apply exists_congr
  intro front
  apply exists_congr
  intro back
  apply exists_congr
  intro first
  cases first <;> rfl

theorem yields_outcome {action : Action α} {result : Except Error (Except Error α)} :
    Yields action.outcome told result ↔ ∃ first, Yields action told first ∧ result = .ok first := by
  have unfolded : Yields action.outcome told result ↔
      ∃ front back first, told = front ++ back ∧ Program.Yields action.run front first ∧
        back = [] ∧ result = .ok first :=
    Program.yields_andThen
  rw [unfolded]
  constructor
  · rintro ⟨front, back, first, rfl, yields, rfl, rfl⟩
    rw [List.append_nil]
    exact ⟨first, yields, rfl⟩
  · rintro ⟨first, yields, rfl⟩
    exact ⟨told, [], first, (List.append_nil told).symm, yields, rfl, rfl⟩

theorem yields_checkCancelled {result : Except Error Unit} :
    Yields checkCancelled told result ↔
      ∃ answer : Bool, told = [⟨.isCancelled, answer⟩] ∧
        result = if answer then .error .cancelled else .ok () := by
  unfold checkCancelled
  rw [yields_bind]
  constructor
  · rintro ⟨front, back, first, rfl, asked, rest⟩
    rcases yields_ask.mp asked with ⟨answer, rfl, rfl⟩
    cases answer <;> rcases rest with ⟨rfl, rfl⟩ <;> exact ⟨_, rfl, rfl⟩
  · rintro ⟨answer, rfl, rfl⟩
    refine ⟨_, [], _, rfl, yields_ask.mpr ⟨answer, rfl, rfl⟩, ?_⟩
    cases answer <;> exact ⟨rfl, rfl⟩

end Action
end ExchangeGrid
