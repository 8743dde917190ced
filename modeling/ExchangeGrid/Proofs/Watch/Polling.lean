import ExchangeGrid.Proofs.Watch.Accounts
import ExchangeGrid.Watch.Activate

namespace ExchangeGrid
namespace Watch

/-!
# Waiting for an account

A client asks for activation in rounds.  A `Round` is one request, with what comes of a post to each
host, and the pause behind it, in which the work may be called off.  The wait ends with the first
round whose request fails, whose reply says that the account is enabled, or in whose pause the work
is called off; any other round is followed by the next.
-/

open Controller (Trial)

namespace Attempt

def Yields {α : Type} (attempt : Attempt α) (told : List Answered) (result : Except Halt α) :
    Prop :=
  Program.Yields attempt.run told result

variable {α β : Type} {told : List Answered}

theorem yields_pure {value : α} {result : Except Halt α} :
    Yields (pure value) told result ↔ told = [] ∧ result = .ok value :=
  Iff.rfl

theorem yields_throw {halt : Halt} {result : Except Halt α} :
    Yields (throw halt) told result ↔ told = [] ∧ result = .error halt :=
  Iff.rfl

/-- Where the first attempt fails, nothing more is asked. -/
theorem yields_bind {attempt : Attempt α} {next : α → Attempt β} {result : Except Halt β} :
    Yields (attempt >>= next) told result ↔
      ∃ front back first, told = front ++ back ∧ Yields attempt front first ∧
        match first with
        | .ok value => Yields (next value) back result
        | .error halt => back = [] ∧ result = .error halt := by
  have unfolded : Yields (attempt >>= next) told result ↔
      ∃ front back first, told = front ++ back ∧ Program.Yields attempt.run front first ∧
        Program.Yields (ExceptT.bindCont next first) back result :=
    Program.yields_andThen
  rw [unfolded]
  apply exists_congr
  intro front
  apply exists_congr
  intro back
  apply exists_congr
  intro first
  cases first <;> rfl

/-- What is made of a value needs no more questions. -/
theorem yields_map {attempt : Attempt α} {f : α → β} {result : Except Halt β} :
    Yields (attempt >>= fun value => pure (f value)) told result ↔
      ∃ first, Yields attempt told first ∧ result = first.map f := by
  rw [yields_bind]
  constructor
  · rintro ⟨front, back, first, rfl, yields, rest⟩
    cases first <;> rcases rest with ⟨rfl, rfl⟩ <;> rw [List.append_nil] <;>
      exact ⟨_, yields, rfl⟩
  · rintro ⟨first, yields, rfl⟩
    refine ⟨told, [], first, (List.append_nil told).symm, yields, ?_⟩
    cases first <;> exact ⟨rfl, rfl⟩

/-- What was attempted is named where it fails. -/
theorem yields_inContext {context : Option String} {action : Action α} {result : Except Halt α} :
    Yields (inContext context action) told result ↔
      ∃ first, action.Yields told first ∧ result = first.mapError (.failed context) := by
  refine Iff.trans Program.yields_andThen ?_
  constructor
  · rintro ⟨front, back, first, rfl, yields, named⟩
    cases first <;> rcases named with ⟨rfl, rfl⟩ <;> rw [List.append_nil] <;>
      exact ⟨_, yields, rfl⟩
  · rintro ⟨first, yields, rfl⟩
    refine ⟨told, [], first, (List.append_nil told).symm, yields, ?_⟩
    cases first <;> exact ⟨rfl, rfl⟩

theorem yields_equip {config : Config} {result : Except Halt Unit} :
    Yields (equip config) told result ↔
      ∃ answer : Except Error Unit, told = [⟨.equip config, answer⟩] ∧
        result = answer.mapError (.failed none) := by
  unfold equip
  rw [yields_inContext]
  constructor
  · rintro ⟨first, ⟨answer, later, rfl, rfl, rfl⟩, rfl⟩
    exact ⟨_, rfl, rfl⟩
  · rintro ⟨answer, rfl, rfl⟩
    exact ⟨answer, ⟨answer, [], rfl, rfl, rfl⟩, rfl⟩

theorem yields_pause {interval : Nat} {result : Except Halt Bool} :
    Yields (ExceptT.lift (Program.question (.pause interval))) told result ↔
      ∃ calledOff : Bool, told = [⟨.pause interval, calledOff⟩] ∧ result = .ok calledOff := by
  constructor
  · rintro ⟨answer, later, rfl, rfl, rfl⟩
    exact ⟨answer, rfl, rfl⟩
  · rintro ⟨answer, rfl, rfl⟩
    exact ⟨answer, [], rfl, rfl, rfl⟩

end Attempt

/-! ## One round -/

/-- A request for activation, with what comes of a post to each host, and whether the work is called
off in the pause behind it. -/
structure Round where
  trials : List Trial
  calledOff : Bool

namespace Round

def activation (round : Round) : Except Error Json.Value :=
  (Trial.concluded round.trials).bind Reply.activation

def Enabled (round : Round) : Prop :=
  ∃ version, round.activation = .ok (stateValue "ENABLED" version)

def Waits (round : Round) : Prop :=
  ∃ state version, round.activation = .ok (stateValue state version) ∧
    (state = "PENDING" ∨ state = "DISABLED")

def ending? (round : Round) : Option (Except Halt Unit) :=
  match round.activation with
  | .error error => some (.error (.failed (some "AccountActivate") error))
  | .ok activation =>
    if isEnabled activation then some (.ok ())
    else if round.calledOff then some (.error .calledOff)
    else none

def isLast (round : Round) : Bool :=
  round.ending?.isSome

def pauses (round : Round) : Bool :=
  match round.activation with
  | .ok activation => !isEnabled activation
  | .error _ => false

def posts (control : Controller) (round : Round) : List Answered :=
  (upTo Trial.isFinal round.trials).map
    (Trial.told "AccountActivate" control.activationPayload .configured)

def told (control : Controller) (interval : Nat) (round : Round) : List Answered :=
  round.posts control ++ if round.pauses then [⟨.pause interval, round.calledOff⟩] else []

/-- What rounds come to: the end that the first of them makes which makes one. -/
def outcome (rounds : List Round) : Except Halt Unit :=
  (rounds.findSome? ending?).getD (.error .stillPending)

variable {round : Round} {front rest rounds : List Round}

/-- A request fails, or its reply tells one of three states. -/
theorem failed_or_said (round : Round) :
    (∃ error, round.activation = .error error) ∨ round.Enabled ∨ round.Waits := by
  cases said : round.activation with
  | error error => exact .inl ⟨error, rfl⟩
  | ok activation =>
      rcases Trial.exists_reply said with ⟨reply, read⟩
      rcases exists_state read with ⟨state, version, rfl, pending | rfl | disabled⟩
      · exact .inr (.inr ⟨state, version, said, .inl pending⟩)
      · exact .inr (.inl ⟨version, said⟩)
      · exact .inr (.inr ⟨state, version, said, .inr disabled⟩)

theorem ending?_of_failed {error : Error} (failed : round.activation = .error error) :
    round.ending? = some (.error (.failed (some "AccountActivate") error)) := by
  rw [ending?, failed]

theorem ending?_of_enabled (enabled : round.Enabled) : round.ending? = some (.ok ()) := by
  rcases enabled with ⟨version, said⟩
  rw [ending?, said]
  exact if_pos (isEnabled_of_enabled version)

theorem ending?_of_waits (waits : round.Waits) :
    round.ending? = if round.calledOff then some (.error .calledOff) else none := by
  rcases waits with ⟨state, version, said, waiting⟩
  rw [ending?, said]
  exact if_neg (Bool.eq_false_iff.mp (isEnabled_of_waiting version waiting))

theorem told_of_failed {control : Controller} {interval : Nat} {error : Error}
    (failed : round.activation = .error error) :
    round.told control interval = round.posts control := by
  rw [told, pauses, failed]
  exact List.append_nil _

theorem told_of_enabled {control : Controller} {interval : Nat} (enabled : round.Enabled) :
    round.told control interval = round.posts control := by
  rcases enabled with ⟨version, said⟩
  have still : round.pauses = false := by
    rw [pauses, said]
    exact congrArg not (isEnabled_of_enabled version)
  rw [told, still]
  exact List.append_nil _

theorem told_of_waits {control : Controller} {interval : Nat} (waits : round.Waits) :
    round.told control interval =
      round.posts control ++ [⟨.pause interval, round.calledOff⟩] := by
  rcases waits with ⟨state, version, said, waiting⟩
  have pausing : round.pauses = true := by
    rw [pauses, said]
    exact congrArg not (isEnabled_of_waiting version waiting)
  rw [told, pausing]
  rfl

theorem isLast_eq_false_iff : round.isLast = false ↔ round.ending? = none :=
  Option.isSome_eq_false_iff.trans Option.isNone_iff_eq_none

theorem isLast_of_ending {ending : Except Halt Unit} (ends : round.ending? = some ending) :
    round.isLast := by
  rw [isLast, ends]
  rfl

/-! ## A number of rounds -/

theorem outcome_cons (round : Round) (rounds : List Round) :
    outcome (round :: rounds) = round.ending?.getD (outcome rounds) := by
  unfold outcome
  rw [List.findSome?_cons]
  cases round.ending? <;> rfl

end Round

/-! ## The wait -/

section
variable {control : Controller} {interval times : Nat} {told : List Answered}
  {result : Except Halt Unit}

/-- What is said behind a round, and what the wait comes to: others follow only where it does not
end. -/
def Round.Precedes (control : Controller) (interval times : Nat) (later : List Answered)
    (result : Except Halt Unit) (round : Round) : Prop :=
  match round.ending? with
  | some ending => later = [] ∧ result = ending
  | none => (poll control interval times).Yields later result

theorem Round.precedes_of_ending {round : Round} {ending : Except Halt Unit}
    (ends : round.ending? = some ending) :
    round.Precedes control interval times told result ↔ told = [] ∧ result = ending := by
  rw [Round.Precedes, ends]

theorem Round.precedes_of_onward {round : Round} (onward : round.ending? = none) :
    round.Precedes control interval times told result ↔
      (poll control interval times).Yields told result := by
  rw [Round.Precedes, onward]

/-- A request for activation is a round, whatever its pause. -/
theorem yields_asked {first : Except Halt Json.Value} :
    (inContext (some "AccountActivate") control.activateAccount).Yields told first ↔
      ∃ trials : List Trial, trials.map Trial.host = control.hosts ∧ ∀ calledOff,
        told = (Round.mk trials calledOff).posts control ∧
          first = (Round.mk trials calledOff).activation.mapError
            (.failed (some "AccountActivate")) := by
  rw [Attempt.yields_inContext]
  constructor
  · rintro ⟨answer, activated, rfl⟩
    rcases (Controller.yields_of_eq control.activateAccount_eq).mp activated with
      ⟨trials, hosts_eq, rfl, rfl⟩
    exact ⟨trials, hosts_eq, fun _ => ⟨rfl, rfl⟩⟩
  · rintro ⟨trials, hosts_eq, both⟩
    rcases both false with ⟨rfl, rfl⟩
    exact ⟨_, (Controller.yields_of_eq control.activateAccount_eq).mpr
      ⟨trials, hosts_eq, rfl, rfl⟩, rfl⟩

/-- What is done about the state that a reply tells. -/
def heed (control : Controller) (interval times : Nat) (activation : Json.Value) : Attempt Unit :=
  if isEnabled activation then pure ()
  else do
    let calledOff ← ExceptT.lift (Program.question (.pause interval))
    if calledOff then throw .calledOff
    poll control interval times

theorem poll_succ (control : Controller) (interval times : Nat) :
    poll control interval (times + 1) = (do
      let activation ← inContext (some "AccountActivate") control.activateAccount
      heed control interval times activation) :=
  rfl

theorem yields_heed_of_enabled {version : String} :
    (heed control interval times (stateValue "ENABLED" version)).Yields told result ↔
      told = [] ∧ result = .ok () := by
  rw [heed, if_pos (isEnabled_of_enabled version)]
  exact Attempt.yields_pure

/-- Behind the pause the wait goes on, unless it was called off. -/
theorem yields_heed_of_waiting {state version : String}
    (waiting : state = "PENDING" ∨ state = "DISABLED") :
    (heed control interval times (stateValue state version)).Yields told result ↔
      ∃ (calledOff : Bool) (later : List Answered), told = ⟨.pause interval, calledOff⟩ :: later ∧
        if calledOff then later = [] ∧ result = .error .calledOff
        else (poll control interval times).Yields later result := by
  rw [heed, if_neg (Bool.eq_false_iff.mp (isEnabled_of_waiting version waiting)),
    Attempt.yields_bind]
  constructor
  · rintro ⟨_, back, _, rfl, paused, behind⟩
    rcases Attempt.yields_pause.mp paused with ⟨calledOff, rfl, rfl⟩
    refine ⟨calledOff, back, rfl, ?_⟩
    cases calledOff <;> exact behind
  · rintro ⟨calledOff, later, rfl, behind⟩
    refine ⟨_, later, _, rfl, Attempt.yields_pause.mpr ⟨calledOff, rfl, rfl⟩, ?_⟩
    cases calledOff <;> exact behind

/-- One round is held, and others only if it does not end the wait. -/
theorem yields_poll_succ :
    (poll control interval (times + 1)).Yields told result ↔
      ∃ round : Round, round.trials.map Trial.host = control.hosts ∧
        ∃ later, told = round.told control interval ++ later ∧
          round.Precedes control interval times later result := by
  rw [poll_succ, Attempt.yields_bind]
  constructor
  · rintro ⟨_, back, _, rfl, asked, behind⟩
    rcases yields_asked.mp asked with ⟨trials, hosts_eq, asked⟩
    rcases asked false with ⟨rfl, comes⟩
    rcases (Round.mk trials false).failed_or_said with
      ⟨error, failed⟩ | ⟨version, said⟩ | ⟨state, version, said, waiting⟩
    · rw [comes, failed] at behind
      refine ⟨⟨trials, false⟩, hosts_eq, back, ?_, ?_⟩
      · rw [Round.told_of_failed failed]
      · exact (Round.precedes_of_ending (Round.ending?_of_failed failed)).mpr behind
    · rw [comes, said] at behind
      have ends := Round.ending?_of_enabled ⟨version, said⟩
      refine ⟨⟨trials, false⟩, hosts_eq, back, ?_, ?_⟩
      · rw [Round.told_of_enabled ⟨version, said⟩]
      · exact (Round.precedes_of_ending ends).mpr (yields_heed_of_enabled.mp behind)
    · rw [comes, said] at behind
      rcases (yields_heed_of_waiting waiting).mp behind with ⟨calledOff, later, rfl, onward⟩
      have waits : (Round.mk trials calledOff).Waits := ⟨state, version, said, waiting⟩
      refine ⟨⟨trials, calledOff⟩, hosts_eq, later, ?_, ?_⟩
      · rw [Round.told_of_waits waits, List.append_assoc]
        rfl
      · rw [Round.Precedes, Round.ending?_of_waits waits]
        cases calledOff <;> exact onward
  · rintro ⟨round, hosts_eq, later, rfl, precedes⟩
    have asked : (inContext (some "AccountActivate") control.activateAccount).Yields
        (round.posts control)
        (round.activation.mapError (.failed (some "AccountActivate"))) :=
      yields_asked.mpr ⟨round.trials, hosts_eq, fun _ => ⟨rfl, rfl⟩⟩
    rcases round.failed_or_said with ⟨error, failed⟩ | enabled | waits
    · rw [Round.told_of_failed failed]
      refine ⟨_, later, _, rfl, asked, ?_⟩
      rw [failed]
      exact (Round.precedes_of_ending (Round.ending?_of_failed failed)).mp precedes
    · rw [Round.told_of_enabled enabled]
      have ended := (Round.precedes_of_ending (Round.ending?_of_enabled enabled)).mp precedes
      rcases enabled with ⟨version, said⟩
      refine ⟨_, later, _, rfl, asked, ?_⟩
      rw [said]
      exact yields_heed_of_enabled.mpr ended
    · rw [Round.told_of_waits waits, List.append_assoc]
      rw [Round.Precedes, Round.ending?_of_waits waits] at precedes
      rcases waits with ⟨state, version, said, waiting⟩
      refine ⟨_, _, _, rfl, asked, ?_⟩
      rw [said]
      refine (yields_heed_of_waiting waiting).mpr ⟨round.calledOff, later, rfl, ?_⟩
      cases calledOff : round.calledOff <;> rw [calledOff] at precedes <;> exact precedes

/-- The trials of hosts of which nothing else is known. -/
theorem exists_trials (hosts : List ControlHost) :
    ∃ trials : List Trial, trials.map Trial.host = hosts := by
  refine ⟨hosts.map (⟨·, .error .noHosts⟩), ?_⟩
  rw [List.map_map]
  exact List.map_id hosts

/-- Rounds of which nothing else is known. -/
theorem exists_rounds (hosts : List ControlHost) (count : Nat) :
    ∃ rounds : List Round, rounds.length = count ∧
      ∀ round ∈ rounds, round.trials.map Trial.host = hosts := by
  rcases exists_trials hosts with ⟨trials, hosts_eq⟩
  refine ⟨List.replicate count ⟨trials, false⟩, List.length_replicate, fun round member => ?_⟩
  rw [List.eq_of_mem_replicate member]
  exact hosts_eq

/-- What is said in a wait, by what comes of each of its rounds. -/
theorem yields_poll :
    (poll control interval times).Yields told result ↔
      ∃ rounds : List Round, rounds.length = times ∧
        (∀ round ∈ rounds, round.trials.map Trial.host = control.hosts) ∧
        told = (upTo Round.isLast rounds).flatMap (Round.told control interval) ∧
        result = Round.outcome rounds := by
  induction times generalizing told result with
  | zero =>
      rw [poll, Attempt.yields_throw]
      constructor
      · rintro ⟨rfl, rfl⟩
        exact ⟨[], rfl, List.forall_mem_nil _, rfl, rfl⟩
      · rintro ⟨rounds, none, -, rfl, rfl⟩
        rw [List.eq_nil_of_length_eq_zero none]
        exact ⟨rfl, rfl⟩
  | succ times inductionHypothesis =>
      rw [yields_poll_succ]
      constructor
      · rintro ⟨round, hosts_eq, later, rfl, precedes⟩
        cases ends : round.ending? with
        | some ending =>
            rcases (Round.precedes_of_ending ends).mp precedes with ⟨rfl, rfl⟩
            -- The rounds behind the last are not held, so anything may become of them.
            rcases exists_rounds control.hosts times with ⟨others, counted, fits⟩
            refine ⟨round :: others, congrArg (· + 1) counted,
              List.forall_mem_cons.mpr ⟨hosts_eq, fits⟩, ?_, ?_⟩
            · rw [upTo_cons, if_pos (Round.isLast_of_ending ends), List.flatMap_singleton,
                List.append_nil]
            · rw [Round.outcome_cons, ends]
              rfl
        | none =>
            rcases inductionHypothesis.mp ((Round.precedes_of_onward ends).mp precedes) with
              ⟨rounds, rfl, fits, rfl, rfl⟩
            have onward := Bool.eq_false_iff.mp (Round.isLast_eq_false_iff.mpr ends)
            refine ⟨round :: rounds, rfl, List.forall_mem_cons.mpr ⟨hosts_eq, fits⟩, ?_, ?_⟩
            · rw [upTo_cons, if_neg onward]
              rfl
            · rw [Round.outcome_cons, ends]
              rfl
      · rintro ⟨rounds, counted, fits, rfl, rfl⟩
        cases rounds with
        | nil => cases counted
        | cons round rounds =>
            rcases List.forall_mem_cons.mp fits with ⟨hosts_eq, fits⟩
            rw [upTo_cons, Round.outcome_cons]
            cases ends : round.ending? with
            | some ending =>
                rw [if_pos (Round.isLast_of_ending ends)]
                exact ⟨round, hosts_eq, [], rfl, (Round.precedes_of_ending ends).mpr ⟨rfl, rfl⟩⟩
            | none =>
                rw [if_neg (Bool.eq_false_iff.mp (Round.isLast_eq_false_iff.mpr ends))]
                exact ⟨round, hosts_eq, _, rfl, (Round.precedes_of_onward ends).mpr
                  (inductionHypothesis.mpr ⟨rounds, Nat.succ.inj counted, fits, rfl, rfl⟩)⟩

end
end Watch
end ExchangeGrid
