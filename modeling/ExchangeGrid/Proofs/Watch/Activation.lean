import ExchangeGrid.Proofs.Dispatch.Credentials
import ExchangeGrid.Proofs.Watch.Polling

namespace ExchangeGrid
namespace Watch

/-!
# Activation as a whole

All that is decided outside of an activation is what comes of each post, and in which pause the work
is called off.  A `Script` says so for as many requests as there may be, and by it everything else
is told: what is said, what the posts carry, and what is left in the settings.

`activates_by_script` states that scripts tell all the dialogues that an activation can have, and
only these.
-/

open Controller (Trial)

variable {files : Net.PemFiles} {config : Config} {transport : Net.Transport}
  {interval times : Nat} {told : List Answered}

/-! ## One step after the other -/

/-- Settings with the password of a new account. -/
def keepPassword (config : Config) (created : Json.Value) : Config :=
  let password := ((created.get? "password").bind Json.Value.string?).getD ""
  { config with auth := { config.auth with password := some password } }

/-- The settings with which activation is asked for, by what comes of the request for an account. -/
def settled (config : Config) (creation : List Trial) : Except Halt Config :=
  if needsAccount config then
    (((Trial.concluded creation).bind Reply.newAccount).mapError
      (.failed (some "AccountCreate"))).map (keepPassword config)
  else .ok config

def creationTold (config : Config) (creation : List Trial) : List Answered :=
  if needsAccount config then
    ⟨.equip config, .ok ()⟩ :: (upTo Trial.isFinal creation).map
      (Trial.told "AccountCreate" (Controller.ofConfig config).creationPayload .anonymous)
  else []

theorem equipped_equip (isMade : Net.Transport.make files config = .ok transport) :
    Equipped files [⟨.equip config, .ok ()⟩] := by
  intro other answer member
  cases List.mem_singleton.mp member
  rw [isMade]
  rfl

theorem equipped_posts {operation : String} {payload : Json.Value} {auth : Auth}
    (trials : List Trial) : Equipped files (trials.map (Trial.told operation payload auth)) := by
  intro config answer member
  rcases List.mem_map.mp member with ⟨trial, -, equal⟩
  cases equal

/-- No transport is made while an account is waited for. -/
theorem equipped_rounds {control : Controller} (rounds : List Round) :
    Equipped files (rounds.flatMap (Round.told control interval)) := by
  intro config answer member
  rcases List.mem_flatMap.mp member with ⟨round, -, inRound⟩
  rcases List.mem_append.mp inRound with posted | paused
  · exact equipped_posts _ config answer posted
  · cases pauses : round.pauses <;> rw [pauses] at paused
    · cases paused
    · cases List.mem_singleton.mp paused

/-- Where a transport can be made, it is had, and the attempt goes on. -/
theorem yields_equip_then {α : Type} {next : Unit → Attempt α} {result : Except Halt α}
    (isMade : Net.Transport.make files config = .ok transport) :
    ((equip config >>= next).Yields told result ∧ Equipped files told) ↔
      ∃ later, told = ⟨.equip config, .ok ()⟩ :: later ∧
        (next ()).Yields later result ∧ Equipped files later := by
  rw [Attempt.yields_bind]
  constructor
  · rintro ⟨⟨_, back, _, rfl, equips, behind⟩, equipped⟩
    rcases Attempt.yields_equip.mp equips with ⟨answer, rfl, rfl⟩
    have had := equipped config answer List.mem_cons_self
    rw [isMade] at had
    cases had
    exact ⟨back, rfl, behind, (equipped_append.mp equipped).2⟩
  · rintro ⟨later, rfl, yields, equipped⟩
    have equips : (equip config).Yields [⟨.equip config, .ok ()⟩] (.ok ()) :=
      Attempt.yields_equip.mpr ⟨.ok (), rfl, rfl⟩
    exact ⟨⟨[_], later, _, rfl, equips, yields⟩,
      equipped_append.mpr ⟨equipped_equip isMade, equipped⟩⟩

theorem yields_provideAccount {result : Except Halt Config}
    (isMade : Net.Transport.make files config = .ok transport) :
    ((provideAccount config).Yields told result ∧ Equipped files told) ↔
      ∃ creation : List Trial, creation.map Trial.host = config.hosts ∧
        told = creationTold config creation ∧ result = settled config creation := by
  unfold provideAccount creationTold settled
  by_cases needed : needsAccount config
  · simp only [if_pos needed]
    rw [yields_equip_then isMade]
    constructor
    · rintro ⟨later, rfl, yields, -⟩
      rcases Attempt.yields_map.mp yields with ⟨_, asked, rfl⟩
      rcases Attempt.yields_inContext.mp asked with ⟨_, created, rfl⟩
      rcases (Controller.yields_of_eq (Controller.createAccount_eq _)).mp created with
        ⟨creation, hosts_eq, rfl, rfl⟩
      exact ⟨creation, hosts_eq, rfl, rfl⟩
    · rintro ⟨creation, hosts_eq, rfl, rfl⟩
      have created := (Controller.yields_of_eq
        (Controller.createAccount_eq (.ofConfig config))).mpr ⟨creation, hosts_eq, rfl, rfl⟩
      exact ⟨_, rfl, Attempt.yields_map.mpr
        ⟨_, Attempt.yields_inContext.mpr ⟨_, created, rfl⟩, rfl⟩, equipped_posts _⟩
  · simp only [if_neg needed]
    constructor
    · rintro ⟨⟨rfl, rfl⟩, -⟩
      rcases exists_trials config.hosts with ⟨creation, hosts_eq⟩
      exact ⟨creation, hosts_eq, rfl, rfl⟩
    · rintro ⟨creation, -, rfl, rfl⟩
      exact ⟨⟨rfl, rfl⟩, equipped_nil⟩

theorem yields_awaitEnabled {result : Except Halt Unit}
    (isMade : Net.Transport.make files config = .ok transport) :
    ((awaitEnabled config interval times).Yields told result ∧ Equipped files told) ↔
      ∃ rounds : List Round, rounds.length = times ∧
        (∀ round ∈ rounds, round.trials.map Trial.host = config.hosts) ∧
        told = ⟨.equip config, .ok ()⟩ :: (upTo Round.isLast rounds).flatMap
          (Round.told (Controller.ofConfig config) interval) ∧
        result = Round.outcome rounds := by
  unfold awaitEnabled
  rw [yields_equip_then isMade]
  constructor
  · rintro ⟨later, rfl, yields, -⟩
    rcases yields_poll.mp yields with ⟨rounds, counted, fits, rfl, rfl⟩
    exact ⟨rounds, counted, fits, rfl, rfl⟩
  · rintro ⟨rounds, counted, fits, rfl, rfl⟩
    exact ⟨_, rfl, yields_poll.mpr ⟨rounds, counted, fits, rfl, rfl⟩, equipped_rounds _⟩

/-- Activation is asked for only with settings that there are, and with these. -/
theorem yields_activate {outcome : Except Halt Unit} {after : Config} :
    (activate config interval times).Yields told (outcome, after) ↔
      (∃ halt, (provideAccount config).Yields told (.error halt) ∧
        outcome = .error halt ∧ after = config) ∨
      ∃ front back, told = front ++ back ∧ (provideAccount config).Yields front (.ok after) ∧
        (awaitEnabled after interval times).Yields back outcome := by
  refine Iff.trans Program.yields_andThen ?_
  constructor
  · rintro ⟨front, back, halt | final, rfl, provided, behind⟩
    · rcases behind with ⟨rfl, equal⟩
      cases equal
      rw [List.append_nil]
      exact .inl ⟨halt, provided, rfl, rfl⟩
    · rcases Program.yields_andThen.mp behind with ⟨_, _, _, rfl, awaited, rfl, equal⟩
      cases equal
      rw [List.append_nil]
      exact .inr ⟨front, _, rfl, provided, awaited⟩
  · rintro (⟨halt, provided, rfl, rfl⟩ | ⟨front, back, rfl, provided, awaited⟩)
    · exact ⟨told, [], _, (List.append_nil told).symm, provided, rfl, rfl⟩
    · exact ⟨front, back, _, rfl, provided, Program.yields_andThen.mpr
        ⟨back, [], _, (List.append_nil back).symm, awaited, rfl, rfl⟩⟩

/-- What comes of each post, and in which pauses the work is called off. -/
structure Script where
  creation : List Trial
  rounds : List Round

namespace Script

variable {script : Script}

/-- A script is one for the hosts of some settings, and for so many rounds. -/
structure Fits (config : Config) (times : Nat) (script : Script) : Prop where
  creation_hosts : script.creation.map Trial.host = config.hosts
  rounds_length : script.rounds.length = times
  rounds_hosts : ∀ round ∈ script.rounds, round.trials.map Trial.host = config.hosts

def dialogue (config : Config) (interval : Nat) (script : Script) : List Answered :=
  creationTold config script.creation ++
    match settled config script.creation with
    | .error _ => []
    | .ok after => ⟨.equip after, .ok ()⟩ :: (upTo Round.isLast script.rounds).flatMap
        (Round.told (.ofConfig config) interval)

/-- The outcome, and the settings that are left. -/
def result (config : Config) (script : Script) : Except Halt Unit × Config :=
  match settled config script.creation with
  | .error halt => (.error halt, config)
  | .ok after => (Round.outcome script.rounds, after)

end Script

/-! ## The settings that are had -/

section
variable {creation : List Trial} {after : Config}

theorem settled_of_spared (spared : needsAccount config = false) (creation : List Trial) :
    settled config creation = .ok config := by
  rw [settled, spared]
  rfl

theorem settled_of_account {name password : String} (needed : needsAccount config)
    (account : (Trial.concluded creation).bind Reply.newAccount =
      .ok (accountValue name password)) :
    settled config creation =
      .ok { config with auth := { config.auth with password := some password } } := by
  rw [settled, if_pos needed, account]
  rfl

theorem settled_of_failed {error : Error} (needed : needsAccount config)
    (failed : (Trial.concluded creation).bind Reply.newAccount = .error error) :
    settled config creation = .error (.failed (some "AccountCreate") error) := by
  rw [settled, if_pos needed, failed]
  rfl

/-- No account is needed, or one is made, or the request for one fails. -/
theorem spared_or_answered (config : Config) (creation : List Trial) :
    needsAccount config = false ∨
    (needsAccount config ∧ ∃ name password, (Trial.concluded creation).bind Reply.newAccount =
      .ok (accountValue name password)) ∨
    (needsAccount config ∧ ∃ error,
      (Trial.concluded creation).bind Reply.newAccount = .error error) := by
  cases needed : needsAccount config with
  | false => exact .inl rfl
  | true =>
      cases account : (Trial.concluded creation).bind Reply.newAccount with
      | error error => exact .inr (.inr ⟨rfl, error, rfl⟩)
      | ok created =>
          rcases Trial.exists_reply account with ⟨reply, told⟩
          rcases exists_account told with ⟨name, password, rfl⟩
          exact .inr (.inl ⟨rfl, name, password, rfl⟩)

theorem settled_eq_ok_iff :
    settled config creation = .ok after ↔
      (needsAccount config = false ∧ after = config) ∨
      needsAccount config ∧ ∃ name password,
        (Trial.concluded creation).bind Reply.newAccount = .ok (accountValue name password) ∧
        after = { config with auth := { config.auth with password := some password } } := by
  constructor
  · intro had
    rcases spared_or_answered config creation with
      spared | ⟨needed, name, password, account⟩ | ⟨needed, error, failed⟩
    · rw [settled_of_spared spared] at had
      cases had
      exact .inl ⟨spared, rfl⟩
    · rw [settled_of_account needed account] at had
      cases had
      exact .inr ⟨needed, name, password, account, rfl⟩
    · rw [settled_of_failed needed failed] at had
      cases had
  · rintro (⟨spared, rfl⟩ | ⟨needed, name, password, account, rfl⟩)
    · exact settled_of_spared spared creation
    · exact settled_of_account needed account

/-- Nothing but the password is changed. -/
theorem exists_password_of_settled (had : settled config creation = .ok after) :
    ∃ password, after = { config with auth := { config.auth with password } } := by
  rcases settled_eq_ok_iff.mp had with ⟨-, rfl⟩ | ⟨-, -, password, -, rfl⟩
  · exact ⟨_, rfl⟩
  · exact ⟨some password, rfl⟩

end

/-! ## What is said -/

/-- Scripts tell all that can be said where transports are had, and only that. -/
theorem yields_activate_iff {outcome : Except Halt Unit} {after : Config}
    (isMade : Net.Transport.make files config = .ok transport) :
    ((activate config interval times).Yields told (outcome, after) ∧ Equipped files told) ↔
      ∃ script : Script, script.Fits config times ∧ told = script.dialogue config interval ∧
        (outcome, after) = script.result config := by
  rw [yields_activate]
  constructor
  · rintro ⟨⟨halt, provided, rfl, same⟩ | ⟨front, back, rfl, provided, awaited⟩, equipped⟩
    · rcases (yields_provideAccount isMade).mp ⟨provided, equipped⟩ with
        ⟨creation, hosts_eq, rfl, failed⟩
      rcases exists_rounds config.hosts times with ⟨rounds, counted, fits⟩
      refine ⟨⟨creation, rounds⟩, ⟨hosts_eq, counted, fits⟩, ?_, ?_⟩
      · rw [Script.dialogue, ← failed, List.append_nil]
      · rw [Script.result, ← failed, same]
    · rcases equipped_append.mp equipped with ⟨before, behind⟩
      rcases (yields_provideAccount isMade).mp ⟨provided, before⟩ with
        ⟨creation, hosts_eq, rfl, had⟩
      rcases exists_password_of_settled had.symm with ⟨password, rfl⟩
      rcases (yields_awaitEnabled (Net.Transport.make_with_auth isMade _)).mp ⟨awaited, behind⟩
        with ⟨rounds, counted, fits, rfl, rfl⟩
      refine ⟨⟨creation, rounds⟩, ⟨hosts_eq, counted, fits⟩, ?_, ?_⟩
      · rw [Script.dialogue, ← had]
        rfl
      · rw [Script.result, ← had]
  · rintro ⟨⟨creation, rounds⟩, ⟨hosts_eq, counted, fits⟩, rfl, comes⟩
    rcases (yields_provideAccount isMade).mpr ⟨creation, hosts_eq, rfl, rfl⟩ with
      ⟨provided, before⟩
    cases settles : settled config creation with
    | error halt =>
        rw [settles] at provided
        rw [Script.result, settles] at comes
        cases comes
        rw [Script.dialogue, settles, List.append_nil]
        exact ⟨.inl ⟨halt, provided, rfl, rfl⟩, before⟩
    | ok had =>
        rw [settles] at provided
        rw [Script.result, settles] at comes
        cases comes
        rw [Script.dialogue, settles]
        rcases exists_password_of_settled settles with ⟨password, rfl⟩
        have isMade := Net.Transport.make_with_auth isMade { config.auth with password }
        rcases (yields_awaitEnabled isMade).mpr ⟨rounds, counted, fits, rfl, rfl⟩ with
          ⟨awaited, behind⟩
        exact ⟨.inr ⟨_, _, rfl, provided, awaited⟩, equipped_append.mpr ⟨before, behind⟩⟩

/-! ## What is posted -/

def Round.sent (control : Controller) (request : Net.Request) (round : Round) : List Post :=
  (upTo Trial.isFinal round.trials).map
    (Trial.post request "AccountActivate" control.activationPayload)

theorem carried_rounds {control : Controller} (rounds : List Round) :
    carried files transport (rounds.flatMap (Round.told control interval)) =
      rounds.flatMap (Round.sent control transport.request) := by
  induction rounds with
  | nil => rfl
  | cons round rounds inductionHypothesis =>
      rw [List.flatMap_cons, List.flatMap_cons, Round.told, Round.posts, List.append_assoc,
        carried_trials]
      refine congrArg (round.sent control transport.request ++ ·) ?_
      -- A pause carries nothing.
      cases round.pauses <;> exact inductionHypothesis

/-- The posts of the request for an account, if one is needed: without credentials. -/
def creationSent (config : Config) (transport : Net.Transport) (creation : List Trial) :
    List Post :=
  if needsAccount config then
    (upTo Trial.isFinal creation).map
      (Trial.post transport.request.anonymous "AccountCreate"
        (Controller.ofConfig config).creationPayload)
  else []

/-- The posts of the requests for activation, with some credentials. -/
def Script.asked (config : Config) (transport : Net.Transport)
    (credentials : Option (String × String)) (script : Script) : List Post :=
  (upTo Round.isLast script.rounds).flatMap
    (Round.sent (.ofConfig config) { transport with credentials }.request)

/-- What is posted: activation is asked for with the credentials of the settings that are had. -/
def Script.sent (config : Config) (transport : Net.Transport) (script : Script) : List Post :=
  creationSent config transport script.creation ++
    match settled config script.creation with
    | .error _ => []
    | .ok after => script.asked config transport after.credentials

theorem carried_creation {initial : Net.Transport} {later : List Answered}
    (isMade : Net.Transport.make files config = .ok transport) (creation : List Trial) :
    carried files initial (creationTold config creation ++ later) =
      creationSent config transport creation ++
        carried files (if needsAccount config then transport else initial) later := by
  unfold creationTold creationSent
  by_cases needed : needsAccount config
  · rw [if_pos needed, if_pos needed, if_pos needed, List.cons_append, carried_equip isMade,
      carried_trials]
    rfl
  · rw [if_neg needed, if_neg needed, if_neg needed]
    rfl

/-- A dialogue carries what its script says, whatever the transport was before. -/
theorem carried_dialogue (isMade : Net.Transport.make files config = .ok transport)
    (script : Script) (initial : Net.Transport) :
    carried files initial (script.dialogue config interval) = script.sent config transport := by
  rw [Script.dialogue, carried_creation isMade, Script.sent]
  refine congrArg (creationSent config transport script.creation ++ ·) ?_
  cases settles : settled config script.creation with
  | error halt => rfl
  | ok after =>
      rcases exists_password_of_settled settles with ⟨password, rfl⟩
      have isMade := Net.Transport.make_with_auth isMade { config.auth with password }
      exact (carried_equip isMade).trans (carried_rounds _)

/-! ## The whole -/

/-- Settings without credentials, and two hosts. -/
def newcomer : Config :=
  { hosts := [⟨"pan-1", 8910⟩, ⟨"pan-2", 8910⟩], nodeName := "watcher" }

def accountReply (name password : String) : Reply :=
  ⟨200, Utf8.bytes ("\x7b\"nodeName\":\"" ++ name ++ "\",\"password\":\"" ++ password ++ "\"\x7d")⟩

def stateReply (state : String) : Reply :=
  ⟨200, Utf8.bytes ("\x7b\"accountState\":\"" ++ state ++ "\"\x7d")⟩

/-- The first host is out of reach when the account is asked for; then it answers, and only the
third time with the account enabled. -/
def approval : Script where
  creation := [⟨⟨"pan-1", 8910⟩, .error (.http "refused")⟩,
    ⟨⟨"pan-2", 8910⟩, .ok (accountReply "watcher" "gen")⟩]
  rounds := ["PENDING", "DISABLED", "ENABLED"].map fun state =>
    ⟨[⟨⟨"pan-1", 8910⟩, .ok (stateReply state)⟩, ⟨⟨"pan-2", 8910⟩, .error .noHosts⟩], false⟩

end Watch
end ExchangeGrid
