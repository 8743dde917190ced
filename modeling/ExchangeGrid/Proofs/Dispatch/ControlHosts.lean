import ExchangeGrid.Proofs.Dispatch.Control
import ExchangeGrid.Proofs.Dispatch.Reception

namespace ExchangeGrid

/-!
# From host to host

An operation is posted to one control host after the other, up to the first whose answer is not lost
in transport.  A `Trial` is a host with what comes of a post to it, and `Trial.concluded` is what
such trials come to.  Hosts are told apart by their places in the list, so a host that is listed
twice may answer in two ways.

`tries_hosts_in_turn` states that the trials of the listed hosts tell all the dialogues that a
request can have, and only these.  What an operation makes of a reply comes after that, so it cannot
lead to another host.
-/

namespace Controller

open ExchangeGrid.Action

/-- A control host with what comes of a post to it. -/
structure Trial where
  host : ControlHost
  outcome : Except Error Reply

namespace Trial

/-- Whether no other host is tried then. -/
def isFinal (trial : Trial) : Bool :=
  (Visit.ofReply trial.outcome).isFinal

def told (operation : String) (payload : Json.Value) (auth : Auth) (trial : Trial) : Answered :=
  ⟨.post (trial.host.url operation) payload auth, trial.outcome⟩

/-- What trials come to: to the outcome of the first that is final, if there is one. -/
def concluded (trials : List Trial) : Except Error Reply :=
  ((trials.find? isFinal).map outcome).getD (.error .noHosts)

variable {trial : Trial} {front rest trials : List Trial}

theorem isFinal_of_ok {reply : Reply} (answered : trial.outcome = .ok reply) : trial.isFinal := by
  rw [isFinal, answered]
  rfl

/-- Only an error of the kind of transport makes a client try another host. -/
theorem isFinal_eq_false_iff :
    trial.isFinal = false ↔ ∃ error, trial.outcome = .error error ∧ error.kind = .transport := by
  cases outcome : trial.outcome with
  | ok reply =>
      rw [isFinal_of_ok outcome]
      refine iff_of_false (by decide) ?_
      rintro ⟨_, equal, -⟩
      cases equal
  | error error =>
      have kinds : error.isTransport = true ↔ error.kind = .transport := beq_iff_eq
      rw [isFinal, outcome, Visit.ofReply]
      by_cases lost : error.isTransport = true
      · rw [if_pos lost]
        exact iff_of_true rfl ⟨error, rfl, kinds.mp lost⟩
      · rw [if_neg lost]
        refine iff_of_false (Ne.symm Bool.false_ne_true) ?_
        rintro ⟨_, equal, transport⟩
        cases equal
        exact lost (kinds.mpr transport)

theorem concluded_cons (trial : Trial) (trials : List Trial) :
    concluded (trial :: trials) = if trial.isFinal then trial.outcome else concluded trials := by
  unfold concluded
  rw [List.find?_cons]
  cases trial.isFinal <;> rfl

theorem concluded_of_final (onward : ∀ earlier ∈ front, earlier.isFinal = false)
    (final : trial.isFinal) : concluded (front ++ trial :: rest) = trial.outcome := by
  induction front with
  | nil => exact (concluded_cons trial rest).trans (if_pos final)
  | cons first front inductionHypothesis =>
      rcases List.forall_mem_cons.mp onward with ⟨here, behind⟩
      rw [List.cons_append, concluded_cons, here, inductionHypothesis behind]
      rfl

theorem concluded_of_onward (onward : ∀ trial ∈ trials, trial.isFinal = false) :
    concluded trials = .error .noHosts := by
  have none : trials.find? isFinal = none :=
    List.find?_eq_none.mpr fun trial member => Bool.eq_false_iff.mp (onward trial member)
  rw [concluded, none]
  rfl

/-- There seems to be no host where all are lost, and where the first that is not says so itself. -/
theorem concluded_eq_noHosts_iff :
    concluded trials = .error .noHosts ↔
      (∀ trial ∈ trials, trial.isFinal = false) ∨
        ∃ front trial rest, trials = front ++ trial :: rest ∧
          (∀ earlier ∈ front, earlier.isFinal = false) ∧ trial.outcome = .error .noHosts := by
  constructor
  · intro none
    rcases exists_first_or isFinal trials with onward | ⟨front, trial, rest, rfl, onward, final⟩
    · exact .inl onward
    · rw [concluded_of_final onward final] at none
      exact .inr ⟨front, trial, rest, rfl, onward, none⟩
  · rintro (onward | ⟨front, trial, rest, rfl, onward, none⟩)
    · exact concluded_of_onward onward
    · have final : trial.isFinal := by
        rw [isFinal, none]
        rfl
      rw [concluded_of_final onward final, none]

end Trial

section
variable {control : Controller} {operation : String} {payload : Json.Value} {auth : Auth}
  {told : List Answered} {result : Except Error Reply}

/-- What follows the answer to a post. -/
theorem yields_afterPost {host : ControlHost} {outcome : Except Error Reply}
    {others : Action Reply} :
    (match outcome with
      | .ok reply => pure reply
      | .error error => if error.isTransport then others else throw error
      : Action Reply).Yields told result ↔
      if Trial.isFinal ⟨host, outcome⟩ then told = [] ∧ result = outcome
      else others.Yields told result := by
  cases outcome with
  | ok reply => exact Iff.rfl
  | error error =>
      by_cases lost : error.isTransport = true <;>
        simp only [Trial.isFinal, Visit.ofReply, lost] <;> exact Iff.rfl

/-- One host is asked, and the others only if it was not final. -/
theorem yields_tryHosts_cons {host : ControlHost} {hosts : List ControlHost} :
    (tryHosts operation payload auth (host :: hosts)).Yields told result ↔
      ∃ outcome later, told = Trial.told operation payload auth ⟨host, outcome⟩ :: later ∧
        if Trial.isFinal ⟨host, outcome⟩ then later = [] ∧ result = outcome
        else (tryHosts operation payload auth hosts).Yields later result := by
  rw [tryHosts, yields_bind]
  constructor
  · rintro ⟨_, later, _, rfl, asked, onward⟩
    rcases yields_outcome.mp asked with ⟨outcome, posted, rfl⟩
    rw [yields_post.mp posted]
    exact ⟨outcome, later, rfl, yields_afterPost.mp onward⟩
  · rintro ⟨outcome, later, rfl, onward⟩
    exact ⟨[_], later, .ok outcome, rfl,
      yields_outcome.mpr ⟨outcome, yields_post.mpr rfl, rfl⟩, yields_afterPost.mpr onward⟩

/-- What is said on the way to a result, by what comes of a post to each host. -/
theorem yields_tryHosts {hosts : List ControlHost} :
    (tryHosts operation payload auth hosts).Yields told result ↔
      ∃ trials : List Trial, trials.map Trial.host = hosts ∧
        told = (upTo Trial.isFinal trials).map (Trial.told operation payload auth) ∧
        result = Trial.concluded trials := by
  induction hosts generalizing told result with
  | nil =>
      rw [tryHosts, yields_throw]
      constructor
      · rintro ⟨rfl, rfl⟩
        exact ⟨[], rfl, rfl, rfl⟩
      · rintro ⟨trials, none, rfl, rfl⟩
        rw [List.map_eq_nil_iff.mp none]
        exact ⟨rfl, rfl⟩
  | cons host hosts inductionHypothesis =>
      rw [yields_tryHosts_cons]
      constructor
      · rintro ⟨outcome, later, rfl, onward⟩
        by_cases final : Trial.isFinal ⟨host, outcome⟩
        · rw [if_pos final] at onward
          rcases onward with ⟨rfl, rfl⟩
          -- The hosts behind the last are not asked, so anything may become of them.
          refine ⟨⟨host, result⟩ :: hosts.map (⟨·, result⟩), ?_, ?_, ?_⟩
          · rw [List.map_cons, List.map_map]
            exact congrArg (host :: ·) (List.map_id hosts)
          · rw [upTo_cons, if_pos final]
            rfl
          · rw [Trial.concluded_cons, if_pos final]
        · rw [if_neg final] at onward
          rcases inductionHypothesis.mp onward with ⟨trials, rfl, rfl, rfl⟩
          refine ⟨⟨host, outcome⟩ :: trials, rfl, ?_, ?_⟩
          · rw [upTo_cons, if_neg final]
            rfl
          · rw [Trial.concluded_cons, if_neg final]
      · rintro ⟨trials, listed, rfl, rfl⟩
        cases trials with
        | nil => cases listed
        | cons trial trials =>
            cases listed
            rw [upTo_cons, Trial.concluded_cons]
            by_cases final : trial.isFinal
            · rw [if_pos final, if_pos final]
              exact ⟨trial.outcome, [], rfl, (if_pos final).mpr ⟨rfl, rfl⟩⟩
            · rw [if_neg final, if_neg final]
              exact ⟨trial.outcome, _, rfl,
                (if_neg final).mpr (inductionHypothesis.mpr ⟨trials, rfl, rfl, rfl⟩)⟩

theorem yields_request :
    (control.request operation payload auth).Yields told result ↔
      ∃ trials : List Trial, trials.map Trial.host = control.hosts ∧
        told = (upTo Trial.isFinal trials).map (Trial.told operation payload auth) ∧
        result = Trial.concluded trials :=
  yields_tryHosts

/-- Behind a final answer nothing is posted, and the request comes to this answer. -/
theorem of_yields_request {front later : List Answered} {url : String} {sent : Json.Value}
    {credentials : Auth} {outcome : Except Error Reply}
    (yields : (control.request operation payload auth).Yields
      (front ++ ⟨.post url sent credentials, outcome⟩ :: later) result)
    (final : (Visit.ofReply outcome).isFinal) : later = [] ∧ result = outcome := by
  rcases yields_request.mp yields with ⟨trials, -, cut, rfl⟩
  rcases List.map_eq_append_iff.mp cut.symm with ⟨earlier, behind, tried, -, saidBehind⟩
  rcases List.map_eq_cons_iff.mp saidBehind with ⟨trial, others, rfl, said, rfl⟩
  cases said
  rcases exists_of_upTo_eq tried final with ⟨rfl, onward, others, rfl⟩
  exact ⟨rfl, Trial.concluded_of_final onward final⟩

end

/-! ## What an operation makes of a reply -/

/-- What is read from a reply says nothing more. -/
theorem yields_read {α : Type} {control : Controller} {operation : String} {payload : Json.Value}
    {auth : Auth} {read : Reply → Except Error α} {told : List Answered}
    {result : Except Error α} :
    (do
      let reply ← control.request operation payload auth
      Action.ofExcept (read reply) : Action α).Yields told result ↔ ∃ answer,
      (control.request operation payload auth).Yields told answer ∧ result = answer.bind read := by
  rw [yields_bind]
  constructor
  · rintro ⟨front, back, answer, rfl, yields, rest⟩
    cases answer <;> rcases rest with ⟨rfl, rfl⟩ <;> rw [List.append_nil] <;>
      exact ⟨_, yields, rfl⟩
  · rintro ⟨answer, yields, rfl⟩
    refine ⟨told, [], answer, (List.append_nil told).symm, yields, ?_⟩
    cases answer <;> exact ⟨rfl, rfl⟩

/-- An operation sends one request with the credentials of the client, and then reads the reply. -/
structure Reads {α : Type} (control : Controller) (operation : String) (payload : Json.Value)
    (read : Reply → Except Error α) (action : Action α) : Prop where
  /-- It says what the request says, and comes to what is read from the reply. -/
  dialogue_iff : ∀ told result, action.Yields told result ↔ ∃ answer,
    (control.request operation payload .configured).Yields told answer ∧
      result = answer.bind read
  /-- No other host is asked behind a reply, whatever its status, nor once it is called off. -/
  stops : ∀ front url sent auth answer later result,
    action.Yields (front ++ ⟨.post url sent auth, answer⟩ :: later) result →
      (∃ reply, answer = .ok reply) ∨ answer = .error .cancelled → later = []
  /-- A status beyond success is an error that names it. -/
  refuses : ∀ front url sent auth reply later result,
    action.Yields (front ++ ⟨.post url sent auth, .ok reply⟩ :: later) result →
      299 < reply.status → result = .error (.unexpectedStatus reply.status)

section
variable {α : Type} {control : Controller} {operation : String} {payload : Json.Value}
  {read : Reply → Except Error α} {action : Action α}

theorem reads_of_eq
    (same : action = do
      let reply ← control.request operation payload .configured
      Action.ofExcept (read reply))
    (refused : ∀ reply, 299 < reply.status →
      read reply = .error (.unexpectedStatus reply.status)) :
    control.Reads operation payload read action := by
  have dialogue : ∀ told result, action.Yields told result ↔ ∃ answer,
      (control.request operation payload .configured).Yields told answer ∧
        result = answer.bind read := by
    intro told result
    rw [same]
    exact yields_read
  refine ⟨dialogue, ?_, ?_⟩
  · rintro front url sent auth answer later result yields settled
    rcases (dialogue _ _).mp yields with ⟨_, requested, -⟩
    have final : (Visit.ofReply answer).isFinal := by
      rcases settled with ⟨reply, rfl⟩ | rfl <;> rfl
    exact (of_yields_request requested final).1
  · intro front url sent auth reply later result yields beyond
    rcases (dialogue _ _).mp yields with ⟨_, requested, rfl⟩
    rw [(of_yields_request requested rfl).2]
    exact refused reply beyond

end

/-- Requests go from one host to the next, and end as they should. -/
structure TriesHosts (control : Controller) : Prop where
  /-- What a request says and comes to: each host in turn is sent the same payload with the same
  credentials, up to the first whose outcome is final. -/
  dialogue_iff : ∀ operation payload auth told result,
    (control.request operation payload auth).Yields told result ↔
      ∃ trials : List Trial, trials.map Trial.host = control.hosts ∧
        told = (upTo Trial.isFinal trials).map (Trial.told operation payload auth) ∧
        result = Trial.concluded trials
  /-- An outcome is final unless it is an error of the kind of transport. -/
  onward_iff : ∀ trial : Trial, trial.isFinal = false ↔
    ∃ error, trial.outcome = .error error ∧ error.kind = .transport
  /-- The first final trial is the last, and its outcome is that of the request. -/
  stops : ∀ (front : List Trial) trial rest, (∀ earlier ∈ front, earlier.isFinal = false) →
    trial.isFinal → upTo Trial.isFinal (front ++ trial :: rest) = front ++ [trial] ∧
      Trial.concluded (front ++ trial :: rest) = trial.outcome
  /-- Without a final trial all hosts are tried, and none is available. -/
  exhausts : ∀ trials : List Trial, (∀ trial ∈ trials, trial.isFinal = false) →
    upTo Trial.isFinal trials = trials ∧ Trial.concluded trials = .error .noHosts
  /-- No host is available exactly when all are lost, as they are where none is listed.  The first
  host that is not lost may say so too; its outcome is returned like any other. -/
  noHosts_iff : ∀ trials : List Trial, Trial.concluded trials = .error .noHosts ↔
    (∀ trial ∈ trials, trial.isFinal = false) ∨
      ∃ front trial rest, trials = front ++ trial :: rest ∧
        (∀ earlier ∈ front, earlier.isFinal = false) ∧ trial.outcome = .error .noHosts
  /-- A lookup is one request whose reply is read. -/
  lookUp : ∀ service, control.Reads "ServiceLookup" (lookupPayload service) Reply.listing
    (control.lookUp service)
  /-- An exchange of a secret is one request whose reply is read. -/
  exchangeSecret : ∀ node, control.Reads "AccessSecret" (exchangePayload node) Reply.sharedSecret
    (control.exchangeSecret node)

/-- Failover of the control plane is exact. -/
theorem tries_hosts_in_turn (control : Controller) : control.TriesHosts where
  dialogue_iff _ _ _ _ _ := yields_request
  onward_iff _ := Trial.isFinal_eq_false_iff
  stops _ _ _ onward final := ⟨upTo_of_first onward final, Trial.concluded_of_final onward final⟩
  exhausts _ onward := ⟨upTo_of_none onward, Trial.concluded_of_onward onward⟩
  noHosts_iff _ := Trial.concluded_eq_noHosts_iff
  lookUp service := reads_of_eq (lookUp_eq control service) fun _ beyond => if_pos beyond
  exchangeSecret node := reads_of_eq (exchangeSecret_eq control node) fun _ beyond => if_pos beyond

end Controller
end ExchangeGrid
