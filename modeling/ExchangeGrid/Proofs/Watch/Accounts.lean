import ExchangeGrid.Proofs.Dispatch.ControlHosts
import ExchangeGrid.Proofs.Json.Records

namespace ExchangeGrid

/-!
# Accounts of the control plane

To ask for an account, and to ask for its activation, is one request each.  What the answers come to
is read from the one reply that ended the request: the name and the password of a new account, or
one of three states.
-/

namespace Reply

def newAccount (reply : Reply) : Except Error Json.Value :=
  if reply.status = 403 ∨ reply.status = 503 then .error .createForbidden
  else if reply.status = 409 then .error .createConflict
  else if reply.status > 299 then .error (.unexpectedStatus reply.status)
  else reply.decode accountCreation

def activation (reply : Reply) : Except Error Json.Value :=
  if reply.status = 401 then .error .activateUnauthorized
  else if reply.status > 299 then .error (.unexpectedStatus reply.status)
  else reply.decode accountActivation

theorem exists_document_of_decode {shape : Json.Shape} {reply : Reply} {value : Json.Value}
    (decoded : reply.decode shape = .ok value) :
    ∃ document, shape.read .json document = some value := by
  unfold decode at decoded
  split at decoded
  · rename_i found parsed
    cases decoded
    unfold Json.Shape.parse? at parsed
    split at parsed
    · cases parsed
    · rename_i document _
      exact ⟨document, parsed⟩
  · cases decoded

end Reply

def accountValue (name password : String) : Json.Value :=
  .object [("nodeName", .string name), ("password", .string password)]

def stateValue (state version : String) : Json.Value :=
  .object [("accountState", .string state), ("version", .string version)]

theorem exists_string_of_admits {name : String} {value : Json.Value}
    (admits : (Json.Field.textOrEmpty name).Admits value) : ∃ text, value = .string text := by
  rcases admits with ⟨dialect, document, read⟩ | default | absent
  · exact Json.exists_string_of_read read
  · cases default
    exact ⟨"", rfl⟩
  · cases absent

/-- A reply that tells of an account tells its name and its password. -/
theorem exists_account {reply : Reply} {created : Json.Value}
    (told : reply.newAccount = .ok created) :
    ∃ name password, created = accountValue name password := by
  have decoded : reply.decode accountCreation = .ok created := by
    unfold Reply.newAccount at told
    split at told
    · cases told
    split at told
    · cases told
    split at told
    · cases told
    · exact told
  rcases Reply.exists_document_of_decode decoded with ⟨document, read⟩
  rcases Json.exists_values_of_pair read (fun _ => rfl) (fun _ => rfl) with
    ⟨_, _, rfl, admitsName, admitsPassword⟩
  rcases exists_string_of_admits admitsName with ⟨name, rfl⟩
  rcases exists_string_of_admits admitsPassword with ⟨password, rfl⟩
  exact ⟨name, password, rfl⟩

/-- A reply that tells a state tells one of three. -/
theorem exists_state {reply : Reply} {activation : Json.Value}
    (told : reply.activation = .ok activation) :
    ∃ state version, activation = stateValue state version ∧
      (state = "PENDING" ∨ state = "ENABLED" ∨ state = "DISABLED") := by
  have decoded : reply.decode accountActivation = .ok activation := by
    unfold Reply.activation at told
    split at told
    · cases told
    split at told
    · cases told
    · exact told
  rcases Reply.exists_document_of_decode decoded with ⟨document, read⟩
  rcases Json.exists_values_of_pair read (fun _ => rfl) (fun _ => rfl) with
    ⟨_, _, rfl, ⟨dialect, inner, readState⟩ | default | absent, admitsVersion⟩
  · rcases Json.mem_of_choice readState with ⟨state, listed, rfl⟩
    rcases exists_string_of_admits admitsVersion with ⟨version, rfl⟩
    refine ⟨state, version, rfl, ?_⟩
    simpa only [List.mem_cons, List.not_mem_nil, or_false] using listed
  · cases default
  · cases absent

@[simp] theorem isEnabled_stateValue (state version : String) :
    isEnabled (stateValue state version) = (state == "ENABLED") := by
  simp only [isEnabled, stateValue, Json.Value.get?, List.find?_cons, beq_self_eq_true,
    Option.map_some, Option.bind_some, Json.Value.string?, Option.some_beq_some]

theorem isEnabled_of_enabled (version : String) : isEnabled (stateValue "ENABLED" version) = true :=
  isEnabled_stateValue "ENABLED" version

theorem isEnabled_of_waiting {state : String} (version : String)
    (waiting : state = "PENDING" ∨ state = "DISABLED") :
    isEnabled (stateValue state version) = false := by
  rw [isEnabled_stateValue]
  rcases waiting with rfl | rfl <;> decide

namespace Controller

open ExchangeGrid.Action

def creationPayload (control : Controller) : Json.Value :=
  .object [("nodeName", .string control.nodeName)]

def activationPayload (control : Controller) : Json.Value :=
  match control.description with
  | none => .object []
  | some text => .object [("description", .string text)]

variable {control : Controller} {told : List Answered}

theorem createAccount_eq (control : Controller) :
    control.createAccount = (do
      let reply ← control.request "AccountCreate" control.creationPayload .anonymous
      Action.ofExcept reply.newAccount) := by
  unfold createAccount
  congr 1
  funext reply
  unfold Reply.newAccount
  split
  · rfl
  split
  · rfl
  split <;> rfl

theorem activateAccount_eq (control : Controller) :
    control.activateAccount = (do
      let reply ← control.request "AccountActivate" control.activationPayload .configured
      Action.ofExcept reply.activation) := by
  unfold activateAccount
  dsimp only
  unfold activationPayload
  congr 1
  funext reply
  unfold Reply.activation
  split
  · rfl
  split <;> rfl

section
variable {α : Type} {operation : String} {payload : Json.Value} {auth : Auth}
  {read : Reply → Except Error α} {action : Action α} {result : Except Error α}

/-- An operation that is one request says what that says, and comes to what is read from the
reply. -/
theorem yields_of_eq
    (same : action = do
      let reply ← control.request operation payload auth
      Action.ofExcept (read reply)) :
    action.Yields told result ↔ ∃ trials : List Trial, trials.map Trial.host = control.hosts ∧
      told = (upTo Trial.isFinal trials).map (Trial.told operation payload auth) ∧
      result = (Trial.concluded trials).bind read := by
  rw [same, yields_read]
  constructor
  · rintro ⟨answer, yields, rfl⟩
    rcases yields_request.mp yields with ⟨trials, hosts_eq, rfl, rfl⟩
    exact ⟨trials, hosts_eq, rfl, rfl⟩
  · rintro ⟨trials, hosts_eq, rfl, rfl⟩
    exact ⟨_, yields_request.mpr ⟨trials, hosts_eq, rfl, rfl⟩, rfl⟩

/-- What is read well is read from a reply. -/
theorem Trial.exists_reply {trials : List Trial} {value : α}
    (comes : (concluded trials).bind read = .ok value) : ∃ reply, read reply = .ok value := by
  cases answer : concluded trials with
  | error error =>
      rw [answer] at comes
      cases comes
  | ok reply =>
      rw [answer] at comes
      exact ⟨reply, comes⟩

end

end Controller
end ExchangeGrid
