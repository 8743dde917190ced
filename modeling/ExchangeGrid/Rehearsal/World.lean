import ExchangeGrid.Net.Request
import ExchangeGrid.PubSub.Subscribe

namespace ExchangeGrid
namespace Rehearsal

/-!
# Surroundings for rehearsals

Surroundings in which a program of a client runs by itself: requests are answered from a list of
prepared rules, or by a network, and everything that the client keeps is kept here.  What was
sent and told is written down, so that a rehearsal can be compared with what was expected of it.
-/

/-- A prepared answer: to which requests it is given, how often, and what happens with it. -/
structure Rule where
  urlPart : String := ""
  payloadPart : String := ""
  times : Option Nat := none
  yields : Bool := false
  cancels : Bool := false
  looksUpAgain : Option String := none
  answer : Except Error Reply

def Rule.answers (rule : Rule) (url payload : String) : Bool :=
  rule.times != some 0 && occursIn rule.urlPart.toList url.toList &&
    occursIn rule.payloadPart.toList payload.toList

def Rule.spend (rule : Rule) : Rule :=
  { rule with times := rule.times.map (· - 1) }

/-- A request that was made. -/
structure Sent where
  url : String
  payload : Json.Value
  auth : Auth

/-- How requests are answered. -/
inductive Peers
  | prepared
  | network

/-- All that surrounds the programs of one client. -/
structure World where
  control : Controller
  transport : Net.Transport
  network : Net.Network
  peers : Peers
  rules : List Rule := []
  cancelled : Bool := false
  sent : List Sent := []
  events : List Event := []
  made : List (Registry × String × Nat) := []
  sets : List (Nat × NodeSet) := []
  sessions : List (Nat × Nat) := []
  busy : List Nat := []
  nextSession : Nat := 0

namespace World

def find (world : World) (registry : Registry) (key : String) : Option Nat :=
  (world.made.find? fun entry => entry.1 = registry ∧ entry.2.1 = key).map fun entry => entry.2.2

def findOrMake (world : World) (registry : Registry) (key : String) : Nat × World :=
  match world.find registry key with
  | some found => (found, world)
  | none =>
    (world.made.length, { world with made := world.made ++ [(registry, key, world.made.length)] })

def instances (world : World) (registry : Registry) : List (String × Nat) :=
  (world.made.filter fun entry => entry.1 = registry).map fun entry => entry.2

def set (world : World) (service : Nat) : NodeSet :=
  ((world.sets.find? (·.1 == service)).map (·.2)).getD {}

def alterSet (world : World) (service : Nat) (change : NodeSet → NodeSet) : World :=
  { world with
    sets := (service, change (world.set service)) :: world.sets.filter (·.1 != service) }

def emit (world : World) (event : Event) : World :=
  { world with events := world.events ++ [event] }

/-- Use up a time of the first rule that answers a request. -/
def takeRule (url payload : String) : List Rule → Option (Rule × List Rule)
  | [] => none
  | rule :: rules =>
    if rule.answers url payload then some (rule, rule.spend :: rules)
    else (takeRule url payload rules).map fun (found, rules) => (found, rule :: rules)

def postThrough (world : World) (url : String) (payload : Json.Value) (auth : Auth) :
    Except Error Reply × World :=
  let request := world.transport.request.withAuth auth
  match request.post world.network world.cancelled url payload with
  | .ok reply => (.ok reply, world.emit (.restCall url reply.status 0))
  | .error error => (.error error, world)

/-- Open a session.  It has a number of its own. -/
def dial (world : World) (url user secret : String) : Except Error Nat × World :=
  match world.transport.dial world.network world.cancelled url user secret with
  | .error error => (.error error, world)
  | .ok () => (.ok world.nextSession, { world with nextSession := world.nextSession + 1 })

/-- Answer a question that needs no other program.  A session ends as soon as it is opened: there
is nobody here to talk to. -/
def answerPlain (world : World) : (question : Question) → question.Answer × World
  | .post url payload auth => world.postThrough url payload auth
  | .equip config =>
    match Net.Transport.make world.network.files config with
    | .ok transport => (.ok (), { world with transport })
    | .error error => (.error error, world)
  | .isCancelled | .pause _ => (world.cancelled, world)
  | .emit event => ((), world.emit event)
  | .find registry key => (world.find registry key, world)
  | .findOrMake registry key => world.findOrMake registry key
  | .instances registry => (world.instances registry, world)
  | .readNodes service => (world.set service, world)
  | .replaceNodes service nodes => ((), world.alterSet service fun set => set.replace nodes)
  | .storeSecret service generation index name secret =>
    ((), world.alterSet service fun set => set.store generation index name secret)
  | .enterLookup service =>
    if world.cancelled then (.error .cancelled, world)
    else (.ok (), { world with busy := service :: world.busy })
  | .leaveLookup service => ((), { world with busy := world.busy.erase service })
  | .enterEndpoint _ patient =>
    (if patient && world.cancelled then .error .cancelled else .ok (), world)
  | .leaveEndpoint _ | .release _ | .awaitEnd _ => ((), world)
  | .readSession endpoint =>
    ((world.sessions.find? (·.1 == endpoint)).map (·.2), world)
  | .keepSession endpoint session =>
    ((), { world with
      sessions := session.toList.map (endpoint, ·) ++ world.sessions.filter (·.1 != endpoint) })
  | .dial url user secret => world.dial url user secret
  | .isClosed _ => (true, world)
  | .probe _ | .farewell _ => (false, world)
  | .handshake _ _ => (.error (.fault "the connection ended"), world)
  | .close _ => (none, world)
  | .subscribe _ _ | .unsubscribe _ _ => (.error "the session has ended", world)

/-- Run a program in surroundings that answer its questions. -/
def runIn {α : Type} (answer : World → (question : Question) → question.Answer × World) :
    World → Program α → α × World
  | world, .done value => (value, world)
  | world, .ask question next =>
    let (reply, world) := answer world question
    runIn answer world (next reply)

/-- Answer a request from the rules.  A rule may look a service up again before it answers, with
rules that may do so in turn; `depth` bounds how often. -/
def answer : (depth : Nat) → World → (question : Question) → question.Answer × World
  | depth, world, .post url payload auth =>
    match world.peers with
    | .network => world.postThrough url payload auth
    | .prepared =>
      let world := { world with sent := world.sent ++ [⟨url, payload, auth⟩] }
      match takeRule url payload.compact world.rules with
      | none => (.error (.http "no rule"), world)
      | some (rule, rules) =>
        let world := { world with rules, cancelled := world.cancelled || rule.cancels }
        match depth, rule.looksUpAgain with
        | depth + 1, some name =>
          match world.find .services name with
          | none => (rule.answer, world)
          | some id =>
            let fresh := { world with cancelled := false }
            let service : Dispatcher := ⟨world.control, id, name⟩
            let (result, fresh) := runIn (answer depth) fresh service.lookUp.run
            let world := { fresh with cancelled := world.cancelled }
            match result with
            | .ok _ => (rule.answer, world)
            | .error error => (.error error, world)
        | _, _ => (rule.answer, world)
  | _, world, question => world.answerPlain question

/-- How deep lookups may be nested in answers. -/
def depthLimit : Nat := 64

def run {α : Type} (world : World) (action : Action α) : Except Error α × World :=
  runIn (answer depthLimit) world action.run

/-! ## Two programs at once -/

/-- A program that may have to wait: either for a turn, or because the answer it is about to get
lets others go first. -/
structure Task (α : Type) where
  program : Program α
  hasYielded : Bool := false

/-- Whether a question has to wait for a turn that another program holds. -/
def mustWait (world : World) : Question → Bool
  | .enterLookup service => !world.cancelled && world.busy.contains service
  | _ => false

def letsOthersGo (world : World) : Question → Bool
  | .post url payload _ =>
    match takeRule url payload.compact world.rules with
    | some (rule, _) => rule.yields
    | none => false
  | _ => false

/-- Run a program until it is done or has to wait. -/
def advance {α : Type} : World → (hasYielded : Bool) → Program α → World × Task α
  | world, _, .done value => (world, ⟨.done value, false⟩)
  | world, hasYielded, .ask question next =>
    if world.mustWait question then (world, ⟨.ask question next, hasYielded⟩)
    else if world.letsOthersGo question && !hasYielded then (world, ⟨.ask question next, true⟩)
    else
      let (reply, world) := answer depthLimit world question
      advance world false (next reply)

/-- Run two programs by turns, until both are done. -/
def runBoth {α β : Type} : (rounds : Nat) → World → Task α → Task β → Option (α × β) × World
  | 0, world, _, _ => (none, world)
  | rounds + 1, world, first, second =>
    let (world, first) := world.advance first.hasYielded first.program
    let (world, second) := world.advance second.hasYielded second.program
    match first.program, second.program with
    | .done a, .done b => (some (a, b), world)
    | _, _ => runBoth rounds world first second

def runTogether {α β : Type} (world : World) (rounds : Nat) (first : Action α)
    (second : Action β) : Option (Except Error α × Except Error β) × World :=
  runBoth rounds world ⟨first.run, false⟩ ⟨second.run, false⟩

end World
end Rehearsal
end ExchangeGrid
