import ExchangeGrid.Proofs.Dispatch.Compliance
import ExchangeGrid.PubSub.Endpoint

namespace ExchangeGrid
namespace PubSub

/-!
# Footing at an endpoint

What a program knows and holds while it uses an endpoint is told by its answers alone.  It is
outside until its turn comes; then it learns what is kept, and it may hold a session that nobody
else can reach: one it has taken out, or one it has dialed.  While it holds one, nothing is kept.
Only who ends a session may leave with one.  `May` says what may be asked then, and both programs of
an endpoint keep to it.
-/

/-- How a program stands at an endpoint: outside; with the turn, before it knows what is kept, once
it knows that, or while it holds a session and nothing is kept; or outside with a session of its
own. -/
inductive Footing
  | outside
  | entered
  | knows (kept : Option Nat)
  | holds (session : Nat)
  | apart (session : Nat)
  deriving DecidableEq

namespace Footing

def HasTurn : Footing → Prop
  | entered | knows _ | holds _ => True
  | outside | apart _ => False

/-- What a program with the turn knows to be kept. -/
def known? : Footing → Option (Option Nat)
  | knows kept => some kept
  | holds _ => some none
  | outside | entered | apart _ => none

def held? : Footing → Option Nat
  | holds session | apart session => some session
  | outside | entered | knows _ => none

def after : Footing → Answered → Footing
  | _, ⟨.enterEndpoint _ _, .ok ()⟩ => entered
  | _, ⟨.readSession _, kept⟩ => knows kept
  | knows (some session), ⟨.keepSession _ none, _⟩ => holds session
  | _, ⟨.keepSession _ (some session), _⟩ => knows (some session)
  | _, ⟨.dial _ _ _, .ok session⟩ => holds session
  | holds _, ⟨.close _, _⟩ => knows none
  | holds _, ⟨.release _, _⟩ => knows none
  | holds session, ⟨.leaveEndpoint _, _⟩ => apart session
  | _, ⟨.leaveEndpoint _, _⟩ => outside
  | apart _, ⟨.release _, _⟩ => outside
  | footing, _ => footing

/-- What may be asked.  `parts` says whether a program may leave with a session. -/
def May (parts : Bool) (footing : Footing) : Question → Prop
  | .enterEndpoint _ _ => footing = outside
  | .readSession _ => footing = entered
  | .isClosed session => footing = knows (some session)
  | .probe session => footing = knows (some session)
  | .keepSession _ none => ∃ kept, footing = knows kept
  | .keepSession _ (some session) => footing = holds session
  | .dial _ _ _ => footing = knows none
  | .handshake session _ => footing = holds session
  | .close session => footing = holds session
  | .release session => footing = holds session ∨ footing = apart session
  | .leaveEndpoint _ => (∃ kept, footing = knows kept) ∨
      parts = true ∧ ∃ session, footing = holds session
  | .emit _ => True
  | .farewell session => footing = apart session
  | .awaitEnd session => footing = apart session
  | _ => False

end Footing

def footingOf (past : List Answered) : Footing :=
  past.foldl Footing.after .outside

theorem footingOf_concat (past : List Answered) (said : Answered) :
    footingOf (past ++ [said]) = (footingOf past).after said :=
  List.foldl_append

/-- From one footing to the next. -/
theorem footingOf_next {past : List Answered} {footing : Footing}
    (stands : footingOf past = footing) (said : Answered) :
    footingOf (past ++ [said]) = footing.after said := by
  rw [footingOf_concat, stands]

/-- Whatever was read to be kept was let go. -/
def HasLetGo (past : List Answered) : Prop :=
  ∀ endpoint session, ⟨.readSession endpoint, some session⟩ ∈ past → ⟨.release session, ()⟩ ∈ past

/-- The rule at an endpoint: what the footing allows, and no dial before everything is let go. -/
structure MayUse (parts : Bool) (past : List Answered) (question : Question) : Prop where
  may : (footingOf past).May parts question
  letGo : ∀ url user secret, question = .dial url user secret → HasLetGo past

namespace Endpoint

open ExchangeGrid.Action

variable {endpoint : Endpoint} {user secret : String} {past : List Answered}

/-- Who knows that nothing is kept opens a session, keeps it or lets it go too, and leaves. -/
theorem mayUse_opening (free : footingOf past = .knows none) (letGo : HasLetGo past) :
    Complies (MayUse false) past
      (do
        let result ← (endpoint.openSession user secret).outcome
        Action.ask (.leaveEndpoint endpoint.id)
        Action.ofExcept result)
      fun _ _ => True := by
  refine ⟨⟨free, fun _ _ _ _ => letGo⟩, fun dialed => ?_⟩
  have stands := footingOf_next free ⟨.dial endpoint.url user secret, dialed⟩
  cases dialed with
  | error error => exact ⟨⟨.inl ⟨none, stands⟩, nofun⟩, fun _ => trivial⟩
  | ok session =>
      refine ⟨⟨stands, nofun⟩, fun shaken => ?_⟩
      replace stands :=
        footingOf_next stands ⟨.handshake session (Net.brokerName endpoint.url), shaken⟩
      rcases shaken with (⟨⟩ | fault) | ⟨⟨⟩⟩
      · refine ⟨⟨.inl stands, nofun⟩, fun released => ?_⟩
        replace stands := footingOf_next stands ⟨.release session, released⟩
        exact ⟨⟨.inl ⟨none, stands⟩, nofun⟩, fun _ => trivial⟩
      · refine ⟨⟨stands, nofun⟩, fun closing => ?_⟩
        replace stands := footingOf_next stands ⟨.close session, closing⟩
        exact ⟨⟨.inl ⟨none, stands⟩, nofun⟩, fun _ => trivial⟩
      · refine ⟨⟨stands, nofun⟩, fun kept => ?_⟩
        replace stands := footingOf_next stands ⟨.keepSession endpoint.id (some session), kept⟩
        refine ⟨⟨trivial, nofun⟩, fun told => ?_⟩
        replace stands := footingOf_next stands
          ⟨.emit (.pubSubConnected endpoint.url false), told⟩
        exact ⟨⟨.inl ⟨some session, stands⟩, nofun⟩, fun _ => trivial⟩

theorem mayUse_connect :
    Complies (MayUse false) [] (endpoint.connect user secret) fun _ _ => True := by
  refine ⟨⟨rfl, nofun⟩, fun entered => ?_⟩
  cases entered with
  | error error => trivial
  | ok entered =>
      refine ⟨⟨rfl, nofun⟩, fun kept => ?_⟩
      cases kept with
      | none => exact mayUse_opening rfl (by simp [HasLetGo])
      | some session =>
          refine ⟨⟨rfl, nofun⟩, fun isClosed => ?_⟩
          cases isClosed with
          | true =>
              refine ⟨⟨⟨_, rfl⟩, nofun⟩, fun _ => ⟨⟨.inl rfl, nofun⟩, fun _ => ?_⟩⟩
              exact mayUse_opening rfl (by simp [HasLetGo])
          | false =>
              refine ⟨⟨rfl, nofun⟩, fun answers => ?_⟩
              cases answers with
              | true =>
                  exact ⟨⟨trivial, nofun⟩, fun _ => ⟨⟨.inl ⟨_, rfl⟩, nofun⟩, fun _ => trivial⟩⟩
              | false =>
                  refine ⟨⟨⟨_, rfl⟩, nofun⟩, fun _ => ⟨⟨.inl rfl, nofun⟩, fun _ => ?_⟩⟩
                  exact mayUse_opening rfl (by simp [HasLetGo])

theorem mayUse_disconnect : Complies (MayUse true) [] endpoint.disconnect fun _ _ => True := by
  refine ⟨⟨rfl, nofun⟩, fun entered => ?_⟩
  cases entered with
  | error error => trivial
  | ok entered =>
      refine ⟨⟨rfl, nofun⟩, fun kept => ⟨⟨⟨_, rfl⟩, nofun⟩, fun _ => ?_⟩⟩
      cases kept with
      | none => exact ⟨⟨.inl ⟨none, rfl⟩, nofun⟩, fun _ => trivial⟩
      | some session =>
          refine ⟨⟨.inr ⟨rfl, session, rfl⟩, nofun⟩, fun _ => ⟨⟨rfl, nofun⟩, fun said => ?_⟩⟩
          cases said with
          | true => exact ⟨⟨rfl, nofun⟩, fun _ => ⟨⟨.inr rfl, nofun⟩, fun _ => trivial⟩⟩
          | false => exact ⟨⟨.inr rfl, nofun⟩, fun _ => trivial⟩

end Endpoint
end PubSub
end ExchangeGrid
