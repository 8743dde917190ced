import ExchangeGrid.Proofs.Dispatch.Dialogue
import ExchangeGrid.PubSub.Endpoint

namespace ExchangeGrid
namespace PubSub

/-!
# Courses of a connection

What a program that connects to an endpoint is answered decides what it asks next, so there are few
courses it can take: it is turned away before its turn; or it finds a session that answers; or it
dials once, after it has let go what it found, and that comes out in one of four ways.
`Course.told` and `Course.result` spell them out, and `yields_connect` states that these are all of
them.
-/

/-- What is found that cannot be used: nothing at all, a session that has ended, or one that does
not answer. -/
inductive Found
  | nothing
  | closed (session : Nat)
  | silent (session : Nat)

/-- How it comes out to open a session: it cannot be dialed, the handshake succeeds, is called off,
or fails; then something may also go wrong in closing the socket. -/
inductive Opening
  | refused (error : Error)
  | opened (session : Nat)
  | calledOff (session : Nat)
  | failed (session : Nat) (fault : String) (closing : Option String)

/-- How it comes out to connect. -/
inductive Course
  | turnedAway (error : Error)
  | reused (session : Nat)
  | dialed (found : Found) (opening : Opening)

variable (endpoint : Endpoint) (user secret : String)

/-- What is said until nothing is kept any more. -/
def Found.told : Found → List Answered
  | nothing => [⟨.readSession endpoint.id, none⟩]
  | closed session => [⟨.readSession endpoint.id, some session⟩, ⟨.isClosed session, true⟩,
      ⟨.keepSession endpoint.id none, ()⟩, ⟨.release session, ()⟩]
  | silent session => [⟨.readSession endpoint.id, some session⟩, ⟨.isClosed session, false⟩,
      ⟨.probe session, false⟩, ⟨.keepSession endpoint.id none, ()⟩, ⟨.release session, ()⟩]

namespace Opening

def told : Opening → List Answered
  | refused error => [⟨.dial endpoint.url user secret, .error error⟩]
  | opened session => [⟨.dial endpoint.url user secret, .ok session⟩,
      ⟨.handshake session (Net.brokerName endpoint.url), .ok ()⟩,
      ⟨.keepSession endpoint.id (some session), ()⟩,
      ⟨.emit (.pubSubConnected endpoint.url false), ()⟩]
  | calledOff session => [⟨.dial endpoint.url user secret, .ok session⟩,
      ⟨.handshake session (Net.brokerName endpoint.url), .error .cancelled⟩,
      ⟨.release session, ()⟩]
  | failed session fault closing => [⟨.dial endpoint.url user secret, .ok session⟩,
      ⟨.handshake session (Net.brokerName endpoint.url), .error (.fault fault)⟩,
      ⟨.close session, closing⟩]

def result : Opening → Except Error Nat
  | refused error => .error error
  | opened session => .ok session
  | calledOff _ => .error .cancelled
  | failed _ fault closing => .error (Endpoint.handshakeError endpoint.url fault closing)

end Opening

namespace Course

def told : Course → List Answered
  | turnedAway error => [⟨.enterEndpoint endpoint.id true, .error error⟩]
  | reused session => [⟨.enterEndpoint endpoint.id true, .ok ()⟩,
      ⟨.readSession endpoint.id, some session⟩, ⟨.isClosed session, false⟩,
      ⟨.probe session, true⟩, ⟨.emit (.pubSubConnected endpoint.url true), ()⟩,
      ⟨.leaveEndpoint endpoint.id, ()⟩]
  | dialed found opening => ⟨.enterEndpoint endpoint.id true, .ok ()⟩ ::
      (found.told endpoint ++ opening.told endpoint user secret ++
        [⟨.leaveEndpoint endpoint.id, ()⟩])

def result : Course → Except Error Nat
  | turnedAway error => .error error
  | reused session => .ok session
  | dialed _ opening => opening.result endpoint

end Course

namespace Endpoint

open ExchangeGrid.Action

variable {endpoint : Endpoint} {user secret : String} {told : List Answered}
  {result : Except Error Nat}

theorem yields_dial :
    (attempt (Program.question (.dial endpoint.url user secret))).Yields told result ↔
      told = [⟨.dial endpoint.url user secret, result⟩] := by
  constructor
  · rintro ⟨answer, later, rfl, rfl, rfl⟩
    rfl
  · rintro rfl
    exact ⟨result, [], rfl, rfl, rfl⟩

theorem yields_openSession : (endpoint.openSession user secret).Yields told result ↔
    ∃ opening : Opening, told = opening.told endpoint user secret ∧
      result = opening.result endpoint := by
  constructor
  · intro yields
    rcases yields_bind.mp yields with ⟨_, _, dialed, rfl, dials, rest⟩
    cases yields_dial.mp dials
    cases dialed with
    | error error =>
        rcases rest with ⟨rfl, rfl⟩
        exact ⟨.refused error, rfl, rfl⟩
    | ok session =>
        rcases rest with ⟨answer, _, rfl, rest⟩
        rcases answer with (⟨⟩ | fault) | ⟨⟨⟩⟩
        · rcases rest with ⟨_, _, rfl, rfl, rfl⟩
          exact ⟨.calledOff session, rfl, rfl⟩
        · rcases rest with ⟨closing, _, rfl, rfl, rfl⟩
          exact ⟨.failed session fault closing, rfl, rfl⟩
        · rcases rest with ⟨_, _, rfl, _, _, rfl, rfl, rfl⟩
          exact ⟨.opened session, rfl, rfl⟩
  · rintro ⟨opening, rfl, rfl⟩
    cases opening with
    | refused error => exact ⟨_, _, rfl, rfl, rfl⟩
    | opened session =>
        exact ⟨_, _, rfl, _, _, rfl, _, _, rfl, _, _, rfl, rfl, rfl⟩
    | calledOff session => exact ⟨_, _, rfl, _, _, rfl, _, _, rfl, rfl, rfl⟩
    | failed session fault closing => exact ⟨_, _, rfl, _, _, rfl, _, _, rfl, rfl, rfl⟩

/-- While the turn is held, a session that answers is used again, and otherwise one is opened. -/
theorem yields_usableSession : (endpoint.usableSession user secret).Yields told result ↔
    (∃ session, told = [⟨.readSession endpoint.id, some session⟩, ⟨.isClosed session, false⟩,
        ⟨.probe session, true⟩, ⟨.emit (.pubSubConnected endpoint.url true), ()⟩] ∧
      result = .ok session) ∨
    ∃ (found : Found) (opening : Opening),
      told = found.told endpoint ++ opening.told endpoint user secret ∧
      result = opening.result endpoint := by
  constructor
  · rintro ⟨kept, _, rfl, yields⟩
    cases kept with
    | none =>
        rcases yields_openSession.mp yields with ⟨opening, rfl, rfl⟩
        exact .inr ⟨.nothing, opening, rfl, rfl⟩
    | some session =>
        rcases yields with ⟨isClosed, _, rfl, yields⟩
        cases isClosed with
        | true =>
            rcases yields with ⟨_, _, rfl, _, _, rfl, yields⟩
            rcases yields_openSession.mp yields with ⟨opening, rfl, rfl⟩
            exact .inr ⟨.closed session, opening, rfl, rfl⟩
        | false =>
            rcases yields with ⟨answers, _, rfl, yields⟩
            cases answers with
            | true =>
                rcases yields with ⟨_, _, rfl, rfl, rfl⟩
                exact .inl ⟨session, rfl, rfl⟩
            | false =>
                rcases yields with ⟨_, _, rfl, _, _, rfl, yields⟩
                rcases yields_openSession.mp yields with ⟨opening, rfl, rfl⟩
                exact .inr ⟨.silent session, opening, rfl, rfl⟩
  · rintro (⟨session, rfl, rfl⟩ | ⟨found, opening, rfl, rfl⟩)
    · exact ⟨some session, _, rfl, false, _, rfl, true, _, rfl, _, _, rfl, rfl, rfl⟩
    · have opens : (endpoint.openSession user secret).Yields
          (opening.told endpoint user secret) (opening.result endpoint) :=
        yields_openSession.mpr ⟨opening, rfl, rfl⟩
      cases found with
      | nothing => exact ⟨none, _, rfl, opens⟩
      | closed session => exact ⟨some session, _, rfl, true, _, rfl, _, _, rfl, _, _, rfl, opens⟩
      | silent session =>
          exact ⟨some session, _, rfl, false, _, rfl, false, _, rfl, _, _, rfl, _, _, rfl, opens⟩

/-- A program that connects takes one of its courses, and each is one that it can take. -/
theorem yields_connect : (endpoint.connect user secret).Yields told result ↔
    ∃ course : Course, told = course.told endpoint user secret ∧
      result = course.result endpoint := by
  constructor
  · rintro ⟨entered, later, rfl, yields⟩
    cases entered with
    | error error =>
        rcases yields with ⟨rfl, rfl⟩
        exact ⟨.turnedAway error, rfl, rfl⟩
    | ok entered =>
        change (do
          let result ← (endpoint.usableSession user secret).outcome
          Action.ask (.leaveEndpoint endpoint.id)
          Action.ofExcept result : Action Nat).Yields later result at yields
        rcases yields_bind.mp yields with ⟨inside, _, _, rfl, tried, left⟩
        rcases yields_outcome.mp tried with ⟨result, used, rfl⟩
        rcases left with ⟨_, _, rfl, rfl, rfl⟩
        rcases yields_usableSession.mp used with ⟨session, rfl, rfl⟩ | ⟨found, opening, rfl, rfl⟩
        · exact ⟨.reused session, rfl, rfl⟩
        · exact ⟨.dialed found opening, rfl, rfl⟩
  · have goesOn : ∀ {inside : List Answered} {result : Except Error Nat},
        (endpoint.usableSession user secret).Yields inside result →
        (endpoint.connect user secret).Yields
          (⟨.enterEndpoint endpoint.id true, .ok ()⟩ ::
            (inside ++ [⟨.leaveEndpoint endpoint.id, ()⟩])) result := by
      intro inside result used
      refine ⟨.ok (), _, rfl, ?_⟩
      exact yields_bind.mpr ⟨inside, _, .ok result, rfl, yields_outcome.mpr ⟨result, used, rfl⟩,
        (), [], rfl, rfl, rfl⟩
    rintro ⟨course, rfl, rfl⟩
    cases course with
    | turnedAway error => exact ⟨.error error, [], rfl, rfl, rfl⟩
    | reused session => exact goesOn (yields_usableSession.mpr (.inl ⟨session, rfl, rfl⟩))
    | dialed found opening =>
        exact goesOn (yields_usableSession.mpr (.inr ⟨found, opening, rfl, rfl⟩))

end Endpoint

/-! ## What a course says -/

def isDial : Answered → Bool
  | ⟨.dial _ _ _, _⟩ => true
  | _ => false

def emitted? : Answered → Option Event
  | ⟨.emit event, _⟩ => some event
  | _ => none

def letGo? : Answered → Option Nat
  | ⟨.close session, _⟩ => some session
  | ⟨.release session, _⟩ => some session
  | _ => none

theorem Opening.exists_letGo {endpoint : Endpoint} {user secret : String} (opening : Opening)
    {error : Error} (failed : opening.result endpoint = .error error) {url name word : String}
    {session : Nat}
    (dialed : ⟨.dial url name word, .ok session⟩ ∈ opening.told endpoint user secret) :
    ∃ said ∈ opening.told endpoint user secret, letGo? said = some session := by
  cases opening with
  | refused => simp [told] at dialed
  | opened => cases failed
  | calledOff other =>
      have same : (url = endpoint.url ∧ name = user ∧ word = secret) ∧ session = other := by
        simpa [told] using dialed
      rcases same with ⟨-, rfl⟩
      exact ⟨⟨.release session, ()⟩, by simp [told], rfl⟩
  | failed other fault closing =>
      have same : (url = endpoint.url ∧ name = user ∧ word = secret) ∧ session = other := by
        simpa [told] using dialed
      rcases same with ⟨-, rfl⟩
      exact ⟨⟨.close session, closing⟩, by simp [told], rfl⟩

namespace Course

variable {endpoint : Endpoint} {user secret : String}

theorem countP_isDial_le (course : Course) :
    (course.told endpoint user secret).countP isDial ≤ 1 := by
  rcases course with error | session | ⟨found, opening⟩
  · exact Nat.zero_le _
  · exact Nat.zero_le _
  · cases found <;> cases opening <;> exact Nat.le_refl _

/-- What an observer is told tells how a connection came about. -/
theorem emitted (course : Course) :
    (course.told endpoint user secret).filterMap emitted? =
      match course.result endpoint with
      | .ok _ => [.pubSubConnected endpoint.url
          (!(course.told endpoint user secret).any isDial)]
      | .error _ => [] := by
  rcases course with error | session | ⟨found, opening⟩
  · rfl
  · rfl
  · cases found <;> cases opening <;> rfl

/-- Only a session that answers is used without a dial. -/
theorem eq_reused (course : Course) {session : Nat} (got : course.result endpoint = .ok session)
    (noDial : (course.told endpoint user secret).any isDial = false) :
    course = .reused session := by
  rcases course with error | other | ⟨found, opening⟩
  · cases got
  · cases got
    rfl
  · cases found <;> cases opening <;> cases noDial

theorem eq_reused_of_probe (course : Course) {session : Nat}
    (answers : ⟨.probe session, true⟩ ∈ course.told endpoint user secret) :
    course = .reused session := by
  rcases course with error | other | ⟨found, opening⟩
  · simp [told] at answers
  · simpa [told, eq_comm] using answers
  · cases found <;> cases opening <;> simp [told, Found.told, Opening.told] at answers

theorem eq_turnedAway (course : Course) {error : Error}
    (refused : ⟨.enterEndpoint endpoint.id true, .error error⟩ ∈ course.told endpoint user secret) :
    course = .turnedAway error := by
  rcases course with other | session | ⟨found, opening⟩
  · simpa [told, eq_comm] using refused
  · simp [told] at refused
  · cases found <;> cases opening <;> simp [told, Found.told, Opening.told] at refused

/-- What was dialed in vain is let go. -/
theorem exists_letGo (course : Course) {error : Error}
    (failed : course.result endpoint = .error error) {url name word : String} {session : Nat}
    (dialed : ⟨.dial url name word, .ok session⟩ ∈ course.told endpoint user secret) :
    ∃ said ∈ course.told endpoint user secret, letGo? said = some session := by
  rcases course with other | other | ⟨found, opening⟩
  · simp [told] at dialed
  · simp [told] at dialed
  · have within : ⟨.dial url name word, .ok session⟩ ∈ opening.told endpoint user secret := by
      cases found <;> simpa [told, Found.told] using dialed
    rcases opening.exists_letGo failed within with ⟨said, member, letGo⟩
    exact ⟨said, by simp [told, member], letGo⟩

end Course

end PubSub
end ExchangeGrid
