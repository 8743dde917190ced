import ExchangeGrid.Proofs.PubSub.Courses
import ExchangeGrid.Proofs.PubSub.Standing

namespace ExchangeGrid
namespace PubSub

/-!
# One session at a time

However many programs connect to an endpoint and end its sessions, in whatever order they get along,
and whatever becomes of dials, handshakes, relays and of the programs themselves, at most one relay
of the endpoint goes on, not counting those that a program is about to end.  `OneSession` says this,
and what a program that connects can rely on: a session is used again if it goes on and a pong comes
in time, and only then; otherwise what was there is closed before there is a dial; and when the
program gives its turn away, what is kept is the session it returns, or nothing if it failed.

The footing of each program tells what is shared (`Standing`), and the courses of a connection tell
the footing when it gives its turn away.
-/

/-! ## Who comes to an endpoint -/

/-- A program at an endpoint: it connects, or it ends the session. -/
inductive Guest
  | connect (user secret : String)
  | disconnect

namespace Guest

@[reducible] def Result : Guest → Type
  | connect _ _ => Except Error Nat
  | disconnect => Except Error Unit

def program (endpoint : Endpoint) : (guest : Guest) → Program guest.Result
  | connect user secret => (endpoint.connect user secret).run
  | disconnect => endpoint.disconnect.run

/-- Whether a program ends a session, and so may leave with it. -/
def parts : Guest → Bool
  | connect _ _ => false
  | disconnect => true

/-- To connect, with this outcome. -/
inductive Comes : (guest : Guest) → guest.Result → Except Error Nat → Prop
  | connect (user secret : String) (outcome : Except Error Nat) :
      Comes (.connect user secret) outcome outcome

theorem mayUse (endpoint : Endpoint) (guest : Guest) :
    (guest.program endpoint).Complies (MayUse guest.parts) [] fun _ _ => True := by
  cases guest with
  | connect => exact Endpoint.mayUse_connect
  | disconnect => exact Endpoint.mayUse_disconnect

theorem course_of_yields {endpoint : Endpoint} {guest : Guest} {told : List Answered}
    {result : guest.Result} (connects : guest.parts = false)
    (yields : (guest.program endpoint).Yields told result) :
    ∃ user secret, ∃ course : Course, told = course.told endpoint user secret ∧
      guest.Comes result (course.result endpoint) := by
  cases guest with
  | connect user secret =>
      rcases Endpoint.yields_connect.mp yields with ⟨course, told, rfl⟩
      exact ⟨user, secret, course, told, .connect user secret _⟩
  | disconnect => cases connects

theorem Comes.connects {guest : Guest} {result : guest.Result} {outcome : Except Error Nat}
    (comes : guest.Comes result outcome) : guest.parts = false := by
  cases comes
  rfl

theorem Comes.eq {guest : Guest} {result : guest.Result} {outcome other : Except Error Nat}
    (comes : guest.Comes result outcome) (others : guest.Comes result other) : outcome = other := by
  cases comes
  cases others
  rfl

end Guest

namespace Course

variable {endpoint : Endpoint} {user secret : String}

/-- Who was not turned away gives its turn away in the end, and what it returns is kept then. -/
theorem exists_leave (course : Course) (entered : ∀ error, course ≠ .turnedAway error) :
    ∃ inside, course.told endpoint user secret = inside ++ [⟨.leaveEndpoint endpoint.id, ()⟩] ∧
      footingOf inside = .knows (course.result endpoint).toOption := by
  rcases course with error | session | ⟨found, opening⟩
  · exact absurd rfl (entered error)
  · exact ⟨((reused session).told endpoint user secret).dropLast, rfl, rfl⟩
  · refine ⟨⟨.enterEndpoint endpoint.id true, .ok ()⟩ ::
      (found.told endpoint ++ opening.told endpoint user secret), rfl, ?_⟩
    cases found <;> cases opening <;> rfl

/-- A session that is used again was seen to go on, and answered, when it was known to be kept. -/
theorem exists_isClosed {session : Nat} :
    ∃ front back, (reused session).told endpoint user secret =
        front ++ ⟨.isClosed session, false⟩ :: back ∧ footingOf front = .knows (some session) :=
  ⟨[_, _], _, rfl, rfl⟩

theorem exists_probe {session : Nat} :
    ∃ front back, (reused session).told endpoint user secret =
        front ++ ⟨.probe session, true⟩ :: back ∧ footingOf front = .knows (some session) :=
  ⟨[_, _, _], _, rfl, rfl⟩

end Course

/-! ## Any number of programs -/

section
variable {ι : Type} [DecidableEq ι] {guest : ι → Guest}
  {team later : Team (Site ι) fun who => (guest who).Result}

/-- How a program stands among the others; who was dropped is outside. -/
def footingAt (team : Team (Site ι) fun who => (guest who).Result) (who : ι) : Footing :=
  if (team.running who).isSome then footingOf (team.past who) else .outside

theorem footingAt_of_running {who : ι} {program : Program (guest who).Result}
    (running : team.running who = some program) :
    footingAt team who = footingOf (team.past who) := by
  rw [footingAt, running]
  rfl

theorem footingAt_resume {who : ι} {said : Answered}
    {program rest : Program (guest who).Result} {state : Site ι}
    (running : team.running who = some program) :
    footingAt (team.resume who said rest state) =
      Function.update (footingAt team) who ((footingAt team who).after said) := by
  funext other
  by_cases own : other = who
  · subst own
    rw [Function.update_self, footingAt_of_running Team.running_resume_self,
      footingAt_of_running running, Team.past_resume_self, footingOf_concat]
  · rw [Function.update_of_ne own, footingAt, footingAt, Team.running_resume_of_ne own,
      Team.past_resume_of_ne own]

theorem footingAt_drop {who : ι} {state : Site ι} :
    footingAt (team.drop who state) = Function.update (footingAt team) who .outside := by
  funext other
  by_cases own : other = who
  · subst own
    rw [Function.update_self, footingAt, Team.running_drop_self]
    rfl
  · rw [Function.update_of_ne own, footingAt, footingAt, Team.running_drop_of_ne own]
    rfl

/-- What is shared agrees with the footings, and what was let go stays closed. -/
structure Standing (team : Team (Site ι) fun who => (guest who).Result) : Prop where
  stands : Stands (fun who => (guest who).parts) team.state (footingAt team)
  closed : ∀ entry ∈ team.log, ∀ session, letGo? entry.2 = some session →
    team.state.HasClosed session

/-- A session that is let go was held, and is closed from then on. -/
theorem closed_of_answers {site next : Site ι} {who : ι} {said : Answered} {session : Nat}
    (stands : Stands (fun who => (guest who).parts) site (footingAt team))
    (may : (footingAt team who).May (guest who).parts said.question)
    (answered : site.Answers who said next) (letGo : letGo? said = some session) :
    next.HasClosed session := by
  have held : (footingAt team who).held? = some session ∧ next = site.letGo who session := by
    rcases said with ⟨question, answer⟩
    cases question with
    | close other =>
        have at_ : footingAt team who = .holds other := may
        cases letGo
        rw [at_]
        exact ⟨rfl, answered⟩
    | release other =>
        have at_ : footingAt team who = .holds other ∨ footingAt team who = .apart other := may
        cases letGo
        rcases at_ with at_ | at_ <;> rw [at_] <;> exact ⟨rfl, answered⟩
    | _ => cases letGo
  rcases held with ⟨held, rfl⟩
  exact Site.hasClosed_letGo (stands.held_lt who session held)

theorem Standing.step (standing : Standing team)
    (may : ∀ who question, team.Asks who question →
      (footingAt team who).May (guest who).parts question)
    (step : team.Step (atEndpoint ι) later) : Standing later := by
  rcases standing with ⟨stands, closed⟩
  cases step with
  | @answer who question next answer site asks answered =>
      refine ⟨?_, ?_⟩
      · rw [footingAt_resume asks]
        exact stands.answer (may who question ⟨next, asks⟩) answered
      · intro entry member session letGo
        rcases List.mem_append.mp member with earlier | now
        · have grows := (Site.Answers.changes answered).1
          exact grows.hasClosed (closed entry earlier session letGo)
        · cases List.mem_singleton.mp now
          exact closed_of_answers stands (may who question ⟨next, asks⟩) answered letGo
  | @drop who question asks =>
      refine ⟨?_, ?_⟩
      · rw [footingAt_drop]
        exact stands.drop who
      · intro entry member session letGo
        exact Site.grows_dropped.hasClosed (closed entry member session letGo)
  | pass passes =>
      have quiet := Site.Passes.quiet passes
      exact ⟨stands.quiet quiet, fun entry member session letGo =>
        quiet.grows.hasClosed (closed entry member session letGo)⟩

section
variable {endpoint : Endpoint} {settings : PubSubSettings}

/-- Nobody has come yet. -/
def atFirst (endpoint : Endpoint) (settings : PubSubSettings) (guest : ι → Guest) :
    Team (Site ι) fun who => (guest who).Result :=
  .start { settings } fun who => (guest who).program endpoint

theorem mayUse_of_asks {who : ι} {question : Question}
    (reaches : Team.Reaches (atEndpoint ι) (atFirst endpoint settings guest) team)
    (asks : team.Asks who question) : MayUse (guest who).parts (team.past who) question :=
  Team.may_of_asks (fun who => (guest who).mayUse endpoint) reaches asks

theorem may_of_asks {who : ι} {question : Question}
    (reaches : Team.Reaches (atEndpoint ι) (atFirst endpoint settings guest) team)
    (asks : team.Asks who question) : (footingAt team who).May (guest who).parts question := by
  rcases asks with ⟨next, asks⟩
  rw [footingAt_of_running asks]
  exact (mayUse_of_asks reaches ⟨next, asks⟩).may

theorem standing_of_reaches
    (reaches : Team.Reaches (atEndpoint ι) (atFirst endpoint settings guest) team) :
    Standing team := by
  induction reaches with
  | refl =>
      have outside : footingAt (atFirst endpoint settings guest) = fun _ => .outside := rfl
      exact ⟨outside ▸ stands_fresh _ settings, fun _ member => absurd member List.not_mem_nil⟩
  | tail reaches step inductionHypothesis =>
      exact inductionHypothesis.step (fun _ _ => may_of_asks reaches) step

/-! ## At a moment -/

theorem kept_of_past
    (reaches : Team.Reaches (atEndpoint ι) (atFirst endpoint settings guest) team) {who : ι}
    {program : Program (guest who).Result} {kept : Option Nat}
    (running : team.running who = some program)
    (knows : footingOf (team.past who) = .knows kept) : team.state.kept = kept :=
  (standing_of_reaches reaches).stands.kept_of ((footingAt_of_running running).trans knows) rfl

/-- What was kept when a program was answered that knew it. -/
theorem heard_of_knows
    (reaches : Team.Reaches (atEndpoint ι) (atFirst endpoint settings guest) team) {who : ι}
    {said : Answered} {front back : List Answered} {kept : Option Nat}
    (told : team.past who = front ++ said :: back) (knows : footingOf front = .knows kept) :
    ∃ site later, site.kept = kept ∧ Site.Answers site who said later ∧
      ∀ holds : Site ι → Prop, holds site →
        Team.Heard (atEndpoint ι) (atFirst endpoint settings guest) team who said fun before =>
          holds before.state := by
  rcases Team.heard_of_past rfl reaches told with
    ⟨before, next, later, from_, asks, answered, onward, rfl⟩
  exact ⟨before.state, later, kept_of_past from_ asks knows, answered, fun holds is =>
    ⟨before, next, later, from_, asks, answered, onward, is⟩⟩

/-- When a connection gives its turn away, what is kept is what it returns. -/
theorem heard_leave
    (reaches : Team.Reaches (atEndpoint ι) (atFirst endpoint settings guest) team) {who : ι}
    {course : Course} {user secret : String}
    (told : team.past who = course.told endpoint user secret)
    (entered : ∀ error, course ≠ .turnedAway error) :
    Team.Heard (atEndpoint ι) (atFirst endpoint settings guest) team who
      ⟨.leaveEndpoint endpoint.id, ()⟩ fun before =>
        before.state.kept = (course.result endpoint).toOption := by
  rcases course.exists_leave entered with ⟨inside, split, knows⟩
  rcases heard_of_knows reaches (told.trans split) knows with ⟨site, later, kept, -, heard⟩
  exact heard (fun site => site.kept = _) kept

/-- A program that ends a session has taken it out. -/
def Ending (guest : ι → Guest) (site : Site ι) (session : Nat) : Prop :=
  ∃ who, guest who = .disconnect ∧ session ∈ site.held who

theorem Standing.owner (standing : Standing team) {session : Nat}
    (opened : team.state.isOpen session = true) (stays : ¬ Ending guest team.state session) :
    team.state.kept = some session ∨ ∃ who, footingAt team who = .holds session := by
  rcases standing.stands.owned session opened with kept | ⟨who, held⟩
  · exact .inl kept
  · cases at_ : footingAt team who with
    | holds other =>
        rw [at_] at held
        cases held
        exact .inr ⟨who, at_⟩
    | apart other =>
        rw [at_] at held
        cases held
        have parts := standing.stands.parts_of who session at_
        have disconnects : guest who = .disconnect := by
          cases is : guest who with
          | connect => cases (is ▸ parts : (Guest.connect _ _).parts = true)
          | disconnect => rfl
        refine absurd ⟨who, disconnects, ?_⟩ stays
        rw [standing.stands.held_of at_]
        exact List.mem_cons_self
    | outside | entered | knows =>
        rw [at_] at held
        cases held

theorem Standing.alone (standing : Standing team) {session other : Nat}
    (opened : team.state.isOpen session = true) (others : team.state.isOpen other = true)
    (stays : ¬ Ending guest team.state session) (otherStays : ¬ Ending guest team.state other) :
    session = other := by
  have stands := standing.stands
  rcases standing.owner opened stays with kept | ⟨who, holds⟩ <;>
    rcases standing.owner others otherStays with otherKept | ⟨someone, otherHolds⟩
  · exact Option.some.inj (kept.symm.trans otherKept)
  · cases kept.symm.trans (stands.kept_of otherHolds rfl)
  · cases otherKept.symm.trans (stands.kept_of holds rfl)
  · have same : someone = who := stands.eq_of_hasTurn holds trivial (otherHolds ▸ trivial)
    subst same
    exact Footing.holds.inj (holds.symm.trans otherHolds)

/-- Who dials has the turn, nothing is kept, and so no relay goes on but those about to end. -/
theorem Standing.closed_before_dial (standing : Standing team) {who : ι}
    (knows : footingAt team who = .knows none) {session : Nat}
    (opened : team.state.isOpen session = true) : Ending guest team.state session := by
  by_contra stays
  have stands := standing.stands
  rcases standing.owner opened stays with kept | ⟨other, holds⟩
  · cases kept.symm.trans (stands.kept_of knows rfl)
  · have same : other = who := stands.eq_of_hasTurn knows trivial (holds ▸ trivial)
    subst same
    cases knows.symm.trans holds

end
end

/-! ## What a connection can rely on -/

/-- What programs can rely on that use an endpoint together. -/
structure OneSession {ι : Type} [DecidableEq ι] (endpoint : Endpoint) (guest : ι → Guest)
    (first team : Team (Site ι) fun who => (guest who).Result) : Prop where
  /-- At most one relay goes on, apart from those whose session a program is about to end. -/
  alone : ∀ session other, team.state.isOpen session = true → team.state.isOpen other = true →
    ¬ Ending guest team.state session → ¬ Ending guest team.state other → session = other
  /-- Who dials has closed what it found; nothing is kept then, and no other relay goes on. -/
  closed_before_dial : ∀ who url user secret, team.Asks who (.dial url user secret) →
    team.state.kept = none ∧
    (∀ endpoint session, ⟨.readSession endpoint, some session⟩ ∈ team.past who →
      team.state.isOpen session = false) ∧
    ∀ session, team.state.isOpen session = true → Ending guest team.state session
  countP_isDial_le : ∀ who user secret, guest who = .connect user secret →
    (team.past who).countP isDial ≤ 1
  /-- Without a dial, a connection returns the session that is kept if that goes on when it looks
  and a pong comes in time, and only then. -/
  reuses_iff : ∀ who result outcome session, team.Returned who result →
    (guest who).Comes result outcome →
    ((outcome = .ok session ∧ (team.past who).any isDial = false) ↔
      (∃ answer, Team.Heard (atEndpoint ι) first team who ⟨.isClosed session, answer⟩ fun before =>
        before.state.kept = some session ∧ before.state.seesClosed session = false) ∧
      ∃ answer, Team.Heard (atEndpoint ι) first team who ⟨.probe session, answer⟩ fun before =>
        before.state.Hears who session)
  /-- When a connection gives its turn away, its session is kept, or nothing if it failed. -/
  stored : ∀ who result session, team.Returned who result →
    (guest who).Comes result (.ok session) →
    Team.Heard (atEndpoint ι) first team who ⟨.leaveEndpoint endpoint.id, ()⟩ fun before =>
      before.state.kept = some session
  cleared : ∀ who result error, team.Returned who result → (guest who).Comes result (.error error) →
    ⟨.enterEndpoint endpoint.id true, .ok ()⟩ ∈ team.past who →
    Team.Heard (atEndpoint ι) first team who ⟨.leaveEndpoint endpoint.id, ()⟩ fun before =>
      before.state.kept = none
  /-- What a connection has dialed that failed does not go on. -/
  shut : ∀ who result error, team.Returned who result → (guest who).Comes result (.error error) →
    ∀ url user secret session, ⟨.dial url user secret, .ok session⟩ ∈ team.past who →
      team.state.isOpen session = false
  /-- Who is called off before its turn has asked nothing else. -/
  turned_away : ∀ who user secret error, guest who = .connect user secret →
    ⟨.enterEndpoint endpoint.id true, .error error⟩ ∈ team.past who →
    error = .cancelled ∧ team.past who = [⟨.enterEndpoint endpoint.id true, .error .cancelled⟩] ∧
    ∀ result outcome, team.Returned who result → (guest who).Comes result outcome →
      outcome = .error .cancelled
  /-- What is kept changes only as a program with the turn says so. -/
  kept_changes : ∀ later, team.Step (atEndpoint ι) later → later.state.kept ≠ team.state.kept →
    ∃ who endpoint kept, later.log = team.log ++ [(who, ⟨.keepSession endpoint kept, ()⟩)] ∧
      team.state.turn = some who
  /-- An observer is told once of a connection that was made, and how. -/
  emitted : ∀ who result outcome, team.Returned who result → (guest who).Comes result outcome →
    (team.past who).filterMap emitted? =
      match outcome with
      | .ok _ => [.pubSubConnected endpoint.url (!(team.past who).any isDial)]
      | .error _ => []

section
variable {ι : Type} [DecidableEq ι] {guest : ι → Guest} {endpoint : Endpoint}
  {settings : PubSubSettings} {team : Team (Site ι) fun who => (guest who).Result} {who : ι}

theorem course_of_returned {result : (guest who).Result} {outcome : Except Error Nat}
    (reaches : Team.Reaches (atEndpoint ι) (atFirst endpoint settings guest) team)
    (returned : team.Returned who result) (comes : (guest who).Comes result outcome) :
    ∃ user secret, ∃ course : Course, team.past who = course.told endpoint user secret ∧
      outcome = course.result endpoint := by
  have yields := Team.yields_of_returned reaches returned
  rcases Guest.course_of_yields comes.connects yields with ⟨user, secret, course, told, others⟩
  exact ⟨user, secret, course, told, comes.eq others⟩

/-- An unfinished connection is on one of its courses. -/
theorem exists_course {user secret : String}
    (reaches : Team.Reaches (atEndpoint ι) (atFirst endpoint settings guest) team)
    (connects : guest who = .connect user secret) :
    ∃ more name word, ∃ course : Course,
      team.past who ++ more = course.told endpoint name word := by
  rcases Team.exists_yields_of_reaches reaches who with ⟨more, result, yields⟩
  have parts : (guest who).parts = false := by rw [connects]; rfl
  rcases Guest.course_of_yields parts yields with ⟨name, word, course, told, -⟩
  exact ⟨more, name, word, course, told⟩

theorem reuses_iff_of_returned {result : (guest who).Result} {outcome : Except Error Nat}
    {session : Nat}
    (reaches : Team.Reaches (atEndpoint ι) (atFirst endpoint settings guest) team)
    (returned : team.Returned who result) (comes : (guest who).Comes result outcome) :
    (outcome = .ok session ∧ (team.past who).any isDial = false) ↔
      (∃ answer, Team.Heard (atEndpoint ι) (atFirst endpoint settings guest) team who
        ⟨.isClosed session, answer⟩ fun before =>
          before.state.kept = some session ∧ before.state.seesClosed session = false) ∧
      ∃ answer, Team.Heard (atEndpoint ι) (atFirst endpoint settings guest) team who
        ⟨.probe session, answer⟩ fun before => before.state.Hears who session := by
  rcases course_of_returned reaches returned comes with ⟨user, secret, course, told, rfl⟩
  constructor
  · rintro ⟨got, noDial⟩
    rw [told] at noDial
    cases course.eq_reused got noDial
    rcases Course.exists_isClosed with ⟨front, back, split, knows⟩
    rcases heard_of_knows reaches (told.trans split) knows with ⟨site, later, kept, seen, heard⟩
    rcases Course.exists_probe with ⟨probed, rest, probeSplit, stillKnows⟩
    rcases heard_of_knows reaches (told.trans probeSplit) stillKnows with
      ⟨other, afterwards, -, hears, probeHeard⟩
    exact ⟨⟨false, heard (fun site => site.kept = some session ∧ site.seesClosed session = false)
      ⟨kept, seen.1⟩⟩, true, probeHeard (fun site => site.Hears who session) hears.1⟩
  · rintro ⟨-, answer, heard⟩
    have member := told ▸ heard.mem_past
    rcases heard with ⟨before, next, later, -, -, answered, -, hears⟩
    cases answer with
    | true =>
        cases course.eq_reused_of_probe member
        exact ⟨rfl, told ▸ rfl⟩
    | false => exact absurd hears answered.1.not_hears

theorem closed_of_letGo (standing : Standing team) {said : Answered} {session : Nat}
    (member : said ∈ team.past who) (letGo : letGo? said = some session) :
    team.state.isOpen session = false :=
  (standing.closed _ (mem_of_mem_pastOf member) session letGo).2

theorem turnedAway_of_refused {user secret : String} {error : Error}
    (reaches : Team.Reaches (atEndpoint ι) (atFirst endpoint settings guest) team)
    (connects : guest who = .connect user secret)
    (refused : ⟨.enterEndpoint endpoint.id true, .error error⟩ ∈ team.past who) :
    error = .cancelled ∧
      team.past who = [⟨.enterEndpoint endpoint.id true, .error .cancelled⟩] := by
  rcases List.append_of_mem refused with ⟨front, back, split⟩
  rcases Team.heard_of_past rfl reaches split with ⟨before, next, later, -, -, answered, -, -⟩
  have cancelled : error = .cancelled := answered.2.1
  subst cancelled
  rcases exists_course reaches connects with ⟨more, name, word, course, told⟩
  have member := List.mem_append_left more refused
  rw [told] at member
  cases course.eq_turnedAway member
  rw [split] at told ⊢
  cases front with
  | nil =>
      cases back with
      | nil => exact ⟨rfl, rfl⟩
      | cons => cases told
  | cons first front => cases front <;> cases told

theorem kept_changes_of_step {later : Team (Site ι) fun who => (guest who).Result}
    (reaches : Team.Reaches (atEndpoint ι) (atFirst endpoint settings guest) team)
    (step : team.Step (atEndpoint ι) later) (changed : later.state.kept ≠ team.state.kept) :
    ∃ who endpoint kept, later.log = team.log ++ [(who, ⟨.keepSession endpoint kept, ()⟩)] ∧
      team.state.turn = some who := by
  cases step with
  | @answer who question next answer site asks answered =>
      rcases (Site.Answers.changes answered).2 with same | ⟨endpoint, kept, said⟩
      · exact absurd same changed
      · cases said
        refine ⟨who, endpoint, kept, rfl, ?_⟩
        have stands := (standing_of_reaches reaches).stands
        have may := may_of_asks reaches ⟨next, asks⟩
        cases kept with
        | none =>
            have at_ : ∃ kept, footingAt team who = .knows kept := may
            rcases at_ with ⟨kept, at_⟩
            exact (stands.turn_of at_).mpr trivial
        | some session => exact (stands.turn_of may).mpr trivial
  | drop => exact absurd rfl changed
  | pass passes => exact absurd (Site.Passes.quiet passes).kept_eq changed

end

/-- In whatever order programs connect to an endpoint and end its sessions, there is one session at
a time. -/
theorem one_session_of_reaches {ι : Type} [DecidableEq ι] (endpoint : Endpoint) (guest : ι → Guest)
    (settings : PubSubSettings) (team : Team (Site ι) fun who => (guest who).Result)
    (reaches : Team.Reaches (atEndpoint ι) (atFirst endpoint settings guest) team) :
    OneSession endpoint guest (atFirst endpoint settings guest) team := by
  have standing := standing_of_reaches reaches
  refine ⟨?_, ?_, ?_, ?_, ?_, ?_, ?_, ?_, ?_, ?_⟩
  · intro session other
    exact standing.alone
  · intro who url user secret asks
    have letGo := (mayUse_of_asks reaches asks).letGo url user secret rfl
    have knows : footingAt team who = .knows none := may_of_asks reaches asks
    refine ⟨standing.stands.kept_of knows rfl, ?_, fun session => standing.closed_before_dial knows⟩
    intro other session read
    exact closed_of_letGo standing (letGo other session read) rfl
  · intro who user secret connects
    rcases exists_course reaches connects with ⟨more, name, word, course, told⟩
    have whole : (course.told endpoint name word).countP isDial ≤ 1 := course.countP_isDial_le
    rw [← told, List.countP_append] at whole
    omega
  · intro who result outcome session returned comes
    exact reuses_iff_of_returned reaches returned comes
  · intro who result session returned comes
    rcases course_of_returned reaches returned comes with ⟨user, secret, course, told, outcome⟩
    have heard := heard_leave reaches told (by rintro error rfl; cases outcome)
    rw [← outcome] at heard
    exact heard
  · intro who result error returned comes entered
    rcases course_of_returned reaches returned comes with ⟨user, secret, course, told, outcome⟩
    have heard := heard_leave reaches told (by
      rintro other rfl
      rw [told] at entered
      simp [Course.told] at entered)
    rw [← outcome] at heard
    exact heard
  · intro who result error returned comes url name word session dialed
    rcases course_of_returned reaches returned comes with ⟨user, secret, course, told, outcome⟩
    rw [told] at dialed
    rcases course.exists_letGo outcome.symm dialed with ⟨said, member, letGo⟩
    exact closed_of_letGo standing (told ▸ member) letGo
  · intro who user secret error connects refused
    rcases turnedAway_of_refused reaches connects refused with ⟨rfl, alone⟩
    refine ⟨rfl, alone, ?_⟩
    intro result outcome returned comes
    rcases course_of_returned reaches returned comes with ⟨name, word, course, told, rfl⟩
    rw [told] at refused
    cases course.eq_turnedAway refused
    rfl
  · intro later
    exact kept_changes_of_step reaches
  · intro who result outcome returned comes
    rcases course_of_returned reaches returned comes with ⟨user, secret, course, told, rfl⟩
    rw [told]
    exact course.emitted

/-- Someone connects, and someone else after that. -/
def connectTwice (_ : Bool) : Guest :=
  .connect "user" "secret"

/-- The second finds the session of the first, asks for a ping, and gets a pong in time. -/
theorem one_session_reused : ∃ team : Team (Site Bool) fun who => (connectTwice who).Result,
    Team.Reaches (atEndpoint Bool) (atFirst ⟨0, "wss://node"⟩ {} connectTwice) team ∧
      team.Returned true (.ok 0) ∧ team.Returned false (.ok 0) ∧ team.state.isOpen 0 = true ∧
      OneSession ⟨0, "wss://node"⟩ connectTwice
        (atFirst ⟨0, "wss://node"⟩ {} connectTwice) team := by
  have entered : Team.Step (atEndpoint Bool) (atFirst ⟨0, "wss://node"⟩ {} connectTwice) _ :=
    Team.step_answer true (.enterEndpoint 0 true) (.ok ()) _ rfl ⟨rfl, rfl⟩
  have dialed := ((Relation.ReflTransGen.single entered).tail
    (Team.step_answer true (.readSession 0) none _ rfl ⟨rfl, rfl⟩)).tail
    (Team.step_answer true (.dial "wss://node" "user" "secret") (.ok 0) _ rfl ⟨rfl, rfl⟩)
  have kept := (dialed.tail
    (Team.step_answer true (.handshake 0 (Net.brokerName "wss://node")) (.ok ()) _ rfl rfl)).tail
    (Team.step_answer true (.keepSession 0 (some 0)) () _ rfl rfl)
  have left := (kept.tail
    (Team.step_answer true (.emit (.pubSubConnected "wss://node" false)) () _ rfl rfl)).tail
    (Team.step_answer true (.leaveEndpoint 0) () _ rfl rfl)
  have found := ((left.tail
    (Team.step_answer false (.enterEndpoint 0 true) (.ok ()) _ rfl ⟨rfl, rfl⟩)).tail
    (Team.step_answer false (.readSession 0) (some 0 : Option Nat) _ rfl ⟨rfl, rfl⟩)).tail
    (Team.step_answer false (.isClosed 0) false _ rfl ⟨rfl, rfl⟩)
  have asked := (found.tail (.pass (@Site.Passes.marks _ _ _ false 0 _ rfl rfl rfl))).tail
    (.pass (@Site.Passes.asks _ _ _ false 0 _ _ _ rfl rfl (.inl rfl)))
  have pinged := asked.tail
    (.pass (@Site.Passes.moves _ _ _ 0 _ _ (.writer .answerRequest) rfl nofun rfl))
  have ponged := (pinged.tail
    (.pass (@Site.Passes.moves _ _ _ 0 _ _ (.arrive (.pong [])) rfl nofun rfl))).tail
    (.pass (@Site.Passes.moves _ _ _ 0 _ _ (.reader .read) rfl nofun rfl))
  have answered := ponged.tail (Team.step_answer false (.probe 0) true _ rfl
    ⟨⟨0, 0, _, rfl, rfl, Nat.zero_lt_one, Nat.zero_le _⟩, rfl⟩)
  have reaches := (answered.tail
    (Team.step_answer false (.emit (.pubSubConnected "wss://node" true)) () _ rfl rfl)).tail
    (Team.step_answer false (.leaveEndpoint 0) () _ rfl rfl)
  exact ⟨_, reaches, rfl, rfl, rfl, one_session_of_reaches _ _ _ _ reaches⟩

end PubSub
end ExchangeGrid
