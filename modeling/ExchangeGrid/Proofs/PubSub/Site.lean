import ExchangeGrid.Proofs.Dispatch.Team
import ExchangeGrid.Proofs.Relay.Run
import ExchangeGrid.PubSub.Endpoint
import Mathlib.Data.List.Basic

namespace ExchangeGrid
namespace PubSub

/-!
# What programs share at an endpoint

At an endpoint there are a turn, the session that is kept, and the relays that were started for the
sessions so far; a session is told by the number of its relay.  A session that is not kept belongs
to the program that has dialed it or taken it out, and its relay is told to stop as soon as that
program lets it go or is dropped.  Dials and handshakes come out in any way, the relays and their
clocks move in between as they can, and a session may end on its own.

A look at a session takes several steps (`Probe`).  Only one thing is asked of time: it does not
pass the limit of a look before that has been answered.
-/

/-- How far a look at a session has come: about to see whether its relay goes on; about to ask for a
ping, after so many pongs; waiting for another one since some time. -/
inductive Probe
  | due
  | marked (seen : Nat)
  | asked (seen since : Nat)

/-- What is kept for the programs at an endpoint.  `held` says which sessions belong to a program.
-/
structure Site (ι : Type) where
  settings : PubSubSettings
  turn : Option ι := none
  kept : Option Nat := none
  bridges : List Relay := []
  ended : Nat → Bool := fun _ => false
  held : ι → List Nat := fun _ => []
  probes : ι → Option (Nat × Probe) := fun _ => none

namespace Site

variable {ι : Type}

/-- Whether the relay of a session goes on. -/
def isOpen (site : Site ι) (session : Nat) : Bool :=
  site.bridges[session]?.any fun relay => !relay.cancelled

def seesClosed (site : Site ι) (session : Nat) : Bool :=
  !site.isOpen session || site.ended session

/-- A session was there and goes on no more. -/
def HasClosed (site : Site ι) (session : Nat) : Prop :=
  session < site.bridges.length ∧ site.isOpen session = false

/-- Some relays are told to stop. -/
def cancelWhere (site : Site ι) (lost : Nat → Bool) : Site ι :=
  { site with
    bridges := site.bridges.mapIdx fun session relay =>
      if lost session then relay.cancel else relay }

/-- What a look at a session of a program has found out so far: a pong has come in, in time. -/
def Hears (site : Site ι) (who : ι) (session : Nat) : Prop :=
  ∃ seen since relay, site.probes who = some (session, .asked seen since) ∧
    site.bridges[session]? = some relay ∧ seen < relay.pongs ∧
    relay.now ≤ since + site.settings.probeTimeout

/-- What a look at a session can find out without a pong: its relay has been told to stop before;
the writer is gone, so that nobody takes the request; or no pong has come in and the time is up or
the reader is gone. -/
inductive FindsSilence (site : Site ι) (who : ι) (session : Nat) : Prop
  | wasClosed (due : site.probes who = some (session, .due)) (closed : site.isOpen session = false)
  | writerIsGone {seen : Nat} {relay : Relay} {failure : Option String}
      (marked : site.probes who = some (session, .marked seen))
      (bridge : site.bridges[session]? = some relay) (stopped : relay.writer = .stopped failure)
  | noPong {seen since : Nat} {relay : Relay}
      (asked : site.probes who = some (session, .asked seen since))
      (bridge : site.bridges[session]? = some relay) (none : relay.pongs ≤ seen)
      (isOver : since + site.settings.probeTimeout ≤ relay.now ∨ relay.reader = .stopped)

theorem FindsSilence.not_hears {site : Site ι} {who : ι} {session : Nat}
    (silence : site.FindsSilence who session) : ¬ site.Hears who session := by
  rintro ⟨seen, since, relay, asked, bridge, pong, -⟩
  cases silence with
  | wasClosed due => cases due.symm.trans asked
  | writerIsGone marked => cases marked.symm.trans asked
  | noPong others otherBridge none =>
      cases others.symm.trans asked
      cases otherBridge.symm.trans bridge
      exact absurd pong (Nat.not_lt_of_le none)

section
variable [DecidableEq ι]

def takeOut (site : Site ι) (who : ι) : Site ι :=
  { site with
    kept := none
    held := Function.update site.held who (site.kept.toList ++ site.held who) }

/-- A session of a program is kept from now on, in place of what was kept. -/
def keep (site : Site ι) (who : ι) (session : Nat) : Site ι :=
  { site.cancelWhere (fun other => site.kept == some other) with
    kept := some session
    held := Function.update site.held who ((site.held who).erase session) }

def letGo (site : Site ι) (who : ι) (session : Nat) : Site ι :=
  { site.cancelWhere (· == session) with
    held := Function.update site.held who ((site.held who).erase session) }

/-- A relay is started, and its session belongs to the program that has dialed. -/
def spawn (site : Site ι) (who : ι) : Site ι :=
  { site with
    bridges := site.bridges ++
      [Relay.start site.settings.pongWait (Config.pingPeriod site.settings)]
    held := Function.update site.held who (site.bridges.length :: site.held who) }

def look (site : Site ι) (who : ι) (probe : Option (Nat × Probe)) : Site ι :=
  { site with probes := Function.update site.probes who probe }

/-- A program is dropped, and with it its turn and all that belongs to it. -/
def dropped (site : Site ι) (who : ι) : Site ι :=
  { (site.cancelWhere (· ∈ site.held who)).look who none with
    turn := if site.turn = some who then none else site.turn
    held := Function.update site.held who [] }

/-- How questions are answered.  Only a patient program can be called off while it waits for its
turn. -/
def Answers (site : Site ι) (who : ι) (said : Answered) (later : Site ι) : Prop :=
  match said with
  | ⟨.enterEndpoint _ _, .ok ()⟩ => site.turn = none ∧ later = { site with turn := some who }
  | ⟨.enterEndpoint _ patient, .error error⟩ =>
    patient = true ∧ error = .cancelled ∧ later = site
  | ⟨.leaveEndpoint _, _⟩ => later = { site with turn := none }
  | ⟨.readSession _, kept⟩ => kept = site.kept ∧ later = site
  | ⟨.keepSession _ none, _⟩ => later = site.takeOut who
  | ⟨.keepSession _ (some session), _⟩ => later = site.keep who session
  | ⟨.dial _ _ _, .ok session⟩ => session = site.bridges.length ∧ later = site.spawn who
  | ⟨.isClosed session, true⟩ => site.seesClosed session = true ∧ later = site
  | ⟨.isClosed session, false⟩ =>
    site.seesClosed session = false ∧ later = site.look who (some (session, .due))
  | ⟨.probe session, true⟩ => site.Hears who session ∧ later = site.look who none
  | ⟨.probe session, false⟩ => site.FindsSilence who session ∧ later = site.look who none
  | ⟨.close session, _⟩ => later = site.letGo who session
  | ⟨.release session, _⟩ => later = site.letGo who session
  | _ => later = site

/-- What else happens: a relay moves; time passes; a session ends on its own; or a look at a session
goes on.  A writer that is closing still takes requests for pings, and answers none. -/
inductive Passes (site : Site ι) : Site ι → Prop
  | moves {session : Nat} {relay next : Relay} {event : Relay.Event}
      (bridge : site.bridges[session]? = some relay)
      (noTime : ∀ milliseconds, event ≠ .pass milliseconds)
      (happens : relay.after? event = some next) :
      Passes site { site with bridges := site.bridges.set session next }
  | waits {milliseconds : Nat}
      (punctual : ∀ who session seen since relay,
        site.probes who = some (session, .asked seen since) →
        site.bridges[session]? = some relay →
        relay.now + milliseconds ≤ since + site.settings.probeTimeout) :
      Passes site { site with bridges := site.bridges.map (·.pass milliseconds) }
  | ends {session : Nat} :
      Passes site { site with ended := Function.update site.ended session true }
  | marks {who : ι} {session : Nat} {relay : Relay} (due : site.probes who = some (session, .due))
      (bridge : site.bridges[session]? = some relay) (goesOn : relay.cancelled = false) :
      Passes site (site.look who (some (session, .marked relay.pongs)))
  | asks {who : ι} {session seen : Nat} {relay next : Relay}
      (marked : site.probes who = some (session, .marked seen))
      (bridge : site.bridges[session]? = some relay)
      (taken : relay.request? = some next ∨ relay.writer = .closing ∧ next = relay) :
      Passes site { site.look who (some (session, .asked seen relay.now)) with
        bridges := site.bridges.set session next }

end
end Site

def atEndpoint (ι : Type) [DecidableEq ι] : Surroundings ι (Site ι) where
  answers := Site.Answers
  dropped := Site.dropped
  passes := Site.Passes

/-! ## Which relays go on -/

namespace Site

section
variable {ι : Type} {site later : Site ι} {session : Nat}

theorem isOpen_eq_true_iff : site.isOpen session = true ↔
    ∃ relay, site.bridges[session]? = some relay ∧ relay.cancelled = false := by
  unfold isOpen
  rw [Option.any_eq_true]
  exact exists_congr fun relay => and_congr_right fun _ => by rw [Bool.not_eq_true']

theorem lt_of_isOpen (opened : site.isOpen session = true) : session < site.bridges.length := by
  rcases isOpen_eq_true_iff.mp opened with ⟨relay, bridge, -⟩
  exact (List.getElem?_eq_some_iff.mp bridge).1

theorem isOpen_congr (same : later.bridges = site.bridges) :
    later.isOpen session = site.isOpen session := by
  rw [isOpen, isOpen, same]

theorem isOpen_cancelWhere {lost : Nat → Bool} :
    (site.cancelWhere lost).isOpen session = true ↔
      site.isOpen session = true ∧ lost session = false := by
  rw [isOpen_eq_true_iff, isOpen_eq_true_iff]
  change (∃ relay, (site.bridges.mapIdx _)[session]? = some relay ∧ _) ↔ _
  rw [List.getElem?_mapIdx]
  cases site.bridges[session]? with
  | none => simp
  | some relay => cases lost session <;> simp [Relay.cancel]

theorem length_cancelWhere {lost : Nat → Bool} :
    (site.cancelWhere lost).bridges.length = site.bridges.length :=
  List.length_mapIdx

/-- Nothing changes but the relays, and none of them goes on that did not. -/
structure Quiet (site later : Site ι) : Prop where
  turn_eq : later.turn = site.turn
  kept_eq : later.kept = site.kept
  held_eq : later.held = site.held
  length_eq : later.bridges.length = site.bridges.length
  isOpen_of : ∀ session, later.isOpen session = true → site.isOpen session = true

theorem Quiet.refl (site : Site ι) : Quiet site site :=
  ⟨rfl, rfl, rfl, rfl, fun _ opened => opened⟩

/-- A relay that is there makes way for what has become of it. -/
theorem quiet_set {relay next : Relay} (bridge : site.bridges[session]? = some relay)
    (stays : relay.cancelled = true → next.cancelled = true) :
    Quiet site { site with bridges := site.bridges.set session next } := by
  refine ⟨rfl, rfl, rfl, List.length_set, ?_⟩
  intro other opened
  rcases isOpen_eq_true_iff.mp opened with ⟨found, foundBridge, goesOn⟩
  by_cases same : session = other
  · subst same
    have there : (site.bridges.set session next)[session]? = some next :=
      List.getElem?_set_self (List.getElem?_eq_some_iff.mp bridge).1
    cases there.symm.trans foundBridge
    refine isOpen_eq_true_iff.mpr ⟨relay, bridge, Bool.eq_false_iff.mpr fun told => ?_⟩
    exact Bool.eq_false_iff.mp goesOn (stays told)
  · have elsewhere : (site.bridges.set session next)[other]? = site.bridges[other]? :=
      List.getElem?_set_ne same
    exact isOpen_eq_true_iff.mpr ⟨found, elsewhere.symm.trans foundBridge, goesOn⟩

theorem Passes.quiet [DecidableEq ι] (passes : site.Passes later) : Quiet site later := by
  cases passes with
  | moves bridge _ happens =>
      exact quiet_set bridge (Relay.happened_of_after? happens).cancelled
  | waits =>
      refine ⟨rfl, rfl, rfl, List.length_map _, ?_⟩
      intro session opened
      rcases isOpen_eq_true_iff.mp opened with ⟨found, foundBridge, goesOn⟩
      rw [List.getElem?_map] at foundBridge
      rcases Option.map_eq_some_iff.mp foundBridge with ⟨relay, bridge, rfl⟩
      exact isOpen_eq_true_iff.mpr ⟨relay, bridge, goesOn⟩
  | ends | marks => exact ⟨rfl, rfl, rfl, rfl, fun _ opened => opened⟩
  | @asks _ _ _ relay next _ bridge taken =>
      have stays : relay.cancelled = true → next.cancelled = true := by
        rcases taken with requested | ⟨-, rfl⟩
        · have happens : relay.after? .request = some next := requested
          exact (Relay.happened_of_after? happens).cancelled
        · exact id
      rcases quiet_set bridge stays with ⟨-, -, -, length_eq, isOpen_of⟩
      exact ⟨rfl, rfl, rfl, length_eq, isOpen_of⟩

/-- Relays may be started, but those that were there do not go on again. -/
structure Grows (site later : Site ι) : Prop where
  length_le : site.bridges.length ≤ later.bridges.length
  isOpen_of : ∀ session < site.bridges.length,
    later.isOpen session = true → site.isOpen session = true

theorem Quiet.grows (quiet : Quiet site later) : Grows site later :=
  ⟨Nat.le_of_eq quiet.length_eq.symm, fun session _ => quiet.isOpen_of session⟩

theorem Grows.hasClosed (grows : Grows site later) (closed : site.HasClosed session) :
    later.HasClosed session := by
  refine ⟨Nat.lt_of_lt_of_le closed.1 grows.length_le, Bool.eq_false_iff.mpr fun opened => ?_⟩
  exact Bool.eq_false_iff.mp closed.2 (grows.isOpen_of session closed.1 opened)

theorem grows_cancelWhere {lost : Nat → Bool}
    (same : later.bridges = (site.cancelWhere lost).bridges) : Grows site later := by
  refine ⟨?_, fun session _ opened => ?_⟩
  · exact Nat.le_of_eq (by rw [same, length_cancelWhere])
  · rw [isOpen_congr same] at opened
    exact (isOpen_cancelWhere.mp opened).1

theorem grows_of_bridges_eq (same : later.bridges = site.bridges) : Grows site later :=
  ⟨Nat.le_of_eq (congrArg List.length same).symm, fun _ _ opened => isOpen_congr same ▸ opened⟩

section
variable [DecidableEq ι] {who : ι}

theorem hasClosed_letGo (there : session < site.bridges.length) :
    (site.letGo who session).HasClosed session := by
  refine ⟨?_, Bool.eq_false_iff.mpr fun opened => ?_⟩
  · exact Nat.lt_of_lt_of_le there (Nat.le_of_eq length_cancelWhere.symm)
  · have kept := (isOpen_cancelWhere.mp opened).2
    exact absurd (beq_self_eq_true session) (Bool.eq_false_iff.mp kept)

theorem isOpen_spawn {other : Nat} (opened : (site.spawn who).isOpen other = true) :
    other = site.bridges.length ∨ site.isOpen other = true := by
  rcases Nat.lt_trichotomy other site.bridges.length with earlier | same | beyond
  · rcases isOpen_eq_true_iff.mp opened with ⟨relay, bridge, goesOn⟩
    exact .inr (isOpen_eq_true_iff.mpr
      ⟨relay, List.getElem?_append_left earlier ▸ bridge, goesOn⟩)
  · exact .inl same
  · have there := lt_of_isOpen opened
    rw [spawn, List.length_append, List.length_singleton] at there
    omega

theorem grows_spawn : Grows site (site.spawn who) := by
  refine ⟨?_, fun session earlier opened => ?_⟩
  · rw [spawn, List.length_append]
    exact Nat.le_add_right _ _
  · exact (isOpen_spawn opened).resolve_left (Nat.ne_of_lt earlier)

/-- No answer makes a relay go on again, and only one to a program that keeps a session, or none,
changes what is kept. -/
theorem Answers.changes {said : Answered} (answered : site.Answers who said later) :
    Grows site later ∧
      (later.kept = site.kept ∨ ∃ endpoint kept, said = ⟨.keepSession endpoint kept, ()⟩) := by
  rcases said with ⟨question, answer⟩
  cases question with
  | enterEndpoint endpoint patient =>
      rcases answer with error | ⟨⟩
      · rcases answered with ⟨-, -, rfl⟩
        exact ⟨grows_of_bridges_eq rfl, .inl rfl⟩
      · rcases answered with ⟨-, rfl⟩
        exact ⟨grows_of_bridges_eq rfl, .inl rfl⟩
  | readSession =>
      rcases answered with ⟨-, rfl⟩
      exact ⟨grows_of_bridges_eq rfl, .inl rfl⟩
  | keepSession endpoint kept =>
      cases kept <;> cases answered
      · exact ⟨grows_of_bridges_eq rfl, .inr ⟨endpoint, none, rfl⟩⟩
      · exact ⟨grows_cancelWhere rfl, .inr ⟨endpoint, _, rfl⟩⟩
  | dial url user secret =>
      rcases answer with error | session
      · cases answered
        exact ⟨grows_of_bridges_eq rfl, .inl rfl⟩
      · rcases answered with ⟨-, rfl⟩
        exact ⟨grows_spawn, .inl rfl⟩
  | isClosed | probe =>
      cases answer <;> rcases answered with ⟨-, rfl⟩ <;>
        exact ⟨grows_of_bridges_eq rfl, .inl rfl⟩
  | close | release =>
      cases answered
      exact ⟨grows_cancelWhere rfl, .inl rfl⟩
  | _ =>
      cases answered
      exact ⟨grows_of_bridges_eq rfl, .inl rfl⟩

theorem grows_dropped : Grows site (site.dropped who) :=
  grows_cancelWhere rfl

end

end
end Site
end PubSub
end ExchangeGrid
