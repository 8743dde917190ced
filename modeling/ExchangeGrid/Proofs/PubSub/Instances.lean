import ExchangeGrid.Proofs.Dispatch.Team
import ExchangeGrid.Rehearsal.World
import Mathlib.Data.List.Dedup
import Mathlib.Data.List.NodupEquivFin

namespace ExchangeGrid
namespace PubSub

open Rehearsal

/-!
# One instance per key

A client keeps its services, its carriers, and the endpoints of each carrier in collections, with
one instance per key.  Who wants an instance first looks whether there is one, and only if there is
none asks for one to be made; meanwhile others may have done the same.  As the second question looks
again, the first to ask it decides, and nobody changes that later.

`Kept` is the invariant: what was made has numbers and keys of its own, everything that anyone was
given is among it, and all of it was given to someone.
-/

/-! ## What is kept -/

/-- Only the questions about instances are answered from what is kept, and only they change what was
made.  Everything else is answered by anything. -/
def keeping (ι : Type) : Surroundings ι World where
  answers world _ said later :=
    match said with
    | ⟨.find registry key, answer⟩ => (answer, later) = world.answerPlain (.find registry key)
    | ⟨.findOrMake registry key, answer⟩ =>
      (answer, later) = world.answerPlain (.findOrMake registry key)
    | ⟨.instances registry, answer⟩ => (answer, later) = world.answerPlain (.instances registry)
    | _ => later.made = world.made
  dropped world _ := world
  passes world later := later.made = world.made

def given? : Answered → Option (Registry × String × Nat)
  | ⟨.find registry key, some id⟩ => some (registry, key, id)
  | ⟨.findOrMake registry key, id⟩ => some (registry, key, id)
  | _ => none

def keyOf (entry : Registry × String × Nat) : Registry × String :=
  (entry.1, entry.2.1)

def keysIn (registry : Registry) (entries : List (Registry × String × Nat)) : List String :=
  (entries.filter fun entry => entry.1 = registry).map fun entry => entry.2.1

/-- The keys of a registry for which instances were given, each of them once. -/
def keysGiven {ι : Type} (registry : Registry) (log : List (ι × Answered)) : List String :=
  (keysIn registry (log.filterMap fun entry => given? entry.2)).dedup

theorem mem_keysIn {registry : Registry} {key : String}
    {entries : List (Registry × String × Nat)} :
    key ∈ keysIn registry entries ↔ ∃ id, (registry, key, id) ∈ entries := by
  constructor
  · intro member
    rcases List.mem_map.mp member with ⟨⟨other, name, id⟩, among, rfl⟩
    rcases List.mem_filter.mp among with ⟨listed, same⟩
    cases of_decide_eq_true same
    exact ⟨id, listed⟩
  · rintro ⟨id, listed⟩
    exact List.mem_map.mpr ⟨_, List.mem_filter.mpr ⟨listed, decide_eq_true rfl⟩, rfl⟩

theorem nodup_keysIn {registry : Registry} {entries : List (Registry × String × Nat)}
    (distinct : (entries.map keyOf).Nodup) : (keysIn registry entries).Nodup := by
  refine List.Nodup.map_on ?_ ((List.Nodup.of_map keyOf distinct).filter _)
  intro first member second other same
  rcases List.mem_filter.mp member with ⟨member, inFirst⟩
  rcases List.mem_filter.mp other with ⟨other, inSecond⟩
  refine List.inj_on_of_nodup_map distinct member other (Prod.ext ?_ same)
  exact (of_decide_eq_true inFirst).trans (of_decide_eq_true inSecond).symm

section
variable {world : World} {registry : Registry} {key : String} {id : Nat}

theorem mem_made_of_find (found : world.find registry key = some id) :
    (registry, key, id) ∈ world.made := by
  rcases Option.map_eq_some_iff.mp found with ⟨⟨other, name, number⟩, first, rfl⟩
  have holds := List.find?_some first
  rcases of_decide_eq_true holds with ⟨rfl, rfl⟩
  exact List.mem_of_find?_eq_some first

theorem not_mem_of_find (missing : world.find registry key = none) :
    (registry, key) ∉ world.made.map keyOf := by
  intro member
  rcases List.mem_map.mp member with ⟨entry, listed, same⟩
  have none := List.find?_eq_none.mp (Option.map_eq_none_iff.mp missing) entry listed
  cases same
  exact none (decide_eq_true ⟨rfl, rfl⟩)

theorem length_instances : (world.instances registry).length =
    (keysIn registry world.made).length := by
  unfold World.instances keysIn
  rw [List.length_map, List.length_map]

end

/-- What was made has numbers and keys of its own, and is what was given. -/
structure Kept {ι : Type} (world : World) (log : List (ι × Answered)) : Prop where
  numbered : world.made.map (fun entry => entry.2.2) = List.range world.made.length
  distinct : (world.made.map keyOf).Nodup
  mem_iff : ∀ entry, entry ∈ world.made ↔ entry ∈ log.filterMap fun said => given? said.2
  counted : ∀ front who registry list back,
    log = front ++ (who, ⟨.instances registry, list⟩) :: back →
      list.length = (keysGiven registry front).length

section
variable {ι : Type} {world later : World} {log : List (ι × Answered)} {who : ι} {said : Answered}

/-- There are as many instances as keys for which one was given. -/
theorem Kept.length_instances (kept : Kept world log) (registry : Registry) :
    (world.instances registry).length = (keysGiven registry log).length := by
  rw [PubSub.length_instances]
  have distinct : (keysGiven registry log).Nodup := List.nodup_dedup _
  apply List.Perm.length_eq
  rw [List.perm_ext_iff_of_nodup (nodup_keysIn kept.distinct) distinct]
  intro key
  rw [keysGiven, List.mem_dedup, mem_keysIn, mem_keysIn]
  exact exists_congr fun id => kept.mem_iff _

/-- Where nothing is made, only what was there can be given and counted. -/
theorem Kept.concat (kept : Kept world log) (same : later.made = world.made)
    (known : ∀ entry, given? said = some entry → entry ∈ world.made)
    (counts : ∀ registry list, said = ⟨.instances registry, list⟩ →
      list.length = (keysGiven registry log).length) :
    Kept later (log ++ [(who, said)]) := by
  refine ⟨same ▸ kept.numbered, same ▸ kept.distinct, ?_, ?_⟩
  · intro entry
    rw [same, List.filterMap_append, List.mem_append, ← kept.mem_iff]
    refine ⟨Or.inl, ?_⟩
    rintro (before | now)
    · exact before
    · rcases List.mem_filterMap.mp now with ⟨⟨other, heard⟩, last, gives⟩
      cases List.mem_singleton.mp last
      exact known entry gives
  · intro front other registry list back split
    rcases concat_eq_append_cons split with ⟨whole, last, -⟩ | ⟨earlier, before, -⟩
    · cases last
      exact whole ▸ counts registry list rfl
    · exact kept.counted front other registry list earlier before

/-- A new instance gets the next number. -/
theorem Kept.made {registry : Registry} {key : String} (kept : Kept world log)
    (missing : world.find registry key = none) :
    Kept { world with made := world.made ++ [(registry, key, world.made.length)] }
      (log ++ [(who, ⟨.findOrMake registry key, world.made.length⟩)]) := by
  refine ⟨?_, ?_, ?_, ?_⟩
  · rw [List.map_append, kept.numbered, List.length_append, List.length_singleton,
      List.range_succ]
    rfl
  · rw [List.map_append, List.map_singleton, List.nodup_append]
    refine ⟨kept.distinct, List.nodup_singleton _, ?_⟩
    rintro earlier member last isLast rfl
    rw [List.mem_singleton.mp isLast] at member
    exact not_mem_of_find missing member
  · intro entry
    rw [List.filterMap_append, List.mem_append, List.mem_append, ← kept.mem_iff]
    rfl
  · intro front other registry list back split
    rcases concat_eq_append_cons split with ⟨-, last, -⟩ | ⟨earlier, before, -⟩
    · cases last
    · exact kept.counted front other registry list earlier before

theorem kept_nil (empty : world.made = []) :
    Kept world ([] : List (ι × Answered)) := by
  refine ⟨?_, ?_, ?_, ?_⟩
  · rw [empty]
    rfl
  · rw [empty]
    exact List.nodup_nil
  · intro entry
    rw [empty]
    rfl
  · intro front who registry list back split
    cases (List.append_eq_nil_iff.mp split.symm).2

/-- Two instances have the same number where they have the same key, and only there. -/
theorem Kept.id_eq_iff (kept : Kept world log) {entry other : Registry × String × Nat}
    (made : entry ∈ world.made) (others : other ∈ world.made) :
    entry.2.2 = other.2.2 ↔ keyOf entry = keyOf other := by
  have numbers : (world.made.map fun entry => entry.2.2).Nodup :=
    kept.numbered ▸ List.nodup_range
  constructor
  · intro same
    exact congrArg keyOf (List.inj_on_of_nodup_map numbers made others same)
  · intro same
    exact congrArg (fun entry => entry.2.2)
      (List.inj_on_of_nodup_map kept.distinct made others same)

theorem Kept.mem_made (kept : Kept world log) {entry : ι × Answered}
    {made : Registry × String × Nat} (member : entry ∈ log)
    (gives : given? entry.2 = some made) : made ∈ world.made :=
  (kept.mem_iff _).mpr (List.mem_filterMap.mpr ⟨entry, member, gives⟩)

theorem Kept.answer (kept : Kept world log) (answered : (keeping ι).answers world who said later) :
    Kept later (log ++ [(who, said)]) ∧ world.made <+: later.made := by
  rcases said with ⟨question, answer⟩
  cases question with
  | find registry key =>
      cases answered
      refine ⟨kept.concat rfl ?_ nofun, List.prefix_rfl⟩
      intro entry gives
      cases found : world.find registry key with
      | none =>
          rw [found] at gives
          cases gives
      | some id =>
          rw [found] at gives
          cases gives
          exact mem_made_of_find found
  | findOrMake registry key =>
      cases found : world.find registry key with
      | none =>
          have same : (answer, later) = (world.made.length,
              { world with made := world.made ++ [(registry, key, world.made.length)] }) := by
            rw [answered, World.answerPlain, World.findOrMake, found]
          cases same
          exact ⟨kept.made found, List.prefix_append _ _⟩
      | some id =>
          have same : (answer, later) = (id, world) := by
            rw [answered, World.answerPlain, World.findOrMake, found]
          cases same
          refine ⟨kept.concat rfl ?_ nofun, List.prefix_rfl⟩
          intro entry gives
          cases gives
          exact mem_made_of_find found
  | instances registry =>
      cases answered
      refine ⟨kept.concat rfl nofun ?_, List.prefix_rfl⟩
      intro other list same
      cases same
      exact kept.length_instances registry
  | _ => exact ⟨kept.concat answered nofun nofun, answered ▸ List.prefix_rfl⟩

end

/-! ## Who wants an instance -/

/-- What a program of a client may want: an instance, the number of endpoints of a carrier, or
anything else. -/
inductive Member
  | getService (control : Controller) (name : String)
  | getCarrier (control : Controller) (name : String)
  | getEndpoint (carrier : Carrier) (url : String)
  | countEndpoints (carrier : Carrier)
  | other {Value : Type} (program : Program Value)

namespace Member

@[reducible] def Result : Member → Type
  | getService _ _ => Except Error Dispatcher
  | getCarrier _ _ => Except Error Carrier
  | getEndpoint _ _ => Except Error Endpoint
  | countEndpoints _ => Except Error Nat
  | @other Value _ => Value

def program : (member : Member) → Program member.Result
  | getService control name => (Dispatcher.get control name).run
  | getCarrier control name => (Carrier.get control name).run
  | getEndpoint carrier url => (carrier.endpoint url).run
  | countEndpoints carrier => carrier.endpointCount.run
  | other program => program

def key? : Member → Option (Registry × String)
  | getService _ name => some (.services, name)
  | getCarrier _ name => some (.carriers, name)
  | getEndpoint carrier url => some (.endpoints carrier.dispatcher.id, url)
  | _ => none

/-- What a program comes to is the instance of a key, and has this number. -/
inductive Gets : (member : Member) → member.Result → Registry × String → Nat → Prop
  | service (control : Controller) (name : String) (id : Nat) :
      Gets (.getService control name) (.ok ⟨control, id, name⟩) (.services, name) id
  | carrier (control : Controller) (name : String) (id : Nat) :
      Gets (.getCarrier control name) (.ok ⟨⟨control, id, name⟩⟩) (.carriers, name) id
  | endpoint (carrier : Carrier) (url : String) (id : Nat) :
      Gets (.getEndpoint carrier url) (.ok ⟨id, url⟩) (.endpoints carrier.dispatcher.id, url) id

inductive Counts : (member : Member) → member.Result → Carrier → Nat → Prop
  | endpoints (carrier : Carrier) (number : Nat) :
      Counts (.countEndpoints carrier) (.ok number) carrier number

theorem Gets.key_eq {member : Member} {result : member.Result} {key : Registry × String} {id : Nat}
    (gets : member.Gets result key id) : member.key? = some key := by
  cases gets <;> rfl

theorem Gets.id_eq {member : Member} {result : member.Result} {key other : Registry × String}
    {id otherId : Nat} (gets : member.Gets result key id)
    (others : member.Gets result other otherId) : id = otherId := by
  cases gets <;> cases others <;> rfl

end Member

section
open ExchangeGrid.Action

/-- A program that wants an instance never fails, and what it makes of it is given by one answer. -/
theorem given_of_yields {α : Type} {registry : Registry} {key : String} {make : Nat → α}
    {told : List Answered} {result : Except Error α}
    (yields : (do pure (make (← instanceOf registry key)) : Action α).Yields told result) :
    ∃ id, result = .ok (make id) ∧ ∃ said ∈ told, given? said = some (registry, key, id) := by
  unfold instanceOf at yields
  rcases yields_bind.mp yields with ⟨_, _, _, rfl, given, rest⟩
  rcases yields_bind.mp given with ⟨_, _, _, rfl, looked, found⟩
  rcases yields_ask.mp looked with ⟨answer, rfl, rfl⟩
  cases answer with
  | some id =>
      rcases found with ⟨rfl, rfl⟩
      rcases rest with ⟨rfl, rfl⟩
      exact ⟨id, rfl, _, List.mem_cons_self, rfl⟩
  | none =>
      rcases yields_ask.mp found with ⟨id, rfl, rfl⟩
      rcases rest with ⟨rfl, rfl⟩
      exact ⟨id, rfl, _, List.mem_cons_of_mem _ List.mem_cons_self, rfl⟩

theorem Member.gets_of_yields {member : Member} {key : Registry × String} {told : List Answered}
    {result : member.Result} (wants : member.key? = some key)
    (yields : member.program.Yields told result) :
    ∃ id, member.Gets result key id ∧ ∃ said ∈ told, given? said = some (key.1, key.2, id) := by
  cases member with
  | getService control name =>
      cases wants
      rcases given_of_yields yields with ⟨id, rfl, given⟩
      exact ⟨id, .service control name id, given⟩
  | getCarrier control name =>
      cases wants
      rcases given_of_yields yields with ⟨id, rfl, given⟩
      exact ⟨id, .carrier control name id, given⟩
  | getEndpoint carrier url =>
      cases wants
      rcases given_of_yields yields with ⟨id, rfl, given⟩
      exact ⟨id, .endpoint carrier url id, given⟩
  | countEndpoints | other => cases wants

theorem Member.counts_of_yields {member : Member} {carrier : Carrier} {number : Nat}
    {told : List Answered} {result : member.Result} (counts : member.Counts result carrier number)
    (yields : member.program.Yields told result) :
    ∃ answer, told = [⟨.instances (.endpoints carrier.dispatcher.id), answer⟩] ∧
      number = answer.length := by
  cases counts
  rcases yields_bind.mp yields with ⟨_, _, _, rfl, asked, rest⟩
  rcases yields_ask.mp asked with ⟨answer, rfl, rfl⟩
  rcases rest with ⟨rfl, same⟩
  cases same
  exact ⟨answer, rfl, rfl⟩

end

/-! ## Any number of programs -/

section
variable {ι : Type} [DecidableEq ι] {member : ι → Member}
  {team later : Team World fun who => (member who).Result}

theorem Kept.step (kept : Kept team.state team.log) (step : team.Step (keeping ι) later) :
    Kept later.state later.log ∧ team.state.made <+: later.state.made := by
  cases step with
  | answer asks answered => exact kept.answer answered
  | drop asks => exact ⟨kept, List.prefix_rfl⟩
  | pass passes =>
      have same : _ = team.state.made := passes
      have kept : Kept _ team.log :=
        ⟨same ▸ kept.numbered, same ▸ kept.distinct, fun entry => same ▸ kept.mem_iff entry,
          kept.counted⟩
      exact ⟨kept, same ▸ List.prefix_rfl⟩

theorem Kept.reaches (kept : Kept team.state team.log) (reaches : team.Reaches (keeping ι) later) :
    Kept later.state later.log ∧ team.state.made <+: later.state.made := by
  induction reaches with
  | refl => exact ⟨kept, List.prefix_rfl⟩
  | tail _ step inductionHypothesis =>
      rcases inductionHypothesis with ⟨kept, grown⟩
      rcases kept.step step with ⟨kept, more⟩
      exact ⟨kept, grown.trans more⟩

end

/-- What programs can rely on that want instances while others do. -/
structure OneInstance {ι : Type} [DecidableEq ι] (member : ι → Member)
    (team : Team World fun who => (member who).Result) : Prop where
  /-- Who wants an instance gets one of its own key. -/
  gets : ∀ who key result, (member who).key? = some key → team.Returned who result →
    ∃ id, (member who).Gets result key id
  /-- It is the same for the same key, and another for any other. -/
  same_iff : ∀ who other result otherResult key otherKey id otherId,
    team.Returned who result → team.Returned other otherResult →
    (member who).Gets result key id → (member other).Gets otherResult otherKey otherId →
    (id = otherId ↔ key = otherKey)
  /-- So it is with all instances that programs are given on their way. -/
  given_iff : ∀ said ∈ team.log, ∀ other ∈ team.log, ∀ entry otherEntry,
    given? said.2 = some entry → given? other.2 = some otherEntry →
    (entry.2.2 = otherEntry.2.2 ↔ keyOf entry = keyOf otherEntry)
  /-- Nothing that was made is replaced or removed, and nothing is made twice. -/
  stays : ∀ later, team.Reaches (keeping ι) later → team.state.made <+: later.state.made
  distinct : (team.state.made.map keyOf).Nodup
  /-- There are as many instances as keys for which anyone was given one, at all times and whenever
  someone counts the endpoints of a carrier. -/
  length_instances : ∀ registry,
    (team.state.instances registry).length = (keysGiven registry team.log).length
  counts : ∀ who result carrier number, team.Returned who result →
    (member who).Counts result carrier number → ∃ front answer back,
      team.log = front ++ (who, ⟨.instances (.endpoints carrier.dispatcher.id), answer⟩) :: back ∧
      number = (keysGiven (.endpoints carrier.dispatcher.id) front).length
  /-- A key for which a call has returned is among them. -/
  given : ∀ who result key id, team.Returned who result → (member who).Gets result key id →
    key.2 ∈ keysGiven key.1 team.log

/-- However many programs want instances, and in whatever order their questions are answered, there
is one instance per key. -/
theorem one_instance_of_reaches {ι : Type} [DecidableEq ι] (member : ι → Member) (world : World)
    (empty : world.made = []) (team : Team World fun who => (member who).Result)
    (reaches : Team.Reaches (keeping ι) (.start world fun who => (member who).program) team) :
    OneInstance member team := by
  have atStart : Kept (Team.start world fun who => (member who).program).state
      ([] : List (ι × Answered)) := kept_nil empty
  have kept : Kept team.state team.log := (atStart.reaches reaches).1
  have gets : ∀ who result, team.Returned who result → ∀ key, (member who).key? = some key →
      ∃ id, (member who).Gets result key id ∧
        ∃ said, (who, said) ∈ team.log ∧ given? said = some (key.1, key.2, id) := by
    intro who result returned key wants
    rcases Member.gets_of_yields wants (Team.yields_of_returned reaches returned) with
      ⟨id, gets, said, told, gives⟩
    exact ⟨id, gets, said, mem_of_mem_pastOf told, gives⟩
  have made : ∀ who result key id, team.Returned who result → (member who).Gets result key id →
      (key.1, key.2, id) ∈ team.state.made := by
    intro who result key id returned others
    rcases gets who result returned key others.key_eq with ⟨other, got, said, told, gives⟩
    rw [others.id_eq got]
    exact kept.mem_made told gives
  refine ⟨?_, ?_, ?_, ?_, kept.distinct, kept.length_instances, ?_, ?_⟩
  · intro who key result wants returned
    rcases gets who result returned key wants with ⟨id, got, -⟩
    exact ⟨id, got⟩
  · intro who other result otherResult key otherKey id otherId returned otherReturned got otherGot
    exact kept.id_eq_iff (made _ _ _ _ returned got) (made _ _ _ _ otherReturned otherGot)
  · intro said told other otherTold entry otherEntry gives otherGives
    exact kept.id_eq_iff (kept.mem_made told gives) (kept.mem_made otherTold otherGives)
  · intro later onward
    exact (kept.reaches onward).2
  · intro who result carrier number returned counts
    rcases Member.counts_of_yields counts (Team.yields_of_returned reaches returned) with
      ⟨answer, told, rfl⟩
    have whole : pastOf who team.log =
        [] ++ [⟨.instances (.endpoints carrier.dispatcher.id), answer⟩] := told
    rcases pastOf_eq_append_cons whole with ⟨front, back, split, -, -⟩
    exact ⟨front, answer, back, split, kept.counted _ _ _ _ _ split⟩
  · intro who result key id returned got
    rw [keysGiven, List.mem_dedup, mem_keysIn]
    exact ⟨id, (kept.mem_iff _).mp (made who result key id returned got)⟩

def bareWorld : World where
  control := ⟨[], "me", none⟩
  transport := ⟨⟨.preferV4, none⟩, ⟨.system, none⟩, none, false⟩
  network := .unreachable fun _ => none
  peers := .prepared

/-- Both programs look for the service before either asks for it to be made. -/
theorem one_instance_raced : ∃ team : Team World fun _ => Except Error Dispatcher,
    Team.Reaches (keeping Bool)
        (.start bareWorld fun _ => (Dispatcher.get bareWorld.control "s").run) team ∧
      team.Returned true (.ok ⟨bareWorld.control, 0, "s"⟩) ∧
      team.Returned false (.ok ⟨bareWorld.control, 0, "s"⟩) ∧
      OneInstance (fun _ : Bool => .getService bareWorld.control "s") team := by
  let made : World := { bareWorld with made := [(.services, "s", 0)] }
  have first : Team.Step (keeping Bool)
      (.start bareWorld fun _ => (Dispatcher.get bareWorld.control "s").run) _ :=
    Team.step_answer true (.find .services "s") none bareWorld rfl rfl
  have second := Relation.ReflTransGen.tail (.single first)
    (Team.step_answer false (.find .services "s") none bareWorld rfl rfl)
  have third := second.tail
    (Team.step_answer true (.findOrMake .services "s") (0 : Nat) made rfl rfl)
  have reaches := third.tail
    (Team.step_answer false (.findOrMake .services "s") (0 : Nat) made rfl rfl)
  exact ⟨_, reaches, rfl, rfl, one_instance_of_reaches _ _ rfl _ reaches⟩

end PubSub
end ExchangeGrid
