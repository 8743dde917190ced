import ExchangeGrid.Proofs.PubSub.Footing
import ExchangeGrid.Proofs.PubSub.Site

namespace ExchangeGrid
namespace PubSub

/-!
# How programs stand at an endpoint

Any number of programs may connect to an endpoint or end its session.  `Stands` says how what they
share agrees with the footing of each of them: who has the turn, what is kept, what each of them
holds, and that every relay that goes on is kept or held by one of them.

An answer changes the footing of one program, and what has to be checked then concerns that program
alone (`Moved`): the others cannot have the turn if it has, and nobody else holds what it holds.
-/

section
variable {ι : Type}

/-- What is shared agrees with the footings. -/
structure Stands (parts : ι → Bool) (site : Site ι) (footing : ι → Footing) : Prop where
  turn_iff : ∀ who, site.turn = some who ↔ (footing who).HasTurn
  held_eq : ∀ who, site.held who = (footing who).held?.toList
  kept_eq : ∀ who kept, (footing who).known? = some kept → site.kept = kept
  owned : ∀ session, site.isOpen session = true →
    site.kept = some session ∨ ∃ who, (footing who).held? = some session
  kept_lt : ∀ session, site.kept = some session → session < site.bridges.length
  held_lt : ∀ who session, (footing who).held? = some session → session < site.bridges.length
  parts_of : ∀ who session, footing who = .apart session → parts who = true

/-- A program moves from one footing to another, and what is shared with it.  Only who had the turn
may change what is kept.  A relay that goes on did so before or is new and held, and if this program
or all could reach its session, one of them still can; nothing else comes to be owned. -/
structure Moved [DecidableEq ι] (parts : ι → Bool) (site : Site ι) (who : ι) (before : Footing)
    (later : Site ι) (after : Footing) : Prop where
  others_turn : ∀ other, other ≠ who → (later.turn = some other ↔ site.turn = some other)
  own_turn : later.turn = some who ↔ after.HasTurn
  held_eq : later.held = Function.update site.held who after.held?.toList
  kept_of : later.kept = site.kept ∨ before.HasTurn
  kept_eq : ∀ kept, after.known? = some kept → later.kept = kept
  length_le : site.bridges.length ≤ later.bridges.length
  isOpen_of : ∀ session, later.isOpen session = true →
    site.isOpen session = true ∨ after.held? = some session
  owned : ∀ session, later.isOpen session = true →
    site.kept = some session ∨ before.held? = some session →
    later.kept = some session ∨ after.held? = some session
  was_owned : ∀ session, later.kept = some session ∨ after.held? = some session →
    site.kept = some session ∨ before.held? = some session ∨ session < later.bridges.length
  parts_of : ∀ session, after = .apart session → parts who = true

variable {parts : ι → Bool} {site later : Site ι} {footing : ι → Footing} {who : ι}

theorem Footing.hasTurn_of_known {footing : Footing} {kept : Option Nat}
    (known : footing.known? = some kept) : footing.HasTurn := by
  cases footing with
  | knows | holds => trivial
  | outside | entered | apart => cases known

/-- Nobody is there. -/
theorem stands_fresh (parts : ι → Bool) (settings : PubSubSettings) :
    Stands parts ({ settings } : Site ι) fun _ => .outside where
  turn_iff _ := ⟨nofun, False.elim⟩
  held_eq _ := rfl
  kept_eq _ _ := nofun
  owned _ := nofun
  kept_lt _ := nofun
  held_lt _ _ := nofun
  parts_of _ _ := nofun

/-- What only concerns the relays changes no footing. -/
theorem Stands.quiet (stands : Stands parts site footing) (quiet : Site.Quiet site later) :
    Stands parts later footing := by
  refine ⟨?_, ?_, ?_, ?_, ?_, ?_, stands.parts_of⟩
  · rw [quiet.turn_eq]
    exact stands.turn_iff
  · rw [quiet.held_eq]
    exact stands.held_eq
  · rw [quiet.kept_eq]
    exact stands.kept_eq
  · intro session opened
    rw [quiet.kept_eq]
    exact stands.owned session (quiet.isOpen_of session opened)
  · rw [quiet.kept_eq, quiet.length_eq]
    exact stands.kept_lt
  · rw [quiet.length_eq]
    exact stands.held_lt

/-- The turn passes between one program and none. -/
theorem others_turn_of (others : ∀ other, site.turn = some other → other = who) {turn : Option ι}
    (mine : ∀ other, turn = some other → other = who) (other : ι) (different : other ≠ who) :
    turn = some other ↔ site.turn = some other :=
  ⟨fun same => absurd (mine other same) different, fun same => absurd (others other same) different⟩

section
variable {stand : Footing}

theorem Stands.turn_of (stands : Stands parts site footing) (at_ : footing who = stand) :
    site.turn = some who ↔ stand.HasTurn :=
  at_ ▸ stands.turn_iff who

/-- The turn is held by one program at most. -/
theorem Stands.eq_of_hasTurn (stands : Stands parts site footing) (at_ : footing who = stand)
    (has : stand.HasTurn) {other : ι} (others : (footing other).HasTurn) : other = who := by
  have first := (stands.turn_of at_).mpr has
  have second := (stands.turn_iff other).mpr others
  exact Option.some.inj (second.symm.trans first)

theorem Stands.held_of (stands : Stands parts site footing) (at_ : footing who = stand) :
    site.held who = stand.held?.toList :=
  at_ ▸ stands.held_eq who

theorem Stands.kept_of (stands : Stands parts site footing) (at_ : footing who = stand)
    {kept : Option Nat} (known : stand.known? = some kept) : site.kept = kept :=
  stands.kept_eq who kept (at_ ▸ known)

end

variable [DecidableEq ι]

theorem Stands.moved (stands : Stands parts site footing) {after : Footing}
    (moved : Moved parts site who (footing who) later after) :
    Stands parts later (Function.update footing who after) := by
  have elsewhere : ∀ {other : ι}, other ≠ who →
      Function.update footing who after other = footing other :=
    fun different => Function.update_of_ne different ..
  have here : Function.update footing who after who = after := Function.update_self ..
  have bound : ∀ session, later.kept = some session ∨ after.held? = some session →
      session < later.bridges.length := by
    intro session owned
    rcases moved.was_owned session owned with kept | held | new
    · exact Nat.lt_of_lt_of_le (stands.kept_lt session kept) moved.length_le
    · exact Nat.lt_of_lt_of_le (stands.held_lt who session held) moved.length_le
    · exact new
  refine ⟨?_, ?_, ?_, ?_, ?_, ?_, ?_⟩
  · intro other
    by_cases own : other = who
    · subst own
      rw [here]
      exact moved.own_turn
    · rw [elsewhere own, moved.others_turn other own]
      exact stands.turn_iff other
  · intro other
    rw [moved.held_eq]
    by_cases own : other = who
    · subst own
      rw [here, Function.update_self]
    · rw [elsewhere own, Function.update_of_ne own]
      exact stands.held_eq other
  · intro other kept known
    by_cases own : other = who
    · subst own
      rw [here] at known
      exact moved.kept_eq kept known
    · rw [elsewhere own] at known
      rcases moved.kept_of with same | has
      · rw [same]
        exact stands.kept_eq other kept known
      · exact absurd (stands.eq_of_hasTurn rfl has (Footing.hasTurn_of_known known)) own
  · intro session opened
    have mine : later.kept = some session ∨ after.held? = some session →
        later.kept = some session ∨
          ∃ other, (Function.update footing who after other).held? = some session :=
      Or.imp_right fun held => ⟨who, here.symm ▸ held⟩
    rcases moved.isOpen_of session opened with before | held
    · rcases stands.owned session before with kept | ⟨other, held⟩
      · exact mine (moved.owned session opened (.inl kept))
      · by_cases own : other = who
        · subst own
          exact mine (moved.owned session opened (.inr held))
        · exact .inr ⟨other, (elsewhere own).symm ▸ held⟩
    · exact mine (.inr held)
  · intro session kept
    exact bound session (.inl kept)
  · intro other session held
    by_cases own : other = who
    · subst own
      rw [here] at held
      exact bound session (.inr held)
    · rw [elsewhere own] at held
      exact Nat.lt_of_lt_of_le (stands.held_lt other session held) moved.length_le
  · intro other session apart
    by_cases own : other = who
    · subst own
      exact moved.parts_of session (here.symm.trans apart)
    · exact stands.parts_of other session ((elsewhere own).symm.trans apart)

/-! ## Each way to move -/

section
variable {before after : Footing}

/-- Who goes on to hold what it held. -/
theorem Stands.held_update (stands : Stands parts site footing) (at_ : footing who = before)
    (same : after.held? = before.held?) :
    site.held = Function.update site.held who after.held?.toList := by
  rw [same, ← stands.held_of at_, Function.update_eq_self]

end

theorem Stands.enters (stands : Stands parts site footing) (at_ : footing who = .outside)
    (free : site.turn = none) :
    Moved parts site who .outside { site with turn := some who } .entered where
  others_turn := others_turn_of (free ▸ nofun) fun _ same => (Option.some.inj same).symm
  own_turn := ⟨fun _ => trivial, fun _ => rfl⟩
  held_eq := stands.held_update at_ rfl
  kept_of := .inl rfl
  kept_eq := nofun
  length_le := Nat.le_refl _
  isOpen_of _ := .inl
  owned _ _ := id
  was_owned _ := Or.imp_right .inl
  parts_of := nofun

theorem Stands.reads (stands : Stands parts site footing) (at_ : footing who = .entered) :
    Moved parts site who .entered site (.knows site.kept) where
  others_turn _ _ := Iff.rfl
  own_turn := (stands.turn_of at_).trans Iff.rfl
  held_eq := stands.held_update at_ rfl
  kept_of := .inl rfl
  kept_eq _ := Option.some.inj
  length_le := Nat.le_refl _
  isOpen_of _ := .inl
  owned _ _ := id
  was_owned _ := Or.imp_right .inl
  parts_of := nofun

theorem Stands.takesOut (stands : Stands parts site footing) {session : Nat}
    (at_ : footing who = .knows (some session)) :
    Moved parts site who (.knows (some session)) (site.takeOut who) (.holds session) where
  others_turn _ _ := Iff.rfl
  own_turn := (stands.turn_of at_).trans Iff.rfl
  held_eq := by
    rw [Site.takeOut, stands.held_of at_, stands.kept_of at_ rfl]
    rfl
  kept_of := .inr trivial
  kept_eq _ := Option.some.inj
  length_le := Nat.le_refl _
  isOpen_of _ := .inl
  owned other _ was := by
    rcases was with kept | held
    · exact .inr ((stands.kept_of at_ rfl).symm.trans kept)
    · cases held
  was_owned other now := by
    rcases now with kept | held
    · cases kept
    · exact .inl ((stands.kept_of at_ rfl).trans held)
  parts_of := nofun

theorem Stands.takesNothing (stands : Stands parts site footing)
    (at_ : footing who = .knows none) :
    Moved parts site who (.knows none) (site.takeOut who) (.knows none) where
  others_turn _ _ := Iff.rfl
  own_turn := (stands.turn_of at_).trans Iff.rfl
  held_eq := by
    rw [Site.takeOut, stands.held_of at_, stands.kept_of at_ rfl]
    rfl
  kept_of := .inr trivial
  kept_eq _ := Option.some.inj
  length_le := Nat.le_refl _
  isOpen_of _ := .inl
  owned other _ was := by
    rcases was with kept | held
    · cases (stands.kept_of at_ rfl).symm.trans kept
    · cases held
  was_owned _ := Or.imp nofun .inl
  parts_of := nofun

theorem Stands.keeps (stands : Stands parts site footing) {session : Nat}
    (at_ : footing who = .holds session) :
    Moved parts site who (.holds session) (site.keep who session) (.knows (some session)) where
  others_turn _ _ := Iff.rfl
  own_turn := (stands.turn_of at_).trans Iff.rfl
  held_eq := by
    have mine : (site.held who).erase session = [] := by
      rw [stands.held_of at_]
      exact List.erase_cons_head ..
    rw [Site.keep, mine]
    rfl
  kept_of := .inr trivial
  kept_eq _ := Option.some.inj
  length_le := Nat.le_of_eq Site.length_cancelWhere.symm
  isOpen_of _ opened := .inl (Site.isOpen_cancelWhere.mp opened).1
  owned other _ was := by
    rcases was with kept | held
    · cases (stands.kept_of at_ rfl).symm.trans kept
    · exact .inl held
  was_owned _ now := .inr (.inl (now.resolve_right nofun))
  parts_of := nofun

theorem Stands.spawns (stands : Stands parts site footing) (at_ : footing who = .knows none) :
    Moved parts site who (.knows none) (site.spawn who) (.holds site.bridges.length) where
  others_turn _ _ := Iff.rfl
  own_turn := (stands.turn_of at_).trans Iff.rfl
  held_eq := by
    rw [Site.spawn, stands.held_of at_]
    rfl
  kept_of := .inl rfl
  kept_eq _ known := (stands.kept_of at_ rfl).trans (Option.some.inj known)
  length_le := Site.grows_spawn.length_le
  isOpen_of _ opened := by
    rcases Site.isOpen_spawn opened with rfl | before
    · exact .inr rfl
    · exact .inl before
  owned _ _ := Or.imp_right nofun
  was_owned other now := by
    rcases now with kept | held
    · exact .inl kept
    · cases held
      rw [Site.spawn, List.length_append]
      exact .inr (.inr (Nat.lt_succ_self _))
  parts_of := nofun

section
variable {session : Nat} {before after : Footing}

/-- A session is let go, by who has the turn or by who has it for its own. -/
theorem Stands.letsGo (stands : Stands parts site footing) (at_ : footing who = before)
    (held : before.held? = some session) (now : after.held? = none)
    (turn : before.HasTurn ↔ after.HasTurn) (known : ∀ kept, after.known? = some kept →
      before.known? = some kept) (inside : ∀ session, after ≠ .apart session) :
    Moved parts site who before (site.letGo who session) after where
  others_turn _ _ := Iff.rfl
  own_turn := (stands.turn_of at_).trans turn
  held_eq := by
    have mine : (site.held who).erase session = [] := by
      rw [stands.held_of at_, held]
      exact List.erase_cons_head ..
    rw [Site.letGo, mine, now]
    rfl
  kept_of := .inl rfl
  kept_eq kept is := stands.kept_of at_ (known kept is)
  length_le := Nat.le_of_eq Site.length_cancelWhere.symm
  isOpen_of _ opened := .inl (Site.isOpen_cancelWhere.mp opened).1
  owned other opened was := by
    rcases was with kept | same
    · exact .inl kept
    · cases held.symm.trans same
      have different := (Site.isOpen_cancelWhere.mp opened).2
      exact absurd (beq_self_eq_true session) (Bool.eq_false_iff.mp different)
  was_owned _ owned := .inl (owned.resolve_right (now ▸ nofun))
  parts_of session is := absurd is (inside session)

/-- The turn is given away, and what is held is taken along. -/
theorem Stands.leaves (stands : Stands parts site footing) (at_ : footing who = before)
    (has : before.HasTurn) (hasNot : ¬ after.HasTurn) (held : after.held? = before.held?)
    (unknown : after.known? = none) (may : ∀ session, after = .apart session → parts who = true) :
    Moved parts site who before { site with turn := none } after where
  others_turn := by
    have mine := (stands.turn_of at_).mpr has
    exact others_turn_of (fun _ same => Option.some.inj (same.symm.trans mine)) nofun
  own_turn := ⟨nofun, fun has => absurd has hasNot⟩
  held_eq := stands.held_update at_ held
  kept_of := .inl rfl
  kept_eq _ known := nomatch unknown.symm.trans known
  length_le := Nat.le_refl _
  isOpen_of _ := .inl
  owned _ _ := held ▸ id
  was_owned _ owned := by
    rw [held] at owned
    exact or_assoc.mp (.inl owned)
  parts_of := may

end

theorem Stands.isDropped (stands : Stands parts site footing) :
    Moved parts site who (footing who) (site.dropped who) .outside where
  others_turn other different := by
    change (if site.turn = some who then none else site.turn) = some other ↔ _
    split
    next mine =>
        rw [mine]
        exact ⟨nofun, fun same => absurd (Option.some.inj same).symm different⟩
    next => exact Iff.rfl
  own_turn := by
    change (if site.turn = some who then none else site.turn) = some who ↔ False
    rw [iff_false]
    split
    next => exact nofun
    next others => exact others
  held_eq := rfl
  kept_of := .inl rfl
  kept_eq := nofun
  length_le := Nat.le_of_eq Site.length_cancelWhere.symm
  isOpen_of _ opened := .inl (Site.isOpen_cancelWhere.mp opened).1
  owned other opened was := by
    rcases was with kept | held
    · exact .inl kept
    · have lost := (Site.isOpen_cancelWhere.mp opened).2
      rw [stands.held_eq who, held] at lost
      exact absurd List.mem_cons_self (of_decide_eq_false lost)
  was_owned _ owned := .inl (owned.resolve_right nofun)
  parts_of := nofun

/-! ## Answers -/

theorem Stands.still (stands : Stands parts site footing) {after : Footing}
    (same : after = footing who) (quiet : Site.Quiet site later) :
    Stands parts later (Function.update footing who after) := by
  rw [same, Function.update_eq_self]
  exact stands.quiet quiet

theorem Stands.moved_of (stands : Stands parts site footing) {before after : Footing}
    (at_ : footing who = before) (moved : Moved parts site who before later after) :
    Stands parts later (Function.update footing who after) :=
  stands.moved (at_ ▸ moved)

/-- An answer to a question that may be asked moves a program as its footing says. -/
theorem Stands.answer (stands : Stands parts site footing) {said : Answered}
    (may : (footing who).May (parts who) said.question)
    (answered : site.Answers who said later) :
    Stands parts later (Function.update footing who ((footing who).after said)) := by
  rcases said with ⟨question, answer⟩
  cases question with
  | enterEndpoint endpoint patient =>
      have at_ : footing who = .outside := may
      rcases answer with error | ⟨⟩
      · rcases answered with ⟨-, -, rfl⟩
        rw [at_]
        exact stands.still at_.symm (.refl _)
      · rcases answered with ⟨free, rfl⟩
        rw [at_]
        exact stands.moved_of at_ (stands.enters at_ free)
  | readSession endpoint =>
      have at_ : footing who = .entered := may
      rcases answered with ⟨rfl, rfl⟩
      rw [at_]
      exact stands.moved_of at_ (stands.reads at_)
  | isClosed session =>
      have at_ : footing who = .knows (some session) := may
      rw [at_]
      cases answer <;> rcases answered with ⟨-, rfl⟩ <;>
        exact stands.still at_.symm ⟨rfl, rfl, rfl, rfl, fun _ => id⟩
  | probe session =>
      have at_ : footing who = .knows (some session) := may
      rw [at_]
      cases answer <;> rcases answered with ⟨-, rfl⟩ <;>
        exact stands.still at_.symm ⟨rfl, rfl, rfl, rfl, fun _ => id⟩
  | keepSession endpoint kept =>
      cases kept with
      | none =>
          have at_ : ∃ kept, footing who = .knows kept := may
          rcases at_ with ⟨kept, at_⟩
          cases answered
          rw [at_]
          cases kept with
          | none => exact stands.moved_of at_ (stands.takesNothing at_)
          | some session => exact stands.moved_of at_ (stands.takesOut at_)
      | some session =>
          have at_ : footing who = .holds session := may
          cases answered
          rw [at_]
          exact stands.moved_of at_ (stands.keeps at_)
  | dial url user secret =>
      have at_ : footing who = .knows none := may
      rw [at_]
      rcases answer with error | session
      · cases answered
        exact stands.still at_.symm (.refl _)
      · rcases answered with ⟨rfl, rfl⟩
        exact stands.moved_of at_ (stands.spawns at_)
  | handshake session host =>
      have at_ : footing who = .holds session := may
      cases answered
      rw [at_]
      exact stands.still at_.symm (.refl _)
  | close session =>
      have at_ : footing who = .holds session := may
      cases answered
      rw [at_]
      exact stands.moved_of at_ (stands.letsGo at_ rfl rfl Iff.rfl (fun _ => id) nofun)
  | release session =>
      have at_ : footing who = .holds session ∨ footing who = .apart session := may
      cases answered
      rcases at_ with at_ | at_ <;> rw [at_]
      · exact stands.moved_of at_ (stands.letsGo at_ rfl rfl Iff.rfl (fun _ => id) nofun)
      · exact stands.moved_of at_ (stands.letsGo at_ rfl rfl Iff.rfl nofun nofun)
  | leaveEndpoint endpoint =>
      have at_ : (∃ kept, footing who = .knows kept) ∨
        parts who = true ∧ ∃ session, footing who = .holds session := may
      cases answered
      rcases at_ with ⟨kept, at_⟩ | ⟨leaves, session, at_⟩ <;> rw [at_]
      · exact stands.moved_of at_ (stands.leaves at_ trivial id rfl rfl nofun)
      · exact stands.moved_of at_ (stands.leaves at_ trivial id rfl rfl fun _ _ => leaves)
  | emit event =>
      cases answered
      exact stands.still (by cases footing who <;> rfl) (.refl _)
  | farewell session | awaitEnd session =>
      have at_ : footing who = .apart session := may
      cases answered
      rw [at_]
      exact stands.still at_.symm (.refl _)
  | _ => exact may.elim

/-- A program that is dropped is outside. -/
theorem Stands.drop (stands : Stands parts site footing) (who : ι) :
    Stands parts (site.dropped who) (Function.update footing who .outside) :=
  stands.moved stands.isDropped

end
end PubSub
end ExchangeGrid
