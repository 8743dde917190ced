import ExchangeGrid.Watch.Overrides

namespace ExchangeGrid
namespace Watch

/-!
# The forms of a host

`HostForm` lists the texts by which a host can be named on the command line, each with what it
names.  Every text of a form is the host, its port and the marks around them, so nothing in it is
without meaning.

`takes_forms` compares these forms with the reader.  The reader takes all of them, and refuses every
other text but one kind: behind the bracket that closes an address it passes over a tail that does
not begin with a colon.
-/

/-- The texts that name a host, with its port.  The port is zero where none is named. -/
inductive HostForm : List Char → List Char → Nat → Prop
  | bracketed {host : List Char} (closed : ']' ∉ host) : HostForm ('[' :: host ++ [']']) host 0
  | bracketedPort {host text : List Char} {port : Nat} (closed : ']' ∉ host)
      (written : Decimal.natural? Decimal.portBound text = some port) :
      HostForm ('[' :: host ++ ']' :: ':' :: text) host port
  | named {host text : List Char} {port : Nat}
      (unbracketed : (host ++ ':' :: text).head? ≠ some '[')
      (noColon : ':' ∉ host) (single : ':' ∉ text)
      (written : Decimal.natural? Decimal.portBound text = some port) :
      HostForm (host ++ ':' :: text) host port
  | bare {host : List Char} (unbracketed : host.head? ≠ some '[')
      (notSingle : host.count ':' ≠ 1) : HostForm host host 0

/-- Behind the bracket that closes an address stands something that is not a port. -/
def DropsTail (raw host : List Char) : Prop :=
  ∃ c tail, c ≠ ':' ∧ raw = '[' :: host ++ ']' :: c :: tail ∧ ']' ∉ host

section
variable {raw host : String} {text rest left tail : List Char} {port : Nat}

theorem ofList_eq_iff : String.ofList text = host ↔ text = host.toList :=
  ⟨fun same => same ▸ String.toList_ofList.symm, fun same => same ▸ String.ofList_toList⟩

theorem map_readPort_eq_ok_iff :
    (readPort raw text).map (String.ofList left, ·) = .ok (host, port) ↔
      left = host.toList ∧ Decimal.natural? Decimal.portBound text = some port := by
  rw [← Decimal.natural_eq_ok_iff, ← ofList_eq_iff, readPort]
  cases Decimal.natural Decimal.portBound text with
  | ok value =>
      change Except.ok (String.ofList left, value) = Except.ok (host, port) ↔ _
      rw [Except.ok.injEq, Prod.mk.injEq, Except.ok.injEq]
  | error flaw => exact ⟨nofun, nofun⟩

theorem ok_eq_ok_iff :
    (Except.ok (String.ofList left, 0) : Except HostFlaw (String × Nat)) = .ok (host, port) ↔
      left = host.toList ∧ port = 0 := by
  rw [Except.ok.injEq, Prod.mk.injEq, ofList_eq_iff, eq_comm (a := 0)]

/-! ## In brackets -/

theorem parseHost_unterminated (begins : raw.toList = '[' :: rest) (absent : ']' ∉ rest) :
    parseHost raw = .error (.unterminated raw) := by
  rw [parseHost, begins]
  simp only [splitOnce?_eq_none_iff.mpr absent]

theorem parseHost_bracketedPort (spelled : raw.toList = '[' :: left ++ ']' :: ':' :: text)
    (closed : ']' ∉ left) :
    parseHost raw = .ok (host, port) ↔
      left = host.toList ∧ Decimal.natural? Decimal.portBound text = some port := by
  rw [parseHost, spelled]
  simp only [List.cons_append, splitOnce?_append closed]
  exact map_readPort_eq_ok_iff

theorem parseHost_bracketed (spelled : raw.toList = '[' :: left ++ ']' :: tail)
    (closed : ']' ∉ left) (noPort : tail.head? ≠ some ':') :
    parseHost raw = .ok (host, port) ↔ left = host.toList ∧ port = 0 := by
  rw [parseHost, spelled]
  simp only [List.cons_append, splitOnce?_append closed]
  cases tail with
  | nil => exact ok_eq_ok_iff
  | cons c tail =>
      split
      next found => cases found
      next found =>
          cases found
          exact (noPort rfl).elim
      next found =>
          cases found
          exact ok_eq_ok_iff

/-! ## Without brackets -/

theorem parseHost_of_unbracketed (unbracketed : raw.toList.head? ≠ some '[') :
    parseHost raw = match splitLast? ':' raw.toList with
      | none => .ok (raw, 0)
      | some (host, port) =>
        if host.contains ':' then .ok (raw, 0)
        else (readPort raw port).map (String.ofList host, ·) := by
  rw [parseHost]
  split
  next begins =>
      rw [begins] at unbracketed
      exact (unbracketed rfl).elim
  next => rfl

theorem parseHost_named (unbracketed : raw.toList.head? ≠ some '[')
    (spelled : raw.toList = left ++ ':' :: text) (noColon : ':' ∉ left) (single : ':' ∉ text) :
    parseHost raw = .ok (host, port) ↔
      left = host.toList ∧ Decimal.natural? Decimal.portBound text = some port := by
  have uncontained : left.contains ':' = false := by
    rw [List.contains_eq_mem]
    exact decide_eq_false noColon
  rw [parseHost_of_unbracketed unbracketed, spelled, splitLast?_append left single]
  simp only [uncontained]
  exact map_readPort_eq_ok_iff

theorem parseHost_bare (unbracketed : raw.toList.head? ≠ some '[')
    (notSingle : raw.toList.count ':' ≠ 1) : parseHost raw = .ok (raw, 0) := by
  rw [parseHost_of_unbracketed unbracketed]
  split
  next => rfl
  next left text found =>
      rcases splitLast?_eq_some_iff.mp found with ⟨spelled, single⟩
      rw [spelled, List.count_append, List.count_cons_self, List.count_eq_zero.mpr single]
        at notSingle
      have again : ':' ∈ left := List.count_pos_iff.mp (by omega)
      rw [List.contains_eq_mem, decide_eq_true again]
      rfl

/-! ## All forms -/

/-- One colon has no other before it and none behind it. -/
theorem count_eq_one_iff : text.count ':' = 1 ↔
    ∃ left right, text = left ++ ':' :: right ∧ ':' ∉ left ∧ ':' ∉ right := by
  constructor
  · intro single
    have member : ':' ∈ text := List.count_pos_iff.mp (by omega)
    rcases List.append_of_mem member with ⟨left, right, rfl⟩
    rw [List.count_append, List.count_cons_self] at single
    exact ⟨left, right, rfl, List.count_eq_zero.mp (by omega), List.count_eq_zero.mp (by omega)⟩
  · rintro ⟨left, right, rfl, noColon, single⟩
    rw [List.count_append, List.count_cons_self, List.count_eq_zero.mpr noColon,
      List.count_eq_zero.mpr single]

/-- Just the texts of the forms are taken, and those whose tail is dropped. -/
theorem parseHost_eq_ok_iff : parseHost raw = .ok (host, port) ↔
    HostForm raw.toList host.toList port ∨ DropsTail raw.toList host.toList ∧ port = 0 := by
  constructor
  · -- The cases of the reader: a bracket that is not closed, what stands behind it, one colon.
    intro taken
    by_cases bracket : raw.toList.head? = some '['
    · rcases List.head?_eq_some_iff.mp bracket with ⟨rest, begins⟩
      cases cut : splitOnce? ']' rest with
      | none =>
          rw [parseHost_unterminated begins (splitOnce?_eq_none_iff.mp cut)] at taken
          cases taken
      | some pieces =>
          rcases pieces with ⟨left, tail⟩
          rcases splitOnce?_eq_some_iff.mp cut with ⟨rfl, closed⟩
          cases tail with
          | nil =>
              rcases (parseHost_bracketed begins closed nofun).mp taken with ⟨rfl, rfl⟩
              exact .inl (begins ▸ .bracketed closed)
          | cons c tail =>
              by_cases colon : c = ':'
              · cases colon
                rcases (parseHost_bracketedPort begins closed).mp taken with ⟨rfl, written⟩
                exact .inl (begins ▸ .bracketedPort closed written)
              · have noPort : (c :: tail).head? ≠ some ':' :=
                  fun same => colon (Option.some.inj same)
                rcases (parseHost_bracketed begins closed noPort).mp taken with ⟨rfl, rfl⟩
                exact .inr ⟨⟨c, tail, colon, begins, closed⟩, rfl⟩
    · by_cases single : raw.toList.count ':' = 1
      · rcases count_eq_one_iff.mp single with ⟨left, text, spelled, noColon, alone⟩
        rcases (parseHost_named bracket spelled noColon alone).mp taken with ⟨rfl, written⟩
        rw [spelled] at bracket ⊢
        exact .inl (.named bracket noColon alone written)
      · rw [parseHost_bare bracket single] at taken
        cases taken
        exact .inl (.bare bracket single)
  · rintro (form | ⟨⟨c, tail, noPort, spelled, closed⟩, rfl⟩)
    · generalize spelled : raw.toList = given at form
      generalize named : host.toList = meant at form
      cases form with
      | bracketed closed => exact (parseHost_bracketed spelled closed nofun).mpr ⟨named.symm, rfl⟩
      | bracketedPort closed written =>
          exact (parseHost_bracketedPort spelled closed).mpr ⟨named.symm, written⟩
      | named unbracketed noColon single written =>
          rw [← spelled] at unbracketed
          exact (parseHost_named unbracketed spelled noColon single).mpr ⟨named.symm, written⟩
      | bare unbracketed notSingle =>
          rw [← spelled] at unbracketed notSingle
          rw [parseHost_bare unbracketed notSingle, String.toList_inj.mp (spelled.trans named.symm)]
    · refine (parseHost_bracketed spelled closed ?_).mpr ⟨rfl, rfl⟩
      exact fun same => noPort (Option.some.inj same)

/-- A text whose tail is dropped has none of the forms. -/
theorem DropsTail.not_form {raw left host : List Char} (drops : DropsTail raw left) :
    ¬ HostForm raw host port := by
  rcases drops with ⟨c, tail, noPort, rfl, closed⟩
  have cut := splitOnce?_append closed (c :: tail)
  generalize spelled : '[' :: left ++ ']' :: c :: tail = given
  intro form
  cases form with
  | bracketed alsoClosed =>
      rw [List.cons_append, List.cons_append, List.cons.injEq] at spelled
      rw [spelled.2, splitOnce?_append alsoClosed] at cut
      cases cut
  | bracketedPort alsoClosed written =>
      rw [List.cons_append, List.cons_append, List.cons.injEq] at spelled
      rw [spelled.2, splitOnce?_append alsoClosed] at cut
      cases cut
      exact noPort rfl
  | named unbracketed noColon single written =>
      rw [← spelled] at unbracketed
      exact unbracketed rfl
  | bare unbracketed notSingle =>
      rw [← spelled] at unbracketed
      exact unbracketed rfl

end

/-- How the reader of hosts keeps to the forms. -/
structure TakesForms (raw : String) : Prop where
  /-- It takes the texts of the forms, and those whose tail it drops. -/
  ok_iff : ∀ host port, parseHost raw = .ok (host, port) ↔
    HostForm raw.toList host.toList port ∨ DropsTail raw.toList host.toList ∧ port = 0
  /-- It takes a text just as the forms have it exactly when no tail is dropped. -/
  exact_iff : (∀ host port, parseHost raw = .ok (host, port) ↔
      HostForm raw.toList host.toList port) ↔ ∀ host, ¬ DropsTail raw.toList host

/-- Hosts are read as the forms have them, up to a dropped tail. -/
theorem takes_forms (raw : String) : TakesForms raw where
  ok_iff _ _ := parseHost_eq_ok_iff
  exact_iff := by
    constructor
    · intro same left drops
      have named : (String.ofList left).toList = left := String.toList_ofList
      have taken : parseHost raw = .ok (String.ofList left, 0) :=
        parseHost_eq_ok_iff.mpr (.inr ⟨named.symm ▸ drops, rfl⟩)
      exact drops.not_form ((same _ _).mp taken)
    · intro kept host port
      rw [parseHost_eq_ok_iff]
      exact or_iff_left fun drops => kept _ drops.1

/-- A port that lacks its colon is dropped, although no form has such a text. -/
theorem tail_dropped_uncoloned :
    parseHost "[fd00::1]9443" = .ok ("fd00::1", 0) ∧
      ¬ HostForm "[fd00::1]9443".toList "fd00::1".toList 0 := by
  have drops : DropsTail "[fd00::1]9443".toList "fd00::1".toList :=
    ⟨'9', "443".toList, by decide, by decide, by decide⟩
  exact ⟨rfl, drops.not_form⟩

end Watch
end ExchangeGrid
