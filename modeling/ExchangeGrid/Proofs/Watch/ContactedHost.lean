import ExchangeGrid.Net.Request
import ExchangeGrid.Proofs.Net.NamedPort
import ExchangeGrid.Proofs.Watch.HostForms

namespace ExchangeGrid
namespace Watch

open Net

/-!
# A host from the command line to the connection

A host on the command line is taken apart, kept with its port among the settings, put together again
in the URL of each operation, and taken apart once more before a connection is made.  Five readers
and writers are involved, and an address of groups or a default port is a special case for most of
them.

`contacts_host` goes through all five: the host that was given is the one that is connected to, at
the port that was given, or at the port of the control plane when none was.
-/

/-- Texts that write a host, with the host that each of them writes.  A name is the same in small
letters. -/
inductive WritesHost : List Char → UrlHost → Prop
  | name {name : List Char} (isName : IsHostName name) :
      WritesHost name (.name (String.ofList (Domain.lower name)))
  | octets {text : List Char} {octets : List Nat} (read : readV4 text = some (octets, [])) :
      WritesHost text (.address (.v4 octets))
  | groups {text : List Char} {groups : List Nat} (read : readV6 text = some (groups, [])) :
      WritesHost text (.address (.v6 groups))

/-- The ways to give a host on the command line, with or without a port.  An address of groups, the
only host with colons, is in brackets when it has a port, and may be in them when it has none. -/
inductive Renders (host : List Char) : Option Nat → List Char → Prop
  | bare : Renders host none host
  | port (port : Nat) (noColon : ':' ∉ host) :
      Renders host (some port) (host ++ ':' :: Decimal.digits port)
  | bracketed (colon : ':' ∈ host) : Renders host none ('[' :: host ++ [']'])
  | bracketedPort (port : Nat) (colon : ':' ∈ host) :
      Renders host (some port) ('[' :: host ++ ']' :: ':' :: Decimal.digits port)

/-- The port that is meant where none is given, or zero. -/
def meantPort : Option Nat → Nat
  | none | some 0 => controlPort
  | some port => port

def inUrl (host : List Char) : List Char :=
  if ':' ∈ host then '[' :: host ++ [']'] else host

section
variable {text : List Char} {host : UrlHost} {port : Option Nat} {c : Char}

/-! ## Characters -/

def IsPlaceChar (c : Char) : Prop :=
  Domain.IsNameChar c ∨ c = ':' ∨ c = '[' ∨ c = ']'

instance (c : Char) : Decidable (IsPlaceChar c) :=
  inferInstanceAs (Decidable (_ ∨ _))

theorem IsPlaceChar.isLow (place : IsPlaceChar c) : Domain.IsLow c := by
  rcases place with letter | rfl | rfl | rfl
  · exact Domain.isLow_of_isNameChar letter
  · decide
  · decide
  · decide

theorem IsPlaceChar.stays (place : IsPlaceChar c) :
    staysIn c = true ∧ c ≠ '@' ∧ 32 < c.toNat := by
  refine Domain.forall_low
    (p := fun c => IsPlaceChar c → staysIn c = true ∧ c ≠ '@' ∧ 32 < c.toNat) ?_ place.isLow place
  decide

theorem isPlaceChar_of_inAddress (inAddress : InAddress c) : IsPlaceChar c := by
  refine Domain.forall_low (p := fun c => InAddress c → IsPlaceChar c) ?_
    (isLow_of_inAddress inAddress) inAddress
  decide

theorem isPlaceChar_of_isDigit (digit : c.isDigit = true) : IsPlaceChar c := by
  refine .inl (.inl ?_)
  rw [Char.isAlphanum, digit, Bool.or_true]

/-! ## Hosts -/

/-- A host without colons. -/
structure IsSimple (text : List Char) (host : UrlHost) : Prop where
  noColon : ':' ∉ text
  chars : ∀ c ∈ text, Domain.IsNameChar c
  read : readHost text = .ok host

/-- A host that is put in brackets. -/
structure IsGrouped (text : List Char) (host : UrlHost) : Prop where
  colons : 2 ≤ text.count ':'
  chars : ∀ c ∈ text, InAddress c
  read : readHost ('[' :: text ++ [']']) = .ok host

theorem WritesHost.simple_or_grouped (writes : WritesHost text host) :
    IsSimple text host ∨ IsGrouped text host := by
  cases writes with
  | name isName =>
      refine .inl ⟨fun member => ?_, isName.chars, readHost_of_name isName⟩
      exact absurd (isName.chars ':' member) (by decide)
  | octets read =>
      rcases exists_of_readV4 read with ⟨used, dotted, spelled⟩
      rw [List.append_nil] at spelled
      subst spelled
      refine .inl ⟨fun member => ?_, fun c member => ?_, readHost_of_dotted dotted⟩
      · exact absurd (dotted.digit_or_dot ':' member) (by decide)
      · rcases dotted.digit_or_dot c member with digit | rfl
        · refine .inl ?_
          rw [Char.isAlphanum, isDigit_of_digit? digit, Bool.or_true]
        · decide
  | groups read =>
      rcases exists_of_readV6 read with ⟨used, spelled, inAddress, colons⟩
      rw [List.append_nil] at spelled
      subst spelled
      exact .inr ⟨colons, inAddress, (readHost_bracketed text).mpr ⟨_, read, rfl⟩⟩

theorem IsGrouped.colon (grouped : IsGrouped text host) : ':' ∈ text :=
  List.count_pos_iff.mp (Nat.lt_of_lt_of_le Nat.zero_lt_two grouped.colons)

theorem IsSimple.not_mem {c : Char} (simple : IsSimple text host) (other : ¬ Domain.IsNameChar c) :
    c ∉ text := fun member =>
  other (simple.chars c member)

theorem IsGrouped.not_mem {c : Char} (grouped : IsGrouped text host) (other : ¬ InAddress c) :
    c ∉ text := fun member =>
  other (grouped.chars c member)

theorem WritesHost.head?_ne (writes : WritesHost text host) : text.head? ≠ some '[' := by
  intro bracket
  rcases writes.simple_or_grouped with simple | grouped
  · exact simple.not_mem (by decide) (List.mem_of_head? bracket)
  · exact grouped.not_mem (by decide) (List.mem_of_head? bracket)

theorem WritesHost.not_mem_closing (writes : WritesHost text host) : ']' ∉ text := by
  rcases writes.simple_or_grouped with simple | grouped
  · exact simple.not_mem (by decide)
  · exact grouped.not_mem (by decide)

/-! ## The command line -/

/-- Each way to give a host is read as this host with its port. -/
theorem parseHost_of_renders {name raw : String} (writes : WritesHost name.toList host)
    (inRange : ∀ number ∈ port, number < Decimal.portBound)
    (renders : Renders name.toList port raw.toList) :
    parseHost raw = .ok (name, port.getD 0) := by
  have unbracketed := writes.head?_ne
  generalize spelled : raw.toList = given at renders
  cases renders with
  | bare =>
      have notSingle : raw.toList.count ':' ≠ 1 := by
        rw [spelled]
        rcases writes.simple_or_grouped with simple | grouped
        · rw [List.count_eq_zero.mpr simple.noColon]
          exact Nat.zero_ne_one
        · exact (Nat.lt_of_lt_of_le (by decide) grouped.colons).ne'
      rw [← spelled] at unbracketed
      rw [parseHost_bare unbracketed notSingle, String.toList_inj.mp spelled]
      rfl
  | port number noColon =>
      have noOther : ':' ∉ Decimal.digits number := fun member =>
        absurd (Decimal.isDigit_of_mem_digits member) (by decide)
      refine (parseHost_named ?_ spelled noColon noOther).mpr
        ⟨rfl, Decimal.natural?_digits (inRange number rfl)⟩
      rw [spelled]
      cases begins : name.toList with
      | nil => exact fun bracket => absurd (Option.some.inj bracket) (by decide)
      | cons c rest =>
          rw [begins] at unbracketed
          exact unbracketed
  | bracketed colon =>
      exact (parseHost_bracketed spelled writes.not_mem_closing nofun).mpr ⟨rfl, rfl⟩
  | bracketedPort number colon =>
      exact (parseHost_bracketedPort spelled writes.not_mem_closing).mpr
        ⟨rfl, Decimal.natural?_digits (inRange number rfl)⟩

/-! ## The URL -/

/-- A host as it stands in a URL. -/
structure StandsInUrl (text : List Char) (host : UrlHost) : Prop where
  shape : HostText text
  chars : ∀ c ∈ text, IsPlaceChar c
  read : readHost text = .ok host

theorem WritesHost.standsInUrl (writes : WritesHost text host) :
    StandsInUrl (inUrl text) host := by
  unfold inUrl
  rcases writes.simple_or_grouped with simple | grouped
  · rw [if_neg simple.noColon]
    refine ⟨.plain simple.noColon (simple.not_mem (by decide)) (simple.not_mem (by decide)),
      fun c member => .inl (simple.chars c member), simple.read⟩
  · rw [if_pos grouped.colon]
    refine ⟨.bracketed grouped.chars, ?_, grouped.read⟩
    refine List.forall_mem_cons.mpr ⟨by decide, List.forall_mem_append.mpr ⟨?_, ?_⟩⟩
    · exact fun c member => isPlaceChar_of_inAddress (grouped.chars c member)
    · exact List.forall_mem_singleton.mpr (by decide)

theorem url_toList {name : String} (unbracketed : name.toList.head? ≠ some '[') (number : Nat)
    (operation : String) : (ControlHost.url ⟨name, number⟩ operation).toList =
      "https".toList ++ ':' :: '/' :: '/' :: ((inUrl name.toList ++ ':' :: Decimal.digits number) ++
        ("/pxgrid/control/".toList ++ operation.toList)) := by
  have digits : (toString number).toList = Decimal.digits number := String.toList_ofList
  have written : ∀ host : String, ("https://" ++ host ++ ":" ++ toString number ++
      "/pxgrid/control/" ++ operation).toList = "https".toList ++ ':' :: '/' :: '/' ::
        ((host.toList ++ ':' :: Decimal.digits number) ++
          ("/pxgrid/control/".toList ++ operation.toList)) := by
    intro host
    simp only [String.toList_append, digits, List.append_assoc]
    rfl
  unfold ControlHost.url inUrl
  dsimp only
  rw [written]
  by_cases colon : ':' ∈ name.toList
  · rw [if_pos colon, if_pos ⟨List.contains_iff_mem.mpr colon, unbracketed⟩]
    simp only [String.toList_append, List.append_assoc]
    rfl
  · rw [if_neg colon, if_neg fun both => colon (List.contains_iff_mem.mp both.1)]

theorem dropWhile_of_forall {p : Char → Bool} (none : ∀ c ∈ text, p c = false) :
    text.dropWhile p = text := by
  cases text with
  | nil => rfl
  | cons c text => exact List.dropWhile_cons_of_neg (Bool.not_eq_true _ ▸ none c List.mem_cons_self)

theorem cleaned_of_visible {raw : String} (visible : ∀ c ∈ raw.toList, 32 < c.toNat) :
    Url.cleaned raw = raw.toList := by
  have inside : ∀ c ∈ raw.toList, decide (c.toNat ≤ 32) = false := fun c member =>
    decide_eq_false (Nat.not_le_of_lt (visible c member))
  have reversed : ∀ c ∈ raw.toList.reverse, decide (c.toNat ≤ 32) = false := fun c member =>
    inside c (List.mem_reverse.mp member)
  unfold Url.cleaned
  dsimp only
  rw [dropWhile_of_forall inside, dropWhile_of_forall reversed, List.reverse_reverse]
  refine List.filter_eq_self.mpr fun c member => ?_
  have large := visible c member
  simp only [Bool.and_eq_true, bne_iff_ne]
  refine ⟨⟨?_, ?_⟩, ?_⟩
  · rintro rfl
    exact absurd large (by decide)
  · rintro rfl
    exact absurd large (by decide)
  · rintro rfl
    exact absurd large (by decide)

theorem visible_of_all (all : text.all (32 < ·.toNat) = true) : ∀ c ∈ text, 32 < c.toNat :=
  fun c member => of_decide_eq_true (List.all_eq_true.mp all c member)

theorem isPlaceChar_place (writes : WritesHost text host) (number : Nat) :
    ∀ c ∈ inUrl text ++ ':' :: Decimal.digits number, IsPlaceChar c := by
  refine List.forall_mem_append.mpr ⟨writes.standsInUrl.chars, ?_⟩
  refine List.forall_mem_cons.mpr ⟨by decide, fun c member => ?_⟩
  exact isPlaceChar_of_isDigit (Decimal.isDigit_of_mem_digits member)

def pathOf (operation : String) : List Char :=
  "/pxgrid/control/".toList ++ operation.toList

theorem head?_pathOf (operation : String) :
    ∀ c ∈ (pathOf operation).head?, c = '/' ∨ c = '?' ∨ c = '#' :=
  fun _ first => .inl (Option.some.inj first).symm

section
variable {name operation : String} {number : Nat}

/-- The URL of an operation is spelled plainly. -/
theorem plainUrl_url (writes : WritesHost name.toList host) (number : Nat)
    (letters : ∀ c ∈ operation.toList, c.isAlpha = true) :
    PlainUrl (ControlHost.url ⟨name, number⟩ operation) := by
  have spelled := url_toList writes.head?_ne number operation
  have place := isPlaceChar_place writes number
  constructor
  · refine cleaned_of_visible ?_
    rw [spelled]
    refine List.forall_mem_append.mpr ⟨visible_of_all (by decide), ?_⟩
    refine List.forall_mem_cons.mpr ⟨by decide, List.forall_mem_cons.mpr ⟨by decide, ?_⟩⟩
    refine List.forall_mem_cons.mpr ⟨by decide, List.forall_mem_append.mpr ⟨?_, ?_⟩⟩
    · exact fun c member => (place c member).stays.2.2
    · refine List.forall_mem_append.mpr ⟨visible_of_all (by decide), fun c member => ?_⟩
      have letter : IsPlaceChar c := by
        refine .inl (.inl ?_)
        rw [Char.isAlphanum, letters c member, Bool.true_or]
      exact letter.stays.2.2
  · rw [spelled]
    refine .intro (by decide) ?_ (fun c member => (place c member).stays.1) (head?_pathOf operation)
    exact fun empty => List.cons_ne_nil _ _ (List.append_eq_nil_iff.mp empty).2

/-- In the URL of an operation the authority is the host with its port. -/
theorem isAuthority_url (writes : WritesHost name.toList host)
    (inRange : number < Decimal.portBound)
    (plain : PlainUrl (ControlHost.url ⟨name, number⟩ operation)) :
    ∃ rest, readScheme (Url.cleaned (ControlHost.url ⟨name, number⟩ operation)) =
        some ("https", rest) ∧
      IsAuthority (placeOf (behindSlashes rest)) ⟨some host, some number⟩ := by
  have place := isPlaceChar_place writes number
  have stays : ∀ c ∈ inUrl name.toList ++ ':' :: Decimal.digits number, staysIn c = true :=
    fun c member => (place c member).stays.1
  have noUser : '@' ∉ inUrl name.toList ++ ':' :: Decimal.digits number :=
    fun member => (place '@' member).stays.2.1 rfl
  have nonempty : inUrl name.toList ++ ':' :: Decimal.digits number ≠ [] :=
    fun empty => List.cons_ne_nil _ _ (List.append_eq_nil_iff.mp empty).2
  have stands := writes.standsInUrl
  refine ⟨'/' :: '/' :: ((inUrl name.toList ++ ':' :: Decimal.digits number) ++ pathOf operation),
    ?_, ?_⟩
  · rw [plain.clean, url_toList writes.head?_ne number operation]
    rfl
  · rw [behindSlashes_append nonempty stays, placeOf_append stays noUser (head?_pathOf operation)]
    exact .intro stands.shape stands.read
      (.written (fun _ => Decimal.isDigit_of_mem_digits) (Decimal.natural?_digits inRange))

/-- The URL of an operation is read as one of the host, and leads to its port. -/
theorem reaches_host (writes : WritesHost name.toList host) (inRange : number < Decimal.portBound)
    (positive : number ≠ 0) (letters : ∀ c ∈ operation.toList, c.isAlpha = true) :
    ∃ url, Url.parse (ControlHost.url ⟨name, number⟩ operation) = .ok url ∧ url.scheme = "https" ∧
      url.host = some host ∧
      targetPort (ControlHost.url ⟨name, number⟩ operation) url = .ok number := by
  have plain := plainUrl_url writes number letters
  rcases isAuthority_url writes inRange plain with ⟨rest, read, isAuthority⟩
  refine ⟨_, parse_of_isAuthority rfl read isAuthority, rfl, rfl, ?_⟩
  rw [(targetPort_toUrl_iff rfl (by decide) (by decide)).mpr fun _ =>
    namesPort_of_plain plain read isAuthority]
  unfold Authority.wantedPort
  cases number with
  | zero => exact absurd rfl positive
  | succ before => rfl

/-- A request to a URL that is read goes to its host. -/
theorem target_of_parse {raw : String} {url : Url} (request : Request)
    (parsed : Url.parse raw = .ok url) (secure : url.scheme = "https")
    (named : url.host = some host) (leads : targetPort raw url = .ok number) :
    request.target raw = .ok (url, host, number) := by
  have read : Url.read raw = .ok url := by
    rw [Url.read, parsed]
  unfold Request.target
  rw [read]
  simp only [bind, Except.bind, secure, true_or, if_true, named, leads]

theorem meantPort_ne_zero (port : Option Nat) : meantPort port ≠ 0 := by
  rcases port with _ | _ | number
  · decide
  · decide
  · exact Nat.succ_ne_zero number

theorem meantPort_lt (inRange : ∀ number ∈ port, number < Decimal.portBound) :
    meantPort port < Decimal.portBound := by
  rcases port with _ | _ | number
  · decide
  · decide
  · exact inRange (number + 1) rfl

end

end

/-- What becomes of a host on the command line. -/
structure Contacts (raw operation name : String) (port : Option Nat) (host : UrlHost) : Prop where
  /-- It is read as the host that was meant, with its port or zero. -/
  parsed : parseHost raw = .ok (name, port.getD 0)
  /-- It is kept behind the other hosts, with the port that is meant. -/
  kept : ∀ config : Config, (config.addHost name (port.getD 0)).hosts =
    config.hosts ++ [⟨name, meantPort port⟩]
  /-- The URL of an operation is read as one of the host, and leads to the port. -/
  reached : ∃ url, Url.parse (ControlHost.url ⟨name, meantPort port⟩ operation) = .ok url ∧
    url.scheme = "https" ∧ url.host = some host ∧
    targetPort (ControlHost.url ⟨name, meantPort port⟩ operation) url = .ok (meantPort port)
  /-- Every request to this URL goes there. -/
  contacted : ∀ request : Request, ∃ url,
    request.target (ControlHost.url ⟨name, meantPort port⟩ operation) =
      .ok (url, host, meantPort port)

/-- A host on the command line is the one that is contacted, at the port that is meant. -/
theorem contacts_host {raw operation name : String} {port : Option Nat} {host : UrlHost}
    (writes : WritesHost name.toList host)
    (inRange : ∀ number ∈ port, number < Decimal.portBound)
    (renders : Renders name.toList port raw.toList)
    (letters : ∀ c ∈ operation.toList, c.isAlpha = true) :
    Contacts raw operation name port host := by
  have reached := reaches_host writes (meantPort_lt inRange) (meantPort_ne_zero port) letters
  refine ⟨parseHost_of_renders writes inRange renders, fun config => ?_, reached, fun request => ?_⟩
  · rcases port with _ | _ | number
    · rfl
    · rfl
    · rfl
  · rcases reached with ⟨url, parsed, secure, named, leads⟩
    exact ⟨url, target_of_parse request parsed secure named leads⟩

/-- An address of groups may be given with the default port, which its URL does not show. -/
theorem contacts_host_grouped :
    Contacts "[fd00::1]:443" "AccountActivate" "fd00::1" (some 443)
      (.address (.v6 [0xFD00, 0, 0, 0, 0, 0, 0, 1])) := by
  refine contacts_host (.groups (by decide)) ?_ (.bracketedPort 443 (by decide))
    (List.all_eq_true.mp (by decide))
  rintro number ⟨⟩
  decide

end Watch
end ExchangeGrid
