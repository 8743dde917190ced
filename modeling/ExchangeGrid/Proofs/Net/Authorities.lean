import ExchangeGrid.Proofs.Net.Hosts

namespace ExchangeGrid
namespace Net

/-!
# The grammar of an authority

The reader of authorities goes over a text several times: up to the path, back to the last user,
then from bracket to bracket for the host.  `IsAuthority` says in one line what it takes: a host,
and behind it nothing, a colon, or a colon and a port.  A host is in brackets or has neither a
bracket nor a colon, so a port can be seen in the text without the host being read.
-/

/-- Whether a character belongs to the authority of a network URL. -/
def staysIn (c : Char) : Bool :=
  !endsAuthority .network c

/-- The text of a host and its port, as far as the authority goes. -/
def placeOf (text : List Char) : List Char :=
  behindUser (text.takeWhile staysIn)

/-- The shapes of a host: an address in brackets, or a text without brackets and colons. -/
inductive HostText : List Char → Prop
  | bracketed {inner : List Char} (inAddress : ∀ c ∈ inner, InAddress c) :
      HostText ('[' :: inner ++ [']'])
  | plain {text : List Char} (noColon : ':' ∉ text) (noOpening : '[' ∉ text)
      (noClosing : ']' ∉ text) : HostText text

/-- What may stand behind a host, with the port that it names. -/
inductive PortText : List Char → Option Nat → Prop
  | absent : PortText [] none
  | empty : PortText [':'] none
  | written {digits : List Char} {port : Nat} (isDigit : ∀ c ∈ digits, c.isDigit = true)
      (value : Decimal.natural? Decimal.portBound digits = some port) :
      PortText (':' :: digits) (some port)

/-- A host with what stands behind it, and what the two say. -/
inductive IsAuthority : List Char → Authority → Prop
  | intro {hostText portText : List Char} {host : UrlHost} {port : Option Nat}
      (shape : HostText hostText) (read : readHost hostText = .ok host)
      (isPort : PortText portText port) : IsAuthority (hostText ++ portText) ⟨some host, port⟩

section
variable {text front rest hostText portText : List Char} {c : Char} {p : Char → Bool}
variable {host : UrlHost} {port : Option Nat} {authority : Authority}

/-! ## Fronts of texts -/

/-- The longest front of a text in which a test holds. -/
theorem takeWhile_eq_iff : text.takeWhile p = front ↔
    ∃ rest, text = front ++ rest ∧ (∀ c ∈ front, p c = true) ∧ ∀ c ∈ rest.head?, p c = false := by
  constructor
  · rintro rfl
    refine ⟨text.dropWhile p, List.takeWhile_append_dropWhile.symm,
      fun c member => List.mem_takeWhile_imp member, fun c first => ?_⟩
    have boundary := List.head?_dropWhile_not p text
    rw [first] at boundary
    exact boundary
  · rintro ⟨rest, rfl, inside, outside⟩
    rw [List.takeWhile_append_of_pos inside]
    cases rest with
    | nil => rw [List.takeWhile_nil, List.append_nil]
    | cons c rest =>
        rw [List.takeWhile_cons_of_neg (Bool.not_eq_true _ ▸ outside c rfl), List.append_nil]

theorem takeWhile_drop (spelled : text.takeWhile p = front ++ rest) :
    (text.drop front.length).takeWhile p = rest := by
  rcases takeWhile_eq_iff.mp spelled with ⟨tail, rfl, inside, outside⟩
  rw [List.append_assoc, List.drop_left]
  exact takeWhile_eq_iff.mpr
    ⟨tail, rfl, fun c member => inside c (List.mem_append_right front member), outside⟩

/-! ## Users -/

theorem skipUser_network (text : List Char) : skipUser .network text =
    match splitLast? '@' (text.takeWhile staysIn) with
    | none => .ok (false, text)
    | some (user, _) =>
      match user, text.drop (user.length + 1) with
      | [], c :: _ =>
        if endsAuthority .network c then .error .emptyHost
        else .ok (false, text.drop (user.length + 1))
      | _, _ => .ok (user ≠ [] ∧ user ≠ [':'], text.drop (user.length + 1)) :=
  rfl

/-- The place stands behind the last user and its mark. -/
theorem takeWhile_drop_user {user place : List Char}
    (cut : splitLast? '@' (text.takeWhile staysIn) = some (user, place)) :
    (text.drop (user.length + 1)).takeWhile staysIn = place := by
  have spelled : text.takeWhile staysIn = (user ++ ['@']) ++ place :=
    (append_of_splitLast? cut).trans (List.append_assoc user ['@'] place).symm
  have behind := takeWhile_drop spelled
  rw [List.length_append] at behind
  exact behind

/-- What the user is skipped for is the place. -/
theorem takeWhile_of_skipUser {hasUser : Bool}
    (skipped : skipUser .network text = .ok (hasUser, rest)) :
    rest.takeWhile staysIn = placeOf text := by
  rw [skipUser_network] at skipped
  unfold placeOf behindUser
  split at skipped
  next uncut =>
      cases skipped
      rw [uncut]
  next user place cut =>
      rw [cut]
      suffices same : rest = text.drop (user.length + 1) from same ▸ takeWhile_drop_user cut
      split at skipped
      next =>
          split at skipped
          next => cases skipped
          next =>
              cases skipped
              rfl
      next =>
          cases skipped
          rfl

theorem exists_of_placeOf_ne_nil (nonempty : placeOf text ≠ []) :
    ∃ hasUser rest, skipUser .network text = .ok (hasUser, rest) := by
  rw [skipUser_network]
  unfold placeOf behindUser at nonempty
  split
  next => exact ⟨_, _, rfl⟩
  next user place cut =>
      rw [cut] at nonempty
      split
      next c tail spelled =>
          split
          next ends =>
              have place' := takeWhile_drop_user cut
              rw [spelled, List.takeWhile_cons_of_neg] at place'
              · exact (nonempty place'.symm).elim
              · rw [staysIn, ends]
                exact Bool.false_ne_true
          next => exact ⟨_, _, rfl⟩
      next => exact ⟨_, _, rfl⟩

/-! ## Hosts -/

def Stops (rest : List Char) : Prop :=
  ∀ c ∈ rest.head?, c = ':' ∨ staysIn c = false

theorem takeHost_append {bracketed : Bool}
    (within : ∀ c ∈ front, staysIn c = true ∧ c ≠ '[' ∧ c ≠ ']' ∧ (c = ':' → bracketed = true)) :
    takeHost .network bracketed (front ++ rest) = front ++ takeHost .network bracketed rest := by
  induction front with
  | nil => rfl
  | cons c front inductionHypothesis =>
      rcases List.forall_mem_cons.mp within with ⟨⟨stays, noOpening, noClosing, colon⟩, behind⟩
      have goesOn : ¬ ((c == ':' && !bracketed) || endsAuthority .network c) = true := by
        rw [Bool.or_eq_true, Bool.and_eq_true, beq_iff_eq, not_or]
        refine ⟨fun ⟨same, open'⟩ => ?_, ?_⟩
        · rw [colon same] at open'
          cases open'
        · rw [staysIn, Bool.not_eq_true'] at stays
          rw [stays]
          exact Bool.false_ne_true
      rw [List.cons_append, takeHost, if_neg goesOn, beq_false_of_ne noOpening,
        beq_false_of_ne noClosing]
      exact congrArg (c :: ·) (inductionHypothesis behind)

theorem takeHost_of_stops (stops : Stops rest) : takeHost .network false rest = [] := by
  cases rest with
  | nil => rfl
  | cons c rest =>
      rw [takeHost, if_pos]
      rcases stops c rfl with rfl | ends
      · rfl
      · rw [staysIn, Bool.not_eq_false'] at ends
        rw [ends, Bool.or_true]

theorem takeHost_hostText (shape : HostText hostText) (stays : ∀ c ∈ hostText, staysIn c = true)
    (stops : Stops rest) : takeHost .network false (hostText ++ rest) = hostText := by
  cases shape with
  | @bracketed inner inAddress =>
      have within : ∀ c ∈ inner,
          staysIn c = true ∧ c ≠ '[' ∧ c ≠ ']' ∧ (c = ':' → true = true) := by
        intro c member
        have inside := inAddress c member
        refine ⟨stays c (List.mem_append_left _ (List.mem_cons_of_mem '[' member)), ?_, ?_,
          fun _ => rfl⟩
        · rintro rfl
          exact absurd inside (by decide)
        · rintro rfl
          exact absurd inside (by decide)
      rw [List.append_assoc, List.cons_append, takeHost, if_neg (by decide)]
      change '[' :: takeHost .network true (inner ++ ']' :: rest) = '[' :: (inner ++ [']'])
      rw [takeHost_append within, takeHost, if_neg (by decide)]
      change '[' :: (inner ++ ']' :: takeHost .network false rest) = '[' :: (inner ++ [']'])
      rw [takeHost_of_stops stops]
  | plain noColon noOpening noClosing =>
      rw [takeHost_append, takeHost_of_stops stops, List.append_nil]
      refine fun c member => ⟨stays c member, ?_, ?_, ?_⟩
      · rintro rfl
        exact noOpening member
      · rintro rfl
        exact noClosing member
      · rintro rfl
        exact (noColon member).elim

theorem exists_of_takeHost (bracketed : Bool) (text : List Char) :
    ∃ rest, text = takeHost .network bracketed text ++ rest ∧ Stops rest ∧
      (∀ c ∈ takeHost .network bracketed text, staysIn c = true) ∧
      (bracketed = false → '[' ∉ takeHost .network bracketed text →
        ':' ∉ takeHost .network bracketed text) := by
  induction text generalizing bracketed with
  | nil => exact ⟨[], rfl, nofun, nofun, fun _ _ => List.not_mem_nil⟩
  | cons c rest inductionHypothesis =>
      rw [takeHost]
      split
      next stops =>
          refine ⟨c :: rest, rfl, ?_, nofun, fun _ _ => List.not_mem_nil⟩
          rintro d ⟨⟩
          rw [Bool.or_eq_true, Bool.and_eq_true, beq_iff_eq] at stops
          refine stops.imp And.left fun ends => ?_
          rw [staysIn, ends]
          rfl
      next goesOn =>
          rw [Bool.or_eq_true, Bool.and_eq_true, beq_iff_eq, not_or, Bool.not_eq_true,
            Bool.not_eq_true'] at goesOn
          rcases inductionHypothesis
            (if c == '[' then true else if c == ']' then false else bracketed) with
            ⟨tail, spelled, stops, stays, uncoloned⟩
          refine ⟨tail, congrArg (c :: ·) spelled, stops, ?_, fun outside noOpening => ?_⟩
          · refine List.forall_mem_cons.mpr ⟨?_, stays⟩
            rw [staysIn, goesOn.2]
            rfl
          · rw [List.mem_cons, not_or] at noOpening ⊢
            rw [beq_false_of_ne (Ne.symm noOpening.1), outside, if_neg Bool.false_ne_true,
              ite_self] at uncoloned noOpening ⊢
            refine ⟨fun colon => goesOn.1 ⟨colon.symm, outside⟩, uncoloned rfl noOpening.2⟩

/-! ## Ports -/

theorem staysIn_eq_false_iff : staysIn c = false ↔ c = '/' ∨ c = '?' ∨ c = '#' ∨ c = '\\' := by
  unfold staysIn endsAuthority
  simp only [Bool.not_eq_false', Bool.or_eq_true, Bool.and_eq_true, beq_iff_eq, or_assoc]
  exact or_congr_right (or_congr_right (or_congr_right (and_iff_left (by decide))))

theorem staysIn_of_isDigit (digit : c.isDigit = true) : staysIn c = true := by
  by_contra ends
  rw [Bool.not_eq_true, staysIn_eq_false_iff] at ends
  rcases ends with rfl | rfl | rfl | rfl <;> exact absurd digit (by decide)

theorem PortText.isDigit (isPort : PortText (':' :: front) port) :
    ∀ c ∈ front, c.isDigit = true := by
  cases isPort with
  | empty => exact nofun
  | written isDigit value => exact isDigit

theorem portText_iff (isDigit : ∀ c ∈ front, c.isDigit = true) : PortText (':' :: front) port ↔
    ¬ ((!front.isEmpty) = true ∧ (Decimal.natural? Decimal.portBound front).isNone = true) ∧
      Decimal.natural? Decimal.portBound front = port := by
  constructor
  · intro isPort
    cases isPort with
    | empty => exact ⟨fun refused => (nomatch refused.1), rfl⟩
    | written _ value =>
        refine ⟨fun refused => ?_, value⟩
        rw [value] at refused
        exact nomatch refused.2
  · rintro ⟨taken, rfl⟩
    cases front with
    | nil => exact .empty
    | cons c front =>
        cases value : Decimal.natural? Decimal.portBound (c :: front) with
        | none => exact absurd ⟨rfl, congrArg Option.isNone value⟩ taken
        | some port => exact .written isDigit value

theorem readUrlPort_append (isDigit : ∀ c ∈ front, c.isDigit = true)
    (boundary : ∀ c ∈ rest.head?, c.isDigit = false) : readUrlPort (front ++ rest) =
      if (!front.isEmpty) = true ∧ (Decimal.natural? Decimal.portBound front).isNone = true then
        .error .badPort
      else if rest.head?.any staysIn then .error .badPort
      else .ok (Decimal.natural? Decimal.portBound front) := by
  have digits : (front ++ rest).takeWhile Char.isDigit = front :=
    takeWhile_eq_iff.mpr ⟨rest, rfl, isDigit, boundary⟩
  unfold readUrlPort
  dsimp only
  rw [digits, List.drop_left]
  cases rest with
  | nil => rfl
  | cons c rest =>
      dsimp only
      rw [List.head?_cons, Option.any_some, staysIn]
      cases endsAuthority .network c with
      | true => rfl
      | false => rfl

/-- A port is digits, as far as the authority goes. -/
theorem readUrlPort_eq_ok_iff :
    readUrlPort text = .ok port ↔ PortText (':' :: text.takeWhile staysIn) port := by
  rcases takeWhile_eq_iff.mp (Eq.refl (text.takeWhile Char.isDigit)) with
    ⟨rest, spelled, isDigit, boundary⟩
  generalize text.takeWhile Char.isDigit = front at spelled isDigit
  subst spelled
  have inside : ∀ c ∈ front, staysIn c = true := fun c member =>
    staysIn_of_isDigit (isDigit c member)
  rw [readUrlPort_append isDigit boundary]
  -- What stops the digits either belongs to the authority, and is wrong there, or ends it.
  cases stays : rest.head?.any staysIn with
  | true =>
      refine iff_of_false ?_ fun isPort => ?_
      · rw [if_pos rfl, ite_self]
        exact nofun
      · cases rest with
        | nil => cases stays
        | cons c rest =>
            have goesOn : staysIn c = true := stays
            rw [List.takeWhile_append_of_pos inside, List.takeWhile_cons_of_pos goesOn] at isPort
            have digit := isPort.isDigit c (List.mem_append_right front List.mem_cons_self)
            rw [boundary c rfl] at digit
            cases digit
  | false =>
      have place : (front ++ rest).takeWhile staysIn = front := by
        refine takeWhile_eq_iff.mpr ⟨rest, rfl, inside, fun c first => ?_⟩
        rw [Option.mem_def.mp first, Option.any_some] at stays
        exact stays
      rw [place, portText_iff isDigit, if_neg Bool.false_ne_true]
      split
      next refused => exact iff_of_false nofun fun taken => taken.1 refused
      next taken => rw [Except.ok.injEq, and_iff_right taken]

/-! ## Authorities -/

theorem staysIn_colon : staysIn ':' = true :=
  rfl

/-- Behind its host, an authority names a port or ends. -/
theorem readAuthority_of_takeHost {hasUser : Bool}
    (skipped : skipUser .network text = .ok (hasUser, hostText ++ rest))
    (host : takeHost .network false (hostText ++ rest) = hostText) (stops : Stops rest) :
    readAuthority .network text = .ok authority ↔
      ∃ host, readHost hostText = .ok host ∧ authority.host = some host ∧
        PortText (rest.takeWhile staysIn) authority.port := by
  unfold readAuthority
  rw [skipped]
  simp only [bind, Except.bind, host, List.drop_left]
  split
  next empty =>
      rw [List.isEmpty_iff] at empty
      rw [empty]
      exact iff_of_false nofun fun ⟨_, read, _⟩ => nomatch read
  next =>
      rw [if_pos (by decide)]
      cases readHost hostText with
      | error flaw => exact iff_of_false nofun fun ⟨_, read, _⟩ => nomatch read
      | ok host =>
          rcases authority with ⟨named, port⟩
          simp only [Functor.map, Except.map, Except.ok.injEq, exists_eq_left',
            eq_comm (a := named)]
          split
          next behind =>
              rw [List.takeWhile_cons_of_pos staysIn_colon, ← readUrlPort_eq_ok_iff]
              cases readUrlPort behind with
              | error flaw => exact iff_of_false nofun fun both => (nomatch both.2)
              | ok value => rw [Except.ok.injEq, Except.ok.injEq, Authority.mk.injEq]
          next noColon =>
              have ends : rest.takeWhile staysIn = [] := by
                cases rest with
                | nil => rfl
                | cons c rest =>
                    rcases stops c rfl with rfl | ends
                    · exact (noColon rest rfl).elim
                    · exact List.takeWhile_cons_of_neg (Bool.not_eq_true _ ▸ ends)
              rw [ends, Except.ok.injEq, Authority.mk.injEq]
              refine and_congr_right fun _ => ⟨?_, ?_⟩
              · rintro rfl
                exact .absent
              · rintro ⟨⟩
                rfl

theorem hostText_of_readHost (read : readHost hostText = .ok host)
    (uncoloned : '[' ∉ hostText → ':' ∉ hostText) : HostText hostText := by
  by_cases bracket : hostText.head? = some '['
  · rcases exists_of_readHost_bracketed bracket read with ⟨inner, groups, rfl, isV6⟩
    rcases exists_of_readV6 isV6 with ⟨used, spelled, inAddress, -⟩
    rw [List.append_nil] at spelled
    exact .bracketed (spelled ▸ inAddress)
  · have noOpening := not_mem_of_readHost bracket read (.inl rfl)
    exact .plain (uncoloned noOpening) noOpening (not_mem_of_readHost bracket read (.inr rfl))

/-- An authority is read just where one is written. -/
theorem readAuthority_eq_ok_iff :
    readAuthority .network text = .ok authority ↔ IsAuthority (placeOf text) authority := by
  constructor
  · intro read
    cases skipped : skipUser .network text with
    | error flaw =>
        unfold readAuthority at read
        rw [skipped] at read
        cases read
    | ok skip =>
        rcases skip with ⟨hasUser, rest⟩
        have place := takeWhile_of_skipUser skipped
        rcases exists_of_takeHost false rest with ⟨tail, spelled, stops, stays, uncoloned⟩
        generalize found : takeHost .network false rest = hostText at *
        subst spelled
        rcases (readAuthority_of_takeHost skipped found stops).mp read with
          ⟨host, readHost, named, isPort⟩
        rw [← place, List.takeWhile_append_of_pos stays]
        rcases authority with ⟨_, port⟩
        cases named
        exact .intro (hostText_of_readHost readHost (uncoloned rfl)) readHost isPort
  · -- The place is known first, and the text is put together around it.
    generalize place : placeOf text = written
    intro isAuthority
    cases isAuthority with
    | @intro hostText portText host port shape read isPort =>
        have nonempty : placeOf text ≠ [] := by
          intro empty
          rw [place, List.append_eq_nil_iff] at empty
          rw [empty.1] at read
          cases read
        rcases exists_of_placeOf_ne_nil nonempty with ⟨hasUser, rest, skipped⟩
        have written := (takeWhile_of_skipUser skipped).trans place
        rcases takeWhile_eq_iff.mp written with ⟨tail, rfl, inside, outside⟩
        rw [List.append_assoc] at skipped
        have behind : (portText ++ tail).takeWhile staysIn = portText :=
          takeWhile_eq_iff.mpr ⟨tail, rfl, (List.forall_mem_append.mp inside).2, outside⟩
        have stops : Stops (portText ++ tail) := by
          cases isPort with
          | absent => exact fun c first => .inr (outside c first)
          | empty => exact fun c first => .inl (Option.some.inj first).symm
          | written => exact fun c first => .inl (Option.some.inj first).symm
        have found := takeHost_hostText shape (List.forall_mem_append.mp inside).1 stops
        refine (readAuthority_of_takeHost skipped found stops).mpr ⟨host, read, rfl, ?_⟩
        rw [behind]
        exact isPort

end
end Net
end ExchangeGrid
