import ExchangeGrid.Net.Resolve
import ExchangeGrid.Proofs.Net.AddressTexts

namespace ExchangeGrid
namespace Net

/-!
# Texts of name servers

A name server is an address or a name, with a port or without, and a colon stands before a port as
well as between groups.  The texts are told apart by their colons and brackets.  Groups bring two
colons at least, and a port that is written behind groups brings a bracket before them and one more
colon.  So a text with exactly one colon is an address only where four octets stand before it, and a
text that ends in a bracket has no port.

`NameServer.reads_texts` goes through the forms that are written.
-/

section
variable {text host rest left right : List Char}

/-! ## What is read as an address with a port -/

/-- What is read as the number of a port has no other characters. -/
def IsPortText (digits : List Char) : Prop :=
  ∀ c ∈ digits, (Decimal.digit? c).isSome ∨ c = '+'

theorem IsPortText.not_mem_colon {digits : List Char} (isPort : IsPortText digits) :
    ':' ∉ digits :=
  fun member => absurd (isPort ':' member) (by decide)

theorem IsDotted.not_mem_colon {octets : List Nat} (dotted : IsDotted text octets) : ':' ∉ text :=
  fun member => absurd (dotted.digit_or_dot ':' member) (by decide)

theorem exists_of_readPort? {port : Nat} (read : readPort? text = some port) :
    ∃ digits, text = ':' :: digits ∧ IsPortText digits := by
  unfold readPort? at read
  split at read
  next => cases read
  next digits _ => exact ⟨digits, rfl, Decimal.digit_or_plus_of_natural? read⟩
  next => cases read

theorem exists_of_readZone {zone : Nat} (read : readZone text = some (zone, rest)) :
    ∃ used, text = used ++ rest := by
  unfold readZone at read
  split at read
  next behind =>
      dsimp only at read
      split at read
      next => cases read
      next =>
          cases read
          generalize (behind.takeWhile fun c => (Decimal.digit? c).isSome).length = room
          exact ⟨'%' :: behind.take room, congrArg ('%' :: ·) (List.take_append_drop room _).symm⟩
  next =>
      cases read
      exact ⟨[], rfl⟩

/-- The texts of addresses with a port: octets before the port, or groups behind a bracket. -/
inductive IsEndpointText : List Char → Prop
  | dotted {octets : List Nat} {front digits : List Char} (isFront : IsDotted front octets)
      (isPort : IsPortText digits) : IsEndpointText (front ++ ':' :: digits)
  | bracketed {inner digits : List Char} (colons : 2 ≤ inner.count ':')
      (isPort : IsPortText digits) : IsEndpointText ('[' :: inner ++ ':' :: digits)

theorem isEndpointText_of_readBracketed {endpoint : Endpoint}
    (parsed : readBracketed text = some endpoint) : IsEndpointText ('[' :: text) := by
  unfold readBracketed at parsed
  split at parsed
  next => cases parsed
  next groups behind read =>
      rcases exists_of_readV6 read with ⟨used, rfl, -, two⟩
      split at parsed
      next zone rest isZone =>
          rcases exists_of_readZone isZone with ⟨between, rfl⟩
          split at parsed
          next => cases parsed
          next port read =>
              rcases exists_of_readPort? read with ⟨digits, rfl, isPort⟩
              rw [List.append_cons, ← List.append_assoc, ← List.append_assoc, ← List.cons_append]
              refine .bracketed ?_ isPort
              rw [List.append_assoc, List.count_append]
              exact Nat.le_add_right_of_le two
      next => cases parsed

theorem isEndpointText_of_parse? {endpoint : Endpoint}
    (parsed : Endpoint.parse? text = some endpoint) : IsEndpointText text := by
  unfold Endpoint.parse? at parsed
  split at parsed
  next => exact isEndpointText_of_readBracketed parsed
  next =>
      split at parsed
      next => cases parsed
      next octets rest read =>
          rcases exists_of_readV4 read with ⟨front, dotted, rfl⟩
          split at parsed
          next => cases parsed
          next port read =>
              rcases exists_of_readPort? read with ⟨digits, rfl, isPort⟩
              exact .dotted dotted isPort

theorem Endpoint.parse?_eq_none (other : ¬ IsEndpointText text) : Endpoint.parse? text = none :=
  Option.eq_none_iff_forall_ne_some.mpr fun _ parsed => other (isEndpointText_of_parse? parsed)

/-- Between parts without a colon stands the only one. -/
theorem count_append_colon (noColon : ':' ∉ host) (noFurther : ':' ∉ rest) :
    (host ++ ':' :: rest).count ':' = 1 := by
  rw [List.count_append, List.count_cons_self, List.count_eq_zero.mpr noColon,
    List.count_eq_zero.mpr noFurther]

theorem IsEndpointText.colon (isText : IsEndpointText text) : ':' ∈ text := by
  cases isText <;> exact List.mem_append_right _ List.mem_cons_self

/-- Groups have a port only behind a bracket. -/
theorem IsEndpointText.head?_of_count (isText : IsEndpointText text) (colons : 2 ≤ text.count ':') :
    text.head? = some '[' := by
  cases isText with
  | dotted isFront isPort =>
      rw [count_append_colon isFront.not_mem_colon isPort.not_mem_colon] at colons
      omega
  | bracketed => rfl

/-- A port does not end in a bracket. -/
theorem IsEndpointText.getLast?_ne (isText : IsEndpointText text) : text.getLast? ≠ some ']' := by
  have behind (front digits : List Char) (isPort : IsPortText digits) :
      (front ++ ':' :: digits).getLast? ≠ some ']' := by
    intro closed
    rw [List.getLast?_append, List.getLast?_cons, Option.some_or] at closed
    cases last : digits.getLast? with
    | none =>
        rw [last] at closed
        exact absurd (Option.some.inj closed) (by decide)
    | some c =>
        rw [last] at closed
        cases closed
        exact absurd (isPort ']' (List.mem_of_getLast? last)) (by decide)
  cases isText with
  | dotted _ isPort => exact behind _ _ isPort
  | bracketed _ isPort => exact behind _ _ isPort

/-- What stands before the only colon of an address with a port is an address. -/
theorem IsEndpointText.isDotted (isText : IsEndpointText (host ++ ':' :: rest))
    (noColon : ':' ∉ host) (noFurther : ':' ∉ rest) : ∃ octets, IsDotted host octets := by
  have one := count_append_colon noColon noFurther
  generalize spelled : host ++ ':' :: rest = text at isText one
  cases isText with
  | @dotted octets front digits isFront isPort =>
      have cut := splitLast?_append host noFurther
      rw [spelled, splitLast?_append front isPort.not_mem_colon] at cut
      cases cut
      exact ⟨octets, isFront⟩
  | bracketed colons =>
      rw [List.count_append, List.count_cons_of_ne (by decide), List.count_cons_self] at one
      omega

/-! ## Literals -/

/-- What is read as an address: octets, or groups to which nothing is added. -/
theorem exists_of_parse? {address : Address} (parsed : Address.parse? text = some address) :
    (∃ octets, IsDotted text octets) ∨ 2 ≤ text.count ':' ∧ ∀ c ∈ text, InAddress c := by
  unfold Address.parse? at parsed
  split at parsed
  next octets read =>
      rcases exists_of_readV4 read with ⟨used, dotted, rfl⟩
      rw [List.append_nil]
      exact .inl ⟨octets, dotted⟩
  next =>
      split at parsed
      next groups read =>
          rcases exists_of_readV6 read with ⟨used, rfl, inAddress, two⟩
          rw [List.append_nil]
          exact .inr ⟨two, inAddress⟩
      next => cases parsed

theorem inAddress_of_parse? {address : Address} (parsed : Address.parse? text = some address) :
    ∀ c ∈ text, InAddress c := by
  rcases exists_of_parse? parsed with ⟨octets, dotted⟩ | ⟨-, inAddress⟩
  · exact dotted.inAddress
  · exact inAddress

/-- Octets have no colon, and groups have more than one. -/
theorem Address.parse?_eq_none_of_count (one : text.count ':' = 1) : Address.parse? text = none := by
  refine Option.eq_none_iff_forall_ne_some.mpr fun address parsed => ?_
  rcases exists_of_parse? parsed with ⟨octets, dotted⟩ | ⟨two, -⟩
  · rw [List.count_eq_zero.mpr dotted.not_mem_colon] at one
    omega
  · omega

/-- An address that stands alone has no port. -/
theorem Endpoint.parse?_literal {address : Address} (parsed : Address.parse? text = some address) :
    Endpoint.parse? text = none := by
  refine Endpoint.parse?_eq_none fun isText => ?_
  rcases exists_of_parse? parsed with ⟨octets, dotted⟩ | ⟨two, inAddress⟩
  · exact dotted.not_mem_colon isText.colon
  · exact absurd (inAddress '[' (List.mem_of_head? (isText.head?_of_count two))) (by decide)

theorem isBlank_of_inAddress {c : Char} (inAddress : InAddress c) : Blank.isBlank c = false := by
  refine Domain.forall_low (p := fun c => InAddress c → Blank.isBlank c = false) ?_
    (isLow_of_inAddress inAddress) inAddress
  decide

/-! ## Brackets -/

theorem unbracketed_bracketed (inner : List Char) : unbracketed ('[' :: inner ++ [']']) = inner := by
  have closed : ('[' :: inner ++ [']']).getLast? = some ']' := List.getLast?_concat
  unfold unbracketed
  rw [closed]
  change (if (inner ++ [']']).isEmpty then _ else (inner ++ [']']).dropLast) = inner
  rw [if_neg (by simp), List.dropLast_concat]

theorem unbracketed_of_ne (unclosed : ∀ inner, text ≠ '[' :: inner ++ [']']) :
    unbracketed text = text := by
  unfold unbracketed
  split
  next behind closed =>
      rcases List.getLast?_eq_some_iff.mp closed with ⟨front, spelled⟩
      cases front with
      | nil => exact absurd (List.cons.inj spelled).1 (by decide)
      | cons c inner =>
          rcases List.cons.inj spelled with ⟨rfl, behindBracket⟩
          exact absurd (behindBracket ▸ rfl) (unclosed inner)
  next => rfl

/-- Brackets do not change the number of colons. -/
theorem count_unbracketed (text : List Char) :
    (unbracketed text).count ':' = text.count ':' := by
  by_cases closed : ∃ inner, text = '[' :: inner ++ [']']
  · rcases closed with ⟨inner, rfl⟩
    rw [unbracketed_bracketed, List.count_append, List.count_cons_of_ne (by decide)]
    rfl
  · rw [unbracketed_of_ne (not_exists.mp closed)]

/-! ## The reader by cases -/

namespace NameServer

/-- Blanks around a text do not matter. -/
theorem parse_between (blankLeft : ∀ c ∈ left, Blank.isBlank c = true)
    (blankRight : ∀ c ∈ right, Blank.isBlank c = true) (text : List Char) :
    parse (String.ofList (left ++ text ++ right)) = parse (String.ofList text) := by
  unfold parse
  rw [String.toList_ofList, String.toList_ofList, Blank.strip_append_right blankRight,
    Blank.strip_append_left blankLeft]

theorem parse_endpoint {endpoint : Endpoint} (kept : Blank.strip text = text)
    (parsed : Endpoint.parse? text = some endpoint) :
    parse (String.ofList text) = .ok (.at endpoint) := by
  have nonempty : ¬ text.isEmpty = true := by
    rintro empty
    rw [List.isEmpty_iff.mp empty] at parsed
    cases parsed
  unfold parse
  rw [String.toList_ofList, kept]
  dsimp only
  rw [if_neg nonempty, parsed]

theorem parse_address {address : Address} (kept : Blank.strip text = text)
    (noPort : Endpoint.parse? text = none)
    (parsed : Address.parse? (unbracketed text) = some address) :
    parse (String.ofList text) = .ok (.at ⟨address, nameServerPort, 0⟩) := by
  have nonempty : ¬ text.isEmpty = true := by
    rintro empty
    rw [List.isEmpty_iff.mp empty] at parsed
    cases parsed
  unfold parse
  rw [String.toList_ofList, kept]
  dsimp only
  rw [if_neg nonempty, noPort, parsed]

theorem parse_name (kept : Blank.strip text = text) (nonempty : text ≠ [])
    (noPort : Endpoint.parse? text = none) (noAddress : Address.parse? (unbracketed text) = none)
    (noColon : ':' ∉ text) :
    parse (String.ofList text) = .ok (.named (String.ofList text) nameServerPort) := by
  unfold parse
  rw [String.toList_ofList, kept]
  dsimp only
  rw [if_neg (mt List.isEmpty_iff.mp nonempty), noPort, noAddress,
    splitLast?_eq_none_iff.mpr noColon]

/-- What stands before the only colon is a name unless it is an address, and what stands behind it
is a port. -/
theorem parse_pair (kept : Blank.strip (host ++ ':' :: rest) = host ++ ':' :: rest)
    (noAddress : Address.parse? host = none) (noColon : ':' ∉ host) (noFurther : ':' ∉ rest) :
    parse (String.ofList (host ++ ':' :: rest)) =
      match Decimal.natural? Decimal.portBound rest with
      | some port => .ok (.named (String.ofList host) port)
      | none => .error (.config ("invalid DNS server port in " ++
          Quoted.text (String.ofList (host ++ ':' :: rest)))) := by
  have filled : ¬ (host ++ ':' :: rest).isEmpty = true :=
    mt List.isEmpty_iff.mp (List.append_ne_nil_of_right_ne_nil host (List.cons_ne_nil _ _))
  have noPort : Endpoint.parse? (host ++ ':' :: rest) = none := by
    refine Endpoint.parse?_eq_none fun isText => ?_
    rcases isText.isDotted noColon noFurther with ⟨octets, dotted⟩
    exact nomatch noAddress.symm.trans dotted.parse?
  have noLiteral : Address.parse? (unbracketed (host ++ ':' :: rest)) = none := by
    refine Address.parse?_eq_none_of_count ?_
    rw [count_unbracketed, count_append_colon noColon noFurther]
  have cut := splitLast?_append host noFurther
  unfold parse
  rw [String.toList_ofList, kept]
  dsimp only
  rw [if_neg filled, noPort, noLiteral]
  cases read : Decimal.natural? Decimal.portBound rest with
  | none => simp only [cut, read]
  | some port => simp only [cut, read]

/-- Whatever is an address is taken for one, in brackets or without. -/
theorem parse_literal {address : Address} (parsed : Address.parse? text = some address) :
    parse (String.ofList text) = .ok (.at ⟨address, nameServerPort, 0⟩) ∧
      parse (String.ofList ('[' :: text ++ [']'])) = .ok (.at ⟨address, nameServerPort, 0⟩) := by
  have inAddress := inAddress_of_parse? parsed
  have solid : ∀ c ∈ text, Blank.isBlank c = false := fun c member =>
    isBlank_of_inAddress (inAddress c member)
  constructor
  · refine parse_address (Blank.strip_eq_self solid) (Endpoint.parse?_literal parsed) ?_
    rw [unbracketed_of_ne]
    · exact parsed
    · rintro inner rfl
      exact absurd (inAddress '[' List.mem_cons_self) (by decide)
  · refine parse_address (Blank.strip_eq_self ?_) (Endpoint.parse?_eq_none fun isText => ?_) ?_
    · refine List.forall_mem_append.mpr ⟨List.forall_mem_cons.mpr ⟨rfl, solid⟩, ?_⟩
      exact List.forall_mem_singleton.mpr rfl
    · exact isText.getLast?_ne List.getLast?_concat
    · rw [unbracketed_bracketed]
      exact parsed

end NameServer

/-! ## Written texts -/

theorem isBlank_of_mem_port (port : Nat) :
    ∀ c ∈ ':' :: Decimal.digits port, Blank.isBlank c = false :=
  List.forall_mem_cons.mpr ⟨rfl, fun _ member =>
    Blank.isBlank_of_isDigit (Decimal.isDigit_of_mem_digits member)⟩

theorem isBlank_of_mem_endpoint {address : Address} (proper : address.IsProper) (port : Nat) :
    ∀ c ∈ (Endpoint.text ⟨address, port, 0⟩).toList, Blank.isBlank c = false := by
  have solid : ∀ c ∈ address.chars, Blank.isBlank c = false := fun c member =>
    isBlank_of_inAddress (inAddress_of_parse? (Address.parse?_chars proper) c member)
  have solidPort := isBlank_of_mem_port port
  cases address with
  | v4 octets =>
      dsimp only [Endpoint.text]
      rw [String.toList_ofList]
      exact List.forall_mem_append.mpr ⟨solid, solidPort⟩
  | v6 groups =>
      dsimp only [Endpoint.text]
      rw [String.toList_ofList, if_pos rfl, List.append_nil, List.cons_append]
      refine List.forall_mem_cons.mpr ⟨rfl, List.forall_mem_append.mpr ⟨solid, ?_⟩⟩
      exact List.forall_mem_cons.mpr ⟨rfl, solidPort⟩

/-- A name that is no address, and without a colon or blanks around it. -/
structure IsServerName (host : List Char) : Prop where
  nonempty : host ≠ []
  trimmed : Blank.strip host = host
  noColon : ':' ∉ host
  noAddress : Address.parse? host = none
  noBracketed : ∀ inner, host = '[' :: inner ++ [']'] → Address.parse? inner = none

theorem IsServerName.parse?_unbracketed (isName : IsServerName host) :
    Address.parse? (unbracketed host) = none := by
  by_cases closed : ∃ inner, host = '[' :: inner ++ [']']
  · rcases closed with ⟨inner, spelled⟩
    rw [spelled, unbracketed_bracketed]
    exact isName.noBracketed inner spelled
  · rw [unbracketed_of_ne (not_exists.mp closed)]
    exact isName.noAddress

/-- What the reader makes of each text that writes a name server, between blanks. -/
structure NameServer.ReadsTexts (left right : List Char) : Prop where
  /-- An address alone is meant with the port of name servers. -/
  address : ∀ address : Address, address.IsProper →
    parse (String.ofList (left ++ address.chars ++ right)) = .ok (.at ⟨address, 53, 0⟩)
  /-- So is an address in brackets. -/
  bracketed : ∀ address : Address, address.IsProper →
    parse (String.ofList (left ++ ('[' :: address.chars ++ [']']) ++ right)) =
      .ok (.at ⟨address, 53, 0⟩)
  /-- An address keeps its port. -/
  endpoint : ∀ (address : Address) (port : Nat), address.IsProper → port < Decimal.portBound →
    parse (String.ofList (left ++ (Endpoint.text ⟨address, port, 0⟩).toList ++ right)) =
      .ok (.at ⟨address, port, 0⟩)
  /-- A name alone is meant with the port of name servers. -/
  name : ∀ host, IsServerName host →
    parse (String.ofList (left ++ host ++ right)) = .ok (.named (String.ofList host) 53)
  /-- A name keeps its port. -/
  namePort : ∀ host port, IsServerName host → port < Decimal.portBound →
    parse (String.ofList (left ++ (host ++ ':' :: Decimal.digits port) ++ right)) =
      .ok (.named (String.ofList host) port)
  /-- What stands behind a name and a colon is a port. -/
  noPort : ∀ host rest, IsServerName host → (∀ c ∈ rest, c ≠ ':' ∧ Blank.isBlank c = false) →
    Decimal.natural? Decimal.portBound rest = none →
    parse (String.ofList (left ++ (host ++ ':' :: rest) ++ right)) =
      .error (.config ("invalid DNS server port in " ++
        Quoted.text (String.ofList (host ++ ':' :: rest))))

/-- Every text of a name server is read as what it writes. -/
theorem NameServer.reads_texts (blankLeft : ∀ c ∈ left, Blank.isBlank c = true)
    (blankRight : ∀ c ∈ right, Blank.isBlank c = true) : ReadsTexts left right := by
  have between := parse_between blankLeft blankRight
  have solid (host rest : List Char) (isName : IsServerName host)
      (solidRest : ∀ c ∈ rest, Blank.isBlank c = false) :
      Blank.strip (host ++ ':' :: rest) = host ++ ':' :: rest :=
    Blank.strip_append isName.trimmed isName.nonempty (List.forall_mem_cons.mpr ⟨rfl, solidRest⟩)
  constructor
  case address =>
      intro address proper
      rw [between]
      exact (parse_literal (Address.parse?_chars proper)).1
  case bracketed =>
      intro address proper
      rw [between]
      exact (parse_literal (Address.parse?_chars proper)).2
  case endpoint =>
      intro address port proper small
      rw [between]
      have kept := Blank.strip_eq_self (isBlank_of_mem_endpoint proper port)
      exact parse_endpoint kept (Endpoint.parse?_text proper small)
  case name =>
      intro host isName
      rw [between]
      have noPort := Endpoint.parse?_eq_none fun isText => isName.noColon isText.colon
      exact parse_name isName.trimmed isName.nonempty noPort isName.parse?_unbracketed isName.noColon
  case namePort =>
      intro host port isName small
      have digits : ∀ c ∈ Decimal.digits port, c.isDigit = true := fun _ =>
        Decimal.isDigit_of_mem_digits
      have kept := solid host (Decimal.digits port) isName fun c member =>
        Blank.isBlank_of_isDigit (digits c member)
      have noFurther : ':' ∉ Decimal.digits port := fun member =>
        absurd (digits ':' member) (by decide)
      rw [between, parse_pair kept isName.noAddress isName.noColon noFurther,
        Decimal.natural?_digits small]
  case noPort =>
      intro host rest isName plain wrong
      have kept := solid host rest isName fun c member => (plain c member).2
      have noFurther : ':' ∉ rest := fun member => (plain ':' member).1 rfl
      rw [between, parse_pair kept isName.noAddress isName.noColon noFurther, wrong]

/-- Between blanks stand an address with its port, a name with its port, and a name with what is no
port. -/
theorem NameServer.reads_texts_between_blanks :
    parse "\t [fd00::53]:5353\r\n" =
        .ok (.at ⟨.v6 [0xfd00, 0, 0, 0, 0, 0, 0, 0x53], 5353, 0⟩) ∧
      parse "\t dns.example.com:5300\r\n" = .ok (.named "dns.example.com" 5300) ∧
      parse "\t dns.example.com:x\r\n" =
        .error (.config ("invalid DNS server port in " ++ Quoted.text "dns.example.com:x")) := by
  have blanks : ['\t', ' '].all Blank.isBlank ∧ ['\r', '\n'].all Blank.isBlank := by decide
  have reads := reads_texts (List.all_eq_true.mp blanks.1) (List.all_eq_true.mp blanks.2)
  have isName : IsServerName "dns.example.com".toList := by
    refine ⟨by decide, by decide, by decide, by decide, fun inner spelled => ?_⟩
    exact absurd (List.cons.inj spelled).1 (by decide)
  refine ⟨?_, ?_, ?_⟩
  · have read := reads.endpoint (.v6 [0xfd00, 0, 0, 0, 0, 0, 0, 0x53]) 5353 (by decide) (by decide)
    have spelled : ['\t', ' '] ++ (Endpoint.text
        ⟨.v6 [0xfd00, 0, 0, 0, 0, 0, 0, 0x53], 5353, 0⟩).toList ++ ['\r', '\n'] =
          "\t [fd00::53]:5353\r\n".toList := by decide
    rw [spelled, String.ofList_toList] at read
    exact read
  · have read := reads.namePort _ 5300 isName (by decide)
    have spelled : ['\t', ' '] ++ ("dns.example.com".toList ++ ':' :: Decimal.digits 5300) ++
        ['\r', '\n'] = "\t dns.example.com:5300\r\n".toList := by decide
    rw [spelled, String.ofList_toList, String.ofList_toList] at read
    exact read
  · have plain : ∀ c ∈ ['x'], c ≠ ':' ∧ Blank.isBlank c = false :=
      List.forall_mem_singleton.mpr (by decide)
    have read := reads.noPort _ ['x'] isName plain (by decide)
    have spelled : ['\t', ' '] ++ ("dns.example.com".toList ++ ':' :: ['x']) ++ ['\r', '\n'] =
        "\t dns.example.com:x\r\n".toList := by decide
    have wrong : "dns.example.com".toList ++ ':' :: ['x'] = "dns.example.com:x".toList := by decide
    rw [spelled, wrong, String.ofList_toList, String.ofList_toList] at read
    exact read

end
end Net
end ExchangeGrid
