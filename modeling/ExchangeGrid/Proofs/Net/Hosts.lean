import ExchangeGrid.Net.Url
import ExchangeGrid.Proofs.Net.Literals
import ExchangeGrid.Proofs.Net.PlainNames

namespace ExchangeGrid
namespace Net

/-!
# Which texts are hosts

A host is an address in brackets, or a name; and a name is looked at only after its escapes are
replaced and its characters are folded.  Neither of these can do away with a bracket, so a bracket
stands in a host only around an address.
-/

/-! ## Characters of addresses -/

theorem isLow_of_inAddress {c : Char} (inAddress : InAddress c) : Domain.IsLow c := by
  rcases inAddress with digit | rfl | rfl
  · unfold hexDigit? at digit
    split at digit
    next inside => exact Nat.lt_of_le_of_lt (show c.toNat ≤ 57 from inside.2) (by decide)
    next =>
        split at digit
        next inside => exact Nat.lt_of_le_of_lt (show c.toNat ≤ 102 from inside.2) (by decide)
        next =>
            split at digit
            next inside => exact Nat.lt_of_le_of_lt (show c.toNat ≤ 70 from inside.2) (by decide)
            next => cases digit
  · decide
  · decide

/-! ## Escapes -/

/-- A byte that is no part of an escape stays. -/
theorem mem_percentDecode {byte : UInt8} {bytes : List UInt8} (noMark : byte ≠ 37)
    (noDigit : hexDigit? (Char.ofNat byte.toNat) = none) (member : byte ∈ bytes) :
    byte ∈ percentDecode bytes := by
  fun_induction percentDecode bytes with
  | case1 high low rest high' low' readHigh readLow inductionHypothesis =>
      rw [List.mem_cons, List.mem_cons, List.mem_cons] at member
      rcases member with rfl | rfl | rfl | later
      · exact absurd rfl noMark
      · exact nomatch noDigit.symm.trans readLow
      · exact nomatch noDigit.symm.trans readHigh
      · exact List.mem_cons_of_mem _ (inductionHypothesis later)
  | case2 high low rest unread inductionHypothesis =>
      exact List.mem_cons.mpr ((List.mem_cons.mp member).imp_right inductionHypothesis)
  | case3 other rest noEscape inductionHypothesis =>
      exact List.mem_cons.mpr ((List.mem_cons.mp member).imp_right inductionHypothesis)
  | case4 => exact member

theorem percentDecode_of_not_mem {bytes : List UInt8} (absent : 37 ∉ bytes) :
    percentDecode bytes = bytes := by
  fun_induction percentDecode bytes with
  | case1 => exact absurd List.mem_cons_self absent
  | case2 => exact absurd List.mem_cons_self absent
  | case3 other rest noEscape inductionHypothesis =>
      rw [inductionHypothesis fun member => absent (List.mem_cons_of_mem other member)]
  | case4 => rfl

/-! ## Brackets -/

section
variable {text inner : List Char} {host : UrlHost}

theorem readHost_bracketed (inner : List Char) :
    readHost ('[' :: inner ++ [']']) = .ok host ↔
      ∃ groups, readV6 inner = some (groups, []) ∧ host = .address (.v6 groups) := by
  have closed : ('[' :: inner ++ [']']).getLast? = some ']' := List.getLast?_concat
  have between : (('[' :: inner ++ [']']).drop 1).dropLast = inner := List.dropLast_concat
  have opened : ('[' :: inner ++ [']']).head? = some '[' := rfl
  rw [readHost, if_pos opened, readBracketedHost, if_neg (not_not.mpr closed), between]
  split
  next groups found =>
      rw [found, Except.ok.injEq]
      constructor
      · rintro rfl
        exact ⟨groups, rfl, rfl⟩
      · rintro ⟨_, ⟨⟩, rfl⟩
        rfl
  next other => exact iff_of_false nofun fun ⟨groups, found, _⟩ => other groups found

theorem exists_of_readHost_bracketed (bracket : text.head? = some '[')
    (read : readHost text = .ok host) :
    ∃ inner groups, text = '[' :: inner ++ [']'] ∧ readV6 inner = some (groups, []) := by
  have closed : text.getLast? = some ']' := by
    rw [readHost, if_pos bracket, readBracketedHost] at read
    by_contra unclosed
    rw [if_pos unclosed] at read
    cases read
  rcases List.getLast?_eq_some_iff.mp closed with ⟨opened, rfl⟩
  cases opened with
  | nil => exact absurd bracket (by decide)
  | cons c inner =>
      cases bracket
      rcases (readHost_bracketed inner).mp read with ⟨groups, found, -⟩
      exact ⟨inner, groups, rfl, found⟩

/-! ## Names -/

/-- The host that a name means in the form in which it is sent. -/
inductive NameHost : List Char → UrlHost → Prop
  | name {ascii : List Char} (nonempty : ascii ≠ []) (noNumber : endsInNumber ascii = false) :
      NameHost ascii (.name (String.ofList ascii))
  | address {ascii : List Char} {address : Address} (number : endsInNumber ascii = true)
      (read : readNumericHost? ascii = some address) : NameHost ascii (.address address)

/-- Without a bracket in front, a host is a name whose escapes are replaced. -/
theorem readHost_eq_ok_iff (unbracketed : text.head? ≠ some '[') : readHost text = .ok host ↔
    ∃ name ascii, Utf8.text? (percentDecode (Utf8.bytes (String.ofList text))) = some name ∧
      Domain.toAscii? name.toList = some ascii ∧ NameHost ascii host := by
  rw [readHost, if_neg unbracketed]
  dsimp only
  constructor
  · intro read
    split at read
    next => cases read
    next => cases read
    next ascii nonempty found =>
        rcases Option.bind_eq_some_iff.mp found with ⟨name, decoded, accepted⟩
        refine ⟨name, ascii, decoded, accepted, ?_⟩
        split at read
        next number =>
            split at read
            next => cases read
            next address numeric =>
                cases read
                exact .address number numeric
        next noNumber =>
            cases read
            exact .name nonempty (eq_false_of_ne_true noNumber)
  · rintro ⟨name, ascii, decoded, accepted, isHost⟩
    have found : (Utf8.text? (percentDecode (Utf8.bytes (String.ofList text)))).bind
        (fun name => Domain.toAscii? name.toList) = some ascii :=
      Option.bind_eq_some_iff.mpr ⟨name, decoded, accepted⟩
    rw [found]
    cases isHost with
    | name nonempty noNumber =>
        cases ascii with
        | nil => exact absurd rfl nonempty
        | cons c rest =>
            dsimp only
            rw [noNumber]
            rfl
    | address number numeric =>
        cases ascii with
        | nil => exact absurd number (by decide)
        | cons c rest =>
            dsimp only
            rw [number, if_pos rfl, numeric]

/-- No bracket stands in a name. -/
theorem not_mem_of_readHost {c : Char} (unbracketed : text.head? ≠ some '[')
    (read : readHost text = .ok host) (bracket : c = '[' ∨ c = ']') : c ∉ text := by
  rcases (readHost_eq_ok_iff unbracketed).mp read with ⟨name, ascii, decoded, accepted, -⟩
  have plain : (UInt8.ofNat c.toNat).toNat = c.toNat ∧ UInt8.ofNat c.toNat ≠ 37 ∧
      hexDigit? (Char.ofNat c.toNat) = none ∧ c.toNat < 128 := by
    rcases bracket with rfl | rfl <;> decide
  rcases plain with ⟨same, noMark, noDigit, low⟩
  have absent : UInt8.ofNat c.toNat ∉ percentDecode (Utf8.bytes (String.ofList text)) := by
    rw [← Utf8.bytes_of_text? decoded, ← String.ofList_toList (s := name)]
    exact Utf8.not_mem_bytes (Domain.not_mem_of_toAscii? bracket accepted) same.symm
      (same.trans_lt low)
  intro member
  refine absent (mem_percentDecode noMark (same.symm ▸ noDigit) ?_)
  rw [Utf8.bytes_ofList, List.mem_flatMap]
  refine ⟨c, member, ?_⟩
  rcases bracket with rfl | rfl <;> decide

/-! ## Plain hosts -/

theorem readHost_of_toAscii? {ascii : List Char} (unbracketed : text.head? ≠ some '[')
    (noEscape : '%' ∉ text) (accepted : Domain.toAscii? text = some ascii)
    (isHost : NameHost ascii host) : readHost text = .ok host := by
  refine (readHost_eq_ok_iff unbracketed).mpr ⟨String.ofList text, ascii, ?_, ?_, isHost⟩
  · rw [percentDecode_of_not_mem (Utf8.not_mem_bytes noEscape rfl (by decide)), Utf8.text?_bytes]
  · rw [String.toList_ofList]
    exact accepted

/-- A name as it is used for hosts.  Its last label is no number, and if there is punycode in it, it
stands for a name. -/
structure IsHostName (name : List Char) : Prop where
  nonempty : name ≠ []
  chars : ∀ c ∈ name, Domain.IsNameChar c
  noNumber : endsInNumber (Domain.lower name) = false
  coded : (∃ label ∈ splitOn '.' (Domain.lower name), Domain.punycodeMark <+: label) →
    (Domain.toAscii? name).isSome

theorem IsHostName.toAscii? {name : List Char} (isName : IsHostName name) :
    Domain.toAscii? name = some (Domain.lower name) := by
  by_cases coded : ∃ label ∈ splitOn '.' (Domain.lower name), Domain.punycodeMark <+: label
  · rcases Option.isSome_iff_exists.mp (isName.coded coded) with ⟨ascii, accepted⟩
    rw [accepted, Domain.eq_lower_of_toAscii? isName.chars accepted]
  · exact Domain.toAscii?_of_name isName.chars fun label listed code => coded ⟨label, listed, code⟩

/-- A name is read in small letters. -/
theorem readHost_of_name {name : List Char} (isName : IsHostName name) :
    readHost name = .ok (.name (String.ofList (Domain.lower name))) := by
  have absent : ∀ c, ¬ Domain.IsNameChar c → c ∉ name := fun c other member =>
    other (isName.chars c member)
  refine readHost_of_toAscii? (fun bracket => ?_) (absent '%' (by decide)) isName.toAscii? ?_
  · exact absent '[' (by decide) (List.mem_of_head? bracket)
  · refine .name (fun empty => isName.nonempty ?_) isName.noNumber
    exact List.map_eq_nil_iff.mp empty

/-! ## Octets -/

theorem foldl_of_extend {bound start value : Nat} {digits : List Char}
    (written : Decimal.extend bound start digits = .ok value) :
    digits.foldl (fun value c => value * 10 + (hexDigit? c).getD 0) start = value := by
  induction digits generalizing start with
  | nil => exact Except.ok.inj written
  | cons c digits inductionHypothesis =>
      rcases Decimal.exists_of_extend written with ⟨digit, found, -, later⟩
      rw [List.foldl_cons, hexDigit?_of_digit? found]
      exact inductionHypothesis later

section
variable {digits : List Char} {value : Nat}

theorem IsOctet.extend (octet : IsOctet digits value) :
    Decimal.extend 256 0 digits = .ok value := by
  have written := Decimal.natural_eq_ok_iff.mpr octet.written
  unfold Decimal.natural at written
  split at written
  next => cases written
  next => cases written
  next => exact absurd (octet.isDigit '+' List.mem_cons_self) (by decide)
  next => exact written

theorem lt_ten_of_digit? {c : Char} (digit : Decimal.digit? c = some value) : value < 10 := by
  unfold Decimal.digit? at digit
  split at digit
  next inside =>
      cases digit
      have upper : c.toNat ≤ 57 := inside.2
      change c.toNat - 48 < 10
      omega
  next => cases digit

theorem IsOctet.read (octet : IsOctet digits value) :
    readHostNumber? digits = some (some value) := by
  have alone : ∀ c rest, digits ≠ '0' :: c :: rest := by
    rintro c rest rfl
    exact absurd (octet.unpadded rfl) (by simp)
  have small : value < Nat.pow 2 32 :=
    Nat.lt_of_lt_of_le (Decimal.lt_of_extend (by decide) octet.extend) (by decide)
  have notEmpty : ¬ digits.isEmpty = true := List.isEmpty_iff.not.mpr octet.nonempty
  unfold readHostNumber?
  split
  next base rest spelled =>
      split at spelled
      next => exact absurd rfl (alone _ _)
      next => exact absurd rfl (alone _ _)
      next => exact absurd rfl (alone _ _)
      next =>
          cases spelled
          rw [if_neg notEmpty]
          split
          next =>
              dsimp only
              rw [foldl_of_extend octet.extend, if_pos small]
          next other =>
              refine absurd (List.all_eq_true.mpr fun c member => ?_) other
              rcases Option.isSome_iff_exists.mp (octet.isDigit c member) with ⟨digit, found⟩
              rw [hexDigit?_of_digit? found]
              exact decide_eq_true (lt_ten_of_digit? found)

/-! ## Addresses of the older family -/

theorem IsOctet.not_mem_dot (octet : IsOctet digits value) : '.' ∉ digits := fun member =>
  absurd (octet.isDigit '.' member) (by decide)

theorem IsOctet.lt (octet : IsOctet digits value) : value < 256 :=
  Decimal.lt_of_extend (by decide) octet.extend

theorem isDigit_of_digit? {c : Char} (digit : (Decimal.digit? c).isSome) : c.isDigit = true := by
  unfold Decimal.digit? at digit
  split at digit
  next inside => exact Bool.and_eq_true_iff.mpr ⟨decide_eq_true inside.1, decide_eq_true inside.2⟩
  next => cases digit

theorem IsOctet.isPlain (octet : IsOctet digits value) : Domain.isPlain digits = true := by
  rw [Domain.isPlain, Bool.and_eq_true, List.all_eq_true, Bool.not_eq_true']
  refine ⟨fun c member => ?_, ?_⟩
  · rw [isDigit_of_digit? (octet.isDigit c member), Bool.or_true, Bool.true_or]
  · by_contra code
    rcases List.isPrefixOf_iff_prefix.mp ((Bool.not_eq_false _).mp code) with ⟨rest, rfl⟩
    exact absurd (octet.isDigit 'x' List.mem_cons_self) (by decide)

/-- The labels of four octets are the octets. -/
theorem splitOn_dotted {first second third fourth : List Char} {a b c d : Nat}
    (isFirst : IsOctet first a) (isSecond : IsOctet second b) (isThird : IsOctet third c)
    (isFourth : IsOctet fourth d) :
    splitOn '.' (first ++ [second, third, fourth].flatMap ('.' :: ·)) =
      [first, second, third, fourth] := by
  refine splitOn_pieces isFirst.not_mem_dot ?_
  rw [List.forall_mem_cons, List.forall_mem_cons, List.forall_mem_singleton]
  exact ⟨isSecond.not_mem_dot, isThird.not_mem_dot, isFourth.not_mem_dot⟩

theorem hostLabels_dotted {first second third fourth : List Char} {a b c d : Nat}
    (isFirst : IsOctet first a) (isSecond : IsOctet second b) (isThird : IsOctet third c)
    (isFourth : IsOctet fourth d) :
    hostLabels (first ++ [second, third, fourth].flatMap ('.' :: ·)) =
      [first, second, third, fourth] := by
  unfold hostLabels
  rw [splitOn_dotted isFirst isSecond isThird isFourth]
  exact if_neg fun both => isFourth.nonempty (Option.some.inj both.2)

/-- The octets of the number that they make. -/
theorem octets_of_sum {a b c d : Nat} (lower : b < 256 ∧ c < 256 ∧ d < 256) :
    let sum := d + a * 16777216 + b * 65536 + c * 256
    [sum / 256 / 256 / 256, sum / 256 / 256 % 256, sum / 256 % 256, sum % 256] = [a, b, c, d] := by
  simp only [List.cons.injEq, and_true]
  omega

theorem IsOctet.number (octet : IsOctet digits value) :
    (readHostNumber? digits).bind id = some value := by
  rw [octet.read]
  rfl

/-- Four octets are read as one address. -/
theorem readNumericHost?_of_dotted {octets : List Nat} (dotted : IsDotted text octets) :
    readNumericHost? text = some (.v4 octets) := by
  cases dotted with
  | @intro first second third fourth a b c d isFirst isSecond isThird isFourth =>
      have numbers : [first, second, third, fourth].mapM (fun part =>
          (readHostNumber? part).bind id) = some [a, b, c, d] :=
        Domain.mapM_eq_some_iff.mpr (.cons isFirst.number (.cons isSecond.number
          (.cons isThird.number (.cons isFourth.number .nil))))
      have within : ¬ (d ≥ Nat.pow 256 1 ∨ [a, b, c].any (· > 255) = true) := by
        rintro (large | some)
        · exact Nat.not_lt_of_le large isFourth.lt
        · simp only [List.any_cons, List.any_nil, Bool.or_false, Bool.or_eq_true,
            decide_eq_true_eq] at some
          have := isFirst.lt
          have := isSecond.lt
          have := isThird.lt
          omega
      unfold readNumericHost?
      rw [hostLabels_dotted isFirst isSecond isThird isFourth, numbers]
      exact (if_neg within).trans (congrArg (fun octets => some (Address.v4 octets))
        (octets_of_sum ⟨isSecond.lt, isThird.lt, isFourth.lt⟩))

theorem endsInNumber_of_dotted {octets : List Nat} (dotted : IsDotted text octets) :
    endsInNumber text = true := by
  cases dotted with
  | intro isFirst isSecond isThird isFourth =>
      unfold endsInNumber
      rw [hostLabels_dotted isFirst isSecond isThird isFourth]
      exact Bool.or_eq_true_iff.mpr
        (.inr (Option.isSome_iff_exists.mpr ⟨_, isFourth.read⟩))

theorem toAscii?_of_dotted {octets : List Nat} (dotted : IsDotted text octets) :
    Domain.toAscii? text = some text := by
  refine if_pos (List.all_eq_true.mpr ?_)
  cases dotted with
  | intro isFirst isSecond isThird isFourth =>
      rw [splitOn_dotted isFirst isSecond isThird isFourth, List.forall_mem_cons,
        List.forall_mem_cons, List.forall_mem_cons, List.forall_mem_singleton]
      exact ⟨isFirst.isPlain, isSecond.isPlain, isThird.isPlain, isFourth.isPlain⟩

/-- Four octets are a host. -/
theorem readHost_of_dotted {octets : List Nat} (dotted : IsDotted text octets) :
    readHost text = .ok (.address (.v4 octets)) := by
  have absent : ∀ c, ¬ ((Decimal.digit? c).isSome ∨ c = '.') → c ∉ text := fun c other member =>
    other (dotted.digit_or_dot c member)
  refine readHost_of_toAscii? (fun bracket => ?_) (absent '%' (by decide))
    (toAscii?_of_dotted dotted) ?_
  · exact absent '[' (by decide) (List.mem_of_head? bracket)
  · exact .address (endsInNumber_of_dotted dotted) (readNumericHost?_of_dotted dotted)

end

end
end Net
end ExchangeGrid
