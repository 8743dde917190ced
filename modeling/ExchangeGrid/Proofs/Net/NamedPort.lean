import ExchangeGrid.Proofs.Net.Authorities

namespace ExchangeGrid
namespace Net

/-!
# The port that a URL names

A URL that has been read no longer shows a port that is the default of its scheme.  Whether one was
named is then found by a second and quicker look at the text, which searches for the authority in
its own way.

`follows_authority` compares the two ways.  Where they find the same place, as they do in every URL
that is spelled plainly, the request goes to the port that the authority names.  Where they do not,
and the URL shows no port, the request goes to the other one: to the port of the control plane
although the default is named, or to the default although nothing is.
-/

def Authority.wantedPort (raw : String) (authority : Authority) : Except Error Nat :=
  match authority.port with
  | some 0 => .error (.port (raw ++ ": port 0"))
  | some port => .ok port
  | none => .ok controlPort

/-- A scheme, two slashes, an authority and what follows it. -/
inductive IsPlain : List Char → Prop
  | intro {scheme authority tail : List Char} (noColon : ':' ∉ scheme) (nonempty : authority ≠ [])
      (stays : ∀ c ∈ authority, staysIn c = true)
      (ends : ∀ c ∈ tail.head?, c = '/' ∨ c = '?' ∨ c = '#') :
      IsPlain (scheme ++ ':' :: '/' :: '/' :: (authority ++ tail))

/-- A URL that is spelled plainly, with nothing in it that does not count. -/
structure PlainUrl (raw : String) : Prop where
  clean : Url.cleaned raw = raw.toList
  plain : IsPlain raw.toList

section
variable {raw : String} {url : Url} {place rest text front tail : List Char} {authority : Authority}

/-! ## The quick look -/

theorem afterMark_append {front : List Char} (noColon : ':' ∉ front) (rest : List Char) :
    afterMark (front ++ ':' :: '/' :: '/' :: rest) = some rest := by
  induction front with
  | nil => rfl
  | cons c front inductionHypothesis =>
      rw [List.mem_cons, not_or] at noColon
      rw [List.cons_append, afterMark]
      · exact inductionHypothesis noColon.2
      · exact fun tail same _ => noColon.1 same.symm

theorem PortText.noClosing {port : Option Nat} (isPort : PortText text port) : ']' ∉ text := by
  cases isPort with
  | absent => exact List.not_mem_nil
  | empty => decide
  | written isDigit value =>
      rw [List.mem_cons, not_or]
      exact ⟨by decide, fun member => absurd (isDigit _ member) (by decide)⟩

/-- A port is seen in the text of an authority just where it is read. -/
theorem spellsPort_of_isAuthority (isAuthority : IsAuthority place authority) :
    spellsPort place = authority.port.isSome := by
  cases isAuthority with
  | @intro hostText portText host port shape read isPort =>
      cases shape with
      | @bracketed inner inAddress =>
          have cut : splitLast? ']' ('[' :: inner ++ [']'] ++ portText) =
              some ('[' :: inner, portText) := by
            rw [List.append_assoc]
            exact splitLast?_append ('[' :: inner) isPort.noClosing
          rw [spellsPort, cut]
          cases isPort with
          | absent => rfl
          | empty => rfl
          | @written digits port isDigit value =>
              cases digits with
              | nil => cases value
              | cons c digits => rfl
      | plain noColon noOpening noClosing =>
          have uncut : splitLast? ']' (hostText ++ portText) = none :=
            splitLast?_eq_none_iff.mpr fun member =>
              (List.mem_append.mp member).elim noClosing isPort.noClosing
          rw [spellsPort, uncut]
          cases isPort with
          | absent =>
              rw [List.append_nil]
              dsimp only
              rw [splitLast?_eq_none_iff.mpr noColon]
              rfl
          | empty =>
              dsimp only
              rw [splitLast?_append hostText List.not_mem_nil]
              rfl
          | @written digits port isDigit value =>
              have noOther : ':' ∉ digits := fun member => absurd (isDigit _ member) (by decide)
              dsimp only
              rw [splitLast?_append hostText noOther]
              cases digits with
              | nil => cases value
              | cons c digits => rfl

/-! ## The reader -/

theorem scheme_of_readFile (read : readFile text = .ok url) : url.scheme = "file" := by
  unfold readFile at read
  split at read
  next a b rest =>
      split at read
      next =>
          dsimp only at read
          split at read
          next =>
              cases read
              rfl
          next =>
              cases host : readHost (rest.takeWhile (!endsAuthority .file ·)) with
              | error flaw =>
                  rw [host] at read
                  cases read
              | ok named =>
                  rw [host] at read
                  cases read
                  rfl
      next =>
          cases read
          rfl
  next =>
      cases read
      rfl

theorem exists_of_map_eq_ok {α β : Type} {f : α → β} {result : Except UrlFlaw α} {value : β}
    (mapped : result.map f = .ok value) : ∃ item, result = .ok item ∧ f item = value := by
  cases result with
  | error flaw => cases mapped
  | ok item => exact ⟨item, rfl, Except.ok.inj mapped⟩

/-- A URL of the web is a scheme with an authority. -/
theorem exists_of_parse (parsed : Url.parse raw = .ok url)
    (web : url.scheme = "http" ∨ url.scheme = "https") :
    ∃ rest authority, readScheme (Url.cleaned raw) = some (url.scheme, rest) ∧
      IsAuthority (placeOf (behindSlashes rest)) authority ∧ url = authority.toUrl url.scheme := by
  unfold Url.parse at parsed
  split at parsed
  next => cases parsed
  next scheme rest found =>
      split at parsed
      next family =>
          rcases exists_of_map_eq_ok parsed with ⟨authority, read, rfl⟩
          exact ⟨rest, authority, found, readAuthority_eq_ok_iff.mp read, rfl⟩
      next family =>
          rw [scheme_of_readFile parsed] at web
          exact absurd web (by decide)
      next family =>
          have same : url.scheme = scheme := by
            split at parsed
            next =>
                cases parsed
                rfl
            next =>
                rcases exists_of_map_eq_ok parsed with ⟨authority, -, rfl⟩
                rfl
          rw [← same] at family
          rcases web with http | https
          · rw [http] at family
            exact absurd family (by decide)
          · rw [https] at family
            exact absurd family (by decide)

/-- A URL of a network scheme is read just where its authority is. -/
theorem parse_of_isAuthority {scheme : String} (family : SchemeFamily.of scheme = .network)
    (read : readScheme (Url.cleaned raw) = some (scheme, rest))
    (isAuthority : IsAuthority (placeOf (behindSlashes rest)) authority) :
    Url.parse raw = .ok (authority.toUrl scheme) := by
  have readRest : readNetworkAuthority rest = .ok authority :=
    readAuthority_eq_ok_iff.mpr isAuthority
  unfold Url.parse
  rw [read]
  dsimp only
  rw [family, readRest]
  rfl

theorem exists_of_readScheme {scheme : String} (read : readScheme text = some (scheme, rest)) :
    ∃ front, text = front ++ ':' :: rest ∧ ':' ∉ front := by
  unfold readScheme at read
  dsimp only at read
  split at read
  next first behind rest' spelled =>
      split at read
      next =>
          cases read
          refine ⟨_, (spelled ▸ List.takeWhile_append_dropWhile).symm, fun member => ?_⟩
          exact absurd (List.mem_takeWhile_imp member) (by decide)
      next => cases read
  next => cases read

theorem behindSlashes_append (nonempty : front ≠ []) (stays : ∀ c ∈ front, staysIn c = true) :
    behindSlashes ('/' :: '/' :: (front ++ tail)) = front ++ tail := by
  cases front with
  | nil => exact absurd rfl nonempty
  | cons c front =>
      rw [behindSlashes, List.dropWhile_cons_of_pos rfl, List.dropWhile_cons_of_pos rfl]
      refine List.dropWhile_cons_of_neg fun slash => ?_
      rw [Bool.or_eq_true, beq_iff_eq, beq_iff_eq] at slash
      have inside := stays c List.mem_cons_self
      rcases slash with rfl | rfl <;> cases inside

theorem takeWhile_staysIn_append (stays : ∀ c ∈ front, staysIn c = true)
    (ends : ∀ c ∈ tail.head?, c = '/' ∨ c = '?' ∨ c = '#') :
    (front ++ tail).takeWhile staysIn = front := by
  refine takeWhile_eq_iff.mpr ⟨tail, rfl, stays, fun c first => ?_⟩
  rw [staysIn_eq_false_iff]
  exact (ends c first).imp_right (Or.imp_right .inl)

theorem placeOf_append (stays : ∀ c ∈ front, staysIn c = true) (noUser : '@' ∉ front)
    (ends : ∀ c ∈ tail.head?, c = '/' ∨ c = '?' ∨ c = '#') : placeOf (front ++ tail) = front := by
  rw [placeOf, takeWhile_staysIn_append stays ends, behindUser,
    splitLast?_eq_none_iff.mpr noUser]

/-- Both ways to an authority meet in a plain URL. -/
theorem scannedPlace_of_plain {scheme : String} (plain : PlainUrl raw)
    (read : readScheme (Url.cleaned raw) = some (scheme, rest)) :
    scannedPlace raw = placeOf (behindSlashes rest) := by
  have shape := plain.plain
  rw [plain.clean] at read
  unfold scannedPlace
  generalize raw.toList = text at shape read
  cases shape with
  | @intro front authority tail noColon nonempty stays ends =>
      -- The scheme ends at the first colon, so it is the same for both looks.
      rcases exists_of_readScheme read with ⟨first, spelled, noOther⟩
      have cut := splitOnce?_append noColon ('/' :: '/' :: (authority ++ tail))
      rw [spelled, splitOnce?_append noOther] at cut
      cases cut
      have scanned : (authority ++ tail).takeWhile (fun c => !(c == '/' || c == '?' || c == '#')) =
          authority := by
        refine takeWhile_eq_iff.mpr ⟨tail, rfl, fun c member => ?_, fun c first => ?_⟩
        · by_contra stops
          have inside := stays c member
          simp only [Bool.not_eq_true, Bool.not_eq_false', Bool.or_eq_true, beq_iff_eq] at stops
          rcases stops with (rfl | rfl) | rfl <;> cases inside
        · rcases ends c first with rfl | rfl | rfl <;> rfl
      rw [afterMark_append noColon, behindSlashes_append nonempty stays, placeOf,
        takeWhile_staysIn_append stays ends]
      exact congrArg behindUser scanned

/-! ## The port -/

theorem namesPort_of_plain {scheme : String} (plain : PlainUrl raw)
    (read : readScheme (Url.cleaned raw) = some (scheme, rest))
    (isAuthority : IsAuthority (placeOf (behindSlashes rest)) authority) :
    namesPort raw = authority.port.isSome := by
  rw [namesPort, scannedPlace_of_plain plain read, spellsPort_of_isAuthority isAuthority]

/-- Where the default of a scheme is hidden, the quick look decides. -/
theorem targetPort_toUrl_iff {scheme : String} {standard : Nat}
    (isDefault : defaultPort? scheme = some standard) (positive : standard ≠ 0)
    (other : standard ≠ controlPort) :
    targetPort raw (authority.toUrl scheme) = authority.wantedPort raw ↔
      ((authority.toUrl scheme).port = none → namesPort raw = authority.port.isSome) := by
  rcases authority with ⟨host, port⟩
  rw [targetPort, Authority.toUrl, Authority.wantedPort, isDefault]
  dsimp only
  -- A port that is the default is hidden, and so is none; any other is shown.
  by_cases hidden : port = some standard
  · rw [if_pos hidden, hidden]
    cases standard with
    | zero => exact absurd rfl positive
    | succ before =>
        cases namesPort raw with
        | true => exact iff_of_true rfl fun _ => rfl
        | false =>
            refine iff_of_false (fun same => ?_) fun all => nomatch all rfl
            exact other (Except.ok.inj same).symm
  · rw [if_neg hidden]
    cases port with
    | none =>
        cases namesPort raw with
        | true =>
            refine iff_of_false (fun same => ?_) fun all => nomatch all rfl
            exact other (Except.ok.inj same)
        | false => exact iff_of_true rfl fun _ => rfl
    | some port =>
        refine iff_of_true ?_ nofun
        cases port with
        | zero => rfl
        | succ before => rfl

end

/-- How the port of a request follows the authority of its URL. -/
structure FollowsAuthority (raw : String) (url : Url) (authority : Authority) : Prop where
  /-- The authority stands in the text behind the scheme, and the URL is made of the two. -/
  isRead : ∃ rest, readScheme (Url.cleaned raw) = some (url.scheme, rest) ∧
    IsAuthority (placeOf (behindSlashes rest)) authority ∧ url = authority.toUrl url.scheme
  /-- The request goes to the port that the authority names exactly when the URL shows that port or
  the quick look sees one just where it is read. -/
  wanted_iff : targetPort raw url = authority.wantedPort raw ↔
    (url.port = none → namesPort raw = authority.port.isSome)
  /-- It does so in every URL that is spelled plainly. -/
  wanted_of_plain : PlainUrl raw → targetPort raw url = authority.wantedPort raw

/-- A request goes where the authority of its URL says, as long as the quick look finds it. -/
theorem follows_authority {raw : String} {url : Url} (parsed : Url.parse raw = .ok url)
    (web : url.scheme = "http" ∨ url.scheme = "https") :
    ∃ authority, FollowsAuthority raw url authority := by
  rcases exists_of_parse parsed web with ⟨rest, authority, scheme, isAuthority, same⟩
  have wanted : targetPort raw url = authority.wantedPort raw ↔
      (url.port = none → namesPort raw = authority.port.isSome) := by
    rw [same]
    rcases web with http | https
    · rw [http]
      exact targetPort_toUrl_iff rfl (by decide) (by decide)
    · rw [https]
      exact targetPort_toUrl_iff rfl (by decide) (by decide)
  exact ⟨authority, ⟨rest, scheme, isAuthority, same⟩, wanted, fun plain =>
    wanted.mpr fun _ => namesPort_of_plain plain scheme isAuthority⟩

/-- The default port may be named. -/
theorem follows_authority_default :
    ∃ url, Url.parse "https://pan:443/x" = .ok url ∧ url.scheme = "https" ∧
      ∃ authority, FollowsAuthority "https://pan:443/x" url authority := by
  have parsed : Url.parse "https://pan:443/x" = .ok ⟨"https", some (.name "pan"), none⟩ := by
    decide +kernel
  exact ⟨_, parsed, rfl, follows_authority parsed (.inr rfl)⟩

/-- Behind a third slash the default port is named, and a request goes to the control plane. -/
theorem port_missed_behind_slash :
    Url.parse "https:///pan:443/x" = .ok ⟨"https", some (.name "pan"), none⟩ ∧
      readNetworkAuthority "///pan:443/x".toList = .ok ⟨some (.name "pan"), some 443⟩ ∧
      targetPort "https:///pan:443/x" ⟨"https", some (.name "pan"), none⟩ = .ok controlPort := by
  refine ⟨?_, ?_, ?_⟩
  · decide +kernel
  · decide +kernel
  · decide +kernel

end Net
end ExchangeGrid
