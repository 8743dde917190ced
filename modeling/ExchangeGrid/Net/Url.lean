import ExchangeGrid.Error
import ExchangeGrid.Net.Address
import ExchangeGrid.Net.Domain
import ExchangeGrid.Text.Quoted
import ExchangeGrid.Text.Utf8

namespace ExchangeGrid
namespace Net

/-!
# Locators

Reads a URL as the living standard of the web has it, as far as its scheme, its host and its port,
and says which port a request goes to: its own, when it names one, even if that is the default of
its scheme; else the port of the control plane.
-/

/-- The port of a control node that names none. -/
def controlPort : Nat := 8910

/-- Why a text is not a URL. -/
inductive UrlFlaw
  | relative
  | emptyHost
  | badPort
  | badV4
  | badV6
  | badDomain
  | badCharacter
  deriving DecidableEq, Repr

def UrlFlaw.message : UrlFlaw → String
  | relative => "relative URL without a base"
  | emptyHost => "empty host"
  | badPort => "invalid port number"
  | badV4 => "invalid IPv4 address"
  | badV6 => "invalid IPv6 address"
  | badDomain => "invalid international domain name"
  | badCharacter => "invalid domain character"

/-- A host: a name, or an address. -/
inductive UrlHost
  | name (text : String)
  | address (value : Address)
  deriving DecidableEq, Repr

/-- The text of a host, with an address of groups in brackets, where no group shows octets. -/
def UrlHost.text : UrlHost → String
  | name text => text
  | address (.v4 octets) => (Address.v4 octets).text
  | address (.v6 groups) => String.ofList ('[' :: shortGroupsText groups ++ [']'])

def UrlHost.lookupText : UrlHost → String
  | name text => text
  | address value => value.text

/-- What a URL says about where to connect.  A port that is the default of its scheme is left
out. -/
structure Url where
  scheme : String
  host : Option UrlHost
  port : Option Nat
  deriving DecidableEq, Repr

/-- How a scheme treats what follows it. -/
inductive SchemeFamily
  | network
  | file
  | opaqueHost
  deriving DecidableEq, Repr

def SchemeFamily.of (scheme : String) : SchemeFamily :=
  if ["http", "https", "ws", "wss", "ftp"].contains scheme then .network
  else if scheme == "file" then .file
  else .opaqueHost

def defaultPort? (scheme : String) : Option Nat :=
  if scheme == "http" || scheme == "ws" then some 80
  else if scheme == "https" || scheme == "wss" then some 443
  else if scheme == "ftp" then some 21
  else none

def readScheme (text : List Char) : Option (String × List Char) :=
  let isBody := fun c : Char => c.isAlphanum || c == '+' || c == '-' || c == '.'
  match text, text.dropWhile isBody with
  | first :: _, ':' :: rest =>
    if first.isAlpha then
      some (String.ofList ((text.takeWhile isBody).map Char.toLower), rest)
    else none
  | _, _ => none

def endsAuthority (family : SchemeFamily) (c : Char) : Bool :=
  c == '/' || c == '?' || c == '#' || (c == '\\' && family != .opaqueHost)

/-- Skip the user information of an authority; tell whether it named a user or a password. -/
def skipUser (family : SchemeFamily) (text : List Char) : Except UrlFlaw (Bool × List Char) :=
  let authority := text.takeWhile (!endsAuthority family ·)
  match splitLast? '@' authority with
  | none => .ok (false, text)
  | some (user, _) =>
    let rest := text.drop (user.length + 1)
    match user, rest with
    | [], c :: _ => if endsAuthority family c then .error .emptyHost else .ok (false, rest)
    | _, _ => .ok (user ≠ [] ∧ user ≠ [':'], rest)

/-- The text of a host, up to its port or its path; a colon in brackets belongs to it. -/
def takeHost (family : SchemeFamily) : Bool → List Char → List Char
  | _, [] => []
  | bracketed, c :: rest =>
    if (c == ':' && !bracketed) || endsAuthority family c then []
    else
      let bracketed := if c == '[' then true else if c == ']' then false else bracketed
      c :: takeHost family bracketed rest

def percentDecode : List UInt8 → List UInt8
  | 37 :: high :: low :: rest =>
    match hexDigit? (Char.ofNat high.toNat), hexDigit? (Char.ofNat low.toNat) with
    | some high, some low => UInt8.ofNat (high * 16 + low) :: percentDecode rest
    | _, _ => 37 :: percentDecode (high :: low :: rest)
  | byte :: rest => byte :: percentDecode rest
  | [] => []

/-- A part of a numeric host: not a number, a number too large, or a number. -/
def readHostNumber? (part : List Char) : Option (Option Nat) :=
  let (base, digits) :=
    match part with
    | '0' :: 'x' :: rest => (16, rest)
    | '0' :: 'X' :: rest => (16, rest)
    | '0' :: c :: rest => (8, c :: rest)
    | _ => (10, part)
  if part.isEmpty then none
  else if digits.all fun c => match hexDigit? c with | some d => d < base | none => false then
    let value := digits.foldl (fun value c => value * base + (hexDigit? c).getD 0) 0
    some (if value < Nat.pow 2 32 then some value else none)
  else none

/-- The labels of a name, without the empty one behind a last dot. -/
def hostLabels (name : List Char) : List (List Char) :=
  let labels := splitOn '.' name
  if labels.length > 1 ∧ labels.getLast? = some [] then labels.dropLast else labels

/-- Whether a name is meant as a numeric address. -/
def endsInNumber (name : List Char) : Bool :=
  match (hostLabels name).getLast? with
  | none => false
  | some last =>
    (!last.isEmpty && last.all Char.isDigit) || (readHostNumber? last).isSome

/-- Read a numeric host of up to four parts, of which the last fills what the others leave. -/
def readNumericHost? (name : List Char) : Option Address := do
  let numbers ← (hostLabels name).mapM fun part => (readHostNumber? part).bind id
  if numbers.length > 4 then none
  else
    let last ← numbers.getLast?
    let front := numbers.dropLast
    if last ≥ Nat.pow 256 (4 - front.length) ∨ front.any (· > 255) then none
    else
      let value := front.zipIdx.foldl (fun sum (n, i) => sum + n * Nat.pow 256 (3 - i)) last
      some (.v4 [value / 256 / 256 / 256, value / 256 / 256 % 256, value / 256 % 256, value % 256])

def readBracketedHost (text : List Char) : Except UrlFlaw UrlHost :=
  if text.getLast? ≠ some ']' then .error .badV6
  else
    match readV6 (text.drop 1).dropLast with
    | some (groups, []) => .ok (.address (.v6 groups))
    | _ => .error .badV6

def readHost (text : List Char) : Except UrlFlaw UrlHost :=
  if text.head? = some '[' then readBracketedHost text
  else
    let decoded := Utf8.text? (percentDecode (Utf8.bytes (String.ofList text)))
    match decoded.bind fun name => Domain.toAscii? name.toList with
    | none => .error .badDomain
    | some [] => .error .emptyHost
    | some name =>
      if endsInNumber name then
        match readNumericHost? name with
        | none => .error .badV4
        | some address => .ok (.address address)
      else .ok (.name (String.ofList name))

/-- A byte as it stands in a host that is not looked up. -/
def escapeByte (byte : UInt8) : List Char :=
  if byte < 32 ∨ 126 < byte then
    ['%', (hexUpper (byte.toNat / 16)), (hexUpper (byte.toNat % 16))]
  else [Char.ofNat byte.toNat]
where
  hexUpper (value : Nat) : Char := (Nat.digitChar value).toUpper

/-- Read the host of a URL whose scheme says nothing about hosts. -/
def readOpaqueHost (text : List Char) : Except UrlFlaw UrlHost :=
  if text.head? = some '[' then readBracketedHost text
  else if text.any fun c => c == '\x00' || " #/:<>?@[\\]^|".toList.contains c then
    .error .badCharacter
  else
    .ok (.name (String.ofList ((Utf8.bytes (String.ofList text)).flatMap escapeByte)))

/-- Read a port behind its colon; no digits are no port. -/
def readUrlPort (text : List Char) : Except UrlFlaw (Option Nat) :=
  let digits := text.takeWhile Char.isDigit
  match Decimal.natural? Decimal.portBound digits, text.drop digits.length with
  | port, rest =>
    if !digits.isEmpty ∧ port.isNone then .error .badPort
    else
      match rest with
      | [] => .ok port
      | c :: _ => if endsAuthority .network c then .ok port else .error .badPort

/-- What an authority says, with its port as it is spelled out. -/
structure Authority where
  host : Option UrlHost
  port : Option Nat
  deriving DecidableEq, Repr

def readAuthority (family : SchemeFamily) (text : List Char) : Except UrlFlaw Authority := do
  let (hasUser, text) ← skipUser family text
  let hostText := takeHost family false text
  let rest := text.drop hostText.length
  let host ←
    if hostText.isEmpty then
      if family == .network || rest.head? == some ':' || hasUser then .error .emptyHost
      else pure none
    else if family == .network then some <$> readHost hostText
    else some <$> readOpaqueHost hostText
  match rest with
  | ':' :: rest =>
    let port ← readUrlPort rest
    .ok ⟨host, port⟩
  | _ => .ok ⟨host, none⟩

def Authority.toUrl (scheme : String) (authority : Authority) : Url :=
  ⟨scheme, authority.host,
    if authority.port = defaultPort? scheme then none else authority.port⟩

def isDrive : List Char → Bool
  | [letter, mark] => letter.isAlpha && (mark == ':' || mark == '|')
  | _ => false

/-- Read what follows the scheme of a file: only two slashes can name a host, and neither a drive
nor the local machine is one. -/
def readFile (text : List Char) : Except UrlFlaw Url :=
  match text with
  | a :: b :: rest =>
    if (a == '/' || a == '\\') && (b == '/' || b == '\\') then
      let hostText := rest.takeWhile (!endsAuthority .file ·)
      let path := rest.drop (hostText.length + 1)
      if hostText.isEmpty || isDrive hostText then .ok ⟨"file", none, none⟩
      else do
        let host ← readHost hostText
        let first := path.takeWhile (!endsAuthority .file ·)
        let isLocal := host == .name "localhost" || isDrive first
        .ok ⟨"file", if isLocal then none else some host, none⟩
    else .ok ⟨"file", none, none⟩
  | _ => .ok ⟨"file", none, none⟩

/-- A text without what does not count in a URL: blanks and controls around it, and tabs and line
ends anywhere. -/
def Url.cleaned (raw : String) : List Char :=
  let isEdge := fun c : Char => c.toNat ≤ 32
  let trimmed := ((raw.toList.dropWhile isEdge).reverse.dropWhile isEdge).reverse
  trimmed.filter fun c => c != '\t' && c != '\n' && c != '\r'

def behindSlashes (text : List Char) : List Char :=
  text.dropWhile fun c => c == '/' || c == '\\'

/-- Read the authority of a network URL behind its scheme.  Any slashes may stand before it. -/
def readNetworkAuthority (rest : List Char) : Except UrlFlaw Authority :=
  readAuthority .network (behindSlashes rest)

def Url.parse (raw : String) : Except UrlFlaw Url :=
  match readScheme (cleaned raw) with
  | none => .error .relative
  | some (scheme, rest) =>
    match SchemeFamily.of scheme with
    | .network => (readNetworkAuthority rest).map (Authority.toUrl scheme)
    | .file => readFile rest
    | .opaqueHost =>
      match after? ['/', '/'] rest with
      | none => .ok ⟨scheme, none, none⟩
      | some rest => (readAuthority .opaqueHost rest).map (Authority.toUrl scheme)

def Url.read (raw : String) : Except Error Url :=
  match Url.parse raw with
  | .ok url => .ok url
  | .error flaw => .error (.url (raw ++ ": " ++ flaw.message))

/-- What follows the first mark between a scheme and an authority. -/
def afterMark : List Char → Option (List Char)
  | [] => none
  | ':' :: '/' :: '/' :: rest => some rest
  | _ :: rest => afterMark rest

/-- What of an authority stands behind the last user: the text of a host and its port. -/
def behindUser (authority : List Char) : List Char :=
  match splitLast? '@' authority with
  | some (_, place) => place
  | none => authority

/-- The text of a host and its port, as a quick look at a URL finds it. -/
def scannedPlace (raw : String) : List Char :=
  let rest := (afterMark raw.toList).getD raw.toList
  behindUser (rest.takeWhile fun c => !(c == '/' || c == '?' || c == '#'))

def spellsPort (place : List Char) : Bool :=
  let port := match splitLast? ']' place with
    | some (_, behind) => after? [':'] behind
    | none => (splitLast? ':' place).map Prod.snd
  match port with
  | some (_ :: _) => true
  | _ => false

def namesPort (raw : String) : Bool :=
  spellsPort (scannedPlace raw)

def targetPort (raw : String) (url : Url) : Except Error Nat :=
  match url.port with
  | some 0 => .error (.port (raw ++ ": port 0"))
  | some port => .ok port
  | none =>
    if namesPort raw then
      match defaultPort? url.scheme with
      | some port => .ok port
      | none => .error (.port (raw ++ ": no default port for scheme"))
    else .ok controlPort

/-- The name that a message broker behind a URL is addressed by: the host of the URL, or the URL
itself when it has none. -/
def brokerName (raw : String) : String :=
  match Url.parse raw with
  | .ok ⟨_, some host, _⟩ => host.text
  | _ => raw

end Net
end ExchangeGrid
