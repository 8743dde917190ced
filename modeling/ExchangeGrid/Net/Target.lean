import ExchangeGrid.Text.Split
import ExchangeGrid.Text.Utf8

namespace ExchangeGrid
namespace Net

/-!
# Targets

The first line of a request that opens a connection for messages names its target as it was
written, so a URL that can be read may still be no target: every character has to be one that the
line can hold, and nothing is put right on the way.
-/

namespace Target

/-- The most bytes that a target may have. -/
def limit : Nat := 65534

/-- What was seen of an authority: its colons since the last sign or bracket that ends a part, its
brackets, and whether an escape stands where no user is named. -/
structure Authority where
  colons : Nat := 0
  opened : Bool := false
  closed : Bool := false
  escaped : Bool := false

/-- Whether a character stands for itself in an authority. -/
def isPlain (c : Char) : Bool :=
  c.isAlphanum || "!$&'()*+,-.;=_~".toList.contains c

def Authority.add? (seen : Authority) (c : Char) : Option Authority :=
  if c = ':' then if seen.colons < 8 then some { seen with colons := seen.colons + 1 } else none
  else if c = '[' then
    if seen.escaped || seen.opened then none else some { seen with opened := true }
  else if c = ']' then
    if !seen.opened || seen.closed then none else some { opened := true, closed := true }
  else if c = '@' then some { seen with colons := 0, escaped := false }
  else if c = '%' then some { seen with escaped := true }
  else if isPlain c then some seen
  else none

/-- Whether a text is an authority: users may be escaped, hosts may not. -/
def isAuthority (text : List Char) : Bool :=
  match text.foldlM Authority.add? {} with
  | none => false
  | some seen =>
    seen.opened == seen.closed && seen.colons ≤ 1 && !seen.escaped && text.getLast? != some '@'

def isQueryChar (c : Char) : Bool :=
  33 ≤ c.toNat && c != '"' && c != '<' && c != '>'

def isPathChar (c : Char) : Bool :=
  33 ≤ c.toNat && c != '<' && c != '>' && c != '`'

/-- Whether a text is a path, with or without a query.  What follows a number sign is left out. -/
def isPath (text : List Char) : Bool :=
  let text := text.takeWhile (· != '#')
  let path := text.takeWhile (· != '?')
  path.all isPathChar && (text.drop (path.length + 1)).all isQueryChar

def endsAuthority (c : Char) : Bool :=
  c == '/' || c == '?' || c == '#'

def isPlace (text : List Char) : Bool :=
  let authority := text.takeWhile (!endsAuthority ·)
  !authority.isEmpty && isAuthority authority && isPath (text.drop authority.length)

def behindScheme? (text : List Char) : Option (List Char) :=
  let scheme := text.takeWhile fun c => c.isAlphanum || c == '+' || c == '-' || c == '.'
  after? [':', '/', '/'] (text.drop scheme.length)

end Target

/-- Whether a URL as it was written can be the target of a request.  Without two slashes it is
taken for an authority alone. -/
def isTarget (raw : String) : Bool :=
  raw.utf8ByteSize ≤ Target.limit &&
    match Target.behindScheme? raw.toList with
    | some place => Target.isPlace place
    | none => raw.toList.all (!Target.endsAuthority ·) && Target.isAuthority raw.toList

end Net
end ExchangeGrid
