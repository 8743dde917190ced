import ExchangeGrid.Net.Trust
import ExchangeGrid.Text.Split

namespace ExchangeGrid
namespace Net
namespace Armor

/-!
# Armored files

Finds the blocks of a file of certificates and keys.  A block stands between a line that begins
it and a line of the same label that ends it, and its content is written in base 64.  Text around
the blocks is passed over.

Only the form of a content is looked at.  Keys are therefore not told apart, and all of them have
the number `onlyKey`.
-/

/-- The number of every key. -/
def onlyKey : Nat := 0

/-- The label of a line that begins or ends a block. -/
def label? (what : String) (line : List Char) : Option (List Char) := do
  let rest ← after? ("-----" ++ what ++ " ").toList line
  let rest ← after? "-----".toList rest.reverse
  some rest.reverse

/-- Whether a character writes six bits. -/
def isDigit (c : Char) : Bool :=
  c.isAlphanum || c == '+' || c == '/'

/-- Whether a text is written in base 64: whole groups, of which the last may be filled up. -/
def isContent (text : List Char) : Bool :=
  let filling := text.dropWhile isDigit
  text.length % 4 == 0 && filling.length ≤ 2 && filling.all (· == '=')

/-- Whether a content begins as a sequence of values does. -/
def isSequence : List Char → Bool
  | 'M' :: second :: _ => 'A' ≤ second && second ≤ 'P'
  | _ => false

/-- The block of a label and a content, when the label is one that matters. -/
def block (label content : List Char) : List PemBlock :=
  if !isContent content then [.broken]
  else if label = "CERTIFICATE".toList then
    [.certificate (if isSequence content then some onlyKey else none)]
  else if ["PRIVATE KEY", "RSA PRIVATE KEY", "EC PRIVATE KEY"].any (label = ·.toList) then
    [.privateKey onlyKey]
  else []

/-- The blocks of the lines of a file.  A block that is open has its label and its content so
far; one that never ends is broken. -/
def blocksFrom : Option (List Char × List Char) → List (List Char) → List PemBlock
  | none, [] => []
  | some _, [] => [.broken]
  | none, line :: lines => blocksFrom ((label? "BEGIN" line).map fun label => (label, [])) lines
  | some (label, content), line :: lines =>
    if label? "END" line = some label then block label content ++ blocksFrom none lines
    else blocksFrom (some (label, content ++ line)) lines

def blocks (text : String) : List PemBlock :=
  blocksFrom none ((splitOn '\n' text.toList).map fun line =>
    (line.reverse.dropWhile Char.isWhitespace).reverse)

end Armor
end Net
end ExchangeGrid
