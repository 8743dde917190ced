import ExchangeGrid.Net.Domain.Compose
import ExchangeGrid.Net.Domain.Direction
import ExchangeGrid.Net.Domain.Fold
import ExchangeGrid.Net.Domain.Joiner
import ExchangeGrid.Net.Domain.Letter
import ExchangeGrid.Net.Punycode

namespace ExchangeGrid
namespace Net

/-!
# Domain names

The form of a domain name that is sent over a network: folded and composed, with labels that are
not ASCII in punycode behind `xn--`.  A label that already is in punycode has to stand for one
that would be written so.
-/

namespace Domain

def punycodeMark : List Char := "xn--".toList

def punycodeLimit : Nat := 2000

/-- How long a label may be that is not ASCII. -/
def labelLimit : Nat := 1000

/-- Whether a character stands for itself in a name. -/
def isLetter (c : Char) : Bool :=
  !isForbidden c && !isExcluded c && !isIgnored c && fold c == [c]

/-- The label that a text in punycode stands for, when it is written in no other way. -/
def decode? (text : List Char) : Option (List Char) :=
  if punycodeLimit < text.length ∨ text = [] then none
  else
    match Punycode.read? text with
    | none => none
    | some label =>
      let isOnly := Punycode.write label == text && label.any (128 ≤ ·.toNat)
      if isOnly && label.all isLetter && composed label == label then some label else none

def meaning? (label : List Char) : Option (List Char) :=
  match after? punycodeMark label with
  | some text => decode? text
  | none => some label

/-- Whether the characters of a label may stand in this order: no mark comes first, every joiner
makes a difference, and the label is not too long. -/
def isWellFormed (label : List Char) : Bool :=
  !(label.head?.map Mark.isMark).getD false && joinersFit [] label
    && (label.all (·.toNat < 128) || label.length ≤ labelLimit)

/-- The form of one label that is sent. -/
def encode (label : List Char) : List Char :=
  if label.all (·.toNat < 128) then label else punycodeMark ++ Punycode.write label

def spell? (c : Char) : Option (List Char) :=
  let folded := fold c
  if isIgnored c then some []
  else if folded == [c] && isExcluded c then none
  else some folded

/-- The labels of a name, folded and composed. -/
def labels? (name : List Char) : Option (List (List Char)) :=
  match name.mapM spell? with
  | none => none
  | some spelled =>
    let composed := composed spelled.flatten
    if composed.any isForbidden then none else (splitOn '.' composed).mapM meaning?

/-- Whether a label is in small letters, digits and hyphens, and not in punycode. -/
def isPlain (label : List Char) : Bool :=
  label.all (fun c => c.isLower || c.isDigit || c == '-') && !punycodeMark.isPrefixOf label

/-- The form of a name that is sent.  A name of plain labels is sent as it is. -/
def toAscii? (name : List Char) : Option (List Char) :=
  if (splitOn '.' name).all isPlain then some name
  else
    match labels? name with
    | none => none
    | some labels =>
      if labels.all isWellFormed && directionsFit labels then
        some ((labels.map encode).intersperse ['.']).flatten
      else none

end Domain
end Net
end ExchangeGrid
