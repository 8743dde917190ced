import ExchangeGrid.Json.Document
import ExchangeGrid.Net.Address

namespace ExchangeGrid
namespace Toml

/-!
# Texts, numbers and dates of a settings file

The readers of everything in a settings file that does not hold other values: strings of four
kinds, keys, numbers and dates.  A string reader answers what the string says and the text behind
its closing mark.
-/

/-- Whether a character may stand in a string or a comment as it is. -/
def isPlain (c : Char) : Bool :=
  c == '\t' || (32 ≤ c.toNat && c.toNat ≠ 127)

def isGap (c : Char) : Bool :=
  c == ' ' || c == '\t'

def skipGaps (text : List Char) : List Char :=
  text.dropWhile isGap

/-- What follows the end of a line, when a text starts with one. -/
def lineEnd? : List Char → Option (List Char)
  | '\n' :: rest => some rest
  | '\r' :: '\n' :: rest => some rest
  | _ => none

def skipComment (text : List Char) : List Char :=
  match text with
  | '#' :: rest => rest.dropWhile isPlain
  | _ => text

/-! ## Strings -/

def charOfHex? (digits : List Char) : Option Char :=
  if digits.all fun c => (Net.hexDigit? c).isSome then
    let value := digits.foldl (fun value c => value * 16 + (Net.hexDigit? c).getD 0) 0
    if value < 0xD800 ∨ (0xDFFF < value ∧ value ≤ 0x10FFFF) then some (Char.ofNat value) else none
  else none

def readEscape : List Char → Option (Char × List Char)
  | 'b' :: rest => some (Char.ofNat 8, rest)
  | 't' :: rest => some ('\t', rest)
  | 'n' :: rest => some ('\n', rest)
  | 'f' :: rest => some (Char.ofNat 12, rest)
  | 'r' :: rest => some ('\r', rest)
  | '"' :: rest => some ('"', rest)
  | '\\' :: rest => some ('\\', rest)
  | 'u' :: rest =>
    if rest.length < 4 then none else (charOfHex? (rest.take 4)).map (·, rest.drop 4)
  | 'U' :: rest =>
    if rest.length < 8 then none else (charOfHex? (rest.take 8)).map (·, rest.drop 8)
  | _ => none

def consRead (c : Char) : Option (List Char × List Char) → Option (List Char × List Char)
  | none => none
  | some (text, rest) => some (c :: text, rest)

def readBasic : Nat → List Char → Option (List Char × List Char)
  | 0, _ => none
  | _ + 1, [] => none
  | fuel + 1, c :: rest =>
    if c = '"' then some ([], rest)
    else if c = '\\' then
      match readEscape rest with
      | none => none
      | some (c, rest) => consRead c (readBasic fuel rest)
    else if isPlain c then consRead c (readBasic fuel rest)
    else none

/-- Read a string of one line, without escapes, behind its opening mark. -/
def readLiteral (text : List Char) : Option (List Char × List Char) :=
  let inner := text.takeWhile fun c => isPlain c && c != '\''
  match text.drop inner.length with
  | '\'' :: rest => some (inner, rest)
  | _ => none

/-- Skip the blanks and line ends behind a backslash that ends its line. -/
def skipFolded (text : List Char) : Option (List Char) :=
  match lineEnd? (skipGaps text) with
  | none => none
  | some rest => some (skipAll rest)
where
  skipAll : List Char → List Char
    | '\n' :: rest => skipAll rest
    | '\r' :: '\n' :: rest => skipAll rest
    | ' ' :: rest => skipAll rest
    | '\t' :: rest => skipAll rest
    | rest => rest

/-- The closing marks at the front of a text: how many of up to five stand there. -/
def closingMarks (mark : Char) (text : List Char) : Nat :=
  ((text.take 5).takeWhile (· == mark)).length

/-- Read a string of many lines behind its opening marks.  Up to two marks in front of the
closing ones belong to the string. -/
def readMany (mark : Char) : Nat → List Char → Option (List Char × List Char)
  | 0, _ => none
  | _ + 1, [] => none
  | fuel + 1, c :: rest =>
    let marks := closingMarks mark (c :: rest)
    if marks ≥ 3 then some (List.replicate (marks - 3) mark, (c :: rest).drop marks)
    else if c = '\\' ∧ mark = '"' then
      match skipFolded rest with
      | some rest => readMany mark fuel rest
      | none =>
        match readEscape rest with
        | none => none
        | some (c, rest) => consRead c (readMany mark fuel rest)
    else
      match lineEnd? (c :: rest) with
      | some rest => consRead '\n' (readMany mark fuel rest)
      | none => if isPlain c then consRead c (readMany mark fuel rest) else none

def readString (text : List Char) : Option (List Char × List Char) :=
  match text with
  | '"' :: '"' :: '"' :: rest =>
    readMany '"' (rest.length + 1) ((lineEnd? rest).getD rest)
  | '\'' :: '\'' :: '\'' :: rest =>
    readMany '\'' (rest.length + 1) ((lineEnd? rest).getD rest)
  | '"' :: rest => readBasic (rest.length + 1) rest
  | '\'' :: rest => readLiteral rest
  | _ => none

/-! ## Keys -/

def isKeyChar (c : Char) : Bool :=
  c.isAlphanum || c == '-' || c == '_'

def readKeyPart (text : List Char) : Option (String × List Char) :=
  match text with
  | '"' :: rest =>
    (readBasic (rest.length + 1) rest).map fun (key, rest) => (String.ofList key, rest)
  | '\'' :: rest => (readLiteral rest).map fun (key, rest) => (String.ofList key, rest)
  | _ =>
    let key := text.takeWhile isKeyChar
    if key.isEmpty then none else some (String.ofList key, text.drop key.length)

/-- Read a key: parts with dots between them, and blanks around the dots. -/
def readKey : Nat → List Char → Option (List String × List Char)
  | 0, _ => none
  | fuel + 1, text =>
    match readKeyPart (skipGaps text) with
    | none => none
    | some (part, rest) =>
      match skipGaps rest with
      | '.' :: rest =>
        match readKey fuel rest with
        | none => none
        | some (parts, rest) => some (part :: parts, rest)
      | rest => some ([part], rest)

/-! ## Numbers and dates -/

/-- Whether digits of a base stand with single underscores between them. -/
def areDigits (base : Nat) (text : List Char) : Bool :=
  (splitOn '_' text).all fun group =>
    !group.isEmpty && group.all fun c =>
      match Net.hexDigit? c with
      | some digit => digit < base
      | none => false

/-- The value of digits of a base, underscores apart. -/
def digitsValue (base : Nat) (text : List Char) : Nat :=
  (text.filter (· != '_')).foldl (fun value c => value * base + (Net.hexDigit? c).getD 0) 0

/-- Whether a text is a decimal number without a sign and without a zero in front. -/
def isDecimal (text : List Char) : Bool :=
  areDigits 10 text && (text.head? != some '0' || text.length == 1)

def cutSign : List Char → Bool × List Char
  | '-' :: rest => (true, rest)
  | '+' :: rest => (false, rest)
  | rest => (false, rest)

/-- A whole number of a signed machine word. -/
def readWhole? (text : List Char) : Option Int :=
  let bound : Int := Nat.pow 2 63
  let bounded := fun value : Int => if -bound ≤ value ∧ value < bound then some value else none
  let based := fun (base : Nat) (digits : List Char) =>
    if areDigits base digits then bounded (digitsValue base digits) else none
  match text with
  | '0' :: 'x' :: digits => based 16 digits
  | '0' :: 'o' :: digits => based 8 digits
  | '0' :: 'b' :: digits => based 2 digits
  | _ =>
    let (negative, digits) := cutSign text
    if isDecimal digits then
      bounded (if negative then -(digitsValue 10 digits : Int) else digitsValue 10 digits)
    else none

/-- Whether a text is a number with a fraction or an exponent, or names one that is not finite. -/
def isFraction (text : List Char) : Bool :=
  let (_, digits) := cutSign text
  let mantissa := digits.takeWhile fun c => c != 'e' && c != 'E'
  let exponent := digits.drop mantissa.length
  let whole := mantissa.takeWhile (· != '.')
  let behind := mantissa.drop whole.length
  let isSpecial := digits == "inf".toList || digits == "nan".toList
  let hasExponent := exponent.isEmpty || areDigits 10 (cutSign (exponent.drop 1)).2
  let hasFraction := behind.isEmpty || areDigits 10 (behind.drop 1)
  isSpecial ||
    (isDecimal whole && hasFraction && hasExponent && !(behind.isEmpty && exponent.isEmpty))

/-- Whether a positive number with a fraction is rounded to no binary number because it is too
large: it reaches the middle between the largest one and the next power of two. -/
def isTooLarge (text : List Char) : Bool :=
  let (negative, digits) := cutSign text
  let mantissa := digits.takeWhile fun c => c != 'e' && c != 'E'
  let (down, power) := cutSign (digits.drop (mantissa.length + 1))
  let behind := (mantissa.dropWhile (· != '.')).filter Char.isDigit
  let value := digitsValue 10 (mantissa.filter (· != '.'))
  let power : Int := digitsValue 10 power
  let shift := (if down then -power else power) - behind.length
  let places := (Decimal.digits value).length + shift
  let middle := Nat.pow 2 1024 - Nat.pow 2 970
  !negative && value != 0 &&
    (310 < places ||
      (300 < places && middle * Nat.pow 10 (-shift).toNat ≤ value * Nat.pow 10 shift.toNat))

/-- The value of exactly so many digits. -/
def fixedDigits? (count : Nat) (text : List Char) : Option Nat :=
  if text.length = count then Decimal.natural? (Nat.pow 10 count) (text.filter (· != '+')) |>.bind
    fun value => if text.all Char.isDigit then some value else none
  else none

def daysOf (year month : Nat) : Nat :=
  if month = 2 then
    if year % 4 = 0 ∧ (year % 100 ≠ 0 ∨ year % 400 = 0) then 29 else 28
  else if [4, 6, 9, 11].contains month then 30
  else 31

def isDay (text : List Char) : Bool :=
  match splitOn '-' text with
  | [year, month, day] =>
    match fixedDigits? 4 year, fixedDigits? 2 month, fixedDigits? 2 day with
    | some year, some month, some day =>
      1 ≤ month && month ≤ 12 && 1 ≤ day && day ≤ daysOf year month
    | _, _, _ => false
  | _ => false

/-- Whether a text is hours and minutes within their bounds. -/
def isClock (text : List Char) : Bool :=
  match splitOn ':' text with
  | [hour, minute] =>
    match fixedDigits? 2 hour, fixedDigits? 2 minute with
    | some hour, some minute => hour < 24 && minute < 60
    | _, _ => false
  | _ => false

def isTime (text : List Char) : Bool :=
  let seconds := text.drop 6
  isClock (text.take 5) && text[5]? == some ':' &&
    (match fixedDigits? 2 (seconds.take 2) with
      | some second => second ≤ 60
      | none => false) &&
    (match seconds.drop 2 with
      | [] => true
      | '.' :: digits => !digits.isEmpty && digits.all Char.isDigit
      | _ => false)

/-- Whether a text is a time of day, perhaps with its distance to universal time. -/
def isZonedTime (text : List Char) : Bool :=
  isTime text ||
    (match text.getLast? with
      | some 'Z' | some 'z' => isTime text.dropLast
      | _ =>
        let offset := text.drop (text.length - 6)
        (offset.head? == some '+' || offset.head? == some '-') && isClock (offset.drop 1) &&
          isTime (text.take (text.length - 6)))

/-- Whether a text is a day, a time of day, or both. -/
def isDate (text : List Char) : Bool :=
  isDay text || isTime text ||
    (isDay (text.take 10) && [some 'T', some 't', some ' '].contains text[10]? &&
      isZonedTime (text.drop 11))

/-- Whether a character may stand in a number, a date or a truth value. -/
def isWordChar (c : Char) : Bool :=
  c.isAlphanum || c == '_' || c == '+' || c == '-' || c == '.' || c == ':'

/-- The word at the front of a text; a day and a time may have a blank between them. -/
def takeWord (text : List Char) : List Char :=
  let word := text.takeWhile isWordChar
  match text.drop word.length with
  | ' ' :: rest =>
    let time := rest.takeWhile isWordChar
    if isDay word ∧ (time.head?.map Char.isDigit).getD false then word ++ ' ' :: time else word
  | _ => word

/-- The value of a word.  A number with a fraction has no value here: no setting is one.  A date
is an object with a name that no setting has. -/
def wordValue? (word : List Char) : Option Json.Document :=
  if word = "true".toList then some (.bool true)
  else if word = "false".toList then some (.bool false)
  else
    match readWhole? word with
    | some value => some (.number (some (.whole value)))
    | none =>
      if isFraction word then (if isTooLarge word then none else some (.number none))
      else if isDate word then some (.object [(some " date", .null)])
      else none

end Toml
end ExchangeGrid
