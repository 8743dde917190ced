import ExchangeGrid.Json.Numeral
import ExchangeGrid.Text.Utf8

namespace ExchangeGrid
namespace Json

/-!
# Tokens of a JSON text

A string token holds its text, or nothing when its bytes or its surrogate escapes make no
text: such a string may stand where nobody reads it.  A control character or an unknown escape
is refused everywhere.
-/

/-- A word of a JSON text. -/
inductive Token
  | openArray
  | closeArray
  | openObject
  | closeObject
  | comma
  | colon
  | null
  | bool (value : Bool)
  | number (numeral : Numeral)
  | string (text : Option String)
  deriving Repr

def hexValue? (byte : UInt8) : Option Nat :=
  let n := byte.toNat
  if 48 ≤ n ∧ n ≤ 57 then some (n - 48)
  else if 97 ≤ n ∧ n ≤ 102 then some (n - 87)
  else if 65 ≤ n ∧ n ≤ 70 then some (n - 55)
  else none

def hexWord? : List UInt8 → Option Nat
  | [a, b, c, d] => do
    let a ← hexValue? a
    let b ← hexValue? b
    let c ← hexValue? c
    let d ← hexValue? d
    some (((a * 16 + b) * 16 + c) * 16 + d)
  | _ => none

/-- A string while it is read: the bytes so far in reverse order, a leading surrogate that
waits for its partner, and whether some part of it was no text. -/
structure Spelling where
  bytes : List UInt8
  lead : Option Nat
  broken : Bool

/-- Add plain bytes.  A leading surrogate that was waiting stays alone. -/
def Spelling.add (s : Spelling) (more : List UInt8) : Spelling :=
  { bytes := more.reverse ++ s.bytes, lead := none, broken := s.broken || s.lead.isSome }

/-- Add a code unit from a numeric escape. -/
def Spelling.addUnit (s : Spelling) (unit : Nat) : Spelling :=
  match s.lead with
  | some lead =>
    if 0xDC00 ≤ unit ∧ unit ≤ 0xDFFF then
      let c := Char.ofNat (0x10000 + (lead - 0xD800) * 0x400 + (unit - 0xDC00))
      { s with bytes := (Utf8.bytes c.toString).reverse ++ s.bytes, lead := none }
    else { s with lead := none, broken := true }
  | none =>
    if 0xD800 ≤ unit ∧ unit ≤ 0xDBFF then { s with lead := some unit }
    else if 0xDC00 ≤ unit ∧ unit ≤ 0xDFFF then { s with broken := true }
    else s.add (Utf8.bytes (Char.ofNat unit).toString)

def Spelling.text (s : Spelling) : Option String :=
  if s.broken || s.lead.isSome then none else Utf8.text? s.bytes.reverse

def simpleEscape? (byte : UInt8) : Option UInt8 :=
  match byte.toNat with
  | 34 => some 34
  | 92 => some 92
  | 47 => some 47
  | 98 => some 8
  | 102 => some 12
  | 110 => some 10
  | 114 => some 13
  | 116 => some 9
  | _ => none

/-- Read a string behind its opening quote, up to and with the closing one. -/
def readString (s : Spelling) : List UInt8 → Option (Option String × List UInt8)
  | [] => none
  | 34 :: rest => some (s.text, rest)
  | 92 :: 117 :: a :: b :: c :: d :: rest =>
    match hexWord? [a, b, c, d] with
    | none => none
    | some unit => readString (s.addUnit unit) rest
  | 92 :: byte :: rest =>
    match simpleEscape? byte with
    | none => none
    | some meant => readString (s.add [meant]) rest
  | byte :: rest => if byte.toNat < 0x20 then none else readString (s.add [byte]) rest

def isDigit (byte : UInt8) : Bool :=
  48 ≤ byte.toNat && byte.toNat ≤ 57

def takeDigits (input : List UInt8) : List Char × List UInt8 :=
  ((input.takeWhile isDigit).map fun b => Char.ofNat b.toNat, input.dropWhile isDigit)

def readExponent (input : List UInt8) : Option (Option (Bool × List Char) × List UInt8) :=
  let behindSign (down : Bool) (input : List UInt8) :=
    match takeDigits input with
    | ([], _) => none
    | (digits, rest) => some (some (down, digits), rest)
  match input with
  | 101 :: 43 :: rest | 69 :: 43 :: rest => behindSign false rest
  | 101 :: 45 :: rest | 69 :: 45 :: rest => behindSign true rest
  | 101 :: rest | 69 :: rest => behindSign false rest
  | rest => some (none, rest)

def readFraction (input : List UInt8) : Option (List Char × List UInt8) :=
  match input with
  | 46 :: rest =>
    match takeDigits rest with
    | ([], _) => none
    | (digits, rest) => some (digits, rest)
  | rest => some ([], rest)

/-- Read a number behind its sign.  A zero in front is the only digit before the point. -/
def readNumeral (negative : Bool) (input : List UInt8) : Option (Numeral × List UInt8) :=
  match takeDigits input with
  | ([], _) => none
  | (whole, rest) =>
    if whole.head? = some '0' ∧ whole.length ≠ 1 then none
    else do
      let (fraction, rest) ← readFraction rest
      let (exponent, rest) ← readExponent rest
      some (⟨negative, whole, fraction, exponent⟩, rest)

/-- Read the token at the front of a text that starts with no blank. -/
def readToken : List UInt8 → Option (Token × List UInt8)
  | 91 :: rest => some (.openArray, rest)
  | 93 :: rest => some (.closeArray, rest)
  | 123 :: rest => some (.openObject, rest)
  | 125 :: rest => some (.closeObject, rest)
  | 44 :: rest => some (.comma, rest)
  | 58 :: rest => some (.colon, rest)
  | 110 :: 117 :: 108 :: 108 :: rest => some (.null, rest)
  | 116 :: 114 :: 117 :: 101 :: rest => some (.bool true, rest)
  | 102 :: 97 :: 108 :: 115 :: 101 :: rest => some (.bool false, rest)
  | 34 :: rest => do
    let (text, rest) ← readString ⟨[], none, false⟩ rest
    some (.string text, rest)
  | 45 :: rest => do
    let (numeral, rest) ← readNumeral true rest
    some (.number numeral, rest)
  | input => do
    let (numeral, rest) ← readNumeral false input
    some (.number numeral, rest)

/-- The blanks that may stand between tokens. -/
def isGap (byte : UInt8) : Bool :=
  byte == 9 || byte == 10 || byte == 13 || byte == 32

/-- The tokens of a text, with the tokens already read in reverse order. -/
def tokensFrom : Nat → List Token → List UInt8 → Option (List Token)
  | 0, _, _ => none
  | fuel + 1, done, input =>
    match input.dropWhile isGap with
    | [] => some done.reverse
    | rest =>
      match readToken rest with
      | none => none
      | some (token, rest) => tokensFrom fuel (token :: done) rest

/-- The tokens of a text.  Every token takes a byte, so the length of the text is enough fuel. -/
def tokens (input : List UInt8) : Option (List Token) :=
  tokensFrom (input.length + 1) [] input

end Json
end ExchangeGrid
