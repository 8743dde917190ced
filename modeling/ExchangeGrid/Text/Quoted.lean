import ExchangeGrid.Text.Hidden

namespace ExchangeGrid
namespace Quoted

/-!
# Quoted texts in messages

Messages show a foreign text between double quotes.  A quote and a backslash are written after
a backslash, tab, line feed, carriage return and NUL by a letter or digit, every other hidden
character by its number in braces, and all else as it is.
-/

def hexDigits (n : Nat) : List Char :=
  Nat.toDigits 16 n

/-- How one character stands between quotes. -/
def char (c : Char) : List Char :=
  if c = '"' then ['\\', '"']
  else if c = '\\' then ['\\', '\\']
  else if c = '\n' then ['\\', 'n']
  else if c = '\r' then ['\\', 'r']
  else if c = '\t' then ['\\', 't']
  else if c.toNat = 0 then ['\\', '0']
  else if Hidden.isHidden c then ['\\', 'u', '\x7b'] ++ hexDigits c.toNat ++ ['\x7d']
  else [c]

def text (raw : String) : String :=
  String.ofList ('"' :: raw.toList.flatMap char ++ ['"'])

end Quoted
end ExchangeGrid
