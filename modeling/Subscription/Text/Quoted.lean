import Subscription.Text.Combining
import Subscription.Text.Printable

/-!
# Texts between quotes

In messages and log lines a text stands between double quotes. Quotes, backslashes and characters
that would not show as themselves are escaped, so the end of the text can be seen and so can every
character in it; everything else stands as it is.
-/

namespace Subscription

namespace Quoted

/-- A character written by its code point. -/
def codePoint (c : Char) : List Char := ['\\', 'u', '{'] ++ Nat.toDigits 16 c.toNat ++ ['}']

/-- How a character stands between the quotes. -/
def escape (c : Char) : List Char :=
  if c = '\x00' then ['\\', '0']
  else if c = '\t' then ['\\', 't']
  else if c = '\n' then ['\\', 'n']
  else if c = '\r' then ['\\', 'r']
  else if c = '"' then ['\\', '"']
  else if c = '\\' then ['\\', '\\']
  else if isCombining c || !isPrintable c then codePoint c
  else [c]

/-- Characters between quotes. -/
def chars (text : List Char) : List Char := '"' :: text.flatMap escape ++ ['"']

end Quoted

/-- A text between quotes. -/
def quote (text : String) : String := String.ofList (Quoted.chars text.toList)

end Subscription
