import OData.Unicode.Hidden

/-!
# Escaped Text

Text shown between double quotes so that nothing in it is hidden. Quotes and
backslashes are escaped with a backslash, a few controls have a short form, and
every other hidden character is shown by its code point in hexadecimal. All
else stands for itself, single quotes included.

## Main definitions

* `escapedChar`: A character as it is shown.
* `escaped`: The text between double quotes.
-/

namespace OData

namespace Text

/-- The character that opens and closes an escaped text. -/
def doubleQuote : Char := '\x22'

/-- The character that starts an escape. -/
def backslash : Char := '\x5c'

/-- A character as it is shown between double quotes. -/
def escapedChar (c : Char) : List Char :=
  if c = '\x00' then [backslash, '0']
  else if c = '\t' then [backslash, 't']
  else if c = '\r' then [backslash, 'r']
  else if c = '\n' then [backslash, 'n']
  else if c = backslash ∨ c = doubleQuote then [backslash, c]
  else if Unicode.isHidden c then
    backslash :: 'u' :: '\x7b' :: Nat.toDigits 16 c.toNat ++ ['\x7d']
  else [c]

/-- The text between double quotes with its hidden characters shown. -/
def escaped (s : String) : String :=
  String.ofList (doubleQuote :: s.toList.flatMap escapedChar ++ [doubleQuote])

end Text

end OData
