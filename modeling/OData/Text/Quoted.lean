/-!
# Quoted Text

A string literal stands between single quotes, and a quote inside it is
written twice.

Doubling is what makes the form safe. Read from the left, every quote of the
body is followed at once by another one, so the first quote that is not is the
closing one, whatever the text holds.

## Main definitions

* `doubled`: Every quote written twice.
* `quoted`: The literal.
-/

namespace OData

namespace Text

/-- The character that opens and closes a string literal. -/
def quote : Char := '\x27'

/-- The text with every quote written twice. -/
def doubled : List Char → List Char
  | [] => []
  | c :: cs => if c = quote then c :: c :: doubled cs else c :: doubled cs

/-- The string literal of a text. -/
def quoted (s : String) : String :=
  String.ofList (quote :: doubled s.toList ++ [quote])

end Text

end OData
