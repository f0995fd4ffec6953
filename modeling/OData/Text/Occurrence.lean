/-!
# Occurrences in Text

Whether one run of characters stands somewhere in another.

The test is purely textual. It knows no quotes, no brackets and no words, so a
caller that cares about those must say so itself. `occurs_iff_infix` ties the
executable test to the list relation `<:+:`, which is what a proof should use
from there on.

## Main definitions

* `occurs`: A pattern stands somewhere in a text.

## Theorems

* `occurs_iff_infix`: The test decides the infix relation.
-/

namespace OData

namespace Text

/-- Whether the pattern stands somewhere in the text as one unbroken run. -/
def occurs (pattern : List Char) : List Char → Bool
  | [] => pattern.isEmpty
  | c :: cs => pattern.isPrefixOf (c :: cs) || occurs pattern cs

theorem occurs_iff_infix (pattern text : List Char) :
    occurs pattern text = true ↔ pattern <:+: text := by
  induction text with
  | nil => simp only [occurs, List.isEmpty_iff, List.infix_nil]
  | cons c cs ih =>
      simp only [occurs, Bool.or_eq_true, List.isPrefixOf_iff_prefix, ih, List.infix_cons_iff]

end Text

end OData
