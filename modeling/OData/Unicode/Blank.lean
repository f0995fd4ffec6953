/-!
# Blanks

The characters that separate without being seen: the White_Space property.

## Main definitions

* `isBlank`: A character is a blank.
* `compact`: A text without its blanks.
-/

namespace OData

namespace Unicode

/-- Whether a character is a blank. -/
def isBlank (c : Char) : Bool :=
  let n := c.toNat
  (9 ≤ n && n ≤ 13) || n == 0x20 || n == 0x85 || n == 0xa0 || n == 0x1680 ||
    (0x2000 ≤ n && n ≤ 0x200a) || n == 0x2028 || n == 0x2029 || n == 0x202f || n == 0x205f ||
    n == 0x3000

/-- The text without its blanks. -/
def compact (s : String) : String :=
  String.ofList (s.toList.filter fun c => !isBlank c)

end Unicode

end OData
