import OData.Text.Digits
import OData.Text.Escaped

/-!
# Faults in JSON Documents

A document is read from the left, and the first problem is the answer. It is
one of three: the text is malformed, it ends too early, or it is well formed as
far as it was read and something other than expected stands there.

## Main definitions

* `Found`: What stands in a place, as far as a message says it.
* `Mismatch`: Something other than expected.
* `Fault`: What is wrong with a document.
-/

namespace OData

namespace Json

/-- What stands in a place. -/
inductive Found where
  | null
  | bool (b : Bool)
  | integer (n : Int)
  | float (text : String)
  | string (s : String)
  | sequence
  | map
deriving DecidableEq

/-- What stands in a place, in words. -/
def Found.text : Found → String
  | null => "null"
  | bool b => "boolean `" ++ (if b then "true" else "false") ++ "`"
  | integer n => "integer `" ++ Text.signed n ++ "`"
  | float text => "floating point `" ++ text ++ "`"
  | string s => "string " ++ Text.escaped s
  | sequence => "sequence"
  | map => "map"

/-- Something other than expected. -/
inductive Mismatch where
  /-- The type is wrong. -/
  | wrongType (found : Found) (expected : String)
  /-- The type is right and the value is not. -/
  | wrongValue (found : Found) (expected : String)
  /-- A key stands twice. -/
  | duplicateKey (key : String)
  /-- A choice is not among the known ones. -/
  | unknownChoice (name : String) (known : List String)
deriving DecidableEq

/-- The mismatch in words. -/
def Mismatch.message : Mismatch → String
  | wrongType found expected => "invalid type: " ++ found.text ++ ", expected " ++ expected
  | wrongValue found expected => "invalid value: " ++ found.text ++ ", expected " ++ expected
  | duplicateKey key => "duplicate field `" ++ key ++ "`"
  | unknownChoice name known =>
      "unknown variant `" ++ name ++ "`, expected " ++
        " or ".intercalate (known.map fun k => "`" ++ k ++ "`")

/-- What is wrong with a document. -/
inductive Fault where
  /-- The text is not well formed. -/
  | malformed
  /-- The text ends too early. -/
  | truncated
  /-- Something other than expected stands there. -/
  | mismatch (m : Mismatch)
deriving DecidableEq

end Json

end OData
