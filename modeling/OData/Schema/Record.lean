import OData.Unicode.Blank

/-!
# Record Declarations

The declarations that a schema is derived from: a type with a name, perhaps
with parameters, and a body. Only a body with named members has a schema.

Members carry attributes. An attribute stands alone, is assigned a text, or has
a list of items in parentheses, each a key that may be assigned a literal. What
stands in the parentheses may be anything, so at some place the list may go on
with something that is no item.

## Main definitions

* `AttributeItem`, `Attribute`: What a member is marked with.
* `Member`: A named member.
* `Body`, `Record`: A declaration.
* `Record.isGeneric`: The declaration has parameters.
-/

namespace OData

namespace Schema

/-- A literal in an attribute. -/
inductive AttributeLiteral where
  | text (s : String)
  | integer (n : Int)
deriving DecidableEq

/-- An item of an attribute: a key, and the literal assigned to it if there is
    one. -/
structure AttributeItem where
  /-- The key. -/
  key : String
  /-- The literal. -/
  literal : Option AttributeLiteral := none
deriving DecidableEq

/-- What follows the path of an attribute. -/
inductive AttributeForm where
  /-- Nothing. -/
  | bare
  /-- A text, after an equals sign. -/
  | assigned (s : String)
  /-- Items, in parentheses. -/
  | list (items : List AttributeItem)
  /-- Items, in parentheses, and behind them something that cannot be read as
      one, with what is said about it. -/
  | broken (items : List AttributeItem) (complaint : String)
deriving DecidableEq

/-- A mark on a member. -/
structure Attribute where
  /-- The path that names the attribute. -/
  path : String
  /-- What follows it. -/
  form : AttributeForm
deriving DecidableEq

/-- A named member of a record. -/
structure Member where
  /-- The name, perhaps marked as raw. -/
  name : String
  /-- The type as it is written. -/
  type : String
  /-- The attributes, in order. -/
  attributes : List Attribute := []
deriving DecidableEq

/-- The body of a declaration. -/
inductive Body where
  /-- A record with named members. -/
  | named (members : List Member)
  /-- A record with members by position. -/
  | tuple
  /-- A record without members. -/
  | unit
  /-- A choice between variants. -/
  | enumeration
  /-- Overlapping members. -/
  | union
deriving DecidableEq

/-- A declaration. -/
structure Record where
  /-- The name, perhaps marked as raw. -/
  name : String
  /-- The visibility as it is written, or nothing. -/
  visibility : String := ""
  /-- The parameters in angle brackets as they are written, or nothing. -/
  generics : String := ""
  /-- The body. -/
  body : Body
deriving DecidableEq

/-- Whether the declaration has parameters. Empty angle brackets hold none. -/
def Record.isGeneric (r : Record) : Bool :=
  r.generics.toList.any fun c => !(c == '<' || c == '>' || Unicode.isBlank c)

end Schema

end OData
