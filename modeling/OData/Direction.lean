import OData.Json.Read

/-!
# Sort Directions

A sort is ascending or descending.

In a JSON document a direction is its word as a text, or an object with the
word as its only key and null as the value. A value that is neither is
malformed, and so is a key that is no text, or a second key. Directions are
always written as texts.

## Main definitions

* `Direction`: Ascending or descending.
* `Direction.ofJson`: The direction in a document.
* `Direction.toJson`: The document for a direction.
-/

namespace OData

open Json

/-- The direction of a sort. -/
inductive Direction where
  | asc
  | desc
deriving DecidableEq

namespace Direction

/-- The other direction. -/
def reverse : Direction → Direction
  | asc => desc
  | desc => asc

/-- The word for a direction. -/
def keyword : Direction → String
  | asc => "asc"
  | desc => "desc"

/-- The directions. -/
def all : List Direction :=
  [asc, desc]

/-- The direction of the given word. -/
def ofKeyword? (word : String) : Option Direction :=
  all.find? fun d => d.keyword == word

/-- The direction of the given word, or the fault that there is none. -/
def choose (word : String) : Except Fault Direction :=
  match ofKeyword? word with
  | some d => .ok d
  | none => .error (.mismatch (.unknownChoice word (all.map keyword)))

/-- What follows the null that belongs to a direction. -/
def readUnit (cs : List Char) : Except Fault (List Char) :=
  match skipBlanks cs with
  | [] => .error .truncated
  | c :: rest =>
    if c = 'n' then readWord ['u', 'l', 'l'] rest else .error (unexpected "unit" (c :: rest))

/-- The key of a direction given as an object, and what follows it. -/
def readKey (cs : List Char) : Except Fault (String × List Char) := do
  let inner ← openKey cs
  readQuoted inner

/-- What follows the end of an object. -/
def closeObject (cs : List Char) : Except Fault (List Char) :=
  match skipBlanks cs with
  | [] => .error .truncated
  | c :: rest => if c = '\x7d' then .ok rest else .error .malformed

/-- The direction given as an object, after the bracket, and what follows it. -/
def readObject (cs : List Char) : Except Fault (Direction × List Char) := do
  let (word, afterKey) ← readKey cs
  let d ← choose word
  let value ← readColon afterKey
  let afterValue ← readUnit value
  let rest ← closeObject afterValue
  return (d, rest)

/-- The direction at the start of a document, and what follows it. -/
def readDocument (cs : List Char) : Except Fault (Direction × List Char) :=
  match skipBlanks cs with
  | [] => .error .truncated
  | c :: rest =>
    if c = '\x7b' then readObject rest
    else if c = Text.doubleQuote then do
      let (word, after) ← readQuoted rest
      return (← choose word, after)
    else .error .malformed

/-- The direction in a document. -/
def ofJson (document : String) : Except Fault Direction := do
  let (d, rest) ← readDocument document.toList
  finish rest
  return d

/-- The document for a direction. -/
def toJson (d : Direction) : String :=
  "\"" ++ d.keyword ++ "\""

end Direction

end OData
