import OData.Unicode.Identifier

/-!
# Identifiers

The names that generated code may use. An identifier starts with a letter or an
underscore and goes on with letters, digits, underscores and the marks that
modify letters, of any script. Some identifiers are reserved words, and code
that uses one as a name does not parse.

A name may be written with the mark `r#` in front, which lets a reserved word
be used as a name. The mark is not part of the name, and a text that still has
it is no identifier.

## Main definitions

* `isIdentifier`: A text is an identifier.
* `reservedWords`, `isReserved`: The identifiers that are no names.
* `bareName`: A name without the mark.
-/

namespace OData

namespace Schema

/-- Whether a text is an identifier. -/
def isIdentifier : List Char → Bool
  | [] => false
  | c :: cs => (c == '_' || Unicode.isIdentifierStart c) && cs.all Unicode.isIdentifierContinue

/-- The words that generated code cannot use as names. -/
def reservedWords : List String :=
  ["abstract", "as", "async", "await", "become", "box", "break", "const", "continue", "crate",
    "do", "dyn", "else", "enum", "extern", "false", "final", "fn", "for", "if", "impl", "in",
    "let", "loop", "macro", "match", "mod", "move", "mut", "override", "priv", "pub", "ref",
    "return", "Self", "self", "static", "struct", "super", "trait", "true", "type", "typeof",
    "unsafe", "unsized", "use", "virtual", "where", "while", "yield"]

/-- Whether a text is a reserved word. -/
def isReserved (name : String) : Bool :=
  reservedWords.contains name

/-- A name without the mark in front. -/
def bareName : List Char → List Char
  | 'r' :: '#' :: cs => bareName cs
  | cs => cs

end Schema

end OData
