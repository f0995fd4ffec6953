import OData.Json.Quoted

/-!
# Passing over JSON Values

A value that does not matter is passed over. It may be of any shape and any
depth, and it is checked for its form all the same.

The check is a machine that takes one character at a time and keeps the open
brackets on a stack. Nothing else grows, so there is no bound on the depth. A
number has no mark at its end, so it ends at the first character that cannot
belong to it, and that character is looked at again.

The end of the document inside a value means that the document was cut short,
except in a number that lacks a digit, which is malformed.

## Main definitions

* `Skip.State`: What the machine expects.
* `Skip.next`: What a character does.
* `skipValue`: What follows a value.

## Theorems

* `skipValue_length_le`: What follows is no longer than what was there.
-/

namespace OData

namespace Json

/-- Whether a character may stand between the parts of a document. -/
def isBlank (c : Char) : Bool :=
  c == ' ' || c == '\t' || c == '\n' || c == '\r'

/-- The document without its leading blanks. -/
def skipBlanks (cs : List Char) : List Char :=
  cs.dropWhile isBlank

namespace Skip

/-- An open bracket. -/
inductive Bracket where
  | list
  | object
deriving DecidableEq

/-- What the machine expects. -/
inductive State where
  /-- A value. -/
  | value
  /-- The first value of a list, or its end. -/
  | firstValue
  /-- The first key of an object, or its end. -/
  | firstKey
  /-- A key. -/
  | key
  /-- The colon after a key. -/
  | colon
  /-- A comma or the end of the innermost bracket. -/
  | after
  /-- The rest of a quoted text, which is a key or a value. -/
  | quoted (isKey : Bool) (state : Quoted.State)
  /-- The rest of a word. -/
  | word (left : List Char)
  /-- The first digit of a number. -/
  | firstDigit
  /-- What follows a leading zero. -/
  | leadingZero
  /-- More digits before the point. -/
  | digits
  /-- The first digit after the point. -/
  | point
  /-- More digits after the point. -/
  | fraction
  /-- The sign or the first digit of an exponent. -/
  | exponentMark
  /-- The first digit of an exponent. -/
  | exponentSign
  /-- More digits of an exponent. -/
  | exponent
deriving DecidableEq

/-- What a character does to the machine. -/
inductive Outcome where
  /-- It goes on. -/
  | goOn (state : State) (stack : List Bracket)
  /-- The whole value ends with this character. -/
  | ends
  /-- The whole value ended before this character. -/
  | ended
  /-- The value is malformed. -/
  | fail
deriving DecidableEq

/-- What the last character of an inner or outer value does. -/
def complete : List Bracket → Outcome
  | [] => .ends
  | stack => .goOn .after stack

/-- What the first character of a value does. -/
def start (c : Char) (stack : List Bracket) : Outcome :=
  if c = 'n' then .goOn (.word ['u', 'l', 'l']) stack
  else if c = 't' then .goOn (.word ['r', 'u', 'e']) stack
  else if c = 'f' then .goOn (.word ['a', 'l', 's', 'e']) stack
  else if c = '-' then .goOn .firstDigit stack
  else if c = '0' then .goOn .leadingZero stack
  else if c.isDigit then .goOn .digits stack
  else if c = Text.doubleQuote then .goOn (.quoted false .plain) stack
  else if c = '[' then .goOn .firstValue (.list :: stack)
  else if c = '\x7b' then .goOn .firstKey (.object :: stack)
  else .fail

/-- What a character does after a value: it goes on in the innermost bracket or
    closes it. Without a bracket the value ended before. -/
def follow (c : Char) : List Bracket → Outcome
  | [] => .ended
  | .list :: stack =>
    if isBlank c then .goOn .after (.list :: stack)
    else if c = ',' then .goOn .value (.list :: stack)
    else if c = ']' then complete stack
    else .fail
  | .object :: stack =>
    if isBlank c then .goOn .after (.object :: stack)
    else if c = ',' then .goOn .key (.object :: stack)
    else if c = '\x7d' then complete stack
    else .fail

/-- What a character does. -/
def next (c : Char) (stack : List Bracket) : State → Outcome
  | .value => if isBlank c then .goOn .value stack else start c stack
  | .firstValue =>
    if isBlank c then .goOn .firstValue stack
    else if c = ']' then complete stack.tail
    else start c stack
  | .firstKey =>
    if isBlank c then .goOn .firstKey stack
    else if c = '\x7d' then complete stack.tail
    else if c = Text.doubleQuote then .goOn (.quoted true .plain) stack
    else .fail
  | .key =>
    if isBlank c then .goOn .key stack
    else if c = Text.doubleQuote then .goOn (.quoted true .plain) stack
    else .fail
  | .colon =>
    if isBlank c then .goOn .colon stack
    else if c = ':' then .goOn .value stack
    else .fail
  | .after => follow c stack
  | .quoted isKey state =>
    match Quoted.next false c state with
    | .goOn state' _ => .goOn (.quoted isKey state') stack
    | .close => if isKey then .goOn .colon stack else complete stack
    | .fail => .fail
  | .word [] => follow c stack
  | .word (d :: left) =>
    if c = d then if left.isEmpty then complete stack else .goOn (.word left) stack
    else .fail
  | .firstDigit =>
    if c = '0' then .goOn .leadingZero stack
    else if c.isDigit then .goOn .digits stack
    else .fail
  | .leadingZero =>
    if c.isDigit then .fail
    else if c = '.' then .goOn .point stack
    else if c = 'e' ∨ c = 'E' then .goOn .exponentMark stack
    else follow c stack
  | .digits =>
    if c.isDigit then .goOn .digits stack
    else if c = '.' then .goOn .point stack
    else if c = 'e' ∨ c = 'E' then .goOn .exponentMark stack
    else follow c stack
  | .point => if c.isDigit then .goOn .fraction stack else .fail
  | .fraction =>
    if c.isDigit then .goOn .fraction stack
    else if c = 'e' ∨ c = 'E' then .goOn .exponentMark stack
    else follow c stack
  | .exponentMark =>
    if c = '+' ∨ c = '-' then .goOn .exponentSign stack
    else if c.isDigit then .goOn .exponent stack
    else .fail
  | .exponentSign => if c.isDigit then .goOn .exponent stack else .fail
  | .exponent => if c.isDigit then .goOn .exponent stack else follow c stack

/-- What is wrong when the document ends. Only a number outside all brackets
    may stand at its very end. -/
def endFault? (stack : List Bracket) : State → Option Fault
  | .leadingZero | .digits | .fraction | .exponent =>
    if stack.isEmpty then none else some .truncated
  | .firstDigit | .point | .exponentMark | .exponentSign => some .malformed
  | .value | .firstValue | .firstKey | .key | .colon | .after | .quoted _ _ | .word _ =>
    some .truncated

end Skip

/-- Passes over the rest of a value, from a state of the machine and its open
    brackets. -/
def skipFrom (state : Skip.State) (stack : List Skip.Bracket) :
    List Char → Except Fault (List Char)
  | [] =>
    match Skip.endFault? stack state with
    | none => .ok []
    | some fault => .error fault
  | c :: cs =>
    match Skip.next c stack state with
    | .goOn state' stack' => skipFrom state' stack' cs
    | .ends => .ok cs
    | .ended => .ok (c :: cs)
    | .fail => .error .malformed

/-- What follows the value at the start of the text. -/
def skipValue (cs : List Char) : Except Fault (List Char) :=
  skipFrom .value [] cs

theorem skipFrom_length_le {state : Skip.State} {stack : List Skip.Bracket} {cs rest : List Char}
    (h : skipFrom state stack cs = .ok rest) : rest.length ≤ cs.length := by
  induction cs generalizing state stack with
  | nil =>
      simp only [skipFrom] at h
      split at h
      · simp only [Except.ok.injEq] at h
        exact Nat.le_of_eq (congrArg List.length h.symm)
      · simp only [reduceCtorEq] at h
  | cons c cs ih =>
      simp only [skipFrom] at h
      split at h
      · exact Nat.le_succ_of_le (ih h)
      · simp only [Except.ok.injEq] at h
        rw [← h]
        exact Nat.le_succ _
      · simp only [Except.ok.injEq] at h
        exact Nat.le_of_eq (congrArg List.length h.symm)
      · simp only [reduceCtorEq] at h

theorem skipValue_length_le {cs rest : List Char} (h : skipValue cs = .ok rest) :
    rest.length ≤ cs.length :=
  skipFrom_length_le h

end Json

end OData
