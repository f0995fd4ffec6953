import OData.Json.Fault

/-!
# Quoted Text in JSON

A text stands between double quotes. Controls may not stand in it, and a
backslash starts an escape: a single character, or `u` and four hexadecimal
digits for a unit of sixteen bits. A character beyond the first 65536 is given
by two units, and where the text matters, units of that kind must come in
pairs.

Reading is a machine that takes one character at a time, so that the same
machine serves for reading a text and for passing over one. Passing over looks
at the form of escapes and not at what they stand for.

A unit is cut short by the end of the document when fewer than four bytes are
left, even if one of these is no digit. The machine therefore counts bytes and
remembers a wrong digit until four have gone by.

## Main definitions

* `Quoted.State`: Where the machine stands.
* `Quoted.next`: What a character does.
* `readQuoted`: The text after an opening quote, and what follows it.

## Theorems

* `readQuoted_length_le`: What follows is no longer than what was there.
-/

namespace OData

namespace Json

namespace Quoted

/-- Where the machine stands inside a quoted text. -/
inductive State where
  /-- Between characters. -/
  | plain
  /-- After a backslash. -/
  | escape
  /-- Inside a unit: the bytes left, whether a digit was wrong, the value so
      far, and the first unit of a pair if this is the second. -/
  | unit (left : Nat) (wrong : Bool) (value : Nat) (high : Option Nat)
  /-- After the first unit of a pair, before the backslash. -/
  | pairBackslash (high : Nat)
  /-- After the backslash, before the `u`. -/
  | pairUnit (high : Nat)
deriving DecidableEq

/-- What a character does to the machine. -/
inductive Outcome where
  /-- It goes on, perhaps with a character of the text. -/
  | goOn (state : State) (out : Option Char)
  /-- The text ends. -/
  | close
  /-- The text is malformed. -/
  | fail
deriving DecidableEq

/-- The value of a hexadecimal digit. -/
def hexValue? (c : Char) : Option Nat :=
  if '0' ≤ c ∧ c ≤ '9' then some (c.toNat - '0'.toNat)
  else if 'a' ≤ c ∧ c ≤ 'f' then some (c.toNat - 'a'.toNat + 10)
  else if 'A' ≤ c ∧ c ≤ 'F' then some (c.toNat - 'A'.toNat + 10)
  else none

/-- The character that an escape of one character stands for. -/
def shortEscape? (c : Char) : Option Char :=
  if c = Text.doubleQuote ∨ c = Text.backslash ∨ c = '/' then some c
  else if c = 'b' then some '\x08'
  else if c = 'f' then some '\x0c'
  else if c = 'n' then some '\n'
  else if c = 'r' then some '\r'
  else if c = 't' then some '\t'
  else none

/-- Whether a unit is the first of a pair. -/
def isHigh (n : Nat) : Bool :=
  0xd800 ≤ n && n ≤ 0xdbff

/-- Whether a unit is the second of a pair. -/
def isLow (n : Nat) : Bool :=
  0xdc00 ≤ n && n ≤ 0xdfff

/-- The character that a pair of units stands for. -/
def paired (high low : Nat) : Char :=
  Char.ofNat (0x10000 + (high - 0xd800) * 0x400 + (low - 0xdc00))

/-- What a complete unit does where the text matters. -/
def unitRead (value : Nat) : Option Nat → Outcome
  | none =>
    if isLow value then .fail
    else if isHigh value then .goOn (.pairBackslash value) none
    else .goOn .plain (some (Char.ofNat value))
  | some high => if isLow value then .goOn .plain (some (paired high value)) else .fail

/-- What a character does. Units are held together where the text matters. -/
def next (matters : Bool) (c : Char) : State → Outcome
  | .plain =>
    if c = Text.doubleQuote then .close
    else if c = Text.backslash then .goOn .escape none
    else if c.toNat < 0x20 then .fail
    else .goOn .plain (some c)
  | .escape =>
    if c = 'u' then .goOn (.unit 4 false 0 none) none
    else
      match shortEscape? c with
      | some d => .goOn .plain (some d)
      | none => .fail
  | .unit left wrong value high =>
    let wrong' := wrong || (hexValue? c).isNone
    let value' := 16 * value + (hexValue? c).getD 0
    let left' := left - c.utf8Size
    if left' ≠ 0 then .goOn (.unit left' wrong' value' high) none
    else if wrong' then .fail
    else if matters then unitRead value' high
    else .goOn .plain none
  | .pairBackslash high => if c = Text.backslash then .goOn (.pairUnit high) none else .fail
  | .pairUnit high => if c = 'u' then .goOn (.unit 4 false 0 (some high)) none else .fail

end Quoted

/-- Reads on from a state of the machine, given the text so far with the latest
    character first. -/
def readQuotedFrom (state : Quoted.State) (read : List Char) :
    List Char → Except Fault (String × List Char)
  | [] => .error .truncated
  | c :: cs =>
    match Quoted.next true c state with
    | .goOn state' out => readQuotedFrom state' (out.toList ++ read) cs
    | .close => .ok (String.ofList read.reverse, cs)
    | .fail => .error .malformed

/-- The text after an opening quote, and what follows its closing quote. -/
def readQuoted (cs : List Char) : Except Fault (String × List Char) :=
  readQuotedFrom .plain [] cs

theorem readQuotedFrom_length_le {state : Quoted.State} {read cs rest : List Char} {s : String}
    (h : readQuotedFrom state read cs = .ok (s, rest)) : rest.length ≤ cs.length := by
  induction cs generalizing state read with
  | nil => simp only [readQuotedFrom, reduceCtorEq] at h
  | cons c cs ih =>
      simp only [readQuotedFrom] at h
      split at h
      · exact Nat.le_succ_of_le (ih h)
      · simp only [Except.ok.injEq, Prod.mk.injEq] at h
        rw [← h.2]
        exact Nat.le_succ _
      · simp only [reduceCtorEq] at h

theorem readQuoted_length_le {cs rest : List Char} {s : String}
    (h : readQuoted cs = .ok (s, rest)) : rest.length ≤ cs.length :=
  readQuotedFrom_length_le h

end Json

end OData
