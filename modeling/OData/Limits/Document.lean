import OData.Fallible
import OData.Json.Read
import OData.Limits.Basic

/-!
# Limits in a Document

Limits are configured by a JSON document. It is an object whose members set
caps by name, in any order, or a list that sets them in their fixed order and
may stop early. A cap that is not set keeps its default value.

Members of other names are passed over, however often they occur and whatever
they hold. A cap may be set once, and only to a natural number of 64 bits.
Nothing is rounded or cut off.

## Main definitions

* `Limit.expected`: What a cap must be, in words.
* `Limits.Member`: What a member of an object does.
* `Limits.readMember`, `Limits.readMembers`: One member, and all of them.
* `Limits.readElements`: The elements of a list.
* `Limits.ofJson`: The limits in a document.

## Theorems

* `Limits.readMember_length_lt`: A member takes up part of the text.
-/

namespace OData

open Json

/-- What the value of a cap must be, in words. -/
def Limit.expected : Limit → String
  | top => "u64"
  | orderby | select | filter | expand => "usize"

namespace Limits

/-- What stands in the place of a member. -/
inductive Member where
  /-- The end of the object. -/
  | closing
  /-- A member of another name. -/
  | other
  /-- A value for a cap. -/
  | cap (l : Limit) (n : Nat)
deriving DecidableEq

/-- What follows the opening quote of the key of a member. Members but the first
    have a comma in front. -/
def openMember (first : Bool) : List Char → Except Fault (List Char)
  | [] => .error .truncated
  | c :: cs =>
    if first then openKey (c :: cs)
    else if c = ',' then openKey cs
    else .error .malformed

/-- The key of a member, and what follows it. -/
def readKey (first : Bool) (cs : List Char) : Except Fault (String × List Char) := do
  let inner ← openMember first cs
  readQuoted inner

/-- The value of a member with the given key, and what follows it. A cap that
    was seen before is refused before its value is looked at. -/
def readValue (seen : List Limit) (key : String) (cs : List Char) :
    Except Fault (Member × List Char) :=
  match Limit.ofKey? key with
  | none => do
    let value ← readColon cs
    let rest ← skipValue value
    return (.other, rest)
  | some l =>
    if l ∈ seen then .error (.mismatch (.duplicateKey key))
    else do
      let value ← readColon cs
      let (n, rest) ← readNatural l.expected value
      return (.cap l n, rest)

/-- The next member of an object, and what follows it. -/
def readMember (first : Bool) (seen : List Limit) (cs : List Char) :
    Except Fault (Member × List Char) :=
  match skipBlanks cs with
  | [] => .error .truncated
  | c :: rest =>
    if c = '\x7d' then .ok (.closing, rest)
    else do
      let (key, afterKey) ← readKey first (c :: rest)
      readValue seen key afterKey

theorem openMember_length_lt {first : Bool} {cs rest : List Char}
    (h : openMember first cs = .ok rest) : rest.length < cs.length := by
  cases cs with
  | nil => simp only [openMember, reduceCtorEq] at h
  | cons c cs =>
      simp only [openMember] at h
      split at h
      · exact openKey_length_lt h
      · split at h
        · exact Nat.lt_succ_of_lt (openKey_length_lt h)
        · simp only [reduceCtorEq] at h

theorem readKey_length_lt {first : Bool} {cs rest : List Char} {key : String}
    (h : readKey first cs = .ok (key, rest)) : rest.length < cs.length := by
  obtain ⟨inner, hinner, hread⟩ := exists_of_bind_eq_ok h
  exact Nat.lt_of_le_of_lt (readQuoted_length_le hread) (openMember_length_lt hinner)

theorem readValue_length_le {seen : List Limit} {key : String} {cs rest : List Char} {m : Member}
    (h : readValue seen key cs = .ok (m, rest)) : rest.length ≤ cs.length := by
  unfold readValue at h
  split at h
  · obtain ⟨value, hcolon, h⟩ := exists_of_bind_eq_ok h
    obtain ⟨after, hskip, h⟩ := exists_of_bind_eq_ok h
    cases h
    exact Nat.le_trans (skipValue_length_le hskip) (readColon_length_le hcolon)
  · split at h
    · simp only [reduceCtorEq] at h
    · obtain ⟨value, hcolon, h⟩ := exists_of_bind_eq_ok h
      obtain ⟨⟨n, after⟩, hnat, h⟩ := exists_of_bind_eq_ok h
      cases h
      exact Nat.le_trans (readNatural_length_le hnat) (readColon_length_le hcolon)

theorem readMember_length_lt {first : Bool} {seen : List Limit} {cs rest : List Char} {m : Member}
    (h : readMember first seen cs = .ok (m, rest)) : rest.length < cs.length := by
  have hle := length_skipBlanks_le cs
  unfold readMember at h
  split at h
  · simp only [reduceCtorEq] at h
  · rename_i c rest' heq
    rw [heq, List.length_cons] at hle
    split at h
    · simp only [Except.ok.injEq, Prod.mk.injEq] at h
      rw [← h.2]
      exact hle
    · obtain ⟨⟨key, after⟩, hkey, hvalue⟩ := exists_of_bind_eq_ok h
      have hlt := readKey_length_lt hkey
      have hval := readValue_length_le hvalue
      rw [List.length_cons] at hlt
      omega

/-- The limits after the members that are left, and what follows the object. -/
def readMembers (first : Bool) (seen : List Limit) (ls : Limits) (cs : List Char) :
    Except Fault (Limits × List Char) :=
  match _h : readMember first seen cs with
  | .error fault => .error fault
  | .ok (.closing, rest) => .ok (ls, rest)
  | .ok (.other, rest) => readMembers false seen ls rest
  | .ok (.cap l n, rest) => readMembers false (l :: seen) (ls.set l n) rest
termination_by cs.length
decreasing_by
  · exact readMember_length_lt _h
  · exact readMember_length_lt _h

/-- What follows the end of a list that holds no more elements. -/
def closeList (cs : List Char) : Except Fault (List Char) :=
  match skipBlanks cs with
  | [] => .error .truncated
  | c :: rest => if c = ']' then .ok rest else .error .malformed

/-- What an element of a list starts with. Elements but the first have a comma in
    front, and no list ends with a comma. -/
def openElement (first : Bool) : List Char → Except Fault (List Char)
  | [] => .error .truncated
  | c :: cs =>
    if first then .ok (c :: cs)
    else if c = ',' then
      match skipBlanks cs with
      | [] => .error .truncated
      | d :: rest => if d = ']' then .error .malformed else .ok (d :: rest)
    else .error .malformed

/-- The limits after elements for the given caps, and what follows the list. -/
def readElements (first : Bool) (ls : Limits) :
    List Limit → List Char → Except Fault (Limits × List Char)
  | [], cs => (closeList cs).map (ls, ·)
  | l :: more, cs =>
    match skipBlanks cs with
    | [] => .error .truncated
    | c :: rest =>
      if c = ']' then .ok (ls, rest)
      else do
        let element ← openElement first (c :: rest)
        let (n, after) ← readNatural l.expected element
        readElements false (ls.set l n) more after

/-- The limits at the start of a document, and what follows them. -/
def readDocument (cs : List Char) : Except Fault (Limits × List Char) :=
  match skipBlanks cs with
  | [] => .error .truncated
  | c :: rest =>
    if c = '\x7b' then readMembers true [] default rest
    else if c = '[' then readElements true default Limit.all rest
    else .error (unexpected "struct ODataLimits" (c :: rest))

/-- The limits in a document. -/
def ofJson (document : String) : Except Fault Limits := do
  let (ls, rest) ← readDocument document.toList
  finish rest
  return ls

end Limits

end OData
