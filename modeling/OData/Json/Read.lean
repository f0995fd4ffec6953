import OData.Json.Number
import OData.Json.Skip

/-!
# Reading JSON

What every reader of a document needs: the words, the colon after a key, a
natural number, and the end. Where a value is not of the kind that is asked
for, the fault says what stands there instead. A text or a number is read to
its end for that, so a fault inside it comes first.

A reader takes the rest of the document and returns what it read together with
what follows. Blanks are skipped before anything that is looked at.

## Main definitions

* `readWord`: The rest of a word.
* `foundAt`: What stands at the start of the text.
* `unexpected`: The fault that something else was expected.
* `readColon`, `openKey`: The punctuation of an object.
* `readNatural`: A natural number of 64 bits.
* `finish`: The end of the document.

## Theorems

* `readColon_length_le`, `openKey_length_lt`, `readNatural_length_le`: What
  follows is not longer than what was there.
-/

namespace OData

namespace Json

/-- What follows the rest of a word. -/
def readWord : List Char → List Char → Except Fault (List Char)
  | [], cs => .ok cs
  | _ :: _, [] => .error .truncated
  | w :: ws, c :: cs => if c = w then readWord ws cs else .error .malformed

/-- What stands at the start of the text. -/
def foundAt : List Char → Except Fault Found
  | [] => .error .truncated
  | c :: cs =>
    if c = 'n' then (readWord ['u', 'l', 'l'] cs).map fun _ => .null
    else if c = 't' then (readWord ['r', 'u', 'e'] cs).map fun _ => .bool true
    else if c = 'f' then (readWord ['a', 'l', 's', 'e'] cs).map fun _ => .bool false
    else if c = '-' then (readNumber true cs).map fun p => p.1.found
    else if c.isDigit then (readNumber false (c :: cs)).map fun p => p.1.found
    else if c = Text.doubleQuote then (readQuoted cs).map fun p => .string p.1
    else if c = '[' then .ok .sequence
    else if c = '\x7b' then .ok .map
    else .error .malformed

/-- The fault that something else was expected than what stands at the start of
    the text. -/
def unexpected (expected : String) (cs : List Char) : Fault :=
  match foundAt cs with
  | .ok found => .mismatch (.wrongType found expected)
  | .error fault => fault

/-- What follows the colon after a key. -/
def readColon (cs : List Char) : Except Fault (List Char) :=
  match skipBlanks cs with
  | [] => .error .truncated
  | c :: rest => if c = ':' then .ok rest else .error .malformed

/-- What follows the quote that opens a key. -/
def openKey (cs : List Char) : Except Fault (List Char) :=
  match skipBlanks cs with
  | [] => .error .truncated
  | c :: rest => if c = Text.doubleQuote then .ok rest else .error .malformed

/-- The natural number that a number is, or the fault that it is none. -/
def Number.natural? (expected : String) (n : Number) : Except Fault Nat :=
  match n with
  | natural n => .ok n
  | negative n => .error (.mismatch (.wrongValue (.integer (-n)) expected))
  | float s x => .error (.mismatch (.wrongType (.float (floatText s x)) expected))

/-- A natural number of 64 bits, and what follows it. -/
def readNatural (expected : String) (cs : List Char) : Except Fault (Nat × List Char) :=
  match skipBlanks cs with
  | [] => .error .truncated
  | c :: rest =>
    let number? : Option (Except Fault (Number × List Char)) :=
      if c = '-' then some (readNumber true rest)
      else if c.isDigit then some (readNumber false (c :: rest))
      else none
    match number? with
    | none => .error (unexpected expected (c :: rest))
    | some (.error fault) => .error fault
    | some (.ok (n, after)) => (n.natural? expected).map (·, after)

/-- Checks that nothing but blanks is left. -/
def finish (cs : List Char) : Except Fault Unit :=
  if (skipBlanks cs).isEmpty then .ok () else .error .malformed

theorem length_skipBlanks_le (cs : List Char) : (skipBlanks cs).length ≤ cs.length :=
  (List.dropWhile_suffix isBlank).length_le

theorem readColon_length_le {cs rest : List Char} (h : readColon cs = .ok rest) :
    rest.length ≤ cs.length := by
  have hle := length_skipBlanks_le cs
  simp only [readColon] at h
  split at h
  · simp only [reduceCtorEq] at h
  · rename_i c rest' heq
    rw [heq, List.length_cons] at hle
    split at h
    · simp only [Except.ok.injEq] at h
      rw [← h]
      exact Nat.le_of_succ_le hle
    · simp only [reduceCtorEq] at h

theorem openKey_length_lt {cs rest : List Char} (h : openKey cs = .ok rest) :
    rest.length < cs.length := by
  have hle := length_skipBlanks_le cs
  simp only [openKey] at h
  split at h
  · simp only [reduceCtorEq] at h
  · rename_i c rest' heq
    rw [heq, List.length_cons] at hle
    split at h
    · simp only [Except.ok.injEq] at h
      rw [← h]
      exact hle
    · simp only [reduceCtorEq] at h

theorem readNatural_length_le {expected : String} {cs rest : List Char} {n : Nat}
    (h : readNatural expected cs = .ok (n, rest)) : rest.length ≤ cs.length := by
  have hle := length_skipBlanks_le cs
  simp only [readNatural] at h
  split at h
  · simp only [reduceCtorEq] at h
  · rename_i c rest' heq
    rw [heq] at hle
    have key : ∀ {m : Number} {after : List Char},
        ((m.natural? expected).map (·, after)) = .ok (n, rest) → rest = after := by
      intro m after hm
      cases hn : m.natural? expected with
      | error f => simp only [hn, Except.map, reduceCtorEq] at hm
      | ok k =>
          simp only [hn, Except.map, Except.ok.injEq, Prod.mk.injEq] at hm
          exact hm.2.symm
    by_cases hneg : c = '-'
    · simp only [hneg, if_true] at h
      cases hr : readNumber true rest' with
      | error f => simp only [hr, reduceCtorEq] at h
      | ok p =>
          obtain ⟨m, after⟩ := p
          simp only [hr] at h
          rw [key h]
          exact Nat.le_trans (readNumber_length_le hr) (Nat.le_of_succ_le hle)
    · by_cases hd : c.isDigit = true
      · simp only [hneg, hd, if_true, if_false] at h
        cases hr : readNumber false (c :: rest') with
        | error f => simp only [hr, reduceCtorEq] at h
        | ok p =>
            obtain ⟨m, after⟩ := p
            simp only [hr] at h
            rw [key h]
            exact Nat.le_trans (readNumber_length_le hr) hle
      · simp only [hneg, hd, if_false, reduceCtorEq] at h

end Json

end OData
