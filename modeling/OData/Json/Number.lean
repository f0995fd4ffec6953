import OData.Binary64.Shortest
import OData.Json.Fault

/-!
# Numbers in JSON

A number is an integer as long as it has no fraction and no exponent and fits
into 64 bits. Every other number is a floating-point number, and so is minus
zero.

The digits of a number are taken into a significand of 64 bits from the left.
Digits that no longer fit are dropped: before the point they still count for
the exponent, and after it they do not count at all. The significand and the
power of ten are then put together as `Binary64.ofDecimal?` says, and a number
that is too large is malformed.

In messages a floating-point number has the fewest digits that read back, at
least one of them after the point. Where its first digit stands more than
fifteen places before the point or more than five after it, an exponent is
written.

## Main definitions

* `Number`: An integer or a floating-point number.
* `fit`: The digits that fit into the significand.
* `readNumber`: The number at the start of the text, and what follows it.
* `floatText`: A floating-point number as it is written.

## Theorems

* `fit_lt`: The significand stays within its range.
* `readNumber_length_le`: What follows is no longer than what was there.
-/

namespace OData

namespace Json

/-- A number. -/
inductive Number where
  /-- An integer that is not negative. -/
  | natural (n : Nat)
  /-- The negative of a positive integer. -/
  | negative (n : Nat)
  /-- A floating-point number with its sign. -/
  | float (isNegative : Bool) (x : Binary64)
deriving DecidableEq

/-- The range of the significand. -/
def significandRange : Nat := 0x10000000000000000

/-- Takes digits into a significand as long as they fit, and returns the digits
    that are left. -/
def fit (n : Nat) : List Char → Nat × List Char
  | [] => (n, [])
  | c :: cs =>
    let m := 10 * n + Text.digitValue c
    if m < significandRange then fit m cs else (n, c :: cs)

/-- The digits at the start of a text, and what follows them. -/
def spanDigits (cs : List Char) : List Char × List Char :=
  (cs.takeWhile Char.isDigit, cs.dropWhile Char.isDigit)

/-- What a missing digit means: the document was cut short, or it is
    malformed. -/
def missingDigit (cs : List Char) : Fault :=
  if cs.isEmpty then .truncated else .malformed

/-- The greatest exponent that is looked at. -/
def maxExponent : Nat := 0x7fffffff

/-- A floating-point number from its parts. -/
def ofParts (isNegative : Bool) (significand : Nat) (exponent : Int) : Except Fault Number :=
  match Binary64.ofDecimal? significand exponent with
  | some x => .ok (.float isNegative x)
  | none => .error .malformed

/-- A floating-point number from its parts and an exponent that is out of all
    range. -/
def ofHugeExponent (isNegative : Bool) (significand : Nat) (down : Bool) : Except Fault Number :=
  if significand = 0 ∨ down then .ok (.float isNegative .zero) else .error .malformed

/-- A floating-point number from its parts and an exponent that was written. -/
def ofExponent (isNegative : Bool) (significand : Nat) (exponent : Int) (down : Bool) (e : Nat) :
    Except Fault Number :=
  if maxExponent < e then ofHugeExponent isNegative significand down
  else ofParts isNegative significand (if down then exponent - e else exponent + e)

/-- The sign of an exponent, and what follows it. -/
def exponentSign : List Char → Bool × List Char
  | '+' :: cs => (false, cs)
  | '-' :: cs => (true, cs)
  | cs => (false, cs)

/-- A number with what follows it. -/
def withRest (after : List Char) (n : Except Fault Number) : Except Fault (Number × List Char) :=
  n.map (·, after)

/-- Reads an exponent if there is one and puts a floating-point number
    together. -/
def readExponent (isNegative : Bool) (significand : Nat) (exponent : Int) :
    List Char → Except Fault (Number × List Char)
  | [] => withRest [] (ofParts isNegative significand exponent)
  | c :: rest =>
    if c = 'e' ∨ c = 'E' then
      let (down, unsigned) := exponentSign rest
      let (digits, after) := spanDigits unsigned
      if digits.isEmpty then .error (missingDigit after)
      else withRest after (ofExponent isNegative significand exponent down (Text.ofDigits digits))
    else withRest (c :: rest) (ofParts isNegative significand exponent)

/-- Reads the fraction after a point, given the significand and exponent of what
    stands before it. -/
def readFraction (isNegative : Bool) (significand : Nat) (exponent : Int) (cs : List Char) :
    Except Fault (Number × List Char) :=
  let (digits, after) := spanDigits cs
  if digits.isEmpty then .error (missingDigit after)
  else
    let (significand', left) := fit significand digits
    readExponent isNegative significand' (exponent - (digits.length - left.length)) after

/-- The size of the least negative integer of 64 bits. -/
def maxNegative : Nat := 0x8000000000000000

/-- An integer of 64 bits, or minus zero or an integer below them. -/
def ofInteger (isNegative : Bool) (n : Nat) : Except Fault Number :=
  if !isNegative then .ok (.natural n)
  else if 0 < n ∧ n ≤ maxNegative then .ok (.negative n)
  else ofParts true n 0

/-- Reads on after the digits before the point, of which some may be left
    over. -/
def readRest (isNegative : Bool) (significand leftOver : Nat) :
    List Char → Except Fault (Number × List Char)
  | '.' :: rest => readFraction isNegative significand leftOver rest
  | cs =>
    if leftOver = 0 ∧ cs.head? ≠ some 'e' ∧ cs.head? ≠ some 'E' then
      withRest cs (ofInteger isNegative significand)
    else readExponent isNegative significand leftOver cs

/-- The number at the start of the text after its sign, and what follows it. -/
def readNumber (isNegative : Bool) (cs : List Char) : Except Fault (Number × List Char) :=
  let (digits, after) := spanDigits cs
  match digits with
  | [] => .error (missingDigit after)
  | '0' :: _ :: _ => .error .malformed
  | _ =>
    let (significand, left) := fit 0 digits
    readRest isNegative significand left.length after

/-- The places before the point within which no exponent is written. -/
def maxPlaces : Int := 15

/-- The places after the point within which no exponent is written. -/
def maxZeros : Int := 5

/-- A positive floating-point number as it is written, from its digits and the
    place of the first one. -/
def layout (digits : List Char) (leading : Int) : List Char :=
  if leading < -maxZeros ∨ maxPlaces < leading then
    let exponent := (if leading < 0 then '-' else '+') :: Text.digits leading.natAbs
    match digits with
    | d :: e :: ds => d :: '.' :: e :: ds ++ 'e' :: exponent
    | ds => ds ++ 'e' :: exponent
  else if leading < 0 then
    '0' :: '.' :: List.replicate (-leading - 1).toNat '0' ++ digits
  else
    let whole := leading.toNat + 1
    if digits.length ≤ whole then
      digits ++ List.replicate (whole - digits.length) '0' ++ ['.', '0']
    else digits.take whole ++ '.' :: digits.drop whole

/-- A floating-point number as it is written. -/
def floatText (isNegative : Bool) (x : Binary64) : String :=
  let (n, place) := x.shortest
  let digits := Text.digits n
  (if isNegative then "-" else "") ++
    String.ofList (layout digits (place + digits.length - 1))

/-- What a message says of a number. -/
def Number.found : Number → Found
  | natural n => .integer n
  | negative n => .integer (-n)
  | float isNegative x => .float (floatText isNegative x)

theorem fit_lt {n : Nat} (h : n < significandRange) (cs : List Char) :
    (fit n cs).1 < significandRange := by
  induction cs generalizing n with
  | nil => exact h
  | cons c cs ih =>
      simp only [fit]
      split
      · rename_i hm
        exact ih hm
      · exact h

theorem length_spanDigits_le (cs : List Char) : (spanDigits cs).2.length ≤ cs.length :=
  (List.dropWhile_suffix Char.isDigit).length_le

theorem length_exponentSign_le (cs : List Char) : (exponentSign cs).2.length ≤ cs.length := by
  unfold exponentSign
  split
  · exact Nat.le_succ _
  · exact Nat.le_succ _
  · exact Nat.le_refl _

theorem eq_of_withRest {after rest : List Char} {x : Except Fault Number} {n : Number}
    (h : withRest after x = .ok (n, rest)) : rest = after := by
  cases x with
  | error f => simp only [withRest, Except.map, reduceCtorEq] at h
  | ok m =>
      simp only [withRest, Except.map, Except.ok.injEq, Prod.mk.injEq] at h
      exact h.2.symm

theorem readExponent_length_le {isNegative : Bool} {significand : Nat} {exponent : Int}
    {cs rest : List Char} {n : Number}
    (h : readExponent isNegative significand exponent cs = .ok (n, rest)) :
    rest.length ≤ cs.length := by
  cases cs with
  | nil => exact Nat.le_of_eq (congrArg List.length (eq_of_withRest h))
  | cons c cs =>
      simp only [readExponent] at h
      split at h
      · split at h
        · simp only [reduceCtorEq] at h
        · rw [eq_of_withRest h]
          exact Nat.le_succ_of_le
            (Nat.le_trans (length_spanDigits_le _) (length_exponentSign_le cs))
      · exact Nat.le_of_eq (congrArg List.length (eq_of_withRest h))

theorem readFraction_length_le {isNegative : Bool} {significand : Nat} {exponent : Int}
    {cs rest : List Char} {n : Number}
    (h : readFraction isNegative significand exponent cs = .ok (n, rest)) :
    rest.length ≤ cs.length := by
  simp only [readFraction] at h
  split at h
  · simp only [reduceCtorEq] at h
  · exact Nat.le_trans (readExponent_length_le h) (length_spanDigits_le cs)

theorem readRest_length_le {isNegative : Bool} {significand leftOver : Nat}
    {cs rest : List Char} {n : Number}
    (h : readRest isNegative significand leftOver cs = .ok (n, rest)) :
    rest.length ≤ cs.length := by
  unfold readRest at h
  split at h
  · exact Nat.le_succ_of_le (readFraction_length_le h)
  · split at h
    · exact Nat.le_of_eq (congrArg List.length (eq_of_withRest h))
    · exact readExponent_length_le h

theorem readNumber_length_le {isNegative : Bool} {cs rest : List Char} {n : Number}
    (h : readNumber isNegative cs = .ok (n, rest)) : rest.length ≤ cs.length := by
  simp only [readNumber] at h
  split at h
  · simp only [reduceCtorEq] at h
  · simp only [reduceCtorEq] at h
  · exact Nat.le_trans (readRest_length_le h) (length_spanDigits_le cs)

end Json

end OData
