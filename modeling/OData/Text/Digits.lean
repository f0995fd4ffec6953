/-!
# Decimal Digits

How natural numbers and integers are written, and how they are read back.

Numbers are written in base ten without leading zeros, or padded with zeros to
a least width where a format asks for one. A negative integer carries a minus
sign in front.

Reading is a left fold over digits. Both directions work on lists of
characters, so that a proof never has to look inside a string.

## Main definitions

* `digits`: The digits of a number.
* `padded`: The digits, padded with zeros on the left.
* `decimal`, `signed`: The text of a number and of an integer.
* `digitValue`: The number a digit stands for.
* `ofDigits`: The number a run of digits stands for.

## Theorems

* `digits_ne_nil`: A number has at least one digit.
* `isDigit_of_mem_digits`, `isDigit_of_mem_padded`: Nothing but digits is
  written.
* `ofDigits_digits`, `ofDigits_padded`: A written number is read back.
* `length_padded`: Padding reaches the least width.
-/

namespace OData

namespace Text

/-- The decimal digits of a number, without leading zeros. -/
def digits (n : Nat) : List Char :=
  Nat.toDigits 10 n

/-- The decimal digits, with zeros in front up to the least width. -/
def padded (width n : Nat) : List Char :=
  (digits n).leftpad width '0'

/-- The text of a number. -/
def decimal (n : Nat) : String :=
  String.ofList (digits n)

/-- The text of an integer, with a minus sign in front of a negative one. -/
def signed (n : Int) : String :=
  (if n < 0 then "-" else "") ++ decimal n.natAbs

/-- The number a decimal digit stands for. -/
def digitValue (c : Char) : Nat :=
  c.toNat - '0'.toNat

/-- The number a run of decimal digits stands for. -/
def ofDigits (cs : List Char) : Nat :=
  cs.foldl (fun n c => 10 * n + digitValue c) 0

@[simp]
theorem digits_ne_nil (n : Nat) : digits n ≠ [] := by
  intro h
  have hpos : 0 < (digits n).length := Nat.length_toDigits_pos
  rw [h] at hpos
  exact Nat.lt_irrefl 0 hpos

theorem isDigit_of_mem_digits {n : Nat} {c : Char} (h : c ∈ digits n) : c.isDigit = true :=
  Nat.isDigit_of_mem_toDigits (by decide) (by decide) h

theorem forall_mem_leftpad {p : Char → Prop} {width : Nat} {cs : List Char} (hzero : p '0')
    (h : ∀ c ∈ cs, p c) : ∀ c ∈ cs.leftpad width '0', p c := by
  intro c hc
  rw [List.leftpad, List.mem_append] at hc
  rcases hc with hc | hc
  · rw [List.eq_of_mem_replicate hc]
    exact hzero
  · exact h c hc

theorem isDigit_of_mem_padded {width n : Nat} {c : Char} (h : c ∈ padded width n) :
    c.isDigit = true := by
  have hdigits : ∀ c ∈ digits n, c.isDigit = true := fun _ => isDigit_of_mem_digits
  have hpadded : ∀ c ∈ padded width n, c.isDigit = true := forall_mem_leftpad rfl hdigits
  exact hpadded c h

@[simp]
theorem ofDigits_digits (n : Nat) : ofDigits (digits n) = n :=
  Nat.ofDigitChars_ten_toDigits

@[simp]
theorem ofDigits_leftpad (width : Nat) (cs : List Char) :
    ofDigits (cs.leftpad width '0') = ofDigits cs := by
  have hzeros (k : Nat) : ofDigits (List.replicate k '0') = 0 := by
    induction k with
    | zero => rfl
    | succ k ih => exact ih
  have hfold : ofDigits (cs.leftpad width '0') =
      cs.foldl (fun n c => 10 * n + digitValue c) (ofDigits (List.replicate _ '0')) :=
    List.foldl_append
  rw [hfold, hzeros, ofDigits]

@[simp]
theorem ofDigits_padded (width n : Nat) : ofDigits (padded width n) = n :=
  (ofDigits_leftpad width (digits n)).trans (ofDigits_digits n)

@[simp]
theorem length_padded (width n : Nat) :
    (padded width n).length = max width (digits n).length := by
  simp only [padded, List.leftpad, List.length_append, List.length_replicate]
  omega

end Text

end OData
