import OData.Proofs.Remainder

/-!
# Items between Brackets

A bracket holds items with commas between them and blanks around them. Items are
taken apart by commas in a description and one by one from the left in a reader,
and the blanks behind an item belong to it in the one and stand in front of what
comes next in the other. So the same text has two descriptions.

`Bracketed` is the first, and what a document is said to hold is said in its
terms. `ItemsLeft` is the second. In it a reader has passed some items and sees
the rest of the bracket, where every item but the first starts with the comma in
front of it. `bracketed_iff` ties the two together, for any kind of item, so that
a reader only has to be compared with the second.

## Main definitions

* `Spaced`: A text with blanks around it.
* `Separated`: Texts with commas between them.
* `Bracketed`: A whole bracket with blanks around it.
* `Lead`: What stands in front of an item.
* `ItemsLeft`: The items of a bracket that are left, up to its end.

## Theorems

* `bracketed_iff`: A bracket is what opens it and all of its items.
* `ItemsLeft.stops`: Between items no number goes on.
-/

namespace OData

namespace Json

open Skip

/-- A text with blanks around it. -/
def Spaced {α : Type} (Item : α → List Char → Prop) (a : α) (cs : List Char) : Prop :=
  ∃ b i b', Blanks b ∧ Item a i ∧ Blanks b' ∧ cs = b ++ (i ++ b')

/-- Texts with commas between them. There is at least one. -/
inductive Separated {α : Type} (Part : α → List Char → Prop) : List α → List Char → Prop where
  | last {a : α} {cs : List Char} (h : Part a cs) : Separated Part [a] cs
  | more {a : α} {as : List α} {cs ds : List Char} (h : Part a cs) (hs : Separated Part as ds) :
      Separated Part (a :: as) (cs ++ ',' :: ds)

/-- What stands between brackets. -/
def Inside {α : Type} (Item : α → List Char → Prop) (as : List α) (cs : List Char) : Prop :=
  as = [] ∧ Blanks cs ∨ Separated (Spaced Item) as cs

/-- A whole bracket with blanks around it. -/
def Bracketed {α : Type} (k : Bracket) (Item : α → List Char → Prop) (as : List α)
    (cs : List Char) : Prop :=
  ∃ b inner b', Blanks b ∧ Inside Item as inner ∧ Blanks b' ∧
    cs = b ++ k.opening :: (inner ++ k.closing :: b')

/-- What stands in front of an item: blanks, and a comma among them unless the
    item is the first. -/
def Lead : Bool → List Char → Prop
  | true, cs => Blanks cs
  | false, cs => ∃ b b', Blanks b ∧ Blanks b' ∧ cs = b ++ ',' :: b'

/-- The items of a bracket that are left, up to its end, and what follows it. -/
inductive ItemsLeft {α : Type} (k : Bracket) (Item : α → List Char → Prop) :
    Bool → List α → List Char → List Char → Prop where
  | close {first : Bool} {b rest : List Char} (hb : Blanks b) :
      ItemsLeft k Item first [] (b ++ k.closing :: rest) rest
  | item {first : Bool} {a : α} {as : List α} {lead i more rest : List Char}
      (hlead : Lead first lead) (hi : Item a i) (h : ItemsLeft k Item false as more rest) :
      ItemsLeft k Item first (a :: as) (lead ++ (i ++ more)) rest

section

variable {α : Type} {k : Bracket} {Item : α → List Char → Prop} {first : Bool} {as : List α}
  {cs rest : List Char}

theorem Lead.append {lead b : List Char} (h : Lead first lead) (hb : Blanks b) :
    Lead first (lead ++ b) := by
  cases first with
  | true => exact List.forall_mem_append.mpr ⟨h, hb⟩
  | false =>
      rcases h with ⟨b1, b2, hb1, hb2, rfl⟩
      exact ⟨b1, b2 ++ b, hb1, List.forall_mem_append.mpr ⟨hb2, hb⟩, List.append_assoc _ _ _⟩

/-! ### From commas to leads -/

-- What stands in front is carried along, since a comma belongs to the item behind it.
theorem itemsLeft_of_separated (front : List Char)
    (hfront : ∀ b, Blanks b → Lead first (front ++ b)) (h : Separated (Spaced Item) as cs) :
    ItemsLeft k Item first as (front ++ (cs ++ k.closing :: rest)) rest := by
  induction h generalizing first front with
  | @last a cs h =>
      rcases h with ⟨b, i, b', hb, hi, hb', rfl⟩
      have hclose : ItemsLeft k Item false [] (b' ++ k.closing :: rest) rest := .close hb'
      have hleft := ItemsLeft.item (hfront b hb) hi hclose
      simpa only [List.append_assoc] using hleft
  | @more a as cs ds h hs ih =>
      rcases h with ⟨b, i, b', hb, hi, hb', rfl⟩
      have hcomma : ∀ b, Blanks b → Lead false ((b' ++ [',']) ++ b) := by
        intro d hd
        exact ⟨b', d, hb', hd, by rw [List.append_assoc]; rfl⟩
      have hleft := ItemsLeft.item (hfront b hb) hi (ih _ hcomma)
      simpa only [List.append_assoc, List.cons_append, List.nil_append] using hleft

theorem itemsLeft_of_inside (h : Inside Item as cs) :
    ItemsLeft k Item true as (cs ++ k.closing :: rest) rest := by
  rcases h with ⟨rfl, hb⟩ | hseparated
  · exact .close hb
  · exact itemsLeft_of_separated [] (fun _ hb => hb) hseparated

/-! ### From leads to commas -/

/-- What stands behind an item inside of its bracket. -/
def Behind (Item : α → List Char → Prop) (as : List α) (cs : List Char) : Prop :=
  as = [] ∧ Blanks cs ∨ ∃ b ds, Blanks b ∧ Separated (Spaced Item) as ds ∧ cs = b ++ ',' :: ds

theorem separated_of_behind {a : α} {b i : List Char} (hb : Blanks b) (hi : Item a i)
    (h : Behind Item as cs) : Separated (Spaced Item) (a :: as) (b ++ (i ++ cs)) := by
  rcases h with ⟨rfl, hcs⟩ | ⟨b', ds, hb', hds, rfl⟩
  · exact .last ⟨b, i, cs, hb, hi, hcs, rfl⟩
  · have hmore := Separated.more ⟨b, i, b', hb, hi, hb', rfl⟩ hds
    simpa only [List.append_assoc] using hmore

theorem exists_of_itemsLeft (h : ItemsLeft k Item first as cs rest) :
    ∃ inner, cs = inner ++ k.closing :: rest ∧
      if first then Inside Item as inner else Behind Item as inner := by
  induction h with
  | @close first b rest hb =>
      refine ⟨b, rfl, ?_⟩
      cases first <;> exact .inl ⟨rfl, hb⟩
  | @item first a as lead i more rest hlead hi h ih =>
      rcases ih with ⟨inner, rfl, hbehind⟩
      refine ⟨lead ++ (i ++ inner), by simp only [List.append_assoc], ?_⟩
      cases first with
      | true => exact .inr (separated_of_behind hlead hi hbehind)
      | false =>
          rcases hlead with ⟨b, b', hb, hb', rfl⟩
          refine .inr ⟨b, b' ++ (i ++ inner), hb, separated_of_behind hb' hi hbehind, ?_⟩
          simp only [List.append_assoc, List.cons_append]

/-- A bracket is what opens it and all of its items. -/
theorem bracketed_iff : Bracketed k Item as cs ↔
    ∃ b more rest, Blanks b ∧ ItemsLeft k Item true as more rest ∧ Blanks rest ∧
      cs = b ++ k.opening :: more := by
  constructor
  · rintro ⟨b, inner, b', hb, hinner, hb', rfl⟩
    exact ⟨b, _, b', hb, itemsLeft_of_inside hinner, hb', rfl⟩
  · rintro ⟨b, _, b', hb, hleft, hb', rfl⟩
    rcases exists_of_itemsLeft hleft with ⟨inner, rfl, hinner⟩
    exact ⟨b, inner, b', hb, hinner, hb', rfl⟩

/-- Between items no number goes on. -/
theorem ItemsLeft.stops (h : ItemsLeft k Item false as cs rest) : Stops cs := by
  cases h with
  | close hb => exact Stops.blanks hb (by cases k <;> simp [Stops, Bracket.closing])
  | item hlead hi h =>
      rcases hlead with ⟨b, b', hb, hb', rfl⟩
      rw [List.append_assoc, List.cons_append]
      exact Stops.blanks hb (by simp [Stops])

end

end Json

end OData
