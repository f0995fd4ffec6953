import OData.Proofs.Accessors

/-!
# Members That Share a Variant

Members with different names need not have different variants. Upper camel case
drops the underscores of a name and the case of its letters, and keeps of both
only what shows where words begin. So `total_price` and `totalPrice` have the
same variant. Nor does it show where every word begins. A word that begins with
a letter has a capital, but a digit has none, so `v12` and `v1_2` have the same
variant too.

For names of the first 128 characters this is all that is lost. Two names have
the same variant if and only if their words, put in lower case and marked with
an underscore where they begin with a letter, read the same. The marks can be
read off the variant, because in it the capitals are the letters that begin
words, and the variant can be read off the marks.

When a schema is made, variants are not held against each other, so a schema
may have one that occurs twice. If the marks of all members differ, every
accessor is sent as the wire name of its member.

## Main definitions

* `marked`, `wordMarks`: The words of a name, marked where they begin.
* `raised`: Capitals put in place of the marks.
* `Member.marks`: What the variant of a member keeps of its name.
* `Member.IsAscii`: Names of the first 128 characters.

## Theorems

* `raised_parted`: Marking capitals loses nothing.
* `parted_upperCamel_of_ascii`: From upper camel case to marked words.
* `upperCamel_eq_iff`: Which names are the same in upper camel case.
* `variants_nodup_iff_marks_nodup`: Which records have a variant for every
  member, and what follows.
* `members_share_a_variant`: A record that has not.
-/

namespace OData

namespace Text

/-- A word in lower case, with an underscore in front if it begins with a
    letter. -/
def marked : List Char → List Char
  | [] => []
  | c :: cs =>
    if c.isDigit then c :: cs.map Char.toLower else '_' :: c.toLower :: cs.map Char.toLower

/-- The words of a name in lower case, marked where they begin. -/
def wordMarks (name : List Char) : List Char :=
  (words name).flatMap marked

/-- A text with capitals in place of the letters behind underscores. -/
def raised : List Char → List Char
  | [] => []
  | '_' :: c :: cs => c.toUpper :: raised cs
  | c :: cs => c :: raised cs

variable {c : Char} {w name name' : List Char}

theorem ascii_cased (hc : c.toNat < 128) :
    c.toLower.isUpper = false ∧
      (c.isAlphanum = true → c.toUpper ≠ '_' ∧ c.toLower ≠ '_' ∧
        (c.isDigit = true → c.toUpper = c ∧ c.isUpper = false) ∧
        (c.isDigit = false → c.toUpper.isUpper = true ∧ c.toUpper.toLower = c.toLower)) :=
  Unicode.forall_ascii (P := fun c => c.toLower.isUpper = false ∧
    (c.isAlphanum = true → c.toUpper ≠ '_' ∧ c.toLower ≠ '_' ∧
      (c.isDigit = true → c.toUpper = c ∧ c.isUpper = false) ∧
      (c.isDigit = false → c.toUpper.isUpper = true ∧ c.toUpper.toLower = c.toLower)))
    (by decide) hc

theorem toUpper_toLower_of_isUpper (h : c.isUpper = true) : c.toLower.toUpper = c :=
  Unicode.forall_ascii (P := fun c => c.isUpper = true → c.toLower.toUpper = c) (by decide)
    (toNat_lt_of_letter_or_digit (.inr (.inl h))) h

theorem raised_cons (hc : c ≠ '_') (cs : List Char) : raised (c :: cs) = c :: raised cs := by
  rw [raised]
  exact fun _ _ heq _ => hc heq

/-- A text without underscores is found again when its capitals have been
    marked. -/
theorem raised_parted {cs : List Char} (h : '_' ∉ cs) : raised (parted cs) = cs := by
  induction cs with
  | nil => rfl
  | cons c cs ih =>
      rw [List.mem_cons, not_or] at h
      have ih := ih h.2
      unfold parted at ih ⊢
      rw [List.flatMap_cons]
      by_cases hupper : c.isUpper = true
      · rw [if_pos hupper, List.cons_append, List.singleton_append, raised,
          toUpper_toLower_of_isUpper hupper, ih]
      · rw [if_neg hupper, List.singleton_append, raised_cons (Ne.symm h.1), ih]

theorem lowered_of_ascii (h : ∀ c ∈ w, c.toNat < 128) : lowered w = w.map Char.toLower := by
  refine lowered_eq_map fun c hc => ⟨?_, Unicode.toLowercase_of_ascii (h c hc)⟩
  rintro rfl
  exact absurd (h 'Σ' hc) (by decide)

theorem capitalized_of_ascii {c : Char} {cs : List Char} (h : ∀ d ∈ c :: cs, d.toNat < 128) :
    capitalized (c :: cs) = c.toUpper :: cs.map Char.toLower := by
  rw [List.forall_mem_cons] at h
  rw [capitalized, Unicode.toUppercase_of_ascii h.1, lowered_of_ascii h.2, List.singleton_append]

-- In lower case there is nothing to mark.
theorem parted_map_toLower (h : ∀ c ∈ w, c.toNat < 128) :
    parted (w.map Char.toLower) = w.map Char.toLower := by
  have hsame : ∀ c ∈ w, (if c.toLower.isUpper then ['_', c.toLower.toLower] else [c.toLower]) =
      [c.toLower] := by
    intro c hc
    rw [(ascii_cased (h c hc)).1, if_neg Bool.false_ne_true]
  rw [parted, List.flatMap_map, List.flatMap_congr hsame, ← List.map_eq_flatMap]

-- The capital of a word becomes its mark, and a digit has neither.
theorem parted_capitalized_of_ascii (h : ∀ c ∈ w, c.toNat < 128)
    (halphanum : ∀ c ∈ w, c.isAlphanum = true) : parted (capitalized w) = marked w := by
  cases w with
  | nil => rfl
  | cons c cs =>
      rw [capitalized_of_ascii h]
      rw [List.forall_mem_cons] at h halphanum
      rcases (ascii_cased h.1).2 halphanum.1 with ⟨_, _, hdigit, hletter⟩
      have hrest := parted_map_toLower h.2
      unfold parted at hrest ⊢
      rw [List.flatMap_cons, hrest, marked]
      by_cases hc : c.isDigit = true
      · rcases hdigit hc with ⟨hsame, hupper⟩
        rw [if_pos hc, hsame, hupper, if_neg Bool.false_ne_true, List.singleton_append]
      · rcases hletter (Bool.eq_false_iff.mpr hc) with ⟨hupper, hlower⟩
        rw [if_neg hc, if_pos hupper, hlower, List.cons_append, List.singleton_append]

theorem ascii_of_mem_words (h : ∀ c ∈ name, c.toNat < 128) (hw : w ∈ words name) :
    ∀ c ∈ w, c.toNat < 128 ∧ c.isAlphanum = true := by
  intro c hc
  rcases mem_of_mem_words hw hc with ⟨hname, halphanum⟩
  rw [Unicode.isAlphanumeric_of_ascii (h c hname)] at halphanum
  exact ⟨h c hname, halphanum⟩

/-- Upper camel case keeps the words of a name as far as their marks show
    them. -/
theorem parted_upperCamel_of_ascii (h : ∀ c ∈ name, c.toNat < 128) :
    parted (upperCamel name) = wordMarks name := by
  have hparted : ∀ w ∈ words name, parted (capitalized w) = marked w := fun w hw =>
    parted_capitalized_of_ascii (fun c hc => (ascii_of_mem_words h hw c hc).1)
      fun c hc => (ascii_of_mem_words h hw c hc).2
  unfold parted at hparted
  rw [parted, upperCamel, List.flatMap_assoc, List.flatMap_congr hparted, wordMarks]

theorem not_mem_upperCamel (h : ∀ c ∈ name, c.toNat < 128) : '_' ∉ upperCamel name := by
  intro hmem
  rcases List.mem_flatMap.mp hmem with ⟨w, hw, hmem⟩
  have hascii := ascii_of_mem_words h hw
  cases w with
  | nil => exact absurd hmem List.not_mem_nil
  | cons c cs =>
      rw [capitalized_of_ascii fun d hd => (hascii d hd).1, List.mem_cons, List.mem_map] at hmem
      rcases hmem with heq | ⟨d, hd, heq⟩
      · rcases hascii c List.mem_cons_self with ⟨hc, halphanum⟩
        exact ((ascii_cased hc).2 halphanum).1 heq.symm
      · rcases hascii d (List.mem_cons_of_mem c hd) with ⟨hd, halphanum⟩
        exact ((ascii_cased hd).2 halphanum).2.1 heq

/-- Two names are the same in upper camel case exactly when their marked words
    are. -/
theorem upperCamel_eq_iff (h : ∀ c ∈ name, c.toNat < 128) (h' : ∀ c ∈ name', c.toNat < 128) :
    upperCamel name = upperCamel name' ↔ wordMarks name = wordMarks name' := by
  rw [← parted_upperCamel_of_ascii h, ← parted_upperCamel_of_ascii h']
  constructor
  · exact congrArg parted
  · intro heq
    have hraised := congrArg raised heq
    rw [raised_parted (not_mem_upperCamel h), raised_parted (not_mem_upperCamel h')] at hraised
    exact hraised

end Text

namespace Schema

/-- The words of a member's name, marked where they begin. -/
def Member.marks (m : Member) : String :=
  String.ofList (Text.wordMarks (bareName m.name.toList))

/-- The name is made of the first 128 characters. -/
def Member.IsAscii (m : Member) : Prop :=
  ∀ c ∈ m.name.toList, c.toNat < 128

-- Decided by a walk along the name, not by one over all characters there are.
instance (m : Member) : Decidable m.IsAscii :=
  List.decidableBAll (fun c : Char => c.toNat < 128) m.name.toList

variable {m m' : Member} {members : List Member} {c : Char} {name : List Char}

theorem mem_of_mem_bareName (h : c ∈ bareName name) : c ∈ name := by
  induction name using bareName.induct with
  | case1 cs ih =>
      rw [bareName] at h
      exact List.mem_cons_of_mem _ (List.mem_cons_of_mem _ (ih h))
  | case2 cs hnot =>
      rw [bareName] at h
      · exact h
      · exact hnot

theorem Member.variant_eq_iff (h : m.IsAscii) (h' : m'.IsAscii) :
    m.variant = m'.variant ↔ m.marks = m'.marks := by
  rw [variant, variant, marks, marks, String.ofList_inj, String.ofList_inj]
  exact Text.upperCamel_eq_iff (fun c hc => h c (mem_of_mem_bareName hc))
    fun c hc => h' c (mem_of_mem_bareName hc)

/-- A schema has different variants for all members exactly when the marked
    words of their names differ, and then every accessor is sent as the wire
    name of its member. -/
theorem variants_nodup_iff_marks_nodup (r : Record) (members : List Member) (e : Expansion)
    (hbody : r.body = .named members) (hascii : ∀ m ∈ members, m.IsAscii)
    (h : r.assemble = .ok e) :
    (e.variants.Nodup ↔ (members.map Member.marks).Nodup) ∧
      (e.variants.Nodup → ∀ m ∈ members, e.resolve? m.name = some m.wireName) := by
  rcases Record.lists_of_assemble hbody h with ⟨hvariants, hwireNames, schema, hconstructors⟩
  rw [hvariants]
  constructor
  · unfold List.Nodup
    rw [List.pairwise_map, List.pairwise_map]
    exact List.Pairwise.iff_of_mem fun hm hm' =>
      not_congr (Member.variant_eq_iff (hascii _ hm) (hascii _ hm'))
  · intro hnodup m hm
    -- Members with the same name have the same variant.
    have hbare : (members.map Member.bare).Nodup := by
      refine List.Nodup.of_map (fun s => String.ofList (Text.upperCamel s.toList)) ?_
      have hsame : (fun s => String.ofList (Text.upperCamel s.toList)) ∘ Member.bare =
          Member.variant := by
        funext m
        rw [Function.comp_apply, Member.bare, String.toList_ofList, Member.variant]
      rw [List.map_map, hsame]
      exact hnodup
    rcases List.append_of_mem hm with ⟨before, after, rfl⟩
    exact Expansion.resolve?_eq hwireNames hconstructors (ne_of_mem_before hbare)
      (ne_of_mem_before hnodup)

/-- Members with capitals, underscores and digits at odd places, whose marked
    words differ. -/
theorem marks_of_capitals_and_underscores_differ :
    let id : Member := { name := "_id", type := "i64" }
    let host : Member := { name := "HTTPHost__2", type := "String" }
    let port : Member :=
      { name := "v2Port_", type := "u16"
        attributes := [⟨"odata", .list [⟨"name", some (.text "port")⟩]⟩] }
    let r : Record := { name := "Server", body := .named [id, host, port] }
    ∃ e, r.assemble = .ok e ∧ e.variants = ["Id", "HttpHost2", "V2Port"] ∧ e.variants.Nodup ∧
      e.resolve? "v2Port_" = some "port" := by
  intro id host port r
  have hfault : fault? r.assemble = none := by decide
  rcases fault?_eq_none_iff.mp hfault with ⟨e, he⟩
  rcases variants_nodup_iff_marks_nodup r [id, host, port] e rfl (by decide) he with
    ⟨hiff, hresolve⟩
  have hnodup : e.variants.Nodup := hiff.mpr (by decide)
  have hport : port ∈ [id, host, port] := List.mem_of_getLast? rfl
  have hvariants := (Record.lists_of_assemble rfl he).1
  exact ⟨e, he, hvariants.trans (by decide), hnodup, (hresolve hnodup port hport).trans (by decide)⟩

/-- Two members with different names, neither of them raw and both legal, can
    have the same variant in a schema that is made, and one accessor is sent as
    the wire name of the other. -/
theorem members_share_a_variant :
    let flat : Member := { name := "v12", type := "i64" }
    let parts : Member := { name := "v1_2", type := "i64" }
    let r : Record := { name := "Release", body := .named [flat, parts] }
    (∀ m ∈ [flat, parts], isIdentifier m.name.toList = true ∧ isReserved m.name = false) ∧
      ([flat, parts].map Member.bare).Nodup ∧
      ∃ e, r.expand = .ok e ∧ ¬ e.variants.Nodup ∧ e.resolve? "v1_2" = some "v12" := by
  intro flat parts r
  refine ⟨by decide, by decide, ?_⟩
  have hok : r.expand.toOption.any
      (fun e => !decide e.variants.Nodup && e.resolve? "v1_2" == some "v12") = true := by
    decide
  cases hexpand : r.expand with
  | error fault =>
      rw [hexpand] at hok
      exact absurd hok Bool.false_ne_true
  | ok e =>
      rw [hexpand] at hok
      rcases Bool.and_eq_true_iff.mp hok with ⟨hnodup, hresolve⟩
      exact ⟨e, rfl, of_decide_eq_false (Bool.not_eq_true' _ ▸ hnodup), eq_of_beq hresolve⟩

end Schema

end OData
