import Mathlib.Data.List.Forall2
import OData.Aggregate
import OData.Proofs.Containment
import OData.Proofs.Cut

/-!
# Faithful Serialization

Two queries are written the same way exactly when they ask for the same.

What a query asks for is less than what it holds. Filters count only as the
condition they are joined to, a count flag only if it is true, and an aggregate
clause only if there is something to group by. `Query.Alike` compares queries
in what is left, relation by relation and at every depth.

That alike queries have the same text is the easy half, as every value is
computed from what is compared. The other half takes a text apart again. The
parameters of a query are joined by ampersands, the operators of a relation by
semicolons and lists by commas, and all of these joints can be found, because
the texts between them are closed. Three more cuts are made at a character that
the text in front of it does not hold: a key ends at the equals sign, the head
of a relation at the parenthesis that opens its block, and the fields of a
grouping at the one that closes them. What is lost nowhere in a single level is
lost nowhere in a tree of them.

## Main definitions

* `IsName`: A text with nothing that a query writes for itself.
* `Query.Named`: A query of closed fragments and names.
* `Options.Alike`, `Relation.Alike`, `Query.Alike`: The same is asked for.

## Theorems

* `listed?_eq_iff`: A list is found again in its text.
* `Grammar.isJoint_of_mem_separators`: Both grammars join their lists by commas.
* `Options.applyText?_eq_iff`: So are grouping and its aggregate clause.
* `Options.values_eq_iff`: So are the other options of one level.
* `Parameter.joined_injective`: A joined list of parameters is found again.
* `Relation.text_eq_iff`: So is a relation, at any depth.
* `Query.text_eq_iff_params`: So are the parameters of a query.
* `query_text_eq_iff_alike`: The text of a query is what it asks for.
-/

namespace OData

open Text

/-- A text that holds neither quotes nor parentheses, nor what separates or
    marks the parts of a query. -/
abbrev IsName (s : String) : Prop :=
  Avoids [quote, '(', ')', ',', ';', '&', '!'] s

theorem IsName.closed {stops : List Char} {s : String} (hstops : stops ⊆ Filter.separators)
    (h : IsName s) : Closed stops s :=
  Closed.mono hstops (closed_of_avoids (h.mono (by decide)))

/-- Two levels ask for the same. -/
structure Options.Alike (o o' : Options) : Prop where
  filter : Filter.conjoin o.filters = Filter.conjoin o'.filters
  select : o.select = o'.select
  orderby : o.orderby = o'.orderby
  skip : o.skip = o'.skip
  take : o.take = o'.take
  count : o.count = some true ↔ o'.count = some true

/-- Two relations of the same name ask for the same, and so do the relations
    expanded in them, one by one. -/
inductive Relation.Alike : Relation → Relation → Prop
  | intro {r s : Relation} (key : r.key = s.key) (strict : r.strict = s.strict)
      (options : r.options.Alike s.options) (expands : List.Forall₂ Alike r.expands s.expands) :
      Alike r s

theorem Relation.alike_iff {r s : Relation} :
    r.Alike s ↔ (r.key = s.key ∧ r.strict = s.strict) ∧ r.options.Alike s.options ∧
      List.Forall₂ Alike r.expands s.expands := by
  constructor
  · rintro ⟨hkey, hstrict, hoptions, hexpands⟩
    exact ⟨⟨hkey, hstrict⟩, hoptions, hexpands⟩
  · rintro ⟨⟨hkey, hstrict⟩, hoptions, hexpands⟩
    exact .intro hkey hstrict hoptions hexpands

theorem Options.Alike.refl (o : Options) : o.Alike o :=
  ⟨.refl _, .refl _, .refl _, .refl _, .refl _, .refl _⟩

theorem Relation.Alike.refl (r : Relation) : r.Alike r := by
  induction r using Relation.induction with
  | h r ih => exact .intro (.refl _) (.refl _) (.refl _) (List.forall₂_same.mpr ih)

/-- Two queries ask for the same. -/
structure Query.Alike (q q' : Query) : Prop where
  options : q.options.Alike q'.options
  groupby : q.options.groupby = q'.options.groupby
  aggregator : q.options.groupby ≠ [] → q.options.aggregator = q'.options.aggregator
  expands : List.Forall₂ Relation.Alike q.expands q'.expands

/-- An aggregate clause that is put together from names. -/
def Aggregate.Named (a : Aggregate) : Prop :=
  ∀ e ∈ a.entries, IsName e.property.pathText ∧ IsName e.function.keyword ∧ IsName e.label

/-- A query of closed fragments and names. -/
structure Query.Named (q : Query) : Prop where
  tidy : q.Tidy IsName
  aggregator : ∀ t, q.options.aggregator = some t → ∃ a : Aggregate, a.Named ∧ t = a.text

/-- A clause of names is balanced. -/
theorem Aggregate.Named.closed {a : Aggregate} (h : a.Named) : Closed [] a.text := by
  refine Closed.intercalate (by decide) fun t ht => ?_
  rcases List.mem_map.mp ht with ⟨e, he, rfl⟩
  rcases h e he with ⟨hproperty, hfunction, hlabel⟩
  have hname {s : String} (hs : IsName s) : Closed [] s := hs.closed (List.nil_subset _)
  have hwith : Closed [] " with " := by decide
  have has : Closed [] " as " := by decide
  have hmethod := ((hname hproperty).append hwith).append (hname hfunction)
  exact (hmethod.append has).append (hname hlabel)

/-- Lists look the same when their members do, one by one. -/
theorem map_eq_map_iff {α β γ : Type} {R : α → β → Prop} {f : α → γ} {g : β → γ} {xs : List α}
    {ys : List β} (h : ∀ x ∈ xs, ∀ y ∈ ys, f x = g y ↔ R x y) :
    xs.map f = ys.map g ↔ List.Forall₂ R xs ys := by
  induction xs generalizing ys with
  | nil => rw [List.map_nil, List.forall₂_nil_left_iff, eq_comm, List.map_eq_nil_iff]
  | cons x xs ih =>
      cases ys with
      | nil => exact ⟨nofun, nofun⟩
      | cons y ys =>
          have hhead := h x List.mem_cons_self y List.mem_cons_self
          have htail := ih fun a ha b hb =>
            h a (List.mem_cons_of_mem _ ha) b (List.mem_cons_of_mem _ hb)
          rw [List.map_cons, List.map_cons, List.cons.injEq, List.forall₂_cons, hhead, htail]

-- A list is found again if it is when both lists hold something.
theorem listed?_eq_iff_of_inj {joint : String} {ps qs : List String}
    (hinj : ps ≠ [] → qs ≠ [] → joint.intercalate ps = joint.intercalate qs → ps = qs) :
    listed? joint ps = listed? joint qs ↔ ps = qs := by
  refine ⟨fun h => ?_, fun h => by rw [h]⟩
  cases ps with
  | nil => exact (listed?_eq_none_iff.mp h.symm).symm
  | cons p ps =>
      cases qs with
      | nil => exact listed?_eq_none_iff.mp h
      | cons q qs => exact hinj nofun nofun (Option.some.inj h)

/-- A list is found again in its text, whatever follows the commas. -/
theorem listed?_eq_iff {joint : String} {ps qs : List String} (hjoint : IsJoint ',' joint)
    (hps : ∀ p ∈ ps, Closed [','] p) (hqs : ∀ q ∈ qs, Closed [','] q) :
    listed? joint ps = listed? joint qs ↔ ps = qs :=
  listed?_eq_iff_of_inj fun hne hne' => intercalate_inj hjoint rfl hps hqs hne hne'

-- Every list of both grammars is joined by a comma, some with a blank behind it.
theorem Grammar.isJoint_of_mem_separators {g : Grammar} {sep : String}
    (hg : g ∈ [Grammar.topLevel, Grammar.block]) (hsep : sep ∈ g.separators) :
    IsJoint ',' sep := by
  have hcomma : IsJoint ',' "," := isJoint_singleton
  have hblank : IsJoint ',' ", " := ⟨" ", rfl, by decide⟩
  simp only [List.mem_cons, List.not_mem_nil, or_false] at hg
  rcases hg with rfl | rfl
  · simp only [separators, topLevel, List.mem_cons, List.not_mem_nil, or_false] at hsep
    rcases hsep with rfl | rfl | rfl
    · exact hcomma
    · exact hblank
    · exact hcomma
  · simp only [separators, block, List.mem_cons, List.not_mem_nil, or_false, or_self] at hsep
    rw [hsep]
    exact hcomma

theorem decimal_injective {m n : Nat} (h : decimal m = decimal n) : m = n := by
  have hdigits : digits m = digits n := String.ofList_inj.mp h
  calc
    m = ofDigits (digits m) := (ofDigits_digits m).symm
    _ = ofDigits (digits n) := by rw [hdigits]
    _ = n := ofDigits_digits n

/-- What stands behind the fields of a grouping, but for one parenthesis. -/
def Options.clauseText : Option String → String
  | none => ")"
  | some clause => ", aggregate(" ++ (clause ++ "))")

namespace Options

variable {o o' : Options} {texts texts' : List String}

theorem clauseText_injective {a a' : Option String} (h : clauseText a = clauseText a') :
    a = a' := by
  -- With a clause the text is longer than without, whatever the clause is.
  have hlonger (clause : String) : ")" ≠ ", aggregate(" ++ (clause ++ "))") := by
    intro heq
    have hlen := congrArg String.length heq
    have hone : ")".length = 1 := rfl
    have hmore : ", aggregate(".length = 12 := rfl
    rw [String.length_append, hone, hmore] at hlen
    omega
  cases a with
  | none =>
      cases a' with
      | none => rfl
      | some clause => exact absurd h (hlonger clause)
  | some clause =>
      cases a' with
      | none => exact absurd h.symm (hlonger clause)
      | some clause' =>
          have hclause := (String.append_right_inj _).mp h
          rw [(String.append_left_inj _).mp hclause]

theorem applyText?_eq (o : Options) :
    o.applyText? = (listed? ", " o.groupby).map fun fields =>
      "groupby((" ++ (fields ++ (String.singleton ')' ++ clauseText o.aggregator)) := by
  have hend : "))" = String.singleton ')' ++ ")" := rfl
  have hmiddle : "), aggregate(" = String.singleton ')' ++ ", aggregate(" := rfl
  unfold applyText?
  cases listed? ", " o.groupby with
  | none => rfl
  | some fields =>
      cases o.aggregator with
      | none => simp only [Option.map_some, clauseText, hend, String.append_assoc]
      | some clause => simp only [Option.map_some, clauseText, hmiddle, String.append_assoc]

/-- The fields of a grouping end at the first closing parenthesis. They may hold
    quotes, paired or not. -/
theorem applyText?_eq_iff_of_avoids (hgroupby : ∀ s ∈ o.groupby, Avoids [',', ')'] s)
    (hgroupby' : ∀ s ∈ o'.groupby, Avoids [',', ')'] s) :
    o.applyText? = o'.applyText? ↔
      o.groupby = o'.groupby ∧ (o.groupby ≠ [] → o.aggregator = o'.aggregator) := by
  have hjoint : ", " = String.singleton ',' ++ " " := rfl
  have hlist : listed? ", " o.groupby = listed? ", " o'.groupby ↔ o.groupby = o'.groupby :=
    listed?_eq_iff_of_inj fun hne hne' =>
      intercalate_inj_of_avoids hjoint (fun s hs => (hgroupby s hs).mono (by decide))
        (fun s hs => (hgroupby' s hs).mono (by decide)) hne hne'
  have havoids {ts : List String} {fields : String} (hts : ∀ s ∈ ts, Avoids [',', ')'] s)
      (h : listed? ", " ts = some fields) : Avoids [')'] fields := by
    rw [← (listed?_eq_some_iff.mp h).2]
    exact Over.intercalate (by decide) fun s hs => (hts s hs).mono (by decide)
  rw [applyText?_eq, applyText?_eq]
  cases hfields : listed? ", " o.groupby with
  | none =>
      have hnil := listed?_eq_none_iff.mp hfields
      rw [Option.map_none, eq_comm, Option.map_eq_none_iff, listed?_eq_none_iff, hnil, eq_comm]
      exact ⟨fun h => ⟨h, fun hne => absurd rfl hne⟩, fun h => h.1⟩
  | some fields =>
      have hne := (listed?_eq_some_iff.mp hfields).1
      constructor
      · intro h
        -- The text is cut at the first closing parenthesis, and the fields at their commas.
        rcases Option.map_eq_some_iff.mp h.symm with ⟨fields', hfields', htext⟩
        rcases before_inj (havoids hgroupby' hfields') (havoids hgroupby hfields)
          ((String.append_right_inj _).mp htext) with ⟨hsame, hclause⟩
        exact ⟨hlist.mp (by rw [hfields, hfields', hsame]),
          fun _ => (clauseText_injective hclause).symm⟩
      · rintro ⟨hsame, hclause⟩
        rw [← hsame, hfields, hclause hne]

/-- So a grouping by names is found again. -/
theorem applyText?_eq_iff (hgroupby : ∀ s ∈ o.groupby, IsName s)
    (hgroupby' : ∀ s ∈ o'.groupby, IsName s) :
    o.applyText? = o'.applyText? ↔
      o.groupby = o'.groupby ∧ (o.groupby ≠ [] → o.aggregator = o'.aggregator) :=
  applyText?_eq_iff_of_avoids (fun s hs => (hgroupby s hs).mono (by decide))
    fun s hs => (hgroupby' s hs).mono (by decide)

theorem value?_count_iff {g : Grammar} :
    o.value? g texts .count = some "true" ↔ o.count = some true := by
  simp only [value?, Option.ite_none_right_eq_some, and_true]

/-- Apart from grouping, two levels give all options the same values exactly
    when they ask for the same and expand the same texts. -/
theorem values_eq_iff {g : Grammar} (hg : g ∈ [Grammar.topLevel, Grammar.block])
    (ho : o.Tidy IsName) (ho' : o'.Tidy IsName) (htexts : ∀ t ∈ texts, Closed [','] t)
    (htexts' : ∀ t ∈ texts', Closed [','] t) :
    (∀ option ≠ .apply, o.value? g texts option = o'.value? g texts' option) ↔
      o.Alike o' ∧ texts = texts' := by
  have hname {s : String} (hs : IsName s) : Closed [','] s := hs.closed (by decide)
  have hseparators : ∀ sep ∈ g.separators, IsJoint ',' sep := fun _ =>
    Grammar.isJoint_of_mem_separators hg
  simp only [Grammar.separators, List.forall_mem_cons] at hseparators
  rcases hseparators with ⟨hselects, horderbys, hexpands, -⟩
  constructor
  · intro h
    have hfilter := h .filter (by decide)
    have hexpand := h .expand (by decide)
    have hselect := h .select (by decide)
    have horderby := h .orderby (by decide)
    have hskip := h .skip (by decide)
    have htop := h .top (by decide)
    have hcount := h .count (by decide)
    -- One by one, each option gives back the field it was written from.
    refine ⟨⟨?_, ?_, ?_, ?_, ?_, ?_⟩, ?_⟩
    · exact Option.map_injective (fun f f' hf => by rw [Filter.mk.injEq]; exact hf) hfilter
    · exact (listed?_eq_iff hselects (fun s hs => hname (ho.select s hs))
        fun s hs => hname (ho'.select s hs)).mp hselect
    · exact (listed?_eq_iff horderbys (fun s hs => hname (ho.orderby s hs))
        fun s hs => hname (ho'.orderby s hs)).mp horderby
    · exact Option.map_injective (fun _ _ => decimal_injective) hskip
    · exact Option.map_injective (fun _ _ => decimal_injective) htop
    · rw [← value?_count_iff, hcount, value?_count_iff]
    · exact (listed?_eq_iff hexpands htexts htexts').mp hexpand
  · rintro ⟨h, rfl⟩ option hoption
    cases option with
    | filter => simp only [value?, h.filter]
    | apply => exact absurd rfl hoption
    | expand => rfl
    | select => simp only [value?, h.select]
    | orderby => simp only [value?, h.orderby]
    | skip => simp only [value?, h.skip]
    | top => simp only [value?, h.take]
    | count => simp only [value?, h.count]

end Options

/-- The key of a parameter ends at the first equals sign. -/
theorem Parameter.text_injective {p p' : Parameter} (h : p.text = p'.text) : p = p' := by
  have hkey (option : SystemOption) : Avoids ['='] option.key := by cases option <;> decide
  have heq : "=" = String.singleton '=' := rfl
  simp only [text, heq, String.append_assoc] at h
  rcases before_inj (hkey _) (hkey _) h with ⟨hkeys, hvalue⟩
  cases p
  cases p'
  rw [Parameter.mk.injEq]
  exact ⟨SystemOption.key_injective hkeys, hvalue⟩

/-- A joined list of parameters is found again. -/
theorem Parameter.joined_injective {sep : Char} {ps qs : List Parameter}
    (hsep : Scan.start.next sep = .start) (hps : ∀ t ∈ ps.map text, Closed [sep] t)
    (hqs : ∀ t ∈ qs.map text, Closed [sep] t) (hne : ps ≠ []) (hne' : qs ≠ [])
    (h : (String.singleton sep).intercalate (ps.map text) =
      (String.singleton sep).intercalate (qs.map text)) : ps = qs := by
  -- Parameters are joined without a pad.
  have htexts := intercalate_inj isJoint_singleton hsep hps hqs
    (mt List.map_eq_nil_iff.mp hne) (mt List.map_eq_nil_iff.mp hne') h
  exact (List.map_inj_right fun _ _ => text_injective).mp htexts

namespace Relation

variable {r s : Relation}

/-- The mark of a strict relation is no part of a name. -/
theorem mark_mem_head_iff (hr : IsName r.key) : '!' ∈ r.head.toList ↔ r.strict = true := by
  have hkey : '!' ∉ r.key.toList := hr.not_mem (by decide)
  unfold head
  rw [String.toList_append, List.mem_append]
  cases r.strict with
  | false => exact ⟨fun h => absurd h (not_or.mpr ⟨hkey, List.not_mem_nil⟩), nofun⟩
  | true => exact ⟨fun _ => rfl, fun _ => Or.inr List.mem_cons_self⟩

theorem head_eq_iff (hr : IsName r.key) (hs : IsName s.key) :
    r.head = s.head ↔ r.key = s.key ∧ r.strict = s.strict := by
  constructor
  · intro h
    -- The mark is seen in the whole head, so it can be taken off on both sides.
    have hstrict : r.strict = s.strict := by
      rw [Bool.eq_iff_iff, ← mark_mem_head_iff hr, ← mark_mem_head_iff hs, h]
    rw [head, head, hstrict] at h
    exact ⟨(String.append_left_inj _).mp h, hstrict⟩
  · rintro ⟨hkey, hstrict⟩
    rw [head, head, hkey, hstrict]

theorem avoids_head (hr : IsName r.key) : Avoids ['('] r.head := by
  refine Over.append (hr.mono (by decide)) ?_
  split <;> decide

theorem block_eq (r : Relation) :
    r.block =
      String.singleton '(' ++ (";".intercalate (r.operators.map Parameter.text) ++ ")") := by
  rw [← String.append_assoc]
  rfl

/-- Neither is the parenthesis that opens a block. -/
theorem open_mem_text_iff (hr : IsName r.key) : '(' ∈ r.text.toList ↔ r.operators ≠ [] := by
  have hhead : '(' ∉ r.head.toList := (avoids_head hr).not_mem List.mem_cons_self
  rw [text_eq]
  split
  · rename_i hnil
    exact ⟨fun h => absurd h hhead, fun h => absurd hnil h⟩
  · rename_i hne
    refine ⟨fun _ => hne, fun _ => ?_⟩
    rw [block_eq, String.toList_append, String.toList_append, String.toList_singleton]
    exact List.mem_append_right _ List.mem_cons_self

/-- The head of a relation ends at the parenthesis of its block. -/
theorem text_eq_iff_parts (hr : IsName r.key) (hs : IsName s.key)
    (hops : ∀ t ∈ r.operators.map Parameter.text, Closed [';'] t)
    (hops' : ∀ t ∈ s.operators.map Parameter.text, Closed [';'] t) :
    r.text = s.text ↔ r.head = s.head ∧ r.operators = s.operators := by
  constructor
  · intro h
    -- The same texts have a block or have none.
    have hnil : r.operators = [] ↔ s.operators = [] := by
      rw [← not_iff_not, ← ne_eq, ← ne_eq, ← open_mem_text_iff hr, ← open_mem_text_iff hs, h]
    by_cases hne : r.operators = []
    · rw [text_eq, text_eq, if_pos hne, if_pos (hnil.mp hne)] at h
      exact ⟨h, hne.trans (hnil.mp hne).symm⟩
    · have hne' : s.operators ≠ [] := mt hnil.mpr hne
      rw [text_eq, text_eq, if_neg hne, if_neg hne', block_eq, block_eq] at h
      rcases before_inj (avoids_head hr) (avoids_head hs) h with ⟨hhead, hblock⟩
      have hjoined := (String.append_left_inj _).mp hblock
      exact ⟨hhead, Parameter.joined_injective rfl hops hops' hne hne' hjoined⟩
  · rintro ⟨hhead, hsame⟩
    rw [text_eq, text_eq, block, block, hhead, hsame]

theorem operators_eq_iff (hr : r.Tidy IsName) (hs : s.Tidy IsName)
    (htexts : ∀ t ∈ r.expands.map text, Closed [','] t)
    (htexts' : ∀ t ∈ s.expands.map text, Closed [','] t) :
    r.operators = s.operators ↔
      r.options.Alike s.options ∧ r.expands.map text = s.expands.map text := by
  have horder (option : SystemOption) : option ∈ Grammar.block.order ↔ option ≠ .apply := by
    cases option <;> decide
  rw [operators_eq, operators_eq, Options.parameters_eq_iff]
  simp only [horder]
  exact Options.values_eq_iff (by decide) hr.options hs.options htexts htexts'

/-- If single relations can be told apart by their texts, so can forests. -/
theorem texts_eq_iff {rs ss : List Relation}
    (h : ∀ r ∈ rs, ∀ s ∈ ss, r.text = s.text ↔ r.Alike s) :
    rs.map text = ss.map text ↔ List.Forall₂ Alike rs ss :=
  map_eq_map_iff h

/-- Two relations have the same text exactly when they ask for the same. -/
theorem text_eq_iff (hr : r.Tidy IsName) (hs : s.Tidy IsName)
    (hrin : ∀ u : Relation, u.Inside r.expands → u.Tidy IsName)
    (hsin : ∀ u : Relation, u.Inside s.expands → u.Tidy IsName) :
    r.text = s.text ↔ r.Alike s := by
  have hname {stops : List Char} (hstops : stops ⊆ Filter.separators) (t : String)
      (ht : IsName t) : Closed stops t := ht.closed hstops
  have hcomma : [','] ⊆ Filter.separators := by decide
  have hsemicolon : [';'] ⊆ Filter.separators := by decide
  induction r using Relation.induction generalizing s with
  | h r ih =>
      -- Operators are found at semicolons, and the relations among them at commas.
      have hops := closed_operators (by decide) (hname hsemicolon) hr
        (closed_texts hsemicolon (hname hsemicolon) hrin)
      have hops' := closed_operators (by decide) (hname hsemicolon) hs
        (closed_texts hsemicolon (hname hsemicolon) hsin)
      have hinner : ∀ u ∈ r.expands, ∀ v ∈ s.expands, u.text = v.text ↔ u.Alike v :=
        fun u hu v hv => ih u hu (hrin u (.here hu)) (hsin v (.here hv))
          (fun w hw => hrin w (.deeper hu hw)) fun w hw => hsin w (.deeper hv hw)
      rw [text_eq_iff_parts hr.key hs.key hops hops', head_eq_iff hr.key hs.key,
        operators_eq_iff hr hs (closed_texts hcomma (hname hcomma) hrin)
          (closed_texts hcomma (hname hcomma) hsin),
        texts_eq_iff hinner, alike_iff]

end Relation

namespace Query

variable {q q' : Query}

/-- A query of names has balanced clauses. -/
theorem Named.closed_aggregator (hq : q.Named) :
    ∀ t, q.options.aggregator = some t → Closed [] t := by
  intro t ht
  rcases hq.aggregator t ht with ⟨a, ha, rfl⟩
  exact ha.closed

/-- The parameters of a query are found again. -/
theorem text_eq_iff_params (hq : ∀ t ∈ q.params.map Parameter.text, Closed ['&'] t)
    (hq' : ∀ t ∈ q'.params.map Parameter.text, Closed ['&'] t) :
    q.text = q'.text ↔ q.params = q'.params := by
  refine ⟨fun h => ?_, fun h => by rw [text, text, h]⟩
  unfold text at h
  simp only [List.isEmpty_iff] at h
  by_cases hne : q.params = []
  · by_cases hne' : q'.params = []
    · rw [hne, hne']
    · rw [if_pos hne, if_neg hne'] at h
      exact absurd h (empty_ne_mark _)
  · by_cases hne' : q'.params = []
    · rw [if_neg hne, if_pos hne'] at h
      exact absurd h.symm (empty_ne_mark _)
    · rw [if_neg hne, if_neg hne'] at h
      exact Parameter.joined_injective rfl hq hq' hne hne' ((String.append_right_inj _).mp h)

theorem params_eq_iff (hq : q.Tidy IsName) (hq' : q'.Tidy IsName) :
    q.params = q'.params ↔
      (q.options.Alike q'.options ∧
        q.expands.map Relation.text = q'.expands.map Relation.text) ∧
      q.options.applyText? = q'.options.applyText? := by
  -- The top level writes every option, a block all but grouping.
  have horder (P : SystemOption → Prop) :
      (∀ option ∈ Grammar.topLevel.order, P option) ↔ (∀ option ≠ .apply, P option) ∧ P .apply := by
    constructor
    · intro h
      exact ⟨fun option _ => h option (by cases option <;> decide), h .apply (by decide)⟩
    · rintro ⟨h, happly⟩ option _
      by_cases hoption : option = .apply
      · rw [hoption]
        exact happly
      · exact h option hoption
  have hcomma : [','] ⊆ Filter.separators := by decide
  have hname (t : String) (ht : IsName t) : Closed [','] t := ht.closed hcomma
  have htexts := Relation.closed_texts hcomma hname hq.relations
  have htexts' := Relation.closed_texts hcomma hname hq'.relations
  rw [params, params, Relation.texts_eq_map, Relation.texts_eq_map, Options.parameters_eq_iff,
    horder,
    Options.values_eq_iff (by decide) hq.options hq'.options htexts htexts']
  rfl

end Query

/-- Two queries of closed fragments and names are written the same way exactly
    when they ask for the same. -/
theorem query_text_eq_iff_alike (q q' : Query) (hq : q.Named) (hq' : q'.Named) :
    q.text = q'.text ↔ q.Alike q' := by
  have hand (t : String) (ht : IsName t) : Closed ['&'] t := ht.closed (by decide)
  have hparams := Query.closed_params (by decide) hand hq.tidy hq.closed_aggregator
  have hparams' := Query.closed_params (by decide) hand hq'.tidy hq'.closed_aggregator
  have hrelations : ∀ r ∈ q.expands, ∀ s ∈ q'.expands, r.text = s.text ↔ r.Alike s := by
    intro r hr s hs
    exact Relation.text_eq_iff (hq.tidy.relations r (.here hr)) (hq'.tidy.relations s (.here hs))
      (fun u hu => hq.tidy.relations u (.deeper hr hu))
      fun u hu => hq'.tidy.relations u (.deeper hs hu)
  -- From the text to its parameters, and from these to the fields they were written from.
  rw [Query.text_eq_iff_params hparams hparams', Query.params_eq_iff hq.tidy hq'.tidy,
    Relation.texts_eq_iff hrelations,
    Options.applyText?_eq_iff hq.tidy.groupby hq'.tidy.groupby]
  constructor
  · rintro ⟨⟨hoptions, hexpands⟩, hgroupby, haggregator⟩
    exact ⟨hoptions, hgroupby, haggregator, hexpands⟩
  · rintro ⟨hoptions, hgroupby, haggregator, hexpands⟩
    exact ⟨⟨hoptions, hexpands⟩, hgroupby, haggregator⟩

/-- A query, another spelling of it, and a query that differs deep inside. The
    texts of the first two are the same although their filters, count flags
    and unused clauses are not. -/
theorem spellings_are_told_from_changes :
    let inner : Options := { filters := [⟨"id in (1, 2)"⟩], orderby := ["id desc", ""] }
    let posts (strict : Bool) : Relation :=
      { key := "posts", options := inner, expands := [{ key := "", strict }] }
    let apart : Options :=
      { filters := [⟨"name eq 'a, b; (c & d'"⟩, ⟨"age gt 1 or age eq null"⟩]
        select := [""], count := some false }
    let joined : Options :=
      { filters := [⟨"name eq 'a, b; (c & d' and (age gt 1 or age eq null)"⟩]
        select := [""], aggregator := some "age with max as oldest" }
    let q : Query := ⟨apart, [posts true]⟩
    let q' (strict : Bool) : Query := ⟨joined, [posts strict]⟩
    q.Named ∧ (∀ strict, (q' strict).Named) ∧ q.text = (q' true).text ∧
      q.text ≠ (q' false).text := by
  intro inner posts apart joined q q'
  have hinner : inner.Tidy IsName := ⟨by decide, nofun, by decide⟩
  have hposts (strict : Bool) : ∀ r : Relation, r.Inside [posts strict] → r.Tidy IsName := by
    have hexpanded : Relation.Tidy IsName { key := "", strict } :=
      ⟨(by decide : IsName ""), ⟨nofun, nofun, nofun⟩⟩
    refine Relation.forall_inside_singleton ⟨(by decide : IsName "posts"), hinner⟩ ?_
    exact Relation.forall_inside_singleton hexpanded fun r hr => absurd hr r.not_inside_nil
  have hq : q.Named := ⟨⟨⟨by decide, by decide, nofun⟩, nofun, hposts true⟩, nofun⟩
  have hjoined : joined.Tidy IsName := ⟨by decide, by decide, nofun⟩
  have hq' (strict : Bool) : (q' strict).Named := by
    refine ⟨⟨hjoined, nofun, hposts strict⟩, fun t ht => ?_⟩
    have hentry : ∀ e ∈ [(⟨.text "age", .max, "oldest"⟩ : AggregateEntry)],
        IsName e.property.pathText ∧ IsName e.function.keyword ∧ IsName e.label := by decide
    exact ⟨⟨[⟨.text "age", .max, "oldest"⟩]⟩, hentry, (Option.some.inj ht).symm⟩
  refine ⟨hq, hq', ?_, ?_⟩
  · refine (query_text_eq_iff_alike q (q' true) hq (hq' true)).mpr ⟨?_, rfl, ?_, ?_⟩
    · exact ⟨by decide, rfl, rfl, rfl, rfl, by decide⟩
    · exact fun hne => absurd rfl hne
    · exact .cons (.refl _) .nil
  · intro h
    have halike := (query_text_eq_iff_alike q (q' false) hq (hq' false)).mp h
    rcases halike.expands with _ | ⟨hposts, _⟩
    rcases hposts with ⟨_, _, _, _ | ⟨hexpanded, _⟩⟩
    rcases hexpanded with ⟨_, hstrict, _, _⟩
    exact Bool.noConfusion hstrict

end OData
