import OData.Expr
import OData.Proofs.Forest
import OData.Proofs.Literal

/-!
# Containment

Nothing that is put into a filter can get out of it. A fragment is closed when
its quotes are paired, its parentheses balanced, and no comma, semicolon or
ampersand stands outside both. Those are the characters that separate one part
of a query from the next, so a closed fragment stays one part of it wherever
it is written.

Predicates are closed whatever their literals hold, as long as the path is
plain. Every way of combining fragments keeps them closed, the wrapping of
operands included, and this asks nothing of how the fragments were made.

From the fragments it goes on to the whole query. The values of the options
are fragments, lists of names, numbers and relations, and relations are
written between parentheses again. `Query.Tidy` collects what is asked of a
query: closed fragments, and names of some kind, at every depth. The kind is a
parameter, because less is needed for balance than for telling names apart.

## Main definitions

* `Filter.Closed`: A fragment with nothing to break out with.
* `Predicate.field`: The field of a predicate.
* `Expr.fragment`: The fragment of a tree of predicates.
* `Expr.Every`: A property of all leaves.
* `Options.Tidy`, `Relation.Tidy`, `Query.Tidy`: Closed fragments and names of
  one kind.

## Theorems

* `Filter.Closed.combine` and its like: Combining keeps fragments closed.
* `Predicate.closed_toFilter`: A predicate on a plain path is closed.
* `Expr.closed_toFilter`: So is a tree of closed leaves.
* `Options.closed_value`, `Options.closed_applyText`: The values of options
  are closed.
* `Relation.closed_operators`, `Relation.closed_text`: A relation is closed,
  and its operators are.
* `Query.closed_params`, `Query.closed_text`: A query is balanced, and its
  parameters are closed.
* `no_literal_breaks_out`: All of it together.
-/

namespace OData

open Text

namespace Filter

/-- The characters that separate the parts of a query. -/
abbrev separators : List Char := [',', ';', '&']

theorem subset_separators {stops : List Char} (h : stops ⊆ [';', '&']) : stops ⊆ separators :=
  List.subset_cons_of_subset ',' h

/-- A fragment whose quotes are paired, whose parentheses are balanced, and
    which holds no separator outside both. -/
def Closed (f : Filter) : Prop :=
  Text.Closed separators f.text

instance (f : Filter) : Decidable f.Closed :=
  inferInstanceAs (Decidable (Text.Closed _ _))

variable {f g : Filter}

theorem Closed.parenthesized (h : f.Closed) : f.parenthesized.Closed :=
  Text.Closed.parenthesized (by decide) h

theorem Closed.wrapIfCompound (h : f.Closed) : f.wrapIfCompound.Closed := by
  unfold Filter.wrapIfCompound
  split
  · exact h.parenthesized
  · exact h

theorem closed_connective (c : Connective) : Text.Closed separators c.text := by
  cases c <;> decide

theorem Closed.combine (c : Connective) (hf : f.Closed) (hg : g.Closed) :
    (Filter.combine c f g).Closed :=
  (Text.Closed.append hf (closed_connective c)).append hg.wrapIfCompound

theorem Closed.and (hf : f.Closed) (hg : g.Closed) : (f.and g).Closed :=
  hf.combine .and hg

theorem Closed.or (hf : f.Closed) (hg : g.Closed) : (f.or g).Closed :=
  hf.combine .or hg

theorem Closed.not (hf : f.Closed) : f.not.Closed :=
  Text.Closed.append (by decide) hf.parenthesized

theorem Closed.conjoin {fs : List Filter} (h : ∀ f ∈ fs, f.Closed)
    (hf : Filter.conjoin fs = some f) : f.Closed := by
  match fs with
  | [] => exact absurd hf nofun
  | [g] =>
      rw [← Option.some.inj hf]
      exact h g List.mem_cons_self
  | g :: g' :: gs =>
      -- Of two or more, every fragment is an operand, the first included.
      rw [← Option.some.inj hf]
      refine Text.Closed.intercalate (closed_connective .and) fun t ht => ?_
      rcases List.mem_map.mp ht with ⟨k, hk, rfl⟩
      exact (h k hk).wrapIfCompound

end Filter

/-- The field that a predicate is about. -/
def Predicate.field : Predicate → Field
  | compare field _ _ => field
  | isNull field => field
  | isNotNull field => field
  | isIn field _ => field
  | call _ field _ => field

namespace Predicate

theorem text_compare (field : Field) (op : Comparison) (value : Value) :
    (compare field op value).text = field.pathText ++ (" " ++ op.keyword ++ " ") ++ value.text := by
  simp [text, toFilter, Filter.comparison, String.append_assoc]

@[simp]
theorem text_isNull (field : Field) : (isNull field).text = (compare field .eq .null).text := by
  simp [text, toFilter, Comparison.keyword]

@[simp]
theorem text_isNotNull (field : Field) :
    (isNotNull field).text = (compare field .ne .null).text := by
  simp [text, toFilter, Comparison.keyword]

theorem text_isIn (field : Field) (values : List Value) :
    (isIn field values).text =
      field.pathText ++ (" " ++ "in" ++ " ") ++
        ("(" ++ ", ".intercalate (values.map Value.text) ++ ")") := by
  have hopen : " in (" = " " ++ "in" ++ " " ++ "(" := rfl
  simp only [text, toFilter, Field.isIn_eq, Filter.membership, hopen, String.append_assoc]

theorem text_call (function : TextFunction) (field : Field) (s : String) :
    (call function field s).text =
      function.keyword ++ ("(" ++ (field.pathText ++ ", " ++ quoted s) ++ ")") := by
  simp [text, toFilter, Filter.call, Value.text, String.append_assoc]

/-- A predicate is written like a comparison, like a test for membership or like
    a call. Those for null are written like comparisons. -/
theorem text_cases (p : Predicate) :
    (∃ op value, p.text = (compare p.field op value).text) ∨
      (∃ values, p.text = (isIn p.field values).text) ∨
      ∃ function s, p.text = (call function p.field s).text := by
  cases p with
  | compare field op value => exact .inl ⟨op, value, rfl⟩
  | isNull field => exact .inl ⟨.eq, .null, text_isNull field⟩
  | isNotNull field => exact .inl ⟨.ne, .null, text_isNotNull field⟩
  | isIn field values => exact .inr (.inl ⟨values, rfl⟩)
  | call function field s => exact .inr (.inr ⟨function, s, rfl⟩)

/-- The members of a list are balanced. Its commas are left to the parentheses
    around it. -/
theorem closed_members (values : List Value) :
    Text.Closed [] (", ".intercalate (values.map Value.text)) := by
  refine Text.Closed.intercalate (by decide) fun t ht => ?_
  rcases List.mem_map.mp ht with ⟨v, _, rfl⟩
  exact v.closed_text.mono (List.nil_subset _)

/-- The arguments of a function are balanced. -/
theorem closed_arguments {path : String} (hpath : Text.Closed [] path) (s : String) :
    Text.Closed [] (path ++ ", " ++ quoted s) :=
  (hpath.append (by decide)).append (closed_quoted List.not_mem_nil s)

/-- A predicate on a plain path is closed, whatever its literals hold. -/
theorem closed_toFilter {p : Predicate}
    (h : Avoids (quote :: '(' :: ')' :: Filter.separators) p.field.pathText) :
    p.toFilter.Closed := by
  have hpath : Text.Closed Filter.separators p.field.pathText := closed_of_avoids h
  have hopen : '(' ∉ Filter.separators := by decide
  have htext : p.toFilter.Closed ↔ Text.Closed Filter.separators p.text := Iff.rfl
  -- The path comes first, and the rest has only literals that are not fixed.
  rw [htext]
  rcases p.text_cases with ⟨op, value, h⟩ | ⟨values, h⟩ | ⟨function, s, h⟩
  · have hop : Text.Closed Filter.separators (" " ++ op.keyword ++ " ") := by cases op <;> decide
    have hvalue := value.closed_text.mono (List.subset_cons_self ' ' Filter.separators)
    rw [h, text_compare]
    exact (hpath.append hop).append hvalue
  · rw [h, text_isIn]
    exact (hpath.append (by decide)).append ((closed_members values).parenthesized hopen)
  · have hfunction : Text.Closed Filter.separators function.keyword := by
      cases function <;> decide
    have harguments := closed_arguments (hpath.mono (List.nil_subset _)) s
    rw [h, text_call]
    exact hfunction.append (harguments.parenthesized hopen)

end Predicate

/-- The fragment of a tree of predicates. -/
abbrev Expr.fragment (e : Expr Predicate) : Filter :=
  e.toFilter Predicate.toFilter

namespace Expr

variable {α : Type}

/-- A property of all leaves. -/
def Every (P : α → Prop) : Expr α → Prop
  | leaf a => P a
  | and l r => l.Every P ∧ r.Every P
  | or l r => l.Every P ∧ r.Every P
  | not e => e.Every P

instance decidableEvery (P : α → Prop) [DecidablePred P] : (e : Expr α) → Decidable (e.Every P)
  | leaf a => inferInstanceAs (Decidable (P a))
  | and l r =>
    have := decidableEvery P l
    have := decidableEvery P r
    inferInstanceAs (Decidable (_ ∧ _))
  | or l r =>
    have := decidableEvery P l
    have := decidableEvery P r
    inferInstanceAs (Decidable (_ ∧ _))
  | not e => decidableEvery P e

/-- A tree of closed leaves is closed. -/
theorem closed_toFilter {leafFilter : α → Filter} {e : Expr α}
    (h : e.Every fun a => (leafFilter a).Closed) : (e.toFilter leafFilter).Closed := by
  induction e with
  | leaf a => exact h
  | and l r ihl ihr => exact (ihl h.1).and (ihr h.2)
  | or l r ihl ihr => exact (ihl h.1).or (ihr h.2)
  | not e ih => exact (ih h).not

theorem Every.mono {P Q : α → Prop} (hPQ : ∀ a, P a → Q a) {e : Expr α} (h : e.Every P) :
    e.Every Q := by
  induction e with
  | leaf a => exact hPQ a h
  | and l r ihl ihr => exact ⟨ihl h.1, ihr h.2⟩
  | or l r ihl ihr => exact ⟨ihl h.1, ihr h.2⟩
  | not e ih => exact ih h

end Expr

/-- The fragments of one level are closed, and its names are of one kind. -/
structure Options.Tidy (p : String → Prop) (o : Options) : Prop where
  filters : ∀ f ∈ o.filters, f.Closed
  select : ∀ s ∈ o.select, p s
  orderby : ∀ s ∈ o.orderby, p s

/-- The same for a relation and its key. -/
structure Relation.Tidy (p : String → Prop) (r : Relation) : Prop where
  key : p r.key
  options : r.options.Tidy p

/-- The same for a whole query, at every depth. -/
structure Query.Tidy (p : String → Prop) (q : Query) : Prop where
  options : q.options.Tidy p
  groupby : ∀ s ∈ q.options.groupby, p s
  relations : ∀ r, Relation.Inside r q.expands → r.Tidy p

/-- What stands between the members of lists. -/
def Grammar.separators (g : Grammar) : List String :=
  [g.selectSeparator, g.orderbySeparator, g.expandSeparator]

namespace Options

variable {stops : List Char} {p : String → Prop} {g : Grammar} {o : Options}
  {texts : List String} {value : String}

theorem closed_listed {sep : String} (hsep : Closed stops sep) (h : ∀ t ∈ texts, Closed stops t)
    (hvalue : listed? sep texts = some value) : Closed stops value := by
  rw [← (listed?_eq_some_iff.mp hvalue).2]
  exact Closed.intercalate hsep h

theorem closed_decimal (hstops : stops ⊆ Filter.separators) (n : Nat) :
    Closed stops (decimal n) := by
  exact Closed.mono hstops (closed_of_avoids ((isBare_decimal n).avoids (by decide)))

/-- The values of options are closed, commas aside, since lists are written
    with commas. Grouping is left to the next lemma. -/
theorem closed_value (hstops : stops ⊆ [';', '&']) (hg : ∀ sep ∈ g.separators, Closed stops sep)
    (hp : ∀ s, p s → Closed stops s) (ho : o.Tidy p) (htexts : ∀ t ∈ texts, Closed stops t)
    {option : SystemOption} (happly : option ≠ .apply)
    (h : o.value? g texts option = some value) : Closed stops value := by
  have hsub := Filter.subset_separators hstops
  simp only [Grammar.separators, List.forall_mem_cons] at hg
  rcases hg with ⟨hselect, horderby, hexpand, -⟩
  cases option with
  | filter =>
      rcases Option.map_eq_some_iff.mp h with ⟨f, hf, rfl⟩
      exact Closed.mono hsub (Filter.Closed.conjoin ho.filters hf)
  | apply => exact absurd rfl happly
  | expand => exact closed_listed hexpand htexts h
  | select => exact closed_listed hselect (fun s hs => hp s (ho.select s hs)) h
  | orderby => exact closed_listed horderby (fun s hs => hp s (ho.orderby s hs)) h
  | skip =>
      rcases Option.map_eq_some_iff.mp h with ⟨n, _, rfl⟩
      exact closed_decimal hsub n
  | top =>
      rcases Option.map_eq_some_iff.mp h with ⟨n, _, rfl⟩
      exact closed_decimal hsub n
  | count =>
      rcases Option.ite_none_right_eq_some.mp h with ⟨_, hvalue⟩
      rw [← Option.some.inj hvalue]
      exact Closed.mono hsub (by decide)

/-- Grouping is written between parentheses, so only balance is needed of its
    parts. -/
theorem closed_applyText (hstops : stops ⊆ Filter.separators)
    (hgroupby : ∀ s ∈ o.groupby, Closed [] s)
    (haggregator : ∀ t, o.aggregator = some t → Closed [] t)
    (h : o.applyText? = some value) : Closed stops value := by
  have hopen : '(' ∉ Filter.separators := by decide
  have hwrap (s : String) (hs : Closed [] s) : Closed [] ("(" ++ s ++ ")") :=
    hs.parenthesized List.not_mem_nil
  have hwhole (s : String) (hs : Closed [] s) : Closed stops ("groupby" ++ ("(" ++ s ++ ")")) :=
    Closed.mono hstops (Closed.append (by decide) (hs.parenthesized hopen))
  have hstart : "groupby((" = "groupby" ++ "(" ++ "(" := rfl
  have hend : "))" = ")" ++ ")" := rfl
  have hmiddle : "), aggregate(" = ")" ++ ", aggregate" ++ "(" := rfl
  unfold applyText? at h
  split at h
  · exact absurd h nofun
  · rename_i fields hfields _
    have hclosed := closed_listed (by decide) hgroupby hfields
    rw [← Option.some.inj h]
    have hnested := hwhole _ (hwrap fields hclosed)
    rw [hstart, hend]
    simpa only [String.append_assoc] using hnested
  · -- The fields and the clause stand in parentheses of their own inside the outer ones.
    rename_i fields clause hfields hclause
    have hclosed := closed_listed (by decide) hgroupby hfields
    rw [← Option.some.inj h]
    have hname : Closed [] ", aggregate" := by decide
    have hnested := hwhole _
      (((hwrap fields hclosed).append hname).append (hwrap clause (haggregator _ hclause)))
    rw [hstart, hend, hmiddle]
    simpa only [String.append_assoc] using hnested

end Options

theorem SystemOption.closed_key (option : SystemOption) : Closed Filter.separators option.key := by
  cases option <;> decide

theorem Parameter.closed_text {stops : List Char} (hstops : stops ⊆ Filter.separators)
    {p : Parameter} (h : Closed stops p.value) : Closed stops p.text :=
  ((p.option.closed_key.mono hstops).append (Closed.mono hstops (by decide))).append h

namespace Relation

variable {stops : List Char} {p : String → Prop}

/-- Every operator of a relation is closed, commas aside. -/
theorem closed_operators (hstops : stops ⊆ [';', '&']) (hp : ∀ s, p s → Closed stops s)
    {r : Relation} (hr : r.Tidy p) (hexpanded : ∀ t ∈ r.expands.map text, Closed stops t) :
    ∀ t ∈ r.operators.map Parameter.text, Closed stops t := by
  intro t ht
  rcases List.mem_map.mp ht with ⟨op, hop, rfl⟩
  rw [operators_eq, Options.mem_parameters_iff] at hop
  -- Grouping is no option of a block.
  have happly : op.option ≠ .apply := by
    intro h
    rw [h] at hop
    exact absurd hop.1 (by decide)
  have hseparators : ∀ sep ∈ Grammar.block.separators, Closed [';', '&'] sep := by decide
  exact Parameter.closed_text (Filter.subset_separators hstops)
    (Options.closed_value hstops (fun sep hsep => Closed.mono hstops (hseparators sep hsep)) hp
      hr.options hexpanded happly hop.2)

/-- A relation is closed if names are, since its operators stand between
    parentheses. -/
theorem closed_text (hstops : stops ⊆ Filter.separators) (hp : ∀ s, p s → Closed stops s)
    (r : Relation) (hr : r.Tidy p) (hin : ∀ s : Relation, s.Inside r.expands → s.Tidy p) :
    Closed stops r.text := by
  induction r using Relation.induction with
  | h r ih =>
      have hhead : Closed stops r.head := by
        refine (hp _ hr.key).append (Closed.mono hstops ?_)
        split <;> decide
      -- Inside the block only balance matters, so the induction hypothesis may lose its stops.
      have hexpanded : ∀ t ∈ r.expands.map text, Closed [] t := by
        intro t ht
        rcases List.mem_map.mp ht with ⟨s, hs, rfl⟩
        have hs' := ih s hs (hin s (.here hs)) fun u hu => hin u (.deeper hs hu)
        exact hs'.mono (List.nil_subset _)
      have hoperators := closed_operators (List.nil_subset _)
        (fun s hs => (hp s hs).mono (List.nil_subset _)) hr hexpanded
      have hblock : Closed stops r.block :=
        (Closed.intercalate (by decide) hoperators).parenthesized fun h =>
          absurd (hstops h) (by decide)
      rw [text_eq]
      split
      · exact hhead
      · exact hhead.append hblock

/-- The relations of a forest are closed one by one. -/
theorem closed_texts (hstops : stops ⊆ Filter.separators) (hp : ∀ s, p s → Closed stops s)
    {rs : List Relation} (hin : ∀ s : Relation, s.Inside rs → s.Tidy p) :
    ∀ t ∈ rs.map text, Closed stops t := by
  intro t ht
  rcases List.mem_map.mp ht with ⟨r, hr, rfl⟩
  exact r.closed_text hstops hp (hin r (.here hr)) fun s hs => hin s (.deeper hr hs)

end Relation

namespace Query

variable {stops : List Char} {p : String → Prop} {q : Query}

/-- Every parameter of a query is closed, commas aside. -/
theorem closed_params (hstops : stops ⊆ [';', '&']) (hp : ∀ s, p s → Closed stops s)
    (hq : q.Tidy p) (haggregator : ∀ t, q.options.aggregator = some t → Closed [] t) :
    ∀ t ∈ q.params.map Parameter.text, Closed stops t := by
  have hsub := Filter.subset_separators hstops
  have hexpanded := Relation.closed_texts hsub hp hq.relations
  intro t ht
  rcases List.mem_map.mp ht with ⟨param, hparam, rfl⟩
  rw [params, Relation.texts_eq_map, Options.mem_parameters_iff] at hparam
  refine Parameter.closed_text hsub ?_
  by_cases happly : param.option = .apply
  · have hvalue := hparam.2
    rw [happly] at hvalue
    exact Options.closed_applyText hsub
      (fun s hs => (hp s (hq.groupby s hs)).mono (List.nil_subset _)) haggregator hvalue
  · have hseparators : ∀ sep ∈ Grammar.topLevel.separators, Closed [';', '&'] sep := by decide
    exact Options.closed_value hstops (fun sep hsep => Closed.mono hstops (hseparators sep hsep)) hp
      hq.options hexpanded happly hparam.2

/-- A query is balanced, whatever separates its parts. -/
theorem closed_text (hp : ∀ s, p s → Closed [] s) (hq : q.Tidy p)
    (haggregator : ∀ t, q.options.aggregator = some t → Closed [] t) : Closed [] q.text := by
  unfold text
  split
  · exact closed_empty
  · exact Closed.append (by decide)
      (Closed.intercalate (by decide) (closed_params (List.nil_subset _) hp hq haggregator))

end Query

/-- Nothing that is put into a filter gets out of it. A tree of predicates on
    plain paths is closed whatever its literals hold, combining fragments
    keeps them closed, and a query of closed fragments is balanced from its
    first character to its last. -/
theorem no_literal_breaks_out :
    (∀ e : Expr Predicate,
      e.Every (fun p => Avoids [quote, '(', ')', ',', ';', '&'] p.field.pathText) →
        e.fragment.Closed) ∧
    (∀ f g : Filter, f.Closed → g.Closed →
      (f.and g).Closed ∧ (f.or g).Closed ∧ f.not.Closed ∧ f.wrapIfCompound.Closed) ∧
    (∀ fs : List Filter, fs ≠ [] → (∀ f ∈ fs, f.Closed) →
      ∃ f, Filter.conjoin fs = some f ∧ f.Closed) ∧
    (∀ q : Query, q.Tidy (Avoids [quote, '(', ')']) →
      (∀ t, q.options.aggregator = some t → Avoids [quote, '(', ')'] t) →
        Scan.run [] .start q.text.toList = some .start ∧
        ∀ cs, cs <+: q.text.toList → ∃ s, Scan.run [] .start cs = some s) := by
  refine ⟨?_, ?_, ?_, ?_⟩
  · intro e he
    exact Expr.closed_toFilter (he.mono fun _ => Predicate.closed_toFilter)
  · intro f g hf hg
    exact ⟨hf.and hg, hf.or hg, hf.not, hf.wrapIfCompound⟩
  · intro fs hne hfs
    rcases Option.ne_none_iff_exists'.mp (mt Filter.conjoin_eq_none_iff.mp hne) with ⟨f, hf⟩
    exact ⟨f, hf, Filter.Closed.conjoin hfs hf⟩
  · intro q hq haggregator
    have hclosed : Closed [] q.text :=
      Query.closed_text (fun _ => closed_of_avoids) hq fun t ht =>
        closed_of_avoids (haggregator t ht)
    exact ⟨hclosed, fun _ => Scan.run_isPrefix hclosed⟩

/-- A literal full of quotes, parentheses and separators, in a tree, in a
    conjunction, and in a relation of a query. -/
theorem hostile_literal_stays_inside :
    let hostile : Predicate := .compare (.text "name") .eq (.string "it's (a, b); c & 'd')")
    let tree : Expr Predicate := .and (.not (.leaf hostile)) (.leaf (.isIn (.text "id") [.null]))
    let fragment : Filter := tree.fragment
    let q : Query :=
      { options := { filters := [fragment], select := ["id", "a;b"] }
        expands := [{ key := "posts", options := { filters := [fragment, fragment] } }] }
    fragment.Closed ∧ (fragment.or fragment).Closed ∧
      (∃ f, Filter.conjoin [fragment, fragment] = some f ∧ f.Closed) ∧
      Scan.run [] .start q.text.toList = some .start := by
  intro hostile tree fragment q
  have hfragment : fragment.Closed := no_literal_breaks_out.1 tree (by decide)
  have hboth : ∀ f ∈ [fragment, fragment], f.Closed := by
    intro f hf
    rw [List.eq_of_mem_replicate (show f ∈ List.replicate 2 fragment from hf)]
    exact hfragment
  have htidy : q.Tidy (Avoids [quote, '(', ')']) := by
    refine ⟨⟨?_, by decide, nofun⟩, nofun, ?_⟩
    · intro f hf
      rw [List.mem_singleton.mp hf]
      exact hfragment
    · exact Relation.forall_inside_singleton ⟨by decide, ⟨hboth, nofun, nofun⟩⟩
        fun r hr => absurd hr r.not_inside_nil
  exact ⟨hfragment, (no_literal_breaks_out.2.1 fragment fragment hfragment hfragment).2.1,
    no_literal_breaks_out.2.2.1 _ nofun hboth,
    (no_literal_breaks_out.2.2.2 q htidy nofun).1⟩

end OData
