import OData.Proofs.Agreement
import OData.Proofs.Faithful

/-!
# What Grouping Says

Grouping and its aggregate clause are one parameter, with one list inside the
other. The fields stand between the inner parentheses, and the entries of the
clause, if it has any, in a pair of their own behind them. Both lists are
joined by a comma and a blank, and an entry is three texts with ` with ` and
` as ` between them.

All of it can be told from the parameter. The fields end at the first closing
parenthesis, and what follows shows whether there is a clause. Lists are cut at
their commas, and entries at their blanks. The texts may be empty and may hold
quotes. They only must not hold the characters that are cut at.

What an entry calls its method is all that is written of it, so a method of the
service that is spelled like a predefined one is not told from that one.

## Main definitions

* `Query.parameter?`: The value of one parameter of a query.
* `AggregateEntry.IsPlain`: The texts of an entry hold nothing that is cut at.
* `AggregateEntry.Agrees`: Two entries are the same as far as it is written.

## Theorems

* `Query.parameter?_eq`: A parameter has the value of its option.
* `AggregateEntry.text_eq_iff`: An entry is found again in its text.
* `Aggregate.listed?_eq_iff`: So is a clause, empty or not.
* `apply_determines_grouping`: So are the fields and the entries of a grouping.
-/

namespace OData

open Text

/-- The value of a parameter of the query string, if the query has it. -/
def Query.parameter? (q : Query) (option : SystemOption) : Option String :=
  (q.params.find? (·.option == option)).map Parameter.value

/-- The top level has every option, once. -/
theorem Query.parameter?_eq (q : Query) (option : SystemOption) :
    q.parameter? option = q.options.value? .topLevel (Relation.texts q.expands) option := by
  have hnodup : Grammar.topLevel.order.Nodup := by decide
  have hmem : option ∈ Grammar.topLevel.order := by cases option <;> decide
  rw [parameter?, ← List.head?_filter, params, Options.filter_parameters hnodup hmem]
  cases q.options.value? .topLevel (Relation.texts q.expands) option <;> rfl

namespace AggregateEntry

/-- The texts of an entry hold neither blanks nor commas. -/
structure IsPlain (e : AggregateEntry) : Prop where
  property : Avoids [' ', ','] e.property.pathText
  function : Avoids [' ', ','] e.function.keyword
  label : Avoids [' ', ','] e.label

/-- Two entries name the same property, method and result. -/
structure Agrees (e e' : AggregateEntry) : Prop where
  property : e.property.pathText = e'.property.pathText
  function : e.function.keyword = e'.function.keyword
  label : e.label = e'.label

variable {e e' : AggregateEntry}

theorem IsPlain.avoids_text (he : e.IsPlain) : Avoids [','] e.text := by
  have hcomma {s : String} (hs : Avoids [' ', ','] s) : Avoids [','] s := hs.mono (by decide)
  have hwith : Avoids [','] " with " := by decide
  have has : Avoids [','] " as " := by decide
  have hmethod := ((hcomma he.property).append hwith).append (hcomma he.function)
  exact (hmethod.append has).append (hcomma he.label)

theorem text_eq (e : AggregateEntry) :
    e.text = e.property.pathText ++ (String.singleton ' ' ++
      ("with " ++ (e.function.keyword ++ (String.singleton ' ' ++ ("as " ++ e.label))))) := by
  have hwith : " with " = String.singleton ' ' ++ "with " := rfl
  have has : " as " = String.singleton ' ' ++ "as " := rfl
  simp only [text, hwith, has, String.append_assoc]

/-- An entry is cut at its first blank, and what follows at the next but one. -/
theorem text_eq_iff (he : e.IsPlain) (he' : e'.IsPlain) : e.text = e'.text ↔ e.Agrees e' := by
  have hblank {s : String} (hs : Avoids [' ', ','] s) : Avoids [' '] s := hs.mono (by decide)
  constructor
  · intro h
    rw [text_eq, text_eq] at h
    rcases before_inj (hblank he.property) (hblank he'.property) h with ⟨hproperty, hrest⟩
    have hmethod := (String.append_right_inj _).mp hrest
    rcases before_inj (hblank he.function) (hblank he'.function) hmethod with ⟨hfunction, hlast⟩
    exact ⟨hproperty, hfunction, (String.append_right_inj _).mp hlast⟩
  · rintro ⟨hproperty, hfunction, hlabel⟩
    rw [text, text, hproperty, hfunction, hlabel]

end AggregateEntry

/-- A clause is found again in its text, and no clause is taken for an empty
    one. -/
theorem Aggregate.listed?_eq_iff {a a' : Aggregate} (ha : ∀ e ∈ a.entries, e.IsPlain)
    (ha' : ∀ e ∈ a'.entries, e.IsPlain) :
    listed? ", " (a.entries.map AggregateEntry.text) =
        listed? ", " (a'.entries.map AggregateEntry.text) ↔
      List.Forall₂ AggregateEntry.Agrees a.entries a'.entries := by
  have havoids {b : Aggregate} (hb : ∀ e ∈ b.entries, e.IsPlain) :
      ∀ t ∈ b.entries.map AggregateEntry.text, Avoids [','] t := by
    intro t ht
    rcases List.mem_map.mp ht with ⟨e, he, rfl⟩
    exact (hb e he).avoids_text
  have hjoint : ", " = String.singleton ',' ++ " " := rfl
  have hentries := map_eq_map_iff fun e he e' he' =>
    AggregateEntry.text_eq_iff (ha e he) (ha' e' he')
  rw [← hentries]
  exact listed?_eq_iff_of_inj (intercalate_inj_of_avoids hjoint (havoids ha) (havoids ha'))

-- A grouping holds its clause as a list that is left out if it is empty.
theorem Options.aggregator_group (o : Options) (fields : List Field) (a : Aggregate) :
    (o.group fields a).aggregator = listed? ", " (a.entries.map AggregateEntry.text) := by
  rw [listed?, List.isEmpty_map]
  rfl

/-- Grouping determines what is grouped by and every aggregate. Two queries that
    are grouped by at least one field have the parameter for it, and it is the
    same exactly when the fields are the same and the entries of the two clauses
    agree one by one, in order. The queries may be any, as an earlier grouping
    is replaced. -/
theorem apply_determines_grouping (q q' : Query) (fields fields' : List Field) (a a' : Aggregate)
    (hne : fields ≠ []) (hne' : fields' ≠ [])
    (hfields : ∀ f ∈ fields, Avoids [',', ')'] f.pathText)
    (hfields' : ∀ f ∈ fields', Avoids [',', ')'] f.pathText)
    (ha : ∀ e ∈ a.entries, e.IsPlain) (ha' : ∀ e ∈ a'.entries, e.IsPlain) :
    ((q.apply (.groupBy fields a)).parameter? .apply).isSome = true ∧
      ((q'.apply (.groupBy fields' a')).parameter? .apply).isSome = true ∧
      ((q.apply (.groupBy fields a)).parameter? .apply =
          (q'.apply (.groupBy fields' a')).parameter? .apply ↔
        fields.map Field.pathText = fields'.map Field.pathText ∧
          List.Forall₂ AggregateEntry.Agrees a.entries a'.entries) := by
  have hvalue (p : Query) (fs : List Field) (b : Aggregate) :
      (p.apply (.groupBy fs b)).parameter? .apply = (p.options.group fs b).applyText? :=
    Query.parameter?_eq _ _
  have hsome (o : Options) {fs : List Field} (b : Aggregate) (hfs : fs ≠ []) :
      (o.group fs b).applyText?.isSome = true := by
    have hgroupby : (o.group fs b).groupby ≠ [] := mt List.map_eq_nil_iff.mp hfs
    rw [Options.applyText?_isSome, List.isEmpty_eq_false_iff.mpr hgroupby]
    rfl
  have havoids (o : Options) {fs : List Field} (b : Aggregate)
      (hfs : ∀ f ∈ fs, Avoids [',', ')'] f.pathText) :
      ∀ s ∈ (o.group fs b).groupby, Avoids [',', ')'] s := by
    intro s hs
    rcases List.mem_map.mp hs with ⟨f, hf, rfl⟩
    exact hfs f hf
  rw [hvalue, hvalue]
  refine ⟨hsome _ a hne, hsome _ a' hne', ?_⟩
  have hgroupby : (q.options.group fields a).groupby ≠ [] := mt List.map_eq_nil_iff.mp hne
  rw [Options.applyText?_eq_iff_of_avoids (havoids _ a hfields) (havoids _ a' hfields'),
    Options.aggregator_group, Options.aggregator_group, Aggregate.listed?_eq_iff ha ha']
  exact and_congr_right fun _ => ⟨fun h => h hgroupby, fun h _ => h⟩

/-- Fields with lone quotes and blanks, and a clause with empty names. A method
    of the service that is spelled `sum` is written like the predefined one, a
    clause without entries is not taken for this one, and neither is the clause
    in another order. -/
theorem clauses_are_told_apart :
    let fields : List Field := [.text "it's", .name "", .path ⟨"a b/c"⟩]
    let total (f : AggregateFn) : AggregateEntry := ⟨.text "price", f, "total"⟩
    let blank : AggregateEntry := ⟨.text "", .custom "", ""⟩
    let grouped (es : List AggregateEntry) : Option String :=
      (Query.empty.apply (.groupBy fields ⟨es⟩)).parameter? .apply
    grouped [total .sum, blank] = grouped [total (.custom "sum"), blank] ∧
      grouped [total .sum, blank] ≠ grouped [] ∧
      grouped [total .sum, blank] ≠ grouped [blank, total .sum] := by
  intro fields total blank grouped
  have hfields : ∀ f ∈ fields, Avoids [',', ')'] f.pathText := by decide
  have htotal (f : AggregateFn) (hf : Avoids [' ', ','] f.keyword) : (total f).IsPlain :=
    ⟨(by decide : Avoids [' ', ','] "price"), hf, (by decide : Avoids [' ', ','] "total")⟩
  have hblank : blank.IsPlain := ⟨by decide, by decide, by decide⟩
  have hsum : (total .sum).IsPlain := htotal .sum (by decide)
  have hpair {e e' : AggregateEntry} (he : e.IsPlain) (he' : e'.IsPlain) :
      ∀ d ∈ [e, e'], d.IsPlain :=
    List.forall_mem_cons.mpr ⟨he, List.forall_mem_singleton.mpr he'⟩
  have hiff {es es' : List AggregateEntry} (hes : ∀ e ∈ es, e.IsPlain)
      (hes' : ∀ e ∈ es', e.IsPlain) :
      grouped es = grouped es' ↔ fields.map Field.pathText = fields.map Field.pathText ∧
        List.Forall₂ AggregateEntry.Agrees es es' :=
    (apply_determines_grouping .empty .empty fields fields ⟨es⟩ ⟨es'⟩ (List.cons_ne_nil _ _)
      (List.cons_ne_nil _ _) hfields hfields hes hes').2.2
  refine ⟨?_, ?_, ?_⟩
  · refine (hiff (hpair hsum hblank) (hpair (htotal (.custom "sum") (by decide)) hblank)).mpr ?_
    exact ⟨rfl, .cons ⟨rfl, rfl, rfl⟩ (.cons ⟨rfl, rfl, rfl⟩ .nil)⟩
  · intro h
    have hnone : ∀ e ∈ ([] : List AggregateEntry), e.IsPlain := nofun
    rcases (hiff (hpair hsum hblank) hnone).mp h with ⟨_, hentries⟩
    exact absurd hentries.length_eq (Nat.succ_ne_zero 1)
  · intro h
    rcases (hiff (hpair hsum hblank) (hpair hblank hsum)).mp h with ⟨_, hentries⟩
    have hfirst := (List.forall₂_cons.mp hentries).1.property
    exact absurd hfirst (by decide)

end OData
