import OData.Limits.Validate
import OData.Proofs.Cut
import OData.Proofs.Precedence
import OData.Query.Grammar
import OData.Query.Step

/-!
# Forms of a Field

A field may be given as text, by the name it is declared with, or as a path,
and a path may be reached in one go or name by name. Which of these is used
shows in nothing that is built from the field.

That a path is faithful to the chain of its names is a fact about joined texts.
Every step writes a slash, even in front of an empty name, so the slashes of a
path are the joints of its chain as long as no name holds one.

References and paths have conditions and sort keys of their own. What they make
is made from the path text in one and the same way, condition by condition and
for both directions, and so is what is made from plain text.

That the form does not matter is a simulation. Two programs differ in the forms
of their fields and in nothing else when they become the same program once every
field is given as text. Taking one step of a program or of its text version
leads to the same descriptor, and so all descriptors on the way are the same,
those of the relations that are built inside of a step included.

## Main definitions

* `Field.asText`, `Predicate.asText` and their like: The same with every field
  given as text.
* `Query.stages`, `Relation.stages`: The descriptors on the way of a program.
* `RelationStep.made`, `QueryStep.made`: The descriptors of the relations that a
  step builds, at every depth.
* `Query.shown`, `Relation.shown`: What can be asked of a descriptor.

## Theorems

* `Path.text_descend`: A path is its names with slashes between them.
* `Path.chain_inj`: A path determines its chain.
* `Condition.fragment_asText`, `OrderKey.text_asText`, `Aggregate.text_asText`:
  What is written for a field does not show its form.
* `Options.edit_asText`, `Step.relations_asText`: One step does not show it.
* `Query.stages_asText`, `Relation.stages_asText`: A program does not show it.
* `forms_are_interchangeable`: All of it together.
-/

namespace OData

namespace Path

@[simp]
theorem descend_append (p : Path) (names more : List String) :
    (p.descend names).descend more = p.descend (names ++ more) :=
  List.foldl_append.symm

/-- A path is its names with slashes between them, whatever they are. -/
@[simp]
theorem text_descend (p : Path) (names : List String) :
    (p.descend names).text = "/".intercalate (p.text :: names) := by
  induction names generalizing p with
  | nil => rw [String.intercalate_singleton, descend, List.foldl_nil]
  | cons name names ih =>
      have hstep : p.descend (name :: names) = (p.child name).descend names := rfl
      rw [hstep, ih, text_child]
      cases names with
      | nil =>
          rw [String.intercalate_singleton, String.intercalate_cons_cons,
            String.intercalate_singleton]
      | cons next names =>
          rw [String.intercalate_cons_cons, String.intercalate_cons_cons,
            String.intercalate_cons_cons]
          simp only [String.append_assoc]

/-- Chains of names without slashes have one path only if they are the same. -/
theorem chain_inj {first first' : String} {names names' : List String}
    (h : ∀ n ∈ first :: names, '/' ∉ n.toList) (h' : ∀ n ∈ first' :: names', '/' ∉ n.toList)
    (heq : (ofName first).descend names = (ofName first').descend names') :
    first :: names = first' :: names' := by
  have hjoined := congrArg Path.text heq
  rw [text_descend, text_descend, text_ofName, text_ofName] at hjoined
  have havoids {ns : List String} (hns : ∀ n ∈ ns, '/' ∉ n.toList) :
      ∀ n ∈ ns, Text.Avoids ['/'] n := by
    intro n hn c hc hmem
    exact hns n hn (List.mem_singleton.mp hmem ▸ hc)
  have hjoint : "/" = String.singleton '/' ++ "" := rfl
  exact Text.intercalate_inj_of_avoids hjoint (havoids h) (havoids h') (List.cons_ne_nil _ _)
    (List.cons_ne_nil _ _) hjoined

end Path

/-- The field given as text. -/
def Field.asText (f : Field) : Field :=
  .text f.pathText

@[simp]
theorem Field.pathText_asText (f : Field) : f.asText.pathText = f.pathText := rfl

-- Forms with one path are one form as text, and no others are.
theorem Field.asText_eq_iff {f g : Field} : f.asText = g.asText ↔ f.pathText = g.pathText := by
  rw [asText, asText, Field.text.injEq]

@[simp]
theorem Field.pathText_comp_asText : pathText ∘ asText = pathText := rfl

/-- The predicate with its field given as text. -/
def Predicate.asText : Predicate → Predicate
  | compare field op value => compare field.asText op value
  | isNull field => isNull field.asText
  | isNotNull field => isNotNull field.asText
  | isIn field values => isIn field.asText values
  | call function field text => call function field.asText text

@[simp]
theorem Predicate.toFilter_asText (p : Predicate) : p.asText.toFilter = p.toFilter := by
  cases p <;> simp [asText, toFilter]

/-- The leaf with its field, if it has one, given as text. -/
def Atom.asText : Atom → Atom
  | raw text => raw text
  | predicate p => predicate p.asText

@[simp]
theorem Atom.toFilter_asText (a : Atom) : a.asText.toFilter = a.toFilter := by
  cases a <;> simp [asText, toFilter]

/-- The condition with every field given as text. -/
def Condition.asText (c : Condition) : Condition :=
  c.map Atom.asText

@[simp]
theorem Condition.fragment_asText (c : Condition) :
    (Condition.asText c).fragment = Condition.fragment c := by
  simp [asText, fragment, Expr.toFilter_map]

/-- The sort key with its field given as text. -/
def OrderKey.asText (k : OrderKey) : OrderKey :=
  { k with field := k.field.asText }

@[simp]
theorem OrderKey.text_asText (k : OrderKey) : k.asText.text = k.text := by
  simp [text, asText]

/-- The aggregated property given as text. -/
def AggregateEntry.asText (e : AggregateEntry) : AggregateEntry :=
  { e with property := e.property.asText }

namespace Aggregate

/-- The clause with every property given as text. -/
def asText (a : Aggregate) : Aggregate :=
  ⟨a.entries.map AggregateEntry.asText⟩

@[simp]
theorem isEmpty_asText (a : Aggregate) : a.asText.isEmpty = a.isEmpty :=
  List.isEmpty_map

@[simp]
theorem map_text_asText (a : Aggregate) :
    a.asText.entries.map AggregateEntry.text = a.entries.map AggregateEntry.text :=
  List.map_map

@[simp]
theorem text_asText (a : Aggregate) : a.asText.text = a.text := by
  simp [text]

end Aggregate

mutual

/-- The step with every field given as text. -/
def Step.asText : Step → Step
  | .select fields => .select (fields.map Field.asText)
  | .filter condition => .filter (Condition.asText condition)
  | .orderBy key => .orderBy key.asText
  | .expand name steps => .expand name.asText (RelationStep.allAsText steps)
  | .skip n => .skip n
  | .take n => .take n
  | .withCount flag => .withCount flag
  | .paginate request => .paginate request

/-- The step on a relation with every field given as text. -/
def RelationStep.asText : RelationStep → RelationStep
  | .shared s => .shared s.asText
  | .strict => .strict

/-- The steps on a relation with every field given as text. -/
def RelationStep.allAsText : List RelationStep → List RelationStep
  | [] => []
  | s :: ss => s.asText :: RelationStep.allAsText ss

end

/-- The step on a query with every field given as text. -/
def QueryStep.asText : QueryStep → QueryStep
  | .shared s => .shared s.asText
  | .groupBy fields aggregate => .groupBy (fields.map Field.asText) aggregate.asText

/-- What a step does to the options does not show the form of a field. -/
@[simp]
theorem Options.edit_asText (o : Options) (s : Step) : o.edit s.asText = o.edit s := by
  cases s <;> simp [Step.asText, edit]

@[simp]
theorem Options.group_asText (o : Options) (fields : List Field) (aggregate : Aggregate) :
    o.group (fields.map Field.asText) aggregate.asText = o.group fields aggregate := by
  simp [group]

mutual

/-- Neither do the relations that it adds. -/
@[simp]
theorem Step.relations_asText (s : Step) : s.asText.relations = s.relations := by
  cases s with
  | expand name steps =>
      simp only [Step.asText, Step.relations, Field.pathText_asText]
      rw [Relation.applyAll_asText (.named name.pathText) steps]
  | select | filter | orderBy | skip | take | withCount | paginate =>
      simp only [Step.asText, Step.relations]

@[simp]
theorem Relation.apply_asText (r : Relation) (s : RelationStep) : r.apply s.asText = r.apply s := by
  cases s with
  | shared s =>
      simp only [RelationStep.asText, Relation.apply, Options.edit_asText]
      rw [Step.relations_asText s]
  | strict => simp only [RelationStep.asText]

@[simp]
theorem Relation.applyAll_asText (r : Relation) (steps : List RelationStep) :
    r.applyAll (RelationStep.allAsText steps) = r.applyAll steps := by
  cases steps with
  | nil => simp only [RelationStep.allAsText]
  | cons s ss =>
      simp only [RelationStep.allAsText, Relation.applyAll]
      rw [Relation.apply_asText r s, Relation.applyAll_asText (r.apply s) ss]

end

@[simp]
theorem Query.apply_asText (q : Query) (s : QueryStep) : q.apply s.asText = q.apply s := by
  cases s <;> simp [QueryStep.asText, apply]

mutual

/-- The relations that a shared step builds, at every depth and at every point
    on the way. -/
def Step.made : Step → List Relation
  | .expand name steps => Relation.stages (.named name.pathText) steps
  | .select _ | .filter _ | .orderBy _ | .skip _ | .take _ | .withCount _ | .paginate _ => []

/-- The relations that a step on a relation builds. -/
def RelationStep.made : RelationStep → List Relation
  | .shared s => s.made
  | .strict => []

/-- A relation before, between and after several steps, and in between the
    relations that these build. -/
def Relation.stages (r : Relation) : List RelationStep → List Relation
  | [] => [r]
  | s :: ss => r :: (s.made ++ (r.apply s).stages ss)

end

/-- The relations that a step on a query builds. -/
def QueryStep.made : QueryStep → List Relation
  | .shared s => s.made
  | .groupBy _ _ => []

/-- A query before, between and after several steps. -/
def Query.stages (q : Query) : List QueryStep → List Query
  | [] => [q]
  | s :: ss => q :: (q.apply s).stages ss

/-- What can be asked of a query: the query itself, its query string, its
    parameters, and whether it is within limits. -/
def Query.shown (ls : Limits) (q : Query) :
    Query × String × List Parameter × Except Violation Unit :=
  (q, q.text, q.params, ls.validate q)

/-- What can be asked of a relation: the relation itself, its text and its
    operators. -/
def Relation.shown (r : Relation) : Relation × String × List Parameter :=
  (r, r.text, r.operators)

mutual

/-- The relations that a step builds do not show the forms of fields. -/
@[simp]
theorem Step.made_asText (s : Step) : s.asText.made = s.made := by
  cases s with
  | expand name steps =>
      simp only [Step.asText, Step.made, Field.pathText_asText]
      rw [Relation.stages_asText (.named name.pathText) steps]
  | select | filter | orderBy | skip | take | withCount | paginate =>
      simp only [Step.asText, Step.made]

@[simp]
theorem RelationStep.made_asText (s : RelationStep) : s.asText.made = s.made := by
  cases s with
  | shared s =>
      simp only [RelationStep.asText, RelationStep.made]
      rw [Step.made_asText s]
  | strict => simp only [RelationStep.asText]

/-- Nor does a relation on its way through a program. -/
@[simp]
theorem Relation.stages_asText (r : Relation) (steps : List RelationStep) :
    r.stages (RelationStep.allAsText steps) = r.stages steps := by
  cases steps with
  | nil => simp only [RelationStep.allAsText]
  | cons s ss =>
      simp only [RelationStep.allAsText, Relation.stages, Relation.apply_asText]
      rw [RelationStep.made_asText s, Relation.stages_asText (r.apply s) ss]

end

@[simp]
theorem QueryStep.made_asText (s : QueryStep) : s.asText.made = s.made := by
  cases s <;> simp [QueryStep.asText, made]

/-- A query on its way through a program does not show the forms of fields. -/
@[simp]
theorem Query.stages_asText (q : Query) (steps : List QueryStep) :
    q.stages (steps.map QueryStep.asText) = q.stages steps := by
  induction steps generalizing q with
  | nil => rfl
  | cons s ss ih => simp [stages, ih]

@[simp]
theorem QueryStep.flatMap_made_asText (steps : List QueryStep) :
    (steps.map asText).flatMap made = steps.flatMap made := by
  simp [List.flatMap_map]

/-- The path of a chain is its names with slashes between them, a chain may be
    followed in several goes, whether it starts at a reference or at a path, and
    names without slashes are found again. Plain text and a name stand for
    themselves and a path for its text, and every condition and every sort key
    is made from that alone. Forms are the same as text exactly when they have
    the same path. Which of them a field is given in shows in nothing: neither
    in what is written for a condition, a sort key or an aggregate, nor in any
    descriptor that programs come by, at the top level and inside of
    relations. -/
theorem forms_are_interchangeable :
    (∀ (name : String) (names more : List String),
      ((Path.ofName name).descend names).text = "/".intercalate (name :: names) ∧
      (((Path.ofName name).descend names).descend more).text =
        "/".intercalate (name :: names ++ more)) ∧
    (∀ (r : FieldRef) (name : String) (names : List String),
      r.path.text = r.name ∧
      ((r.child name).descend names).text = "/".intercalate (r.name :: name :: names)) ∧
    (∀ (s : String) (names : List String),
      (Field.text s).pathText = s ∧ (Field.name s).pathText = s ∧
      (Field.path ((Path.ofName s).descend names)).pathText = "/".intercalate (s :: names)) ∧
    (∀ f : Field,
      (∀ op, f.compare op = .comparison f.pathText op.keyword) ∧
      f.isNull = .comparison f.pathText "eq" .null ∧
      f.isNotNull = .comparison f.pathText "ne" .null ∧
      f.isIn = .membership f.pathText ∧
      (∀ function, f.call function = .call function.keyword f.pathText) ∧
      ∀ dir, OrderKey.sortKey ⟨f, dir⟩ = ⟨f.pathText, dir⟩) ∧
    (∀ (name name' : String) (names names' : List String),
      (∀ n ∈ name :: names, '/' ∉ n.toList) → (∀ n ∈ name' :: names', '/' ∉ n.toList) →
      (Path.ofName name).descend names = (Path.ofName name').descend names' →
      name :: names = name' :: names') ∧
    (∀ f f' : Field, f.asText = f'.asText ↔ f.pathText = f'.pathText) ∧
    (∀ c c' : Condition, Condition.asText c = Condition.asText c' →
      Condition.fragment c = Condition.fragment c') ∧
    (∀ k k' : OrderKey, k.asText = k'.asText → k.text = k'.text) ∧
    (∀ a a' : Aggregate, a.asText = a'.asText →
      a.entries.map AggregateEntry.text = a'.entries.map AggregateEntry.text ∧ a.text = a'.text) ∧
    (∀ ss ss' : List RelationStep,
      RelationStep.allAsText ss = RelationStep.allAsText ss' →
      ∀ r : Relation, (r.stages ss).map Relation.shown = (r.stages ss').map Relation.shown) ∧
    ∀ ss ss' : List QueryStep, ss.map QueryStep.asText = ss'.map QueryStep.asText →
      ∀ (q : Query) (ls : Limits),
        (q.stages ss).map (Query.shown ls) = (q.stages ss').map (Query.shown ls) ∧
        (ss.flatMap QueryStep.made).map Relation.shown =
          (ss'.flatMap QueryStep.made).map Relation.shown := by
  have hchain (name : String) (names : List String) :
      ((Path.ofName name).descend names).text = "/".intercalate (name :: names) := by
    simp
  refine ⟨fun name names more => ⟨hchain name names, ?_⟩,
    fun r name names => ⟨rfl, hchain r.name (name :: names)⟩,
    fun s names => ⟨rfl, rfl, hchain s names⟩,
    fun f => ⟨f.compare_eq, f.isNull_eq, f.isNotNull_eq, f.isIn_eq, f.call_eq,
      fun dir => OrderKey.sortKey_eq ⟨f, dir⟩⟩,
    fun _ _ _ _ => Path.chain_inj, fun _ _ => Field.asText_eq_iff, fun c c' h => ?_,
    fun k k' h => ?_, fun a a' h => ⟨?_, ?_⟩, fun ss ss' h r => ?_, fun ss ss' h q ls => ⟨?_, ?_⟩⟩
  · simp
  · rw [← Condition.fragment_asText, h, Condition.fragment_asText]
  · rw [← OrderKey.text_asText, h, OrderKey.text_asText]
  · rw [← Aggregate.map_text_asText, h, Aggregate.map_text_asText]
  · rw [← Aggregate.text_asText, h, Aggregate.text_asText]
  · rw [← Relation.stages_asText, h, Relation.stages_asText]
  · rw [← Query.stages_asText, h, Query.stages_asText]
  · rw [← QueryStep.flatMap_made_asText, h, QueryStep.flatMap_made_asText]

/-- Two programs that give every field in another form. A chain of two names is
    once followed and once written out, and a field inside of a relation and an
    aggregated property are once declared and once not. -/
theorem chain_and_text_build_the_same :
    let name : Path := (Path.ofName "author").child "name"
    let ss : List QueryStep :=
      [.shared (.select [.path name, .name "id"]),
        .shared (.filter (.leaf (.predicate (.call .contains (.path name) "it's")))),
        .shared (.expand (.name "posts")
          [.shared (.orderBy ⟨.path (.ofName "date"), some .desc⟩), .strict]),
        .groupBy [.name "id"] ⟨[⟨.path name, .max, "last"⟩]⟩]
    let ss' : List QueryStep :=
      [.shared (.select [.text "author/name", .path ⟨"id"⟩]),
        .shared (.filter (.leaf (.predicate (.call .contains (.name "author/name") "it's")))),
        .shared (.expand (.text "posts") [.shared (.orderBy ⟨.name "date", some .desc⟩), .strict]),
        .groupBy [.text "id"] ⟨[⟨.text "author/name", .max, "last"⟩]⟩]
    name.text = "author/name" ∧
      ss.map QueryStep.asText = ss'.map QueryStep.asText ∧
      (Query.empty.stages ss).map (Query.shown .default) =
        (Query.empty.stages ss').map (Query.shown .default) := by
  intro name ss ss'
  rcases forms_are_interchangeable with ⟨hchain, -, -, -, -, -, -, -, -, -, hprograms⟩
  have hname : name.text = "author/name" := (hchain "author" ["name"] []).1
  have hsame : ss.map QueryStep.asText = ss'.map QueryStep.asText := rfl
  exact ⟨hname, hsame, (hprograms ss ss' hsame .empty .default).1⟩

end OData
