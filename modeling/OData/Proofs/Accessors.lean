import Mathlib.Data.List.Nodup
import OData.Fallible
import OData.Proofs.Casing
import OData.Schema.Expansion

/-!
# Accessors and Their Wire Names

A schema holds three lists. The enumeration has a variant for every member, the
table gives every variant a wire name, and the module has a constructor for
every member, which names a variant. Whoever writes a query calls the
constructor of a member, and what is sent is the wire name in the first line of
the table that has its variant. So the lists must agree, and no variant may
stand for two members.

A schema that was made keeps them in step, since all three come from the same
list of fields, one for each member. What a field holds is determined by its
member alone: the name in upper camel case, and the last name that an `odata`
attribute gives, or the member's own name without the mark. Members whose names
are in snake case have different variants if their names are different, because
upper camel case tells such names apart.

## Main definitions

* `AttributeItem.given?`, `Attribute.given`: The names that attributes give.
* `Member.bare`, `Member.variant`, `Member.wireName`: What belongs to a member.
* `Expansion.resolve?`: The wire name that an accessor is sent as.

## Theorems

* `eq_given_of_wireName?`: Attributes that are accepted give their last name.
* `Record.lists_of_assemble`: The three lists of a schema come from one.
* `variants_nodup`: No variant stands for two members.
* `accessors_resolve_to_wire_names`: All of it together.
-/

namespace OData

namespace Schema

/-- The name that an item assigns. -/
def AttributeItem.given? (item : AttributeItem) : Option String :=
  match item.literal with
  | some (.text s) => if item.key = "name" then some s else none
  | _ => none

/-- The names that an attribute gives, in order. -/
def Attribute.given (a : Attribute) : List String :=
  match a.form with
  | .list items => if a.path = "odata" then items.filterMap AttributeItem.given? else []
  | _ => []

namespace Member

/-- The name without the mark. -/
def bare (m : Member) : String :=
  String.ofList (bareName m.name.toList)

/-- The name in upper camel case. -/
def variant (m : Member) : String :=
  String.ofList (Text.upperCamel (bareName m.name.toList))

/-- The last name that an attribute gives, or the member's own. -/
def wireName (m : Member) : String :=
  (m.attributes.flatMap Attribute.given).getLast?.getD m.bare

/-- The member together with its variant and its wire name. -/
def field (m : Member) : SchemaField :=
  ⟨m, m.variant, m.wireName⟩

end Member

/-- The wire name that the accessor of the given name is sent as: the first
    line for the variant of its constructor. With or without the mark, a name
    is the same. -/
def Expansion.resolve? (e : Expansion) (name : String) : Option String :=
  (e.constructors.find? fun c => bareName c.name.toList = bareName name.toList).bind fun c =>
    e.wireNames.lookup c.variant

variable {r : Record} {e : Expansion} {m : Member} {members : List Member}

theorem given?_of_itemName {item : AttributeItem} {s : String} (h : itemName item = .ok s) :
    item.given? = some s := by
  rcases (itemName_eq_ok_iff item s).mp h with ⟨hkey, hliteral, _⟩
  rw [AttributeItem.given?, hliteral]
  exact if_pos hkey

theorem given_of_attributeNames {a : Attribute} {names : List String}
    (h : attributeNames a = .ok names) : a.given = names := by
  unfold attributeNames at h
  unfold Attribute.given
  by_cases hpath : a.path = "odata"
  · rw [if_pos hpath] at h
    cases hform : a.form with
    | bare =>
        rw [hform] at h
        exact absurd h nofun
    | assigned _ =>
        rw [hform] at h
        exact absurd h nofun
    | list items =>
        rw [hform] at h
        have hnames := map_eq_of_mapM AttributeItem.given? some
          (fun _ _ hs => (given?_of_itemName hs).symm) h
        simp only [if_pos hpath]
        calc
          items.filterMap AttributeItem.given? =
              (items.map AttributeItem.given?).filterMap id := by
            rw [List.filterMap_map, Function.id_comp]
          _ = names := by rw [← hnames, List.filterMap_map, Function.id_comp, List.filterMap_some]
    | broken items complaint =>
        rw [hform] at h
        rcases exists_of_bind_eq_ok h with ⟨_, _, h⟩
        exact absurd h nofun
  · rw [if_neg hpath] at h
    rw [← Except.ok.inj h]
    cases a.form with
    | bare => rfl
    | assigned _ => rfl
    | list items => exact if_neg hpath
    | broken items complaint => rfl

-- Attributes that are accepted give the last of their names.
theorem eq_given_of_wireName? {as : List Attribute} {given : Option String}
    (h : wireName? as = .ok given) : given = (as.flatMap Attribute.given).getLast? := by
  rcases exists_of_bind_eq_ok h with ⟨names, hnames, h⟩
  have hsame := map_eq_of_mapM Attribute.given id
    (fun _ _ h => (given_of_attributeNames h).symm) hnames
  rw [List.map_id] at hsame
  rw [← Except.ok.inj h, hsame, List.flatMap_def]

theorem eq_of_identifier {name variant : String} (h : identifier name = .ok variant) :
    variant = name := by
  unfold identifier at h
  split at h
  · exact (Except.ok.inj h).symm
  · exact absurd h nofun

-- The field of a member, if it has one, holds what belongs to the member.
theorem eq_of_schemaField {f : SchemaField} (h : m.schemaField = .ok f) : f = m.field := by
  rcases exists_of_bind_eq_ok h with ⟨variant, hvariant, h⟩
  rcases exists_of_bind_eq_ok h with ⟨given, hgiven, h⟩
  have hnames : wireName? m.attributes = .ok given := by
    cases hname : wireName? m.attributes with
    | error fault =>
        rw [hname] at hgiven
        exact absurd hgiven nofun
    | ok name =>
        rw [hname] at hgiven
        rw [Except.ok.inj hgiven]
  rw [← Except.ok.inj h, eq_of_identifier hvariant, eq_given_of_wireName? hnames]
  rfl

-- The three lists are made from the members before any name is held against the
-- reserved words.
theorem Record.exists_lists_of_assemble (h : r.assemble = .ok e) :
    ∃ members, r.body = .named members ∧ e.variants = members.map Member.variant ∧
      e.wireNames = members.map (fun m => (m.variant, m.wireName)) ∧
      ∃ schema, e.constructors = members.map fun m => constructor schema m.field := by
  rcases exists_of_bind_eq_ok h with ⟨members, hmembers, h⟩
  rcases exists_of_bind_eq_ok h with ⟨fields, hfields, h⟩
  rcases exists_of_bind_eq_ok h with ⟨fieldEnum, _, h⟩
  rcases exists_of_bind_eq_ok h with ⟨schema, _, h⟩
  rcases exists_of_bind_eq_ok h with ⟨moduleName, _, h⟩
  have hbody : r.body = .named members := by
    unfold schemaMembers at hmembers
    split at hmembers
    · exact absurd hmembers nofun
    · cases hbody : r.body with
      | named ms =>
          rw [hbody] at hmembers
          rw [Except.ok.inj hmembers]
      | tuple | unit | enumeration | union =>
          rw [hbody] at hmembers
          exact absurd hmembers nofun
  have hsame := map_eq_of_mapM Member.field id (fun _ _ hf => eq_of_schemaField hf) hfields
  rw [List.map_id] at hsame
  rw [← Except.ok.inj h, hsame, List.map_map, List.map_map, List.map_map]
  exact ⟨members, hbody, rfl, rfl, schema, rfl⟩

/-- The three lists of a schema come from one list, that of the members. -/
theorem Record.lists_of_assemble (hbody : r.body = .named members) (h : r.assemble = .ok e) :
    e.variants = members.map Member.variant ∧
      e.wireNames = members.map (fun m => (m.variant, m.wireName)) ∧
      ∃ schema, e.constructors = members.map fun m => constructor schema m.field := by
  rcases exists_lists_of_assemble h with ⟨ms, hms, hlists⟩
  rw [hbody] at hms
  rw [Body.named.inj hms]
  exact hlists

-- No variant stands for two members.
theorem variants_nodup (hsnake : ∀ m ∈ members, Text.IsSnakeName (bareName m.name.toList))
    (hdistinct : (members.map Member.bare).Nodup) : (members.map Member.variant).Nodup := by
  have hmembers : members.Nodup := hdistinct.of_map _
  refine hmembers.map_on fun m hm m' hm' heq => ?_
  have hbare := Text.upperCamel_injective (hsnake m hm) (hsnake m' hm') (String.ofList_inj.mp heq)
  exact List.inj_on_of_nodup_map hdistinct hm hm' (congrArg String.ofList hbare)

theorem ne_of_mem_before {α β : Type} {f : α → β} {a : α} {xs ys : List α}
    (h : ((xs ++ a :: ys).map f).Nodup) : ∀ b ∈ xs, f b ≠ f a := by
  rw [List.map_append, List.map_cons, List.nodup_append] at h
  intro b hb
  exact h.2.2 (f b) (List.mem_map_of_mem hb) (f a) List.mem_cons_self

/-- The accessor of a member is sent as the wire name of the member, if no
    member before it has its name or its variant. -/
theorem Expansion.resolve?_eq {schema : String} {before after : List Member}
    (hwireNames : e.wireNames = (before ++ m :: after).map fun m => (m.variant, m.wireName))
    (hconstructors : e.constructors =
      (before ++ m :: after).map fun m => Record.constructor schema m.field)
    (hname : ∀ b ∈ before, b.bare ≠ m.bare) (hvariant : ∀ b ∈ before, b.variant ≠ m.variant) :
    e.resolve? m.name = some m.wireName := by
  have hconstructor : e.constructors.find?
      (fun c => bareName c.name.toList = bareName m.name.toList) =
        some (Record.constructor schema m.field) := by
    rw [hconstructors, List.map_append, List.map_cons, List.find?_eq_some_iff_append]
    refine ⟨decide_eq_true rfl, _, _, rfl, fun c hc => ?_⟩
    rcases List.mem_map.mp hc with ⟨b, hb, rfl⟩
    rw [Bool.not_eq_true', decide_eq_false_iff_not]
    exact fun heq => hname b hb (congrArg String.ofList heq)
  have hwireName : e.wireNames.lookup m.variant = some m.wireName := by
    rw [hwireNames, List.map_append, List.map_cons, List.lookup_eq_some_iff]
    refine ⟨_, _, rfl, fun p hp => ?_⟩
    rcases List.mem_map.mp hp with ⟨b, hb, rfl⟩
    rw [bne_iff_ne]
    exact (hvariant b hb).symm
  rw [resolve?, hconstructor]
  exact hwireName

/-- The accessors of a schema are sent as the wire names of their members. The
    enumeration, the table and the module go through the members in order, no
    variant occurs twice, and the accessor of a member leads to the last name
    that an attribute gives to that member, or to the member's own name. Whether
    a name that was made is a reserved word does not come into it. -/
theorem accessors_resolve_to_wire_names (r : Record) (members : List Member) (e : Expansion)
    (hbody : r.body = .named members)
    (hsnake : ∀ m ∈ members, Text.IsSnakeName (bareName m.name.toList))
    (hdistinct : (members.map Member.bare).Nodup) (h : r.assemble = .ok e) :
    e.variants = members.map Member.variant ∧ e.variants.Nodup ∧
      e.wireNames.map Prod.fst = e.variants ∧
      e.constructors.map (fun c => (c.name, c.variant)) =
        members.map (fun m => (m.name, m.variant)) ∧
      ∀ m ∈ members, e.resolve? m.name = some m.wireName := by
  rcases Record.lists_of_assemble hbody h with ⟨hvariants, hwireNames, schema, hconstructors⟩
  have hnodup := variants_nodup hsnake hdistinct
  refine ⟨hvariants, ?_, ?_, ?_, ?_⟩
  · rw [hvariants]
    exact hnodup
  · rw [hvariants, hwireNames, List.map_map]
    rfl
  · rw [hconstructors, List.map_map]
    rfl
  · intro m hm
    rcases List.append_of_mem hm with ⟨before, after, rfl⟩
    exact Expansion.resolve?_eq hwireNames hconstructors (ne_of_mem_before hdistinct)
      (ne_of_mem_before hnodup)

/-- A record with a raw name, a digit inside a name, and two names given to one
    member, the last one counting. -/
theorem raw_and_renamed_members_resolve :
    let id : Member := { name := "id", type := "i64" }
    let kind : Member := { name := "r#type", type := "String" }
    let total : Member :=
      { name := "line2_total", type := "f64"
        attributes :=
          [⟨"doc", .assigned "of the second line"⟩,
            ⟨"odata", .list [⟨"name", some (.text "Line")⟩, ⟨"name", some (.text "Total")⟩]⟩,
            ⟨"odata", .list []⟩] }
    let r : Record := { name := "OrderLine", body := .named [id, kind, total] }
    ∃ e, r.assemble = .ok e ∧ e.variants = ["Id", "Type", "Line2Total"] ∧
      e.resolve? "id" = some "id" ∧ e.resolve? "r#type" = some "type" ∧
      e.resolve? "line2_total" = some "Total" := by
  intro id kind total r
  have hsnake : ∀ m ∈ [id, kind, total], Text.IsSnakeName (bareName m.name.toList) := by
    refine List.forall_mem_cons.mpr ⟨?_, List.forall_mem_cons.mpr ⟨?_, ?_⟩⟩
    · exact ⟨[['i', 'd']], by decide, by decide, by decide⟩
    · exact ⟨[['t', 'y', 'p', 'e']], by decide, by decide, by decide⟩
    · rw [List.forall_mem_singleton]
      exact ⟨[['l', 'i', 'n', 'e', '2'], ['t', 'o', 't', 'a', 'l']], by decide, by decide,
        by decide⟩
  have hok : r.assemble.isOk = true := by decide
  cases hassemble : r.assemble with
  | error fault =>
      rw [hassemble] at hok
      exact absurd hok Bool.false_ne_true
  | ok e =>
      rcases accessors_resolve_to_wire_names r [id, kind, total] e rfl hsnake (by decide) hassemble
        with ⟨hvariants, _, _, _, hresolve⟩
      have hkind : kind ∈ [id, kind, total] := List.mem_cons_of_mem _ List.mem_cons_self
      have htotal : total ∈ [id, kind, total] := List.mem_of_getLast? rfl
      exact ⟨e, rfl, hvariants.trans (by decide),
        (hresolve id List.mem_cons_self).trans (by decide),
        (hresolve kind hkind).trans (by decide), (hresolve total htotal).trans (by decide)⟩

end Schema

end OData
