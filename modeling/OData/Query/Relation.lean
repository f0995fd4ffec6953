import OData.Query.Options

/-!
# Queries and Relations

A query has options and expands relations. A relation is a query of its own,
scoped to one navigation property, so relations form a tree of any depth.

A relation's key may be empty, and the relation may be strict, which is shown
by a mark behind the key.

Equality of relations is structural. It is decided by a walk over both trees
at once, since the tree branches through a list.

## Main definitions

* `Relation`: An expanded navigation property.
* `Query`: A whole query.
* `Relation.named`: The relation that asks for nothing.
* `Relation.query`: A relation seen as the query it scopes.
* `Query.hasOperators`: A relation with this query has something to write.
-/

namespace OData

/-- An expanded navigation property with its own options. -/
structure Relation where
  /-- The name of the property. -/
  key : String
  /-- Whether the relation is strict. -/
  strict : Bool := false
  /-- What is asked of the related items. -/
  options : Options := {}
  /-- The relations expanded inside this one. -/
  expands : List Relation := []

namespace Relation

/-- The relation of the given name that asks for nothing. -/
def named (key : String) : Relation :=
  { key }

mutual

/-- Decides whether two relations are equal. -/
def decEq : (r s : Relation) → Decidable (r = s)
  | ⟨k, b, o, rs⟩, ⟨k', b', o', rs'⟩ =>
    if hk : k = k' then
      if hb : b = b' then
        if ho : o = o' then
          match decEqList rs rs' with
          | isTrue hr => isTrue (by rw [hk, hb, ho, hr])
          | isFalse hr => isFalse (fun h => hr (by injection h))
        else isFalse (fun h => ho (by injection h))
      else isFalse (fun h => hb (by injection h))
    else isFalse (fun h => hk (by injection h))

/-- Decides whether two lists of relations are equal. -/
def decEqList : (rs ss : List Relation) → Decidable (rs = ss)
  | [], [] => isTrue rfl
  | [], _ :: _ => isFalse (fun h => nomatch h)
  | _ :: _, [] => isFalse (fun h => nomatch h)
  | r :: rs, s :: ss =>
    match decEq r s with
    | isFalse hr => isFalse (fun h => hr (by injection h))
    | isTrue hr =>
      match decEqList rs ss with
      | isTrue hs => isTrue (by rw [hr, hs])
      | isFalse hs => isFalse (fun h => hs (by injection h))

end

instance : DecidableEq Relation := decEq

end Relation

/-- A whole query. -/
structure Query where
  /-- What is asked of the items. -/
  options : Options := {}
  /-- The relations that are expanded. -/
  expands : List Relation := []
deriving DecidableEq

namespace Query

/-- The query that asks for nothing. -/
def empty : Query := {}

/-- Whether a relation with this query has anything to write. Grouping does not
    count, since relations never write it. -/
def hasOperators (q : Query) : Bool :=
  !q.options.filters.isEmpty || !q.options.orderby.isEmpty || !q.options.select.isEmpty ||
    !q.expands.isEmpty || q.options.skip.isSome || q.options.take.isSome ||
    q.options.count == some true

end Query

/-- The query that a relation scopes. -/
def Relation.query (r : Relation) : Query :=
  ⟨r.options, r.expands⟩

end OData
