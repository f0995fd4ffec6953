import OData.Filter

/-!
# Query Options

What a query asks for at one level, apart from the relations it expands. The
same record serves the whole query and every relation inside it.

Lists are kept in the order of the calls that filled them, and texts as they
will be written. Skip, top and the count flag are absent until they are set. A
count flag that is set to false is remembered, although it is never written.

Counts are numbers of 64 bits. Only a product of two of them can leave that
range, and it is cut off at the largest one.

## Main definitions

* `Options`: The options of one level.
* `Pagination`: A page size, a number of pages to skip, and the count flag.
* `Options.paginate`: Paging as skip, top and count.
-/

namespace OData

/-- The options of one level of a query. -/
structure Options where
  /-- The selected paths. -/
  select : List String := []
  /-- The filter fragments, one for each call. -/
  filters : List Filter := []
  /-- The sort keys. -/
  orderby : List String := []
  /-- The paths that results are grouped by. -/
  groupby : List String := []
  /-- The aggregate clause of the grouping, if it has one. -/
  aggregator : Option String := none
  /-- How many items are left out in front. -/
  skip : Option Nat := none
  /-- How many items are taken at most. -/
  take : Option Nat := none
  /-- Whether the number of items is asked for. -/
  count : Option Bool := none
deriving DecidableEq

/-- The largest count. -/
def maxCount : Nat := 0xffffffffffffffff

/-- A request for one page. -/
structure Pagination where
  /-- The number of items on a page. -/
  pageSize : Nat
  /-- How many pages to skip. -/
  page : Option Nat := none
  /-- Whether to ask for the number of items; unset means yes. -/
  count : Option Bool := none
deriving DecidableEq

namespace Pagination

/-- The number of items before the page, unless the page is missing or the
    first. -/
def skip? (p : Pagination) : Option Nat :=
  match p.page with
  | none => none
  | some n => if n = 0 then none else some (min (n * p.pageSize) maxCount)

end Pagination

namespace Options

/-- Pages through the results: takes a page, skips the pages before it if there
    are any, and asks for the number of items unless told not to. -/
def paginate (o : Options) (p : Pagination) : Options :=
  { o with
    take := some p.pageSize
    skip := p.skip?.or o.skip
    count := some (p.count.getD true) }

end Options

end OData
