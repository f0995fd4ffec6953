import OData.Limits.Validate
import OData.Query.Grammar

/-!
# Log Events

What is reported while a query is written and checked. Writing a query reports
the query string and the number of its parameters, unless there is nothing to
write. A check that fails reports the violation. Neither report changes the
result.

## Main definitions

* `LogEvent`: A level and named texts.
* `Query.events`: What writing a query reports.
* `Limits.events`: What checking a query reports.
-/

namespace OData

/-- How important an event is. -/
inductive LogLevel where
  | trace
  | debug
deriving DecidableEq

/-- The name of a level. -/
def LogLevel.name : LogLevel → String
  | trace => "TRACE"
  | debug => "DEBUG"

/-- A reported event. -/
structure LogEvent where
  /-- How important it is. -/
  level : LogLevel
  /-- What it says, by name. -/
  fields : List (String × String)
deriving DecidableEq

/-- What writing a query reports. -/
def Query.events (q : Query) : List LogEvent :=
  if q.params.isEmpty then []
  else
    [{ level := .trace
       fields :=
        [("message", "odata.query.rendered"), ("query", q.text),
          ("params", Text.decimal q.params.length)] }]

/-- What checking a query reports. -/
def Limits.events (ls : Limits) (q : Query) : List LogEvent :=
  match ls.validate q with
  | .ok () => []
  | .error v =>
    [{ level := .debug
       fields := [("message", "odata.query.limit_exceeded"), ("error", v.message)] }]

end OData
