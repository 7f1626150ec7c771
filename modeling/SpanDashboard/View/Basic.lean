/-!
# Views and containers

The four views of the dashboard and the two places on the page that show their tables: the overview
has a container to itself, the three detail views take turns in the other one.
-/

set_option autoImplicit false

namespace SpanDashboard

/-- What a table shows, a `ViewName`: all span names, or sampled spans of one name that failed, are
running, or completed within one latency bucket. -/
inductive View where
  | overview | error | running | latency
  deriving DecidableEq, Repr

/-- A place on the page that holds one table. -/
inductive Container where
  | overview | detail
  deriving DecidableEq, Repr

namespace Container

/-- The identifier of the page element: `OVERVIEW_CONTAINER` or `DETAIL_CONTAINER`. -/
def id : Container → String
  | overview => "overview_table"
  | detail => "name_type_detail_table"

/-- `subheading_container`: the identifier of the element that holds the subheading above the
table. -/
def subheadingId (c : Container) : String :=
  c.id ++ "_header"

end Container

/-- `LAST_UPDATE_CONTAINER`: the identifier of the element that shows when the page was last
refreshed. -/
def refreshStampId : String :=
  "lastUpdateTime"

namespace View

/-- All views. -/
def all : List View :=
  [overview, error, running, latency]

/-- The name of a view. -/
def name : View → String
  | overview => "overview"
  | error => "error"
  | running => "running"
  | latency => "latency"

/-- Reads the name of a view, as `resolve_view_named` does; the overview is also called `all`. -/
def ofName? (s : String) : Option View :=
  if s = "all" then some overview else all.find? fun v => v.name = s

/-- The container that a view is shown in. -/
def container : View → Container
  | overview => .overview
  | error | running | latency => .detail

/-- `is_latency_bucketed`: whether a view shows or is restricted to latency buckets. -/
def showsBuckets : View → Bool
  | overview | latency => true
  | error | running => false

theorem mem_all (v : View) : v ∈ all := by
  cases v <;> decide

theorem ofName?_name (v : View) : ofName? v.name = some v := by
  cases v <;> decide

end View

end SpanDashboard
