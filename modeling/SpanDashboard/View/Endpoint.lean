import SpanDashboard.Text.Numeral
import SpanDashboard.Text.Percent
import SpanDashboard.Text.Replace
import SpanDashboard.View.Spec

/-!
# Endpoint paths

The path from which the records of a view are fetched. The span name is put into the template as
one encoded segment, which contains no braces, so that filling the place of the bucket afterwards
leaves the name alone.
-/

set_option autoImplicit false

namespace SpanDashboard

/-- What a detail view is restricted to: a `DrilldownKey`. -/
structure DetailKey where
  spanName : String
  bucket : Option LatencyBucket
  deriving DecidableEq, Repr

/-- The text for a bucket in a path: its position, or nothing. -/
def DetailKey.bucketText (key : DetailKey) : String :=
  match key.bucket with
  | some b => Numeral.text b.index
  | none => ""

/-- `endpoint_path`, the endpoint path of a view with the parts of the key in their places; without
a key the places are left empty. -/
def View.path (v : View) (key : Option DetailKey) : String :=
  let spanName := (key.map fun k => Percent.encode k.spanName).getD ""
  let bucket := (key.map DetailKey.bucketText).getD ""
  Text.replaceAll ViewSpec.bucketPlace bucket
    (Text.replaceAll ViewSpec.namePlace spanName v.spec.pathTemplate)

end SpanDashboard
