import SpanDashboard.Failure

/-!
# Consistent views

The checks of `validate`, which the description of a view must pass: it has columns, its clickable
columns are among them and have detail views, and its layout, its header and its rows are equally
wide.
-/

set_option autoImplicit false

namespace SpanDashboard

/-- Checks the description of a view and reports the first fault. -/
def ViewSpec.check (view : View) (s : ViewSpec) : Except SetupFault Unit :=
  if s.columns.isEmpty then .error (.noColumns view)
  else
    match s.clickable.find? fun c => !s.columns.contains c with
    | some column => .error (.clickableNotShown view column)
    | none =>
      match s.clickable.find? fun c => c.detailView?.isNone with
      | some column => .error (.noDetailView view column)
      | none =>
        let header := s.labels.length
        if header ≠ s.cellCount ∨ s.layoutCount ≠ s.cellCount then
          .error (.widthsDiffer view s.layoutCount header s.cellCount)
        else .ok ()

/-- Checks all views: `validate`. -/
def View.checkAll : Except Failure Unit :=
  (View.all.forM fun v => v.spec.check v).mapError .setup

theorem View.checkAll_eq_ok : View.checkAll = .ok () := by
  rfl

end SpanDashboard
