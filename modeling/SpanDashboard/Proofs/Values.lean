import Mathlib.Algebra.Ring.Int.Defs
import SpanDashboard.Json.Ordered
import SpanDashboard.Json.Reader

/-!
# Throughout a JSON value

Notions that go down into a value: how deep its containers are nested, and whether its numbers are
whole. The canonical form of a value nests no deeper (`nesting_canonical_le`), and its numbers are
whole if those of the value are (`Whole.canonical`).
-/

set_option autoImplicit false

namespace SpanDashboard.Json

mutual
/-- How many containers are inside one another, the outermost one included. -/
def nesting : Json → Nat
  | .array items => nestingItems items + 1
  | .object members => nestingMembers members + 1
  | _ => 0
termination_by structural value => value
/-- The nesting of the deepest of some values. -/
def nestingItems : List Json → Nat
  | [] => 0
  | value :: rest => max value.nesting (nestingItems rest)
termination_by structural values => values
/-- The nesting of the deepest value of some members. -/
def nestingMembers : List (String × Json) → Nat
  | [] => 0
  | (_, value) :: rest => max value.nesting (nestingMembers rest)
termination_by structural members => members
end

theorem nestingItems_le_iff {items : List Json} {n : Nat} :
    nestingItems items ≤ n ↔ ∀ v ∈ items, v.nesting ≤ n := by
  induction items with
  | nil => simp [nestingItems]
  | cons v rest ih => rw [nestingItems, Nat.max_le, ih, List.forall_mem_cons]

theorem nestingMembers_le_iff {members : List (String × Json)} {n : Nat} :
    nestingMembers members ≤ n ↔ ∀ m ∈ members, m.2.nesting ≤ n := by
  induction members with
  | nil => simp [nestingMembers]
  | cons m rest ih => rw [nestingMembers, Nat.max_le, ih, List.forall_mem_cons]

theorem nesting_lt_of_mem_items {items : List Json} {v : Json} (member : v ∈ items) :
    v.nesting < (array items).nesting :=
  Nat.lt_succ_of_le (nestingItems_le_iff.1 (Nat.le_refl _) v member)

theorem nesting_lt_of_mem_members {members : List (String × Json)} {m : String × Json}
    (member : m ∈ members) : m.2.nesting < (object members).nesting :=
  Nat.lt_succ_of_le (nestingMembers_le_iff.1 (Nat.le_refl _) m member)

/-- All numbers in a value are whole, and fit in 64 bits with or without a sign. -/
inductive Whole : Json → Prop where
  | null : Whole .null
  | bool (b : Bool) : Whole (.bool b)
  | int {n : Int} (low : -2 ^ 63 ≤ n) (high : n < 2 ^ 64) : Whole (.int n)
  | string (s : String) : Whole (.string s)
  | array {items : List Json} (each : ∀ v ∈ items, Whole v) : Whole (.array items)
  | object {members : List (String × Json)} (each : ∀ m ∈ members, Whole m.2) :
      Whole (.object members)

/-! ## Canonical forms -/

/-- Nothing gets deeper in the canonical form. -/
theorem nesting_canonical_le (value : Json) : value.canonical.nesting ≤ value.nesting := by
  induction value using Json.induction with
  | null => exact Nat.le_refl _
  | bool b => exact Nat.le_refl _
  | int n => exact Nat.le_refl _
  | double x => exact Nat.le_refl _
  | string s => exact Nat.le_refl _
  | array items ih =>
    rw [canonical_array]
    refine Nat.succ_le_succ (nestingItems_le_iff.2 fun v member => ?_)
    obtain ⟨w, inside, rfl⟩ := List.mem_map.1 member
    exact Nat.le_trans (ih w inside) (Nat.le_of_lt_succ (nesting_lt_of_mem_items inside))
  | object members ih =>
    rw [canonical_object]
    refine Nat.succ_le_succ (nestingMembers_le_iff.2 fun m member => ?_)
    obtain ⟨n, inside, rfl⟩ := List.mem_map.1 (mem_sortMembers member)
    exact Nat.le_trans (ih n inside) (Nat.le_of_lt_succ (nesting_lt_of_mem_members inside))

theorem Whole.canonical {value : Json} (whole : value.Whole) : value.canonical.Whole := by
  induction value using Json.induction with
  | null => exact whole
  | bool b => exact whole
  | int n => exact whole
  | double x => exact whole
  | string s => exact whole
  | array items ih =>
    cases whole with
    | array each =>
      rw [canonical_array]
      refine .array fun v member => ?_
      obtain ⟨w, inside, rfl⟩ := List.mem_map.1 member
      exact ih w inside (each w inside)
  | object members ih =>
    cases whole with
    | object each =>
      rw [canonical_object]
      refine .object fun m member => ?_
      obtain ⟨n, inside, rfl⟩ := List.mem_map.1 (mem_sortMembers member)
      exact ih n inside (each n inside)

end SpanDashboard.Json
