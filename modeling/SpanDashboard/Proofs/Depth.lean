import SpanDashboard.Json.Bounded
import SpanDashboard.Proofs.Building

/-!
# Values cut off and read back

Cutting a value off with `bound_depth` leaves its members in order and its numbers whole, and what
is left is shallow enough for the reader: the eight upper levels of the value (`bounded_eq_downTo`).
So the text that shows a value is read as the value, cut off (`parse?_shown`).
-/

set_option autoImplicit false

namespace SpanDashboard.Json

theorem Layout.pretty_isBlank : Layout.pretty.IsBlank where
  line depth c member := by
    rcases List.mem_cons.1 member with rfl | indent
    · rfl
    · rw [(List.mem_replicate.1 indent).2]
      rfl
  gap c member := by
    rw [List.mem_singleton.1 member]
    rfl

/-! ## Containers cut off -/

theorem boundedItems_eq_map (depth : Nat) (items : List Json) :
    boundedItems depth items = items.map (bounded depth) := by
  induction items with
  | nil => rfl
  | cons v rest ih => rw [boundedItems, ih, List.map_cons]

theorem boundedMembers_eq_map (depth : Nat) (members : List (String × Json)) :
    boundedMembers depth members = members.map fun m => (m.1, bounded depth m.2) := by
  induction members with
  | nil => rfl
  | cons m rest ih => rw [boundedMembers, ih, List.map_cons]

/-- An array is shown unless it has items and is inside of too many containers. -/
theorem bounded_array (depth : Nat) (items : List Json) :
    bounded depth (.array items) =
      if maxShownDepth ≤ depth ∧ items ≠ [] then ellipsis
      else .array (items.map (bounded (depth + 1))) := by
  cases items with
  | nil => simp [bounded]
  | cons v rest => simp [bounded, boundedItems_eq_map]

/-- An object is shown unless it has members and is inside of too many containers. -/
theorem bounded_object (depth : Nat) (members : List (String × Json)) :
    bounded depth (.object members) =
      if maxShownDepth ≤ depth ∧ members ≠ [] then ellipsis
      else .object (members.map fun m => (m.1, bounded (depth + 1) m.2)) := by
  cases members with
  | nil => simp [bounded]
  | cons m rest => simp [bounded, boundedMembers_eq_map]

/-- Whole numbers stay whole. -/
theorem Whole.bounded {v : Json} (whole : v.Whole) (depth : Nat) : (v.bounded depth).Whole := by
  induction v using Json.induction generalizing depth with
  | null => exact whole
  | bool b => exact whole
  | int n => exact whole
  | double x => exact whole
  | string s => exact whole
  | array items ih =>
    cases whole with
    | array each =>
      rw [bounded_array]
      split
      case isTrue => exact .string _
      case isFalse =>
        refine .array fun v member => ?_
        obtain ⟨w, inside, rfl⟩ := List.mem_map.1 member
        exact ih w inside (each w inside) (depth + 1)
  | object members ih =>
    cases whole with
    | object each =>
      rw [bounded_object]
      split
      case isTrue => exact .string _
      case isFalse =>
        refine .object fun m member => ?_
        obtain ⟨n, inside, rfl⟩ := List.mem_map.1 member
        exact ih n inside (each n inside) (depth + 1)

/-- Members stay in order. -/
theorem Sorted.bounded {v : Json} (sorted : v.Sorted) (depth : Nat) : (v.bounded depth).Sorted := by
  induction v using Json.induction generalizing depth with
  | null => exact sorted
  | bool b => exact sorted
  | int n => exact sorted
  | double x => exact sorted
  | string s => exact sorted
  | array items ih =>
    cases sorted with
    | array each =>
      rw [bounded_array]
      split
      case isTrue => exact .string _
      case isFalse =>
        refine .array fun v member => ?_
        obtain ⟨w, inside, rfl⟩ := List.mem_map.1 member
        exact ih w inside (each w inside) (depth + 1)
  | object members ih =>
    cases sorted with
    | object increasing each =>
      rw [bounded_object]
      split
      case isTrue => exact .string _
      case isFalse =>
        refine .object (List.pairwise_map.2 increasing) fun m member => ?_
        obtain ⟨n, inside, rfl⟩ := List.mem_map.1 member
        exact ih n inside (each n inside) (depth + 1)

/-- Within the containers around it, what is left of a value nests one deeper than the depth that is
shown, where a container without contents may stand. -/
theorem nesting_bounded_le (v : Json) {depth : Nat} (shown : depth ≤ maxShownDepth) :
    depth + (v.bounded depth).nesting ≤ maxShownDepth + 1 := by
  induction v using Json.induction generalizing depth with
  | null => exact Nat.le_succ_of_le shown
  | bool b => exact Nat.le_succ_of_le shown
  | int n => exact Nat.le_succ_of_le shown
  | double x => exact Nat.le_succ_of_le shown
  | string s => exact Nat.le_succ_of_le shown
  | array items ih =>
    rw [bounded_array]
    split
    case isTrue => exact Nat.le_succ_of_le shown
    case isFalse kept =>
      have inside : nestingItems (items.map (Json.bounded (depth + 1))) ≤
          maxShownDepth - depth := by
        refine nestingItems_le_iff.2 fun v member => ?_
        obtain ⟨w, inside, rfl⟩ := List.mem_map.1 member
        have deeper : depth + 1 ≤ maxShownDepth := by
          by_contra deep
          exact kept ⟨by omega, List.ne_nil_of_mem inside⟩
        have bound := ih w inside deeper
        omega
      rw [nesting]
      omega
  | object members ih =>
    rw [bounded_object]
    split
    case isTrue => exact Nat.le_succ_of_le shown
    case isFalse kept =>
      have inside : nestingMembers (members.map fun m => (m.1, m.2.bounded (depth + 1))) ≤
          maxShownDepth - depth := by
        refine nestingMembers_le_iff.2 fun m member => ?_
        obtain ⟨n, inside, rfl⟩ := List.mem_map.1 member
        have deeper : depth + 1 ≤ maxShownDepth := by
          by_contra deep
          exact kept ⟨by omega, List.ne_nil_of_mem inside⟩
        have bound := ih n inside deeper
        show (n.2.bounded (depth + 1)).nesting ≤ _
        omega
      rw [nesting]
      omega

/-! ## Levels -/

/-- The upper levels of a value: a container with contents that is inside of as many others is an
ellipsis, as are those inside of it. -/
def downTo : Nat → Json → Json
  | _, .array [] => .array []
  | _, .object [] => .object []
  | 0, .array _ | 0, .object _ => .string "…"
  | levels + 1, .array items => .array (items.map (downTo levels))
  | levels + 1, .object members => .object (members.map fun m => (m.1, downTo levels m.2))
  | _, scalar => scalar

theorem downTo_array (levels : Nat) (items : List Json) :
    (array items).downTo (levels + 1) = .array (items.map (downTo levels)) := by
  cases items <;> rfl

theorem downTo_object (levels : Nat) (members : List (String × Json)) :
    (object members).downTo (levels + 1) =
      .object (members.map fun m => (m.1, m.2.downTo levels)) := by
  cases members <;> rfl

/-- What is left of a value are the levels that come to eight with the containers around it. -/
theorem bounded_eq_downTo {depth levels : Nat} (eight : depth + levels = 8) (v : Json) :
    v.bounded depth = v.downTo levels := by
  have limit : maxShownDepth = 8 := rfl
  induction levels generalizing depth v with
  | zero =>
    have deep : maxShownDepth ≤ depth := by omega
    cases v with
    | array items => cases items <;> simp [bounded, downTo, deep, ellipsis]
    | object members => cases members <;> simp [bounded, downTo, deep, ellipsis]
    | _ => rfl
  | succ levels ih =>
    have shallow : ¬ maxShownDepth ≤ depth := by omega
    have inner : bounded (depth + 1) = downTo levels := funext fun v => ih (by omega) v
    cases v with
    | array items => rw [bounded_array, downTo_array, if_neg (by simp [shallow]), inner]
    | object members => rw [bounded_object, downTo_object, if_neg (by simp [shallow]), inner]
    | _ => rfl

/-! ## The text that shows a value -/

/-- The text that shows a value is read as the value, cut off. -/
theorem parse?_shown (v : Ordered) (whole : v.json.Whole) :
    parse? v.json.shown = some (v.json.bounded 0) := by
  have nested := nesting_bounded_le v.json (Nat.zero_le maxShownDepth)
  have shallow : (v.json.bounded 0).nesting ≤ maxNesting := by
    have bound : maxShownDepth + 1 ≤ maxNesting := by decide
    omega
  rw [shown, pretty, parse?_chars Layout.pretty_isBlank (whole.bounded 0) shallow,
    (v.sorted.bounded 0).canonical_eq]

/-- Nine arrays inside one another are shown if the innermost one is empty, ten are not. -/
example :
    (Nat.repeat (fun v => Json.array [v]) 8 (.array [])).shown =
      (Nat.repeat (fun v => Json.array [v]) 8 (.array [])).pretty ∧
    (Nat.repeat (fun v => Json.array [v]) 9 (.array [])).shown =
      (Nat.repeat (fun v => Json.array [v]) 8 ellipsis).pretty := by
  decide +kernel

end SpanDashboard.Json
