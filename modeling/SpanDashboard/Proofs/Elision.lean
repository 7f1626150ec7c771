import SpanDashboard.Html.Shown
import SpanDashboard.Proofs.Depth
import SpanDashboard.Proofs.Escape

/-!
# What is left of a value that is cut off

A place in a value is given by the positions that lead to it, one for each container around it.
Cutting a value off with `bound_depth` leaves every place within the depth that is shown as it is,
apart from the containers with contents at this depth (`at?_bounded`). So a value without such
containers is left whole (`IsShallow.bounded_eq`), and cutting off a second time changes nothing
(`bounded_bounded`).
-/

set_option autoImplicit false

namespace SpanDashboard.Json

/-! ## Places in a value -/

/-- What a container contains, in its order. -/
def contents : Json → List Json
  | .array items => items
  | .object members => members.map Prod.snd
  | _ => []

/-- The value at a place. -/
def at? : List Nat → Json → Option Json
  | [], v => some v
  | i :: path, v => v.contents[i]?.bind (at? path)

/-- What a value is by itself: a scalar, an array with its length or an object with its keys, where
all contents are left blank. -/
def hollow : Json → Json
  | .array items => .array (items.map fun _ => .null)
  | .object members => .object (members.map fun m => (m.1, .null))
  | scalar => scalar

theorem contents_bounded (depth : Nat) (v : Json) :
    (v.bounded depth).contents =
      if maxShownDepth ≤ depth then [] else v.contents.map (bounded (depth + 1)) := by
  cases v with
  | array items =>
    rw [bounded_array]
    by_cases deep : maxShownDepth ≤ depth <;> by_cases empty : items = [] <;>
      simp [deep, empty, contents, ellipsis]
  | object members =>
    rw [bounded_object]
    by_cases deep : maxShownDepth ≤ depth <;> by_cases empty : members = [] <;>
      simp [deep, empty, contents, ellipsis, Function.comp_def]
  | _ => simp [bounded, contents]

theorem hollow_ellipsis : ellipsis.hollow = ellipsis := by
  simp [ellipsis, hollow]

theorem hollow_bounded (depth : Nat) (v : Json) :
    (v.bounded depth).hollow =
      if maxShownDepth ≤ depth ∧ v.contents ≠ [] then ellipsis else v.hollow := by
  cases v with
  | array items =>
    rw [bounded_array, contents]
    split
    · exact hollow_ellipsis
    · simp [hollow, Function.comp_def]
  | object members =>
    rw [bounded_object]
    simp only [contents, ne_eq, List.map_eq_nil_iff]
    split
    · exact hollow_ellipsis
    · simp [hollow, Function.comp_def]
  | _ => simp [bounded, contents]

/-- What is left of a value at a place is what is left of the value there, if the place is within
the depth that is shown, and nothing otherwise. -/
theorem at?_bounded {depth : Nat} (shown : depth ≤ maxShownDepth) (path : List Nat) (v : Json) :
    at? path (v.bounded depth) =
      if depth + path.length ≤ maxShownDepth then
        (at? path v).map (bounded (depth + path.length))
      else none := by
  induction path generalizing depth v with
  | nil => rw [List.length_nil, Nat.add_zero, if_pos shown]; rfl
  | cons i path ih =>
    rw [at?, at?, contents_bounded, List.length_cons, ← Nat.add_assoc, Nat.add_right_comm]
    split
    case isTrue deep => rw [if_neg (by omega)]; rfl
    case isFalse inside =>
      have deeper : depth + 1 ≤ maxShownDepth := by omega
      rw [List.getElem?_map]
      cases v.contents[i]? with
      | none => simp
      | some w => exact ih deeper w

/-- Whether no container with contents is too deep in a value that is inside the given number of
containers. -/
def IsShallow (depth : Nat) (v : Json) : Prop :=
  ∀ path u, at? path v = some u → maxShownDepth ≤ depth + path.length → u.contents = []

theorem IsShallow.contents {depth : Nat} {v w : Json} (shallow : v.IsShallow depth)
    (member : w ∈ v.contents) : w.IsShallow (depth + 1) := by
  intro path u there deep
  obtain ⟨i, found⟩ := List.mem_iff_getElem?.1 member
  refine shallow (i :: path) u ?_ (by rw [List.length_cons]; omega)
  rw [at?, found, Option.bind_some, there]

/-- A value in which no container with contents is too deep is left whole. -/
theorem IsShallow.bounded_eq {depth : Nat} {v : Json} (shallow : v.IsShallow depth) :
    v.bounded depth = v := by
  induction v using Json.induction generalizing depth with
  | null => rfl
  | bool b => rfl
  | int n => rfl
  | double x => rfl
  | string s => rfl
  | array items ih =>
    have kept : ¬ (maxShownDepth ≤ depth ∧ items ≠ []) := fun cut =>
      cut.2 (shallow [] _ rfl cut.1)
    have same : ∀ w ∈ items, w.bounded (depth + 1) = id w := fun w member =>
      ih w member (shallow.contents member)
    rw [bounded_array, if_neg kept, List.map_congr_left same, List.map_id]
  | object members ih =>
    have kept : ¬ (maxShownDepth ≤ depth ∧ members ≠ []) := fun cut =>
      cut.2 (List.map_eq_nil_iff.1 (shallow [] _ rfl cut.1))
    have same : ∀ m ∈ members, (m.1, m.2.bounded (depth + 1)) = id m := fun m member =>
      congrArg (Prod.mk m.1) (ih m member (shallow.contents (List.mem_map_of_mem member)))
    rw [bounded_object, if_neg kept, List.map_congr_left same, List.map_id]

/-- In what is left of a value no container with contents is too deep. -/
theorem isShallow_bounded (v : Json) : (v.bounded 0).IsShallow 0 := by
  intro path u there deep
  rw [at?_bounded (Nat.zero_le _)] at there
  split at there
  case isTrue =>
    obtain ⟨w, -, rfl⟩ := Option.map_eq_some_iff.1 there
    rw [contents_bounded, if_pos deep]
  case isFalse => cases there

theorem bounded_eq_self_iff (v : Json) : v.bounded 0 = v ↔ v.IsShallow 0 :=
  ⟨fun same => same ▸ isShallow_bounded v, IsShallow.bounded_eq⟩

/-- Cutting off a second time changes nothing. -/
theorem bounded_bounded (v : Json) : (v.bounded 0).bounded 0 = v.bounded 0 :=
  (isShallow_bounded v).bounded_eq

/-- What is left of a value at a place: nothing changes within the depth that is shown but for the
containers with contents at this depth, which are replaced by an ellipsis. -/
theorem hollow_at?_bounded (path : List Nat) (v : Json) :
    (at? path (v.bounded 0)).map hollow =
      if path.length ≤ maxShownDepth then
        (at? path v).map fun u =>
          if path.length = maxShownDepth ∧ u.contents ≠ [] then ellipsis else u.hollow
      else none := by
  rw [at?_bounded (Nat.zero_le _), Nat.zero_add]
  split
  case isTrue shown =>
    rw [Option.map_map]
    congr 1
    funext u
    have limit : maxShownDepth ≤ path.length ↔ path.length = maxShownDepth := by omega
    rw [Function.comp_apply, hollow_bounded]
    exact if_congr (and_congr_left' limit) rfl rfl
  case isFalse => rfl

/-! ## Blocks of code -/

/-- The text of a block of code. -/
theorem render_codeBlock (v : Ordered) :
    (Html.codeBlock v).render =
      "<pre><code>" ++ Entity.escape v.json.shown ++ "</code></pre>" := by
  apply String.toList_inj.1
  have opening : Html.openingTag .pre [] ++ Html.openingTag .code [] = "<pre><code>".toList := by
    decide
  have closing : Html.closingTag .code ++ Html.closingTag .pre = "</code></pre>".toList := by
    decide
  rw [Html.codeBlock, Html.render, String.toList_append, String.toList_append, ← opening,
    ← closing, Entity.escape]
  simp

/-- **A structured value is shown faithfully down to the depth limit.** The text between the tags of
its block of code is read back as the text that shows it, and that text as a JSON value. In this
value every place within the limit has what it has in the value itself: a scalar, an array of the
same length or an object with the same keys in the same order, where only the containers with
contents at the limit are replaced by an ellipsis. So nothing is lost exactly if there are no such
containers at the limit or below, the text nests one container deeper than the limit at most, and
the value that is read is shown as the same text. -/
theorem shown_down_to_limit (v : Ordered) (whole : v.json.Whole) :
    (∃ inner, (Html.codeBlock v).render = "<pre><code>" ++ inner ++ "</code></pre>" ∧
      '<' ∉ inner.toList ∧ Entity.unescape inner = v.json.shown) ∧
    ∃ w, parse? v.json.shown = some w ∧
      (∀ path, (at? path w).map hollow =
        if path.length ≤ 8 then
          (at? path v.json).map fun u =>
            if path.length = 8 ∧ u.contents ≠ [] then .string "…" else u.hollow
        else none) ∧
      (w = v.json ↔
        ∀ path u, at? path v.json = some u → 8 ≤ path.length → u.contents = []) ∧
      w.nesting ≤ 9 ∧
      w.shown = v.json.shown := by
  refine ⟨⟨Entity.escape v.json.shown, render_codeBlock v, ?_, Entity.unescape_escape _⟩,
    v.json.bounded 0, parse?_shown v whole, fun path => hollow_at?_bounded path v.json, ?_, ?_, ?_⟩
  · rw [Entity.escape, String.toList_ofList]
    exact fun bracket => Entity.not_delimiter_of_mem_escapeChars bracket (by decide)
  · simpa only [IsShallow, Nat.zero_add, maxShownDepth] using bounded_eq_self_iff v.json
  · have bound := nesting_bounded_le v.json (Nat.zero_le maxShownDepth)
    rwa [Nat.zero_add] at bound
  · rw [shown, bounded_bounded, shown]

/-- Seven arrays around one that has an object, an empty array and a number at the limit. -/
theorem shown_down_to_limit_of_nested :
    let object := Json.object [("k", .string "<")]
    let v := Nat.repeat (fun v => .array [v]) 7 (.array [object, .array [], .int (-3)])
    v.Sorted ∧ v.Whole ∧ ∃ w, parse? v.shown = some w ∧
      (at? [0, 0, 0, 0, 0, 0, 0, 0] w).map hollow = some (.string "…") ∧
      (at? [0, 0, 0, 0, 0, 0, 0, 1] w).map hollow = some (.array []) ∧
      (at? [0, 0, 0, 0, 0, 0, 0, 2] w).map hollow = some (.int (-3)) ∧
      w ≠ v ∧ w.nesting ≤ 9 ∧ w.shown = v.shown := by
  intro object v
  have sorted : v.Sorted := by
    have layer {v : Json} (inner : v.Sorted) : (Json.array [v]).Sorted :=
      .array (List.forall_mem_singleton.2 inner)
    have named : object.Sorted :=
      .object (List.pairwise_singleton _ _) (List.forall_mem_singleton.2 (.string _))
    refine layer (layer (layer (layer (layer (layer (layer (.array ?_)))))))
    simp only [List.forall_mem_cons]
    exact ⟨named, .array nofun, .int _, nofun⟩
  have whole : v.Whole := by
    have layer {v : Json} (inner : v.Whole) : (Json.array [v]).Whole :=
      .array (List.forall_mem_singleton.2 inner)
    have named : object.Whole := .object (List.forall_mem_singleton.2 (.string _))
    refine layer (layer (layer (layer (layer (layer (layer (.array ?_)))))))
    simp only [List.forall_mem_cons]
    exact ⟨named, .array nofun, .int (by decide) (by decide), nofun⟩
  obtain ⟨-, w, read, places, kept, nested, again⟩ := shown_down_to_limit ⟨v, sorted⟩ whole
  refine ⟨sorted, whole, w, read, ?_, ?_, ?_, fun same => ?_, nested, again⟩
  · exact (places _).trans rfl
  · exact (places _).trans rfl
  · exact (places _).trans rfl
  · cases kept.1 same [0, 0, 0, 0, 0, 0, 0, 0] object rfl (by decide)

end SpanDashboard.Json
