import Mathlib.Data.List.Forall2
import SpanDashboard.Json.Ordered

/-!
# Values put in order

What it means to put a value in order, said without the sorting (`Arranged`): under each key of an
object there is the last of the members with this key, and the keys increase. Members in order are
known by what is found under each key (`eq_of_lookup_eq`), and sorting keeps what is found there
(`lookup_sortMembers`). So the canonical form is the one arrangement of a value (`arranged_iff`).
-/

set_option autoImplicit false

namespace SpanDashboard.Json

/-- One value is another one with the members of all objects in the order of their keys; where
several members have one key, the last of them counts. -/
inductive Arranged : Json → Json → Prop where
  | null : Arranged .null .null
  | bool (b : Bool) : Arranged (.bool b) (.bool b)
  | int (n : Int) : Arranged (.int n) (.int n)
  | double (x : Double) : Arranged (.double x) (.double x)
  | string (s : String) : Arranged (.string s) (.string s)
  | array {items others : List Json} (each : List.Forall₂ Arranged items others) :
      Arranged (.array items) (.array others)
  | object {members others : List (String × Json)}
      (increasing : others.Pairwise fun m n => m.1 < n.1)
      (each : ∀ key, Option.Rel Arranged (members.reverse.lookup key) (others.lookup key)) :
      Arranged (.object members) (.object others)

/-! ## What is found under a key -/

theorem lookup_cons (key : String) (m : String × Json) (rest : List (String × Json)) :
    (m :: rest).lookup key = if key = m.1 then some m.2 else rest.lookup key := by
  obtain ⟨k, v⟩ := m
  by_cases found : key = k
  · simp [found]
  · simp [List.lookup_cons, beq_false_of_ne found, found]

theorem mem_of_lookup {members : List (String × Json)} {key : String} {v : Json}
    (found : members.lookup key = some v) : (key, v) ∈ members := by
  obtain ⟨before, after, rfl, -⟩ := List.lookup_eq_some_iff.1 found
  exact List.mem_append_right before List.mem_cons_self

theorem mem_of_lookup_reverse {members : List (String × Json)} {key : String} {v : Json}
    (last : members.reverse.lookup key = some v) : (key, v) ∈ members :=
  List.mem_reverse.1 (mem_of_lookup last)

theorem lookup_eq_none_of_lt {members : List (String × Json)} {key : String}
    (later : ∀ m ∈ members, key < m.1) : members.lookup key = none := by
  rw [Option.eq_none_iff_forall_ne_some]
  intro v found
  exact String.lt_irrefl _ (later _ (mem_of_lookup found))

theorem lookup_map (f : Json → Json) (members : List (String × Json)) (key : String) :
    (members.map fun m => (m.1, f m.2)).lookup key = (members.lookup key).map f := by
  induction members with
  | nil => rfl
  | cons first rest ih =>
    rw [List.map_cons, lookup_cons, lookup_cons, ih]
    split <;> rfl

theorem not_lt_of_lookup_eq {m n : String × Json} {members others : List (String × Json)}
    (least : ∀ x ∈ others, n.1 < x.1)
    (same : ∀ key, (m :: members).lookup key = (n :: others).lookup key) : ¬ m.1 < n.1 := by
  intro before
  have nowhere : (n :: others).lookup m.1 = none := by
    refine lookup_eq_none_of_lt (List.forall_mem_cons.2 ⟨before, fun x member => ?_⟩)
    exact String.lt_trans before (least x member)
  have found := same m.1
  rw [nowhere, lookup_cons, if_pos rfl] at found
  cases found

/-- Members in order are known by what is found under each key. -/
theorem eq_of_lookup_eq {members others : List (String × Json)}
    (increasing : members.Pairwise fun m n => m.1 < n.1)
    (increasing' : others.Pairwise fun m n => m.1 < n.1)
    (same : ∀ key, members.lookup key = others.lookup key) : members = others := by
  induction increasing generalizing others with
  | nil =>
    cases others with
    | nil => rfl
    | cons n rest =>
      have found := same n.1
      rw [lookup_cons, if_pos rfl] at found
      cases found
  | @cons m members least increasing ih =>
    cases increasing' with
    | nil =>
      have found := same m.1
      rw [lookup_cons, if_pos rfl] at found
      cases found
    | @cons n others least' increasing' =>
      have key_eq : m.1 = n.1 :=
        String.le_antisymm (String.not_lt.1 (not_lt_of_lookup_eq least fun key => (same key).symm))
          (String.not_lt.1 (not_lt_of_lookup_eq least' same))
      have value_eq := same m.1
      rw [lookup_cons, if_pos rfl, lookup_cons, if_pos key_eq, Option.some_inj] at value_eq
      have rest_eq : members = others := by
        refine ih increasing' fun key => ?_
        by_cases here : key = m.1
        · rw [here, lookup_eq_none_of_lt least, key_eq, lookup_eq_none_of_lt least']
        · have found := same key
          rwa [lookup_cons, if_neg here, lookup_cons, if_neg (key_eq ▸ here)] at found
      rw [Prod.ext key_eq value_eq, rest_eq]

/-! ## Sorting -/

theorem lookup_insertMember (key : String) (value : Json) (members : List (String × Json))
    (other : String) :
    (insertMember key value members).lookup other =
      if other = key then some value else members.lookup other := by
  induction members with
  | nil => exact lookup_cons other (key, value) []
  | cons first rest ih =>
    rw [insertMember]
    split
    case isTrue => exact lookup_cons other (key, value) (first :: rest)
    case isFalse =>
      split
      case isTrue same =>
        rw [lookup_cons, lookup_cons, ← same]
        split <;> rfl
      case isFalse different =>
        rw [lookup_cons, lookup_cons, ih]
        by_cases found : other = first.1
        · simp [found, Ne.symm different]
        · simp [found]

theorem lookup_insertMembers (sorted members : List (String × Json)) (key : String) :
    (insertMembers sorted members).lookup key =
      (members.reverse.lookup key).or (sorted.lookup key) := by
  induction members generalizing sorted with
  | nil => rfl
  | cons first rest ih =>
    have placed := ih (insertMember first.1 first.2 sorted)
    rw [lookup_insertMember] at placed
    rw [insertMembers, List.foldl_cons, ← insertMembers, placed, List.reverse_cons,
      List.lookup_append, lookup_cons, Option.or_assoc]
    split <;> rfl

/-- Sorting leaves under each key the last of the members with it. -/
theorem lookup_sortMembers (members : List (String × Json)) (key : String) :
    (sortMembers members).lookup key = members.reverse.lookup key :=
  (lookup_insertMembers [] members key).trans Option.or_none

theorem lookup_canonical (members : List (String × Json)) (key : String) :
    (sortMembers (members.map fun m => (m.1, m.2.canonical))).lookup key =
      (members.reverse.lookup key).map canonical := by
  rw [lookup_sortMembers, ← List.map_reverse, lookup_map]

/-! ## The arrangement of a value -/

theorem arranged_canonical (v : Json) : v.Arranged v.canonical := by
  induction v using Json.induction with
  | null => exact .null
  | bool b => exact .bool b
  | int n => exact .int n
  | double x => exact .double x
  | string s => exact .string s
  | array items ih =>
    rw [canonical_array]
    exact .array (List.forall₂_map_right_iff.2 (List.forall₂_same.2 ih))
  | object members ih =>
    rw [canonical_object]
    refine .object (pairwise_sortMembers _) fun key => ?_
    rw [lookup_canonical]
    cases last : members.reverse.lookup key with
    | none => exact .none
    | some v => exact .some (ih _ (mem_of_lookup_reverse last))

theorem Arranged.canonical_eq {v w : Json} (arranged : v.Arranged w) : v.canonical = w := by
  induction v using Json.induction generalizing w with
  | null | bool b | int n | double x | string s =>
    cases arranged
    rfl
  | array items ih =>
    cases arranged with
    | @array _ others each =>
      have same : List.Forall₂ (fun v w => v.canonical = w) items others :=
        ((List.forall₂_and_left _ _).2 ⟨ih, each⟩).imp fun v w both => both.1 both.2
      rw [← List.forall₂_map_left_iff, List.forall₂_eq_eq_eq] at same
      rw [canonical_array, same]
  | object members ih =>
    cases arranged with
    | @object _ others increasing each =>
      rw [canonical_object]
      refine congrArg Json.object
        (eq_of_lookup_eq (pairwise_sortMembers _) increasing fun key => ?_)
      have here := each key
      rw [lookup_canonical]
      generalize others.lookup key = found at here
      cases last : members.reverse.lookup key with
      | none =>
        rw [last] at here
        cases here
        rfl
      | some v =>
        rw [last] at here
        cases here with
        | some inside => exact congrArg some (ih _ (mem_of_lookup_reverse last) inside)

/-- The canonical form is the one arrangement of a value. -/
theorem arranged_iff {v w : Json} : v.Arranged w ↔ v.canonical = w :=
  ⟨Arranged.canonical_eq, fun same => same ▸ v.arranged_canonical⟩

end SpanDashboard.Json
