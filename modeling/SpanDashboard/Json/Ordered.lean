import SpanDashboard.Json.Basic

/-!
# JSON values in order

A value is in order if the members of all objects in it are in the order of their keys, each key
once. The canonical form of a value is in order (`sorted_canonical`), sorting leaves a value in
order alone (`Sorted.canonical_eq`), and members with different keys are only put into another order
(`sortMembers_perm`). `Json.Ordered` is a value together with its order: objects in it are maps.
-/

set_option autoImplicit false

namespace SpanDashboard.Json

/-- What holds of a container as soon as it holds of everything in it, and of all values that are no
containers, holds of every value. -/
@[elab_as_elim]
theorem induction {P : Json → Prop} (null : P .null) (bool : ∀ b, P (.bool b))
    (int : ∀ n, P (.int n)) (double : ∀ x, P (.double x)) (string : ∀ s, P (.string s))
    (array : ∀ items, (∀ v ∈ items, P v) → P (.array items))
    (object : ∀ members, (∀ m ∈ members, P m.2) → P (.object members)) (value : Json) :
    P value :=
  match value with
  | .null => null
  | .bool b => bool b
  | .int n => int n
  | .double x => double x
  | .string s => string s
  | .array items =>
    array items fun v _ => induction null bool int double string array object v
  | .object members =>
    object members fun m _ => induction null bool int double string array object m.2
termination_by sizeOf value
decreasing_by
  · have := List.sizeOf_lt_of_mem ‹v ∈ items›
    simp only [Json.array.sizeOf_spec]
    omega
  · have := List.sizeOf_lt_of_mem ‹m ∈ members›
    have : sizeOf m.2 < sizeOf m := by
      obtain ⟨key, v⟩ := m
      show sizeOf v < sizeOf (key, v)
      rw [Prod.mk.sizeOf_spec]
      omega
    simp only [Json.object.sizeOf_spec]
    omega

/-- The members of all objects in a value are in the order of their keys, and no key occurs twice
in one object. -/
inductive Sorted : Json → Prop where
  | null : Sorted .null
  | bool (b : Bool) : Sorted (.bool b)
  | int (n : Int) : Sorted (.int n)
  | double (x : Double) : Sorted (.double x)
  | string (s : String) : Sorted (.string s)
  | array {items : List Json} (each : ∀ v ∈ items, Sorted v) : Sorted (.array items)
  | object {members : List (String × Json)} (increasing : members.Pairwise fun m n => m.1 < n.1)
      (each : ∀ m ∈ members, Sorted m.2) : Sorted (.object members)

/-! ## Members in order -/

theorem mem_insertMember {key : String} {value : Json} {members : List (String × Json)}
    {m : String × Json} (member : m ∈ insertMember key value members) :
    m = (key, value) ∨ m ∈ members := by
  induction members with
  | nil => exact .inl (List.mem_singleton.1 member)
  | cons first rest ih =>
    rw [insertMember] at member
    split at member
    · exact List.mem_cons.1 member
    · split at member
      · exact (List.mem_cons.1 member).imp id (List.mem_cons_of_mem first)
      · rcases List.mem_cons.1 member with rfl | later
        · exact .inr List.mem_cons_self
        · exact (ih later).imp id (List.mem_cons_of_mem first)

/-- A new member takes its place in the order. -/
theorem pairwise_insertMember (key : String) (value : Json) {members : List (String × Json)}
    (increasing : members.Pairwise fun m n => m.1 < n.1) :
    (insertMember key value members).Pairwise fun m n => m.1 < n.1 := by
  induction increasing with
  | nil => exact List.pairwise_singleton _ _
  | @cons first rest least increasing ih =>
    have ordered := List.pairwise_cons.2 ⟨least, increasing⟩
    rw [insertMember]
    split
    case isTrue before =>
      refine List.pairwise_cons.2 ⟨?_, ordered⟩
      intro m member
      rcases List.mem_cons.1 member with rfl | later
      · exact before
      · exact String.lt_trans before (least m later)
    case isFalse other =>
      split
      case isTrue same =>
        subst same
        exact List.pairwise_cons.2 ⟨least, increasing⟩
      case isFalse different =>
        have after : first.1 < key := by
          refine String.not_le.1 fun le => different ?_
          exact String.le_antisymm le (String.not_lt.1 other)
        refine List.pairwise_cons.2 ⟨?_, ih⟩
        intro m member
        rcases mem_insertMember member with rfl | later
        · exact after
        · exact least m later

/-- A member whose key comes after all others is put at the end. -/
theorem insertMember_of_greatest {key : String} {value : Json} {members : List (String × Json)}
    (greatest : ∀ m ∈ members, m.1 < key) :
    insertMember key value members = members ++ [(key, value)] := by
  induction members with
  | nil => rfl
  | cons first rest ih =>
    obtain ⟨after, others⟩ := List.forall_mem_cons.1 greatest
    have different : key ≠ first.1 := by
      rintro rfl
      exact String.lt_irrefl _ after
    rw [insertMember, if_neg (String.lt_asymm after), if_neg different, ih others]
    rfl

/-- A member with a key of its own replaces none of the others. -/
theorem insertMember_perm {key : String} (value : Json) {members : List (String × Json)}
    (new : key ∉ members.map Prod.fst) :
    (insertMember key value members).Perm ((key, value) :: members) := by
  induction members with
  | nil => exact .refl _
  | cons first rest ih =>
    obtain ⟨different, others⟩ : key ≠ first.1 ∧ key ∉ rest.map Prod.fst := by
      simpa using new
    rw [insertMember, if_neg different]
    split
    · exact .refl _
    · exact ((ih others).cons first).trans (.swap _ _ _)

/-- The members of a sorted list after some more have been put into it one by one. -/
def insertMembers (sorted members : List (String × Json)) : List (String × Json) :=
  members.foldl (fun sorted m => insertMember m.1 m.2 sorted) sorted

theorem mem_insertMembers {sorted members : List (String × Json)} {m : String × Json}
    (member : m ∈ insertMembers sorted members) : m ∈ sorted ∨ m ∈ members := by
  induction members generalizing sorted with
  | nil => exact .inl member
  | cons first rest ih =>
    rcases ih member with early | later
    · rcases mem_insertMember early with rfl | old
      · exact .inr List.mem_cons_self
      · exact .inl old
    · exact .inr (List.mem_cons_of_mem first later)

theorem pairwise_insertMembers {sorted : List (String × Json)} (members : List (String × Json))
    (increasing : sorted.Pairwise fun m n => m.1 < n.1) :
    (insertMembers sorted members).Pairwise fun m n => m.1 < n.1 := by
  induction members generalizing sorted with
  | nil => exact increasing
  | cons first rest ih => exact ih (pairwise_insertMember first.1 first.2 increasing)

theorem insertMembers_eq_append {sorted members : List (String × Json)}
    (increasing : (sorted ++ members).Pairwise fun m n => m.1 < n.1) :
    insertMembers sorted members = sorted ++ members := by
  induction members generalizing sorted with
  | nil =>
    rw [List.append_nil]
    rfl
  | cons first rest ih =>
    have greatest : ∀ m ∈ sorted, m.1 < first.1 := fun m member =>
      (List.pairwise_append.1 increasing).2.2 m member first List.mem_cons_self
    have regrouped : sorted ++ first :: rest = (sorted ++ [first]) ++ rest := by simp
    have placed : insertMember first.1 first.2 sorted = sorted ++ [first] :=
      insertMember_of_greatest greatest
    rw [regrouped] at increasing ⊢
    rw [insertMembers, List.foldl_cons, placed]
    exact ih increasing

theorem insertMembers_perm {sorted members : List (String × Json)}
    (distinct : ((sorted ++ members).map Prod.fst).Nodup) :
    (insertMembers sorted members).Perm (sorted ++ members) := by
  induction members generalizing sorted with
  | nil =>
    rw [List.append_nil]
    exact .refl _
  | cons first rest ih =>
    have shifted : (sorted ++ first :: rest).Perm (first :: sorted ++ rest) := List.perm_middle
    have distinct := (shifted.map Prod.fst).nodup_iff.1 distinct
    have new : first.1 ∉ sorted.map Prod.fst := by
      simp only [List.cons_append, List.map_cons, List.map_append, List.nodup_cons,
        List.mem_append, not_or] at distinct
      exact distinct.1.1
    have placed := (insertMember_perm first.2 new).append_right rest
    have others := ih ((placed.map Prod.fst).nodup_iff.2 distinct)
    exact others.trans (placed.trans shifted.symm)

theorem mem_sortMembers {members : List (String × Json)} {m : String × Json}
    (member : m ∈ sortMembers members) : m ∈ members :=
  (mem_insertMembers member).resolve_left List.not_mem_nil

theorem pairwise_sortMembers (members : List (String × Json)) :
    (sortMembers members).Pairwise fun m n => m.1 < n.1 :=
  pairwise_insertMembers members .nil

/-- Members that are in order stay where they are. -/
theorem sortMembers_eq_self {members : List (String × Json)}
    (increasing : members.Pairwise fun m n => m.1 < n.1) : sortMembers members = members :=
  insertMembers_eq_append increasing

/-- Sorting only changes the order of members with different keys. -/
theorem sortMembers_perm {members : List (String × Json)}
    (distinct : (members.map Prod.fst).Nodup) : (sortMembers members).Perm members :=
  insertMembers_perm distinct

/-! ## The canonical form -/

theorem canonicalItems_eq_map (items : List Json) : canonicalItems items = items.map canonical := by
  induction items with
  | nil => rfl
  | cons v rest ih => rw [canonicalItems, ih, List.map_cons]

theorem canonicalMembers_eq_map (members : List (String × Json)) :
    canonicalMembers members = members.map fun m => (m.1, m.2.canonical) := by
  induction members with
  | nil => rfl
  | cons m rest ih => rw [canonicalMembers, ih, List.map_cons]

theorem canonical_array (items : List Json) :
    (array items).canonical = array (items.map canonical) := by
  rw [canonical, canonicalItems_eq_map]

theorem canonical_object (members : List (String × Json)) :
    (object members).canonical =
      object (sortMembers (members.map fun m => (m.1, m.2.canonical))) := by
  rw [canonical, canonicalMembers_eq_map]

theorem sorted_canonical (value : Json) : value.canonical.Sorted := by
  induction value using Json.induction with
  | null => exact .null
  | bool b => exact .bool b
  | int n => exact .int n
  | double x => exact .double x
  | string s => exact .string s
  | array items ih =>
    rw [canonical_array]
    refine .array fun v member => ?_
    obtain ⟨w, inside, rfl⟩ := List.mem_map.1 member
    exact ih w inside
  | object members ih =>
    rw [canonical_object]
    refine .object (pairwise_sortMembers _) fun m member => ?_
    obtain ⟨n, inside, rfl⟩ := List.mem_map.1 (mem_sortMembers member)
    exact ih n inside

/-- A sorted value is its own canonical form. -/
theorem Sorted.canonical_eq {value : Json} (sorted : value.Sorted) : value.canonical = value := by
  induction value using Json.induction with
  | null => rfl
  | bool b => rfl
  | int n => rfl
  | double x => rfl
  | string s => rfl
  | array items ih =>
    cases sorted with
    | array each =>
      rw [canonical_array]
      have same : items.map canonical = items.map id :=
        List.map_congr_left fun v member => ih v member (each v member)
      rw [same, List.map_id]
  | object members ih =>
    cases sorted with
    | object increasing each =>
      have same : (members.map fun m => (m.1, m.2.canonical)) = members.map id :=
        List.map_congr_left fun m member =>
          Prod.ext rfl (ih m member (each m member))
      rw [canonical_object, same, List.map_id, sortMembers_eq_self increasing]

/-- A value whose objects are maps: their members are in the order of the keys, each key once. -/
structure Ordered where
  json : Json
  sorted : json.Sorted

end SpanDashboard.Json
