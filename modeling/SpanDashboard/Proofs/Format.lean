import Mathlib.Data.List.Nodup
import SpanDashboard.Json.Basic

/-!
# Formats

What a JSON value must be to spell a record, said field by field and without any order: under which
names and at which position each field is given, and what may be given for it. An object gives a
field by the members that have one of its names, an array by the item in its position.
-/

set_option autoImplicit false

namespace SpanDashboard

/-! ## Values under a name -/

namespace Json

/-- The values of the members that have one of some names. -/
def valuesUnder (names : List String) (members : List (String × Json)) : List Json :=
  (members.filter fun m => m.1 ∈ names).map Prod.snd

theorem valuesUnder_cons (names : List String) (m : String × Json)
    (members : List (String × Json)) :
    valuesUnder names (m :: members) =
      if m.1 ∈ names then m.2 :: valuesUnder names members else valuesUnder names members := by
  rw [valuesUnder, List.filter_cons]
  by_cases named : m.1 ∈ names <;> simp [named, valuesUnder]

theorem mem_valuesUnder_iff {names : List String} {members : List (String × Json)} {w : Json} :
    w ∈ valuesUnder names members ↔ ∃ key ∈ names, (key, w) ∈ members := by
  simp [valuesUnder, and_comm]

theorem length_le_one_iff {keys : List String} (distinct : keys.Nodup) :
    keys.length ≤ 1 ↔ ∀ key ∈ keys, ∀ other ∈ keys, key = other := by
  cases keys with
  | nil => simp
  | cons key rest =>
    cases rest with
    | nil => simp
    | cons other rest =>
      have different : key ≠ other := by
        rintro rfl
        exact (List.nodup_cons.1 distinct).1 List.mem_cons_self
      refine iff_of_false (by simp) fun same => different ?_
      exact same key List.mem_cons_self other (List.mem_cons_of_mem key List.mem_cons_self)

/-- Where no key occurs twice, at most one value is given under some names exactly if at most one of
these names is a key. -/
theorem length_valuesUnder_le_one_iff {members : List (String × Json)}
    (distinct : (members.map Prod.fst).Nodup) (names : List String) :
    (valuesUnder names members).length ≤ 1 ↔
      ∀ key ∈ names, ∀ other ∈ names,
        key ∈ members.map Prod.fst → other ∈ members.map Prod.fst → key = other := by
  have hits_distinct : ((members.filter fun m => m.1 ∈ names).map Prod.fst).Nodup :=
    distinct.sublist (List.filter_sublist.map _)
  have mem_hits (key : String) :
      key ∈ (members.filter fun m => m.1 ∈ names).map Prod.fst ↔
        key ∈ names ∧ key ∈ members.map Prod.fst := by
    simp [and_comm]
  have same_length : (valuesUnder names members).length =
      ((members.filter fun m => m.1 ∈ names).map Prod.fst).length := by
    rw [valuesUnder, List.length_map, List.length_map]
  rw [same_length, length_le_one_iff hits_distinct]
  simp only [mem_hits]
  constructor
  · intro all key named other named' here here'
    exact all key ⟨named, here⟩ other ⟨named', here'⟩
  · rintro all key ⟨named, here⟩ other ⟨named', here'⟩
    exact all key named other named' here here'

theorem single_iff {P : Json → Prop} {ws : List Json} :
    (∃ w, ws = [w] ∧ P w) ↔ ws.length ≤ 1 ∧ (∀ w ∈ ws, P w) ∧ ws ≠ [] := by
  constructor
  · rintro ⟨w, rfl, holds⟩
    exact ⟨Nat.le_refl 1, List.forall_mem_singleton.2 holds, List.cons_ne_nil w []⟩
  · rintro ⟨once, each, present⟩
    have positive := List.length_pos_of_ne_nil present
    obtain ⟨w, rfl⟩ := List.length_eq_one_iff.1 (show ws.length = 1 by omega)
    exact ⟨w, rfl, each w List.mem_cons_self⟩

end Json

/-! ## Formats -/

/-- How records of one type are written, field by field. -/
structure Format (Record Field : Type) where
  /-- The names under which an object gives a field. -/
  spellings : Field → List String
  /-- Where an array gives a field. -/
  position : Field → Nat
  /-- How many items an array can have. -/
  size : Nat
  /-- Whether every field must be given. -/
  required : Bool
  /-- Whether a value may be given for a field. -/
  Accepts : Field → Json → Prop
  /-- Whether a record holds what a value says of a field. -/
  Carries : Field → Json → Record → Prop
  /-- Whether a field of a record is blank. -/
  Omits : Field → Record → Prop

namespace Format

variable {Record Field : Type} (F : Format Record Field)

/-- What a value gives for a field. -/
def given (f : Field) : Json → List Json
  | .object members => Json.valuesUnder (F.spellings f) members
  | .array items => items[F.position f]?.toList
  | _ => []

/-- Whether a value is an object, or an array that is not too long. -/
def HasRoom : Json → Prop
  | .object _ => True
  | .array items => items.length ≤ F.size
  | _ => False

/-- A value that is written as the format asks. -/
structure Acceptable (v : Json) : Prop where
  room : F.HasRoom v
  once : ∀ f, (F.given f v).length ≤ 1
  accepted : ∀ f, ∀ w ∈ F.given f v, F.Accepts f w
  complete : F.required = true → ∀ f, F.given f v ≠ []

/-- A value that spells a record. -/
structure Written (v : Json) (r : Record) : Prop where
  room : F.HasRoom v
  once : ∀ f, (F.given f v).length ≤ 1
  carried : ∀ f, ∀ w ∈ F.given f v, F.Carries f w r
  omitted : ∀ f, F.given f v = [] → F.required = false ∧ F.Omits f r

/-- Where every field must be given, each is given exactly once. -/
theorem acceptable_iff_of_required (needed : F.required = true) {v : Json} :
    F.Acceptable v ↔ F.HasRoom v ∧ ∀ f, ∃ w, F.given f v = [w] ∧ F.Accepts f w := by
  simp only [Json.single_iff]
  constructor
  · rintro ⟨room, once, accepted, complete⟩
    exact ⟨room, fun f => ⟨once f, accepted f, complete needed f⟩⟩
  · rintro ⟨room, each⟩
    exact ⟨room, fun f => (each f).1, fun f => (each f).2.1, fun _ f => (each f).2.2⟩

theorem written_iff_of_required (needed : F.required = true) {v : Json} {r : Record} :
    F.Written v r ↔ F.HasRoom v ∧ ∀ f, ∃ w, F.given f v = [w] ∧ F.Carries f w r := by
  simp only [Json.single_iff]
  constructor
  · rintro ⟨room, once, carried, omitted⟩
    refine ⟨room, fun f => ⟨once f, carried f, fun nothing => ?_⟩⟩
    have optional := (omitted f nothing).1
    rw [needed] at optional
    cases optional
  · rintro ⟨room, each⟩
    refine ⟨room, fun f => (each f).1, fun f => (each f).2.1, ?_⟩
    exact fun f nothing => absurd nothing (each f).2.2

/-- Some members under the same or other names of the same fields. -/
def Respelled : List (String × Json) → List (String × Json) → Prop :=
  List.Forall₂ fun m n =>
    (m.1 = n.1 ∨ ∃ f, m.1 ∈ F.spellings f ∧ n.1 ∈ F.spellings f) ∧ m.2 = n.2

theorem given_respelled
    (distinct : ∀ {f g : Field} {key : String}, key ∈ F.spellings f → key ∈ F.spellings g → f = g)
    {members renamed : List (String × Json)} (same : F.Respelled members renamed) (f : Field) :
    F.given f (.object members) = F.given f (.object renamed) := by
  rw [given, given]
  induction same with
  | nil => rfl
  | @cons m n members renamed respelled _ ih =>
    obtain ⟨names, value⟩ := respelled
    have spelled : m.1 ∈ F.spellings f ↔ n.1 ∈ F.spellings f := by
      rcases names with same | ⟨g, first, second⟩
      · rw [same]
      · exact ⟨fun member => distinct first member ▸ second,
          fun member => distinct second member ▸ first⟩
    rw [Json.valuesUnder_cons, Json.valuesUnder_cons, ih, value]
    simp only [spelled]

/-- Which record an object spells depends on what it gives for each field only. -/
theorem written_congr {members others : List (String × Json)}
    (given : ∀ f, (F.given f (.object members)).Perm (F.given f (.object others))) {r : Record} :
    F.Written (.object members) r ↔ F.Written (.object others) r := by
  have half {members others : List (String × Json)}
      (given : ∀ f, (F.given f (.object members)).Perm (F.given f (.object others)))
      (written : F.Written (.object members) r) : F.Written (.object others) r := by
    refine ⟨trivial, fun f => ?_, fun f w member => ?_, fun f nothing => ?_⟩
    · rw [← (given f).length_eq]
      exact written.once f
    · exact written.carried f w ((given f).mem_iff.2 member)
    · exact written.omitted f (List.perm_nil.1 (nothing ▸ given f))
  exact ⟨half given, half fun f => (given f).symm⟩

/-- The order of members does not matter. -/
theorem written_perm {members shuffled : List (String × Json)} (order : members.Perm shuffled)
    {r : Record} : F.Written (.object members) r ↔ F.Written (.object shuffled) r := by
  apply F.written_congr
  intro f
  exact (order.filter _).map _

end Format

end SpanDashboard
