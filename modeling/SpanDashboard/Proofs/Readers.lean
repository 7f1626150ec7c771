import Mathlib.Algebra.Ring.Int.Defs
import SpanDashboard.Proofs.Arrangement
import SpanDashboard.Proofs.Fields
import SpanDashboard.Record.Decode

/-!
# Readers of single values

For each kind of value that a field can have: which JSON values are of this kind, and what is read
of them. A reader succeeds exactly on the values of its kind, and the value that it reads determines
the JSON value, except that a status code has many spellings.
-/

set_option autoImplicit false

namespace SpanDashboard

/-! ## What a value may be -/

/-- The folded form of a text: no underscores, no white space, and ASCII letters as capitals. -/
def Text.folded (s : String) : List Char :=
  (s.toList.filter fun c => c ≠ '_' ∧ c.toNat ∉ whiteSpace).map Char.toUpper

namespace Json

/-- A text. -/
def IsText (v : Json) : Prop :=
  ∃ s, v = .string s

/-- A whole number that fits in 64 bits without a sign. -/
def IsCount (v : Json) : Prop :=
  ∃ n : Int, 0 ≤ n ∧ n < 2 ^ 64 ∧ v = .int n

/-- A whole number that fits in 64 bits with a sign. -/
def IsNanoseconds (v : Json) : Prop :=
  ∃ n : Int, -2 ^ 63 ≤ n ∧ n < 2 ^ 63 ∧ v = .int n

/-- A text whose folded form is that of the name of a status code, or `CANCELED`. -/
def IsStatus (v : Json) : Prop :=
  ∃ name, v = .string name ∧
    (Text.folded name = "CANCELED".toList ∨
      ∃ code, Text.folded name = Text.folded (StatusCode.name code))

/-- A text whose folded form is that of the name of this status code. -/
def SpellsStatus (v : Json) (code : StatusCode) : Prop :=
  ∃ name, v = .string name ∧
    (Text.folded name = "CANCELED".toList ∧ code = .cancelled ∨
      Text.folded name = Text.folded code.name)

/-- Null stands for nothing. -/
def SpellsOptional {α : Type} (spells : Json → α → Prop) (v : Json) : Option α → Prop
  | none => v = .null
  | some x => spells v x

/-- An object with these members, in whichever order at any depth. -/
def SpellsAttributes (v : Json) (attributes : Attributes) : Prop :=
  v.Arranged (.object attributes.members)

/-- An object. -/
def IsAttributes (v : Json) : Prop :=
  ∃ members, v = .object members

/-- An array with items of one kind. -/
def IsListOf (Item : Json → Prop) (v : Json) : Prop :=
  ∃ items, v = .array items ∧ ∀ w ∈ items, Item w

/-- An array of nine counts. -/
def IsLatencyCounts (v : Json) : Prop :=
  ∃ items, v = .array items ∧ items.length = 9 ∧ ∀ w ∈ items, w.IsCount

/-! ## What is read of it -/

theorem asText_eq_ok_iff {v : Json} {s : String} : v.asText = .ok s ↔ v = .string s := by
  cases v <;> simp [asText]

theorem asAttributes_eq_ok_iff {v : Json} {attributes : Attributes} :
    v.asAttributes = .ok attributes ↔ v.SpellsAttributes attributes := by
  rw [SpellsAttributes, arranged_iff]
  cases v <;> simp [asAttributes, canonical, Attributes.ofMembers, Attributes.ext_iff]

theorem exists_asText_iff {v : Json} : (∃ s, v.asText = .ok s) ↔ v.IsText := by
  simp only [asText_eq_ok_iff, IsText]

theorem exists_asAttributes_iff {v : Json} :
    (∃ attributes, v.asAttributes = .ok attributes) ↔ v.IsAttributes := by
  cases v <;> simp [asAttributes, IsAttributes]

theorem asCount_eq_ok_iff {v : Json} {n : UInt64} : v.asCount = .ok n ↔ v = .int n.toNat := by
  have small := n.toNat_lt
  cases v with
  | int m =>
    rw [asCount, Json.int.injEq]
    constructor
    · intro read
      split at read
      case isTrue fits =>
        obtain rfl := Except.ok.inj read
        rw [UInt64.toNat_ofNat_of_lt' fits.2]
        omega
      case isFalse => cases read
    · rintro rfl
      have fits : (0 : Int) ≤ n.toNat ∧ ((n.toNat : Int)).toNat < UInt64.size := by
        rw [UInt64.size]
        omega
      rw [if_pos fits, Int.toNat_natCast, UInt64.ofNat_toNat]
  | _ => simp [asCount]

theorem exists_asCount_iff {v : Json} : (∃ n, v.asCount = .ok n) ↔ v.IsCount := by
  simp only [asCount_eq_ok_iff]
  constructor
  · rintro ⟨n, rfl⟩
    have small := n.toNat_lt
    exact ⟨n.toNat, by omega, by omega, rfl⟩
  · rintro ⟨n, nonnegative, small, rfl⟩
    have fits : n.toNat < UInt64.size := by
      rw [UInt64.size]
      omega
    refine ⟨UInt64.ofNat n.toNat, ?_⟩
    rw [UInt64.toNat_ofNat_of_lt' fits, Int.toNat_of_nonneg nonnegative]

theorem asNanoseconds_eq_ok_iff {v : Json} {n : Int64} :
    v.asNanoseconds = .ok n ↔ v = .int n.toInt := by
  cases v with
  | int m =>
    rw [asNanoseconds, Json.int.injEq]
    constructor
    · intro read
      split at read
      case isTrue fits =>
        obtain rfl := Except.ok.inj read
        have low : Int64.minValue.toInt = -2 ^ 63 := by decide
        have high : Int64.maxValue.toInt = 2 ^ 63 - 1 := by decide
        exact (Int64.toInt_ofInt_of_le (by omega) (by omega)).symm
      case isFalse => cases read
    · rintro rfl
      rw [if_pos ⟨n.minValue_le_toInt, n.toInt_le⟩, Int64.ofInt_toInt]
  | _ => simp [asNanoseconds]

theorem exists_asNanoseconds_iff {v : Json} :
    (∃ n, v.asNanoseconds = .ok n) ↔ v.IsNanoseconds := by
  simp only [asNanoseconds_eq_ok_iff]
  constructor
  · rintro ⟨n, rfl⟩
    exact ⟨n.toInt, n.le_toInt, n.toInt_lt, rfl⟩
  · rintro ⟨n, low, high, rfl⟩
    refine ⟨Int64.ofInt n, ?_⟩
    rw [Int64.toInt_ofInt_of_le low high]

theorem asOptional_eq_ok_iff {α : Type} {read : Json → Except Problem α}
    {spells : Json → α → Prop} (read_iff : ∀ {v x}, read v = .ok x ↔ spells v x)
    (other : ∀ x, ¬ spells .null x) {v : Json} {o : Option α} :
    v.asOptional read = .ok o ↔ v.SpellsOptional spells o := by
  cases v with
  | null =>
    cases o with
    | none => simp [asOptional, SpellsOptional]
    | some x => simp [asOptional, SpellsOptional, other x]
  | _ =>
    cases o <;> simp [asOptional, SpellsOptional, map_eq_ok_iff, read_iff]

theorem exists_asOptional_iff {α : Type} {read : Json → Except Problem α} {v : Json} :
    (∃ o, v.asOptional read = .ok o) ↔ v = .null ∨ ∃ x, read v = .ok x := by
  cases v <;> simp [asOptional, map_eq_ok_iff]

theorem asList_eq_ok_iff {α : Type} {read : Json → Except Problem α} {v : Json} {xs : List α} :
    v.asList read = .ok xs ↔
      ∃ items, v = .array items ∧ List.Forall₂ (fun w x => read w = .ok x) items xs := by
  cases v <;> simp [asList, mapM_eq_ok_iff]

theorem exists_asList_iff {α : Type} {read : Json → Except Problem α} {Item : Json → Prop}
    (read_iff : ∀ {v}, (∃ x, read v = .ok x) ↔ Item v) {v : Json} :
    (∃ xs, v.asList read = .ok xs) ↔ v.IsListOf Item := by
  simp only [asList_eq_ok_iff, IsListOf, ← read_iff, ← exists_forall₂_iff]
  constructor
  · rintro ⟨xs, items, same, all⟩
    exact ⟨items, same, xs, all⟩
  · rintro ⟨items, same, xs, all⟩
    exact ⟨xs, items, same, all⟩

theorem forall₂_asCount_iff {items : List Json} {counts : List UInt64} :
    List.Forall₂ (fun w n => w.asCount = .ok n) items counts ↔
      items = counts.map fun n => .int n.toNat := by
  simp only [asCount_eq_ok_iff]
  rw [← List.forall₂_eq_eq_eq, List.forall₂_map_right_iff]

theorem asLatencyCounts_eq_ok_iff {v : Json} {counts : Vector UInt64 LatencyBucket.count} :
    v.asLatencyCounts = .ok counts ↔ v = .array (counts.toList.map fun n => .int n.toNat) := by
  cases v with
  | array items =>
    rw [asLatencyCounts, bind_eq_ok_iff, Json.array.injEq]
    constructor
    · rintro ⟨read, each, finished⟩
      split at finished
      case isFalse => cases finished
      case isTrue nine =>
        split at finished
        case isFalse => cases finished
        case isTrue all =>
          obtain rfl := Except.ok.inj finished
          rw [← all, List.take_length, mapM_eq_ok_iff, forall₂_asCount_iff] at each
          exact each
    · rintro rfl
      have short : (counts.toList.map fun n => Json.int n.toNat).take LatencyBucket.count =
          counts.toList.map fun n => .int n.toNat := List.take_of_length_le (by simp)
      refine ⟨counts.toList, ?_, ?_⟩
      · rw [short, mapM_eq_ok_iff, forall₂_asCount_iff]
      · rw [dif_pos (by simp), if_pos (by simp)]
        rfl
  | _ => simp [asLatencyCounts]

theorem exists_asLatencyCounts_iff {v : Json} :
    (∃ counts, v.asLatencyCounts = .ok counts) ↔ v.IsLatencyCounts := by
  simp only [asLatencyCounts_eq_ok_iff]
  constructor
  · rintro ⟨counts, rfl⟩
    refine ⟨_, rfl, by simp, fun w member => ?_⟩
    obtain ⟨n, -, rfl⟩ := List.mem_map.1 member
    exact exists_asCount_iff.1 ⟨n, asCount_eq_ok_iff.2 rfl⟩
  · rintro ⟨items, rfl, nine, each⟩
    obtain ⟨counts, read⟩ :=
      exists_forall₂_iff.2 fun w member => exists_asCount_iff.2 (each w member)
    have same := forall₂_asCount_iff.1 read
    have sized : counts.toArray.size = LatencyBucket.count := by
      rw [same, List.length_map] at nine
      exact nine
    exact ⟨⟨counts.toArray, sized⟩, by rw [same, Vector.toList_mk]⟩

end Json

/-! ## Names of status codes -/

namespace StatusCode

theorem fold_eq (s : String) : fold s = Text.folded s := by
  rw [fold, Text.folded]
  congr 2
  funext c
  rw [Bool.eq_iff_iff]
  simp [← Text.isBlank_iff]

theorem fold_name_injective {code other : StatusCode} (same : fold code.name = fold other.name) :
    code = other := by
  have distinct : ∀ code ∈ all, ∀ other ∈ all, fold code.name = fold other.name → code = other := by
    decide +kernel
  exact distinct code (mem_all code) other (mem_all other) same

theorem fold_name_ne_canceled (code : StatusCode) : fold code.name ≠ "CANCELED".toList := by
  cases code <;> decide +kernel

/-- A name is read as the code whose name has the same folded form. -/
theorem ofName?_eq_some_iff {name : String} {code : StatusCode} :
    ofName? name = some code ↔
      Text.folded name = "CANCELED".toList ∧ code = .cancelled ∨
        Text.folded name = Text.folded code.name := by
  rw [← fold_eq, ← fold_eq, ofName?]
  split
  case isTrue canceled =>
    have other : fold name ≠ fold code.name := fun same =>
      fold_name_ne_canceled code (same.symm.trans canceled)
    rw [Option.some_inj, eq_comm, or_iff_left other]
    exact (and_iff_right canceled).symm
  case isFalse different =>
    constructor
    · intro found
      have matching := List.find?_some found
      exact .inr (of_decide_eq_true matching).symm
    · rintro (⟨canceled, -⟩ | same)
      · exact absurd canceled different
      · cases found : all.find? fun code => fold code.name = fold name with
        | none =>
          have missed := List.find?_eq_none.1 found code (mem_all code)
          exact absurd same.symm (by simpa using missed)
        | some other =>
          have matching := List.find?_some found
          rw [fold_name_injective ((of_decide_eq_true matching).trans same)]

end StatusCode

namespace Json

theorem asStatus_eq_ok_iff {v : Json} {code : StatusCode} :
    v.asStatus = .ok code ↔ v.SpellsStatus code := by
  rw [asStatus, bind_eq_ok_iff]
  simp only [asText_eq_ok_iff, SpellsStatus, ← StatusCode.ofName?_eq_some_iff]
  refine exists_congr fun name => and_congr_right fun _ => ?_
  cases StatusCode.ofName? name <;> simp

theorem exists_asStatus_iff {v : Json} : (∃ code, v.asStatus = .ok code) ↔ v.IsStatus := by
  simp only [asStatus_eq_ok_iff, SpellsStatus, IsStatus]
  constructor
  · rintro ⟨code, name, rfl, ⟨canceled, -⟩ | same⟩
    · exact ⟨name, rfl, .inl canceled⟩
    · exact ⟨name, rfl, .inr ⟨code, same⟩⟩
  · rintro ⟨name, rfl, canceled | ⟨code, same⟩⟩
    · exact ⟨.cancelled, name, rfl, .inl ⟨canceled, rfl⟩⟩
    · exact ⟨code, name, rfl, .inr same⟩

end Json

end SpanDashboard
