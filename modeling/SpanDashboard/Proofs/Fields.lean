import Mathlib.Data.List.Nodup
import Mathlib.Data.List.Pairwise
import Mathlib.Data.List.Perm.Subperm
import SpanDashboard.Proofs.Format
import SpanDashboard.Proofs.Results
import SpanDashboard.Record.Schema

/-!
# Records field by field

A schema goes over a value from the first member or item to the last, and stops at the first
problem. If it reads and holds each field by itself (`Schema.Fieldwise`), nothing of this order is
left in the result: the schema accepts what a format allows and nothing else (`decodes_iff`), and
the record that it reads is the one that the value spells (`decode_eq_ok_iff`).
-/

set_option autoImplicit false

namespace SpanDashboard

/-! ## What a schema stores -/

namespace Schema

variable {Record Field : Type}

/-- The fields that a value gives, with what it gives for each. -/
def pairs (s : Schema Record Field) : Json → List (Field × Json)
  | .object members => members.filterMap fun m => (s.fieldNamed? m.1).map fun f => (f, m.2)
  | .array items => s.fields.zip items
  | _ => []

/-- Stores what is given for some fields. -/
def storeAll (s : Schema Record Field) (r : Record) (given : List (Field × Json)) :
    Except Problem Record :=
  given.foldlM (fun r p => s.store p.1 p.2 r) r

theorem pairs_cons_none {s : Schema Record Field} {m : String × Json}
    (unknown : s.fieldNamed? m.1 = none) (members : List (String × Json)) :
    s.pairs (.object (m :: members)) = s.pairs (.object members) := by
  rw [pairs, List.filterMap_cons_none (by rw [unknown]; rfl)]
  rfl

theorem pairs_cons_some {s : Schema Record Field} {m : String × Json} {f : Field}
    (named : s.fieldNamed? m.1 = some f) (members : List (String × Json)) :
    s.pairs (.object (m :: members)) = (f, m.2) :: s.pairs (.object members) := by
  rw [pairs, List.filterMap_cons_some (by rw [named]; rfl)]
  rfl

theorem ofItems_eq_ok_iff {s : Schema Record Field} {items : List Json} {r : Record} :
    s.ofItems items = .ok r ↔
      items.length ≤ s.fields.length ∧ (s.required = true → s.fields.length ≤ items.length) ∧
        s.storeAll s.blank (s.pairs (.array items)) = .ok r := by
  rw [ofItems, bind_eq_ok_iff]
  constructor
  · rintro ⟨stored, all, finished⟩
    split at finished
    case isTrue => cases finished
    case isFalse short =>
      split at finished
      case isTrue => cases finished
      case isFalse enough =>
        obtain rfl := Except.ok.inj finished
        simp only [Bool.and_eq_true, decide_eq_true_eq, not_and, Nat.not_lt] at enough
        exact ⟨Nat.not_lt.1 short, enough, all⟩
  · rintro ⟨short, enough, stored⟩
    refine ⟨r, stored, ?_⟩
    rw [if_neg (Nat.not_lt.2 short), if_neg]
    simpa using enough

/-! ## Fields that are held by themselves -/

/-- A schema that reads each field as a format has it, and stores it without touching the
others. -/
structure Fieldwise (s : Schema Record Field) (F : Format Record Field) where
  /-- What a record holds in a field. -/
  Value : Field → Type
  read (f : Field) : Json → Except Problem (Value f)
  get (f : Field) : Record → Value f
  set (f : Field) : Value f → Record → Record
  get_set (f : Field) (x : Value f) (r : Record) : get f (set f x r) = x
  get_set_of_ne {f g : Field} (different : g ≠ f) (x : Value f) (r : Record) :
    get g (set f x r) = get g r
  ext {r r' : Record} (same : ∀ f, get f r = get f r') : r = r'
  store_eq (f : Field) (v : Json) (r : Record) : s.store f v r = (read f v).map fun x => set f x r
  spellings_eq (f : Field) : F.spellings f = s.name f :: (s.otherName? f).toList
  nodup_spellings : (s.fields.flatMap F.spellings).Nodup
  nodup_fields : s.fields.Nodup
  field_at (f : Field) : s.fields[F.position f]? = some f
  size_eq : F.size = s.fields.length
  required_eq : F.required = s.required
  accepts_iff {f : Field} {v : Json} : F.Accepts f v ↔ ∃ x, read f v = .ok x
  carries_iff {f : Field} {v : Json} {r : Record} : F.Carries f v r ↔ read f v = .ok (get f r)
  omits_iff (optional : F.required = false) {f : Field} {r : Record} :
    F.Omits f r ↔ get f r = get f s.blank

namespace Fieldwise

variable {s : Schema Record Field} {F : Format Record Field} (a : s.Fieldwise F)
include a

theorem mem_fields (f : Field) : f ∈ s.fields :=
  List.mem_of_getElem? (a.field_at f)

/-- No two fields can be given under one name. -/
theorem eq_of_spelled {f g : Field} {key : String} (first : key ∈ F.spellings f)
    (second : key ∈ F.spellings g) : f = g := by
  by_contra different
  -- Pairwise facts speak of earlier and later fields; being apart does not depend on that.
  have : Std.Symm (Function.onFun List.Disjoint F.spellings) :=
    ⟨fun _ _ apart _ second first => apart first second⟩
  have apart := (List.nodup_flatMap.1 a.nodup_spellings).2
  exact apart.forall (a.mem_fields f) (a.mem_fields g) different first second

theorem fieldNamed?_eq_some_iff {key : String} {f : Field} :
    s.fieldNamed? key = some f ↔ key ∈ F.spellings f := by
  have named (g : Field) :
      (s.name g = key || s.otherName? g = some key) = true ↔ key ∈ F.spellings g := by
    rw [a.spellings_eq, List.mem_cons, Option.mem_toList, Bool.or_eq_true, decide_eq_true_eq,
      decide_eq_true_eq, eq_comm]
  have of_found {g : Field} (found : s.fieldNamed? key = some g) : key ∈ F.spellings g := by
    have matching := List.find?_some found
    exact (named g).1 matching
  constructor
  · exact of_found
  · intro spelled
    cases found : s.fieldNamed? key with
    | none =>
      exact absurd ((named f).2 spelled) (List.find?_eq_none.1 found f (a.mem_fields f))
    | some g => rw [a.eq_of_spelled (of_found found) spelled]

theorem storeAll_cons_eq_ok_iff {start r : Record} {f : Field} {v : Json}
    {rest : List (Field × Json)} :
    s.storeAll start ((f, v) :: rest) = .ok r ↔
      ∃ x, a.read f v = .ok x ∧ s.storeAll (a.set f x start) rest = .ok r := by
  have stepped : s.storeAll start ((f, v) :: rest) =
      s.store f v start >>= fun r => s.storeAll r rest := List.foldlM_cons
  rw [stepped, bind_eq_ok_iff, a.store_eq]
  simp only [map_eq_ok_iff]
  constructor
  · rintro ⟨_, ⟨x, read, rfl⟩, more⟩
    exact ⟨x, read, more⟩
  · rintro ⟨x, read, more⟩
    exact ⟨_, ⟨x, read, rfl⟩, more⟩

theorem storeAll_eq_ok_iff {given : List (Field × Json)} (distinct : (given.map Prod.fst).Nodup)
    {start r : Record} :
    s.storeAll start given = .ok r ↔
      (∀ p ∈ given, a.read p.1 p.2 = .ok (a.get p.1 r)) ∧
        ∀ f ∉ given.map Prod.fst, a.get f r = a.get f start := by
  induction given generalizing start with
  | nil =>
    simp only [storeAll, List.foldlM_nil, pure, Except.pure, Except.ok.injEq, List.not_mem_nil,
      false_imp_iff, implies_true, true_and, List.map_nil, not_false_eq_true, true_imp_iff]
    exact ⟨fun same f => same ▸ rfl, fun same => (a.ext same).symm⟩
  | cons p rest ih =>
    obtain ⟨f, v⟩ := p
    obtain ⟨once, distinct⟩ := List.nodup_cons.1 distinct
    rw [a.storeAll_cons_eq_ok_iff, List.forall_mem_cons, List.map_cons]
    constructor
    · rintro ⟨x, read, more⟩
      obtain ⟨others, kept⟩ := (ih distinct).1 more
      -- Nothing that is stored later touches `f`, since it is given only once.
      have held : a.get f r = x := (kept f once).trans (a.get_set f x start)
      refine ⟨⟨held ▸ read, others⟩, fun g absent => ?_⟩
      obtain ⟨different, absent⟩ := not_or.1 fun present => absent (List.mem_cons.2 present)
      rw [kept g absent, a.get_set_of_ne different]
    · rintro ⟨⟨read, others⟩, kept⟩
      refine ⟨_, read, (ih distinct).2 ⟨others, fun g absent => ?_⟩⟩
      by_cases same : g = f
      · subst same
        rw [a.get_set]
      · rw [a.get_set_of_ne same]
        exact kept g fun present => (List.mem_cons.1 present).elim same absent

theorem storeAll_ok_iff {given : List (Field × Json)} {start : Record} :
    (∃ r, s.storeAll start given = .ok r) ↔ ∀ p ∈ given, ∃ x, a.read p.1 p.2 = .ok x := by
  induction given generalizing start with
  | nil => exact ⟨fun _ => by simp, fun _ => ⟨start, rfl⟩⟩
  | cons p rest ih =>
    obtain ⟨f, v⟩ := p
    simp only [a.storeAll_cons_eq_ok_iff, List.forall_mem_cons]
    constructor
    · rintro ⟨r, x, read, more⟩
      exact ⟨⟨x, read⟩, ih.1 ⟨r, more⟩⟩
    · rintro ⟨⟨x, read⟩, others⟩
      obtain ⟨r, more⟩ := ih.2 others
      exact ⟨r, x, read, more⟩

end Fieldwise

/-- An array gives the first fields, as many as it has items. -/
theorem map_fst_zip (fields : List Field) (items : List Json) :
    (fields.zip items).map Prod.fst = fields.take items.length := by
  induction fields generalizing items with
  | nil => simp
  | cons f fields ih =>
    cases items with
    | nil => rfl
    | cons v items =>
      rw [List.zip_cons_cons, List.map_cons, ih, List.length_cons, List.take_succ_cons]

/-- An array gives for a field what stands at the position of the field. -/
theorem filter_zip_eq [DecidableEq Field] {fields : List Field} (distinct : fields.Nodup)
    {i : Nat} {f : Field} (here : fields[i]? = some f) (items : List Json) :
    ((fields.zip items).filter fun p => p.1 = f).map Prod.snd = items[i]?.toList := by
  induction fields generalizing i items with
  | nil => cases here
  | cons g fields ih =>
    obtain ⟨once, distinct⟩ := List.nodup_cons.1 distinct
    cases items with
    | nil => rfl
    | cons v items =>
      rw [List.zip_cons_cons, List.filter_cons]
      cases i with
      | zero =>
        obtain rfl : g = f := Option.some.inj here
        have others : (fields.zip items).filter (fun p => p.1 = g) = [] := by
          refine List.filter_eq_nil_iff.2 fun p member same => once ?_
          obtain rfl : p.1 = g := by simpa using same
          exact (List.of_mem_zip member).1
        simp [others]
      | succ i =>
        have later : fields[i]? = some f := here
        have different : g ≠ f := by
          rintro rfl
          exact once (List.mem_of_getElem? later)
        rw [if_neg (by simpa using different), ih distinct later]
        rfl

/-! ## Reading members -/

variable [DecidableEq Field]

/-- Members are taken in exactly if no field is given twice and all that is given can be stored. -/
theorem takeMembers_eq_ok_iff {s : Schema Record Field} {members : List (String × Json)}
    {start last : Partial Record Field} :
    members.foldlM s.takeMember start = .ok last ↔
      ((s.pairs (.object members)).map Prod.fst).Nodup ∧
        (∀ f ∈ (s.pairs (.object members)).map Prod.fst, f ∉ start.given) ∧
        s.storeAll start.record (s.pairs (.object members)) = .ok last.record ∧
        last.given = ((s.pairs (.object members)).map Prod.fst).reverse ++ start.given := by
  -- The fields given so far may be any, so that each member can add its own to them.
  induction members generalizing start with
  | nil =>
    obtain ⟨record, given⟩ := start
    obtain ⟨record', given'⟩ := last
    simp only [pairs, storeAll, List.filterMap_nil, List.foldlM_nil, List.map_nil, pure,
      Except.pure, Except.ok.injEq, Partial.mk.injEq, List.nodup_nil, List.not_mem_nil,
      List.reverse_nil, List.nil_append, true_and, false_imp_iff, implies_true]
    exact and_congr_right fun _ => eq_comm
  | cons m members ih =>
    rw [List.foldlM_cons, bind_eq_ok_iff]
    cases named : s.fieldNamed? m.1 with
    | none =>
      have passed : s.takeMember start m = .ok start := by rw [takeMember, named]
      rw [pairs_cons_none named, passed, ← ih]
      exact ⟨fun ⟨_, same, more⟩ => Except.ok.inj same ▸ more, fun more => ⟨start, rfl, more⟩⟩
    | some f =>
      rw [pairs_cons_some named, takeMember, named, List.map_cons, List.nodup_cons,
        List.forall_mem_cons, storeAll, List.foldlM_cons, bind_eq_ok_iff]
      by_cases repeated : f ∈ start.given
      · simp [repeated]
      simp only [if_neg repeated, bind_eq_ok_iff, List.reverse_cons, List.append_assoc,
        List.singleton_append]
      constructor
      · rintro ⟨next, ⟨r, stored, same⟩, more⟩
        obtain rfl := Except.ok.inj same
        obtain ⟨distinct, apart, others, given⟩ := ih.1 more
        refine ⟨⟨fun twice => ?_, distinct⟩, ⟨repeated, fun g member => ?_⟩, ⟨r, stored, others⟩,
          given⟩
        · exact apart f twice List.mem_cons_self
        · exact fun old => apart g member (List.mem_cons_of_mem f old)
      · rintro ⟨⟨once, distinct⟩, ⟨-, apart⟩, ⟨r, stored, others⟩, given⟩
        refine ⟨⟨r, f :: start.given⟩, ⟨r, stored, rfl⟩, ih.2 ⟨distinct, ?_, others, given⟩⟩
        intro g member old
        rcases List.mem_cons.1 old with rfl | earlier
        · exact once member
        · exact apart g member earlier

theorem missing?_eq_none_iff {s : Schema Record Field} {given : List Field} :
    s.missing? given = none ↔ (s.required = true → ∀ f ∈ s.fields, f ∈ given) := by
  rw [missing?]
  cases s.required <;> simp

theorem ofMembers_eq_ok_iff {s : Schema Record Field} {members : List (String × Json)}
    {r : Record} :
    s.ofMembers members = .ok r ↔
      ((s.pairs (.object members)).map Prod.fst).Nodup ∧
        (s.required = true → ∀ f ∈ s.fields, f ∈ (s.pairs (.object members)).map Prod.fst) ∧
        s.storeAll s.blank (s.pairs (.object members)) = .ok r := by
  rw [ofMembers, bind_eq_ok_iff]
  constructor
  · rintro ⟨p, taken, finished⟩
    obtain ⟨distinct, -, stored, given⟩ := takeMembers_eq_ok_iff.1 taken
    rw [List.append_nil] at given
    cases missing : s.missing? p.given with
    | some f => simp [missing] at finished
    | none =>
      rw [missing] at finished
      obtain rfl := Except.ok.inj finished
      refine ⟨distinct, fun needed f member => ?_, stored⟩
      have present := missing?_eq_none_iff.1 missing needed f member
      rw [given] at present
      exact List.mem_reverse.1 present
  · rintro ⟨distinct, complete, stored⟩
    have taken : members.foldlM s.takeMember ⟨s.blank, []⟩ =
        .ok ⟨r, ((s.pairs (.object members)).map Prod.fst).reverse⟩ :=
      takeMembers_eq_ok_iff.2
        ⟨distinct, fun _ _ => List.not_mem_nil, stored, (List.append_nil _).symm⟩
    have finished : s.missing? ((s.pairs (.object members)).map Prod.fst).reverse = none :=
      missing?_eq_none_iff.2 fun needed f member => List.mem_reverse.2 (complete needed f member)
    refine ⟨_, taken, ?_⟩
    simp only [finished]

namespace Fieldwise

variable {s : Schema Record Field} {F : Format Record Field} (a : s.Fieldwise F)
include a

/-! ## What a format gives and what a schema stores -/

theorem given_eq (f : Field) (v : Json) :
    F.given f v = ((s.pairs v).filter fun p => p.1 = f).map Prod.snd := by
  cases v with
  | object members =>
    rw [Format.given]
    induction members with
    | nil => rfl
    | cons m members ih =>
      rw [Json.valuesUnder_cons]
      cases named : s.fieldNamed? m.1 with
      | none =>
        have unknown : m.1 ∉ F.spellings f := by
          rw [← a.fieldNamed?_eq_some_iff, named]
          simp
        rw [pairs_cons_none named, if_neg unknown, ih]
      | some g =>
        have spelled : m.1 ∈ F.spellings f ↔ g = f := by
          rw [← a.fieldNamed?_eq_some_iff, named, Option.some_inj]
        rw [pairs_cons_some named, List.filter_cons]
        by_cases same : g = f
        · rw [if_pos (spelled.2 same), if_pos (by simpa using same), List.map_cons, ih]
        · rw [if_neg (mt spelled.1 same), if_neg (by simpa using same), ih]
  | array items => exact (filter_zip_eq a.nodup_fields (a.field_at f) items).symm
  | _ => rfl

theorem mem_given_iff {f : Field} {v w : Json} : w ∈ F.given f v ↔ (f, w) ∈ s.pairs v := by
  rw [a.given_eq]
  constructor
  · intro member
    obtain ⟨⟨g, x⟩, inside, rfl⟩ := List.mem_map.1 member
    obtain ⟨pair, same⟩ := List.mem_filter.1 inside
    obtain rfl : g = f := by simpa using same
    exact pair
  · intro pair
    exact List.mem_map_of_mem (List.mem_filter.2 ⟨pair, by simp⟩)

theorem mem_pairs_fst_iff {f : Field} {v : Json} :
    f ∈ (s.pairs v).map Prod.fst ↔ F.given f v ≠ [] := by
  constructor
  · intro member
    obtain ⟨⟨g, w⟩, pair, rfl⟩ := List.mem_map.1 member
    exact List.ne_nil_of_mem (a.mem_given_iff.2 pair)
  · intro given
    obtain ⟨w, member⟩ := List.exists_mem_of_ne_nil _ given
    exact List.mem_map_of_mem (a.mem_given_iff.1 member)

theorem forall_pairs_iff {P : Field → Json → Prop} {v : Json} :
    (∀ p ∈ s.pairs v, P p.1 p.2) ↔ ∀ f, ∀ w ∈ F.given f v, P f w :=
  ⟨fun all _ _ member => all _ (a.mem_given_iff.1 member),
    fun all p member => all p.1 p.2 (a.mem_given_iff.2 member)⟩

theorem nodup_pairs_iff {v : Json} :
    ((s.pairs v).map Prod.fst).Nodup ↔ ∀ f, (F.given f v).length ≤ 1 := by
  rw [List.nodup_iff_count_le_one]
  refine forall_congr' fun f => ?_
  have counted : ((s.pairs v).map Prod.fst).count f = (F.given f v).length := by
    rw [a.given_eq, List.length_map, List.count, List.countP_map, List.countP_eq_length_filter]
    rfl
  rw [counted]

/-- What is read of a value, without the order in which it is gone over. -/
theorem decode_eq_ok_iff_stored {v : Json} {r : Record} :
    s.decode v = .ok r ↔
      F.HasRoom v ∧ ((s.pairs v).map Prod.fst).Nodup ∧
        (s.required = true → ∀ f ∈ s.fields, f ∈ (s.pairs v).map Prod.fst) ∧
        s.storeAll s.blank (s.pairs v) = .ok r := by
  cases v with
  | object members => simp [decode, ofMembers_eq_ok_iff, Format.HasRoom]
  | array items =>
    have listed : (s.pairs (.array items)).map Prod.fst = s.fields.take items.length :=
      map_fst_zip s.fields items
    have distinct : (s.fields.take items.length).Nodup :=
      a.nodup_fields.sublist (List.take_sublist _ _)
    have all_iff : (∀ f ∈ s.fields, f ∈ s.fields.take items.length) ↔
        s.fields.length ≤ items.length := by
      constructor
      · intro all
        have bounded := (a.nodup_fields.subperm all).length_le
        rw [List.length_take] at bounded
        omega
      · intro enough f member
        rwa [List.take_of_length_le enough]
    rw [decode, ofItems_eq_ok_iff, listed, all_iff, Format.HasRoom, a.size_eq]
    simp only [distinct, true_and]
  | _ => simp [decode, Format.HasRoom]

/-- A schema reads a record exactly from the values that spell it. -/
theorem decode_eq_ok_iff {v : Json} {r : Record} : s.decode v = .ok r ↔ F.Written v r := by
  rw [a.decode_eq_ok_iff_stored]
  constructor
  · rintro ⟨room, distinct, complete, stored⟩
    obtain ⟨read, kept⟩ := (a.storeAll_eq_ok_iff distinct).1 stored
    refine ⟨room, a.nodup_pairs_iff.1 distinct, ?_, fun f nothing => ?_⟩
    · exact a.forall_pairs_iff.1 fun p member => a.carries_iff.2 (read p member)
    · have absent : f ∉ (s.pairs v).map Prod.fst := fun present =>
        a.mem_pairs_fst_iff.1 present nothing
      have optional : F.required = false := by
        rw [a.required_eq, ← Bool.not_eq_true]
        exact fun needed => absent (complete needed f (a.mem_fields f))
      exact ⟨optional, (a.omits_iff optional).2 (kept f absent)⟩
  · rintro ⟨room, once, carried, omitted⟩
    have distinct := a.nodup_pairs_iff.2 once
    refine ⟨room, distinct, fun needed f _ => ?_, ?_⟩
    · refine a.mem_pairs_fst_iff.2 fun nothing => ?_
      have optional := (omitted f nothing).1
      rw [a.required_eq, needed] at optional
      cases optional
    · refine (a.storeAll_eq_ok_iff distinct).2 ⟨?_, fun f absent => ?_⟩
      · exact a.forall_pairs_iff.2 fun f w member => a.carries_iff.1 (carried f w member)
      · have nothing : F.given f v = [] := by
          by_contra given
          exact absent (a.mem_pairs_fst_iff.2 given)
        obtain ⟨optional, blank⟩ := omitted f nothing
        exact (a.omits_iff optional).1 blank

/-- A schema reads a value exactly if the format allows it. -/
theorem decodes_iff {v : Json} : (∃ r, s.decode v = .ok r) ↔ F.Acceptable v := by
  simp only [a.decode_eq_ok_iff_stored, exists_and_left, a.storeAll_ok_iff]
  rw [a.nodup_pairs_iff, a.forall_pairs_iff (P := fun f w => ∃ x, a.read f w = .ok x)]
  constructor
  · rintro ⟨room, once, complete, read⟩
    refine ⟨room, once, fun f w member => a.accepts_iff.2 (read f w member), ?_⟩
    intro needed f
    rw [a.required_eq] at needed
    exact a.mem_pairs_fst_iff.1 (complete needed f (a.mem_fields f))
  · rintro ⟨room, once, accepted, complete⟩
    refine ⟨room, once, ?_, fun f w member => a.accepts_iff.1 (accepted f w member)⟩
    intro needed f _
    rw [← a.required_eq] at needed
    exact a.mem_pairs_fst_iff.2 (complete needed f)

/-! ## Members that do not matter, and names that do not matter -/

theorem takeMember_unknown {m : String × Json}
    (unknown : ∀ f, m.1 ∉ F.spellings f) (p : Partial Record Field) :
    s.takeMember p m = .ok p := by
  have nameless : s.fieldNamed? m.1 = none := by
    rw [Option.eq_none_iff_forall_ne_some]
    exact fun f named => unknown f (a.fieldNamed?_eq_some_iff.1 named)
  rw [takeMember, nameless]

/-- A member that names no field can be left out. -/
theorem decode_unknown {m : String × Json} (unknown : ∀ f, m.1 ∉ F.spellings f)
    (before after : List (String × Json)) :
    s.decode (.object (before ++ m :: after)) = s.decode (.object (before ++ after)) := by
  have passed (p : Partial Record Field) :
      (m :: after).foldlM s.takeMember p = after.foldlM s.takeMember p := by
    rw [List.foldlM_cons, a.takeMember_unknown unknown]
    rfl
  rw [decode, decode, ofMembers, ofMembers, List.foldlM_append, List.foldlM_append]
  simp only [passed]

/-- The order of members and the choice between the names of a field leave no trace in the record
that is read. -/
theorem decode_respelled {members renamed shuffled : List (String × Json)}
    (same : F.Respelled members renamed) (order : renamed.Perm shuffled) {r : Record} :
    s.decode (.object members) = .ok r ↔ s.decode (.object shuffled) = .ok r := by
  have given (f : Field) : F.given f (.object members) = F.given f (.object renamed) :=
    F.given_respelled a.eq_of_spelled same f
  have unchanged : F.Written (.object members) r ↔ F.Written (.object renamed) r := by
    apply F.written_congr
    intro f
    rw [given f]
  rw [a.decode_eq_ok_iff, a.decode_eq_ok_iff, unchanged]
  exact F.written_perm order

end Fieldwise

end Schema

end SpanDashboard
