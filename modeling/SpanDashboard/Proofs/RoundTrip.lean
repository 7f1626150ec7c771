import SpanDashboard.Proofs.Building
import SpanDashboard.Proofs.WireFormat
import SpanDashboard.Record.Encode

/-!
# Records written and read again

A record that is written as JSON text is read from the text again as the same record
(`records_round_trip`). The text is read as the canonical form of what has been written: its members
are put in the order of their names, which by the wire format does not matter. Attributes are maps,
so they are their own canonical form.
-/

set_option autoImplicit false

namespace SpanDashboard

/-! ## Objects with the fields of a record -/

namespace Schema

variable {Record Field : Type}

/-- The members that give some fields, each under its first name. -/
def members (s : Schema Record Field) (write : Field → Option Json) : List (String × Json) :=
  s.fields.filterMap fun f => (write f).map fun w => (s.name f, w)

theorem forall_members {s : Schema Record Field} {write : Field → Option Json} {P : Json → Prop}
    (each : ∀ f w, write f = some w → P w) : ∀ m ∈ s.members write, P m.2 := by
  intro m member
  obtain ⟨f, -, written⟩ := List.mem_filterMap.1 member
  obtain ⟨w, given, rfl⟩ := Option.map_eq_some_iff.1 written
  exact each f w given

theorem nesting_members_le {s : Schema Record Field} {write : Field → Option Json} {n : Nat}
    (each : ∀ f w, write f = some w → w.nesting ≤ n) :
    (Json.object (s.members write)).nesting ≤ n + 1 :=
  Nat.succ_le_succ (Json.nestingMembers_le_iff.2 (forall_members (P := (·.nesting ≤ n)) each))

theorem canonical_members (s : Schema Record Field) (write : Field → Option Json) :
    (s.members write).map (fun m => (m.1, m.2.canonical)) =
      s.members fun f => (write f).map Json.canonical := by
  rw [members, members, List.map_filterMap]
  congr 1
  funext f
  cases write f <;> rfl

namespace Fieldwise

variable {s : Schema Record Field} {F : Format Record Field} (a : s.Fieldwise F)
include a

theorem name_mem_spellings_iff {f g : Field} : s.name g ∈ F.spellings f ↔ g = f := by
  have own (f : Field) : s.name f ∈ F.spellings f := by
    rw [a.spellings_eq]
    exact List.mem_cons_self
  exact ⟨fun spelled => a.eq_of_spelled (own g) spelled, fun same => same ▸ own g⟩

theorem mem_members_iff {write : Field → Option Json} {f : Field} {key : String} {w : Json}
    (spelled : key ∈ F.spellings f) :
    (key, w) ∈ s.members write ↔ key = s.name f ∧ write f = some w := by
  constructor
  · intro member
    obtain ⟨g, -, written⟩ := List.mem_filterMap.1 member
    obtain ⟨x, given, same⟩ := Option.map_eq_some_iff.1 written
    obtain ⟨rfl, rfl⟩ := Prod.mk.inj same
    obtain rfl := a.name_mem_spellings_iff.1 spelled
    exact ⟨rfl, given⟩
  · rintro ⟨rfl, given⟩
    exact List.mem_filterMap.2 ⟨f, a.mem_fields f, by rw [given]; rfl⟩

theorem nodup_members (write : Field → Option Json) :
    ((s.members write).map Prod.fst).Nodup := by
  rw [members, List.map_filterMap]
  refine List.Nodup.filterMap (fun f g key first second => ?_) a.nodup_fields
  rw [Option.mem_def, Option.map_map, Option.map_eq_some_iff] at first second
  obtain ⟨_, -, rfl⟩ := first
  obtain ⟨_, -, same⟩ := second
  have same : s.name g = s.name f := same
  have spelled : s.name g ∈ F.spellings g := a.name_mem_spellings_iff.2 rfl
  rw [same] at spelled
  exact a.name_mem_spellings_iff.1 spelled

/-- Members that give what a record carries, and leave out only what is blank in it, are read as the
record. -/
theorem written_members {write : Field → Option Json} {r : Record}
    (carried : ∀ f w, write f = some w → F.Carries f w r)
    (omitted : ∀ f, write f = none → F.required = false ∧ F.Omits f r) :
    F.Written (.object (s.members write)) r := by
  have mem_given {f : Field} {w : Json} :
      w ∈ F.given f (.object (s.members write)) ↔ write f = some w := by
    rw [Format.given, Json.mem_valuesUnder_iff]
    constructor
    · rintro ⟨key, spelled, member⟩
      exact ((a.mem_members_iff spelled).1 member).2
    · intro given
      have spelled : s.name f ∈ F.spellings f := a.name_mem_spellings_iff.2 rfl
      exact ⟨s.name f, spelled, (a.mem_members_iff spelled).2 ⟨rfl, given⟩⟩
  refine ⟨trivial, fun f => ?_, fun f w member => carried f w (mem_given.1 member), ?_⟩
  · refine (Json.length_valuesUnder_le_one_iff (a.nodup_members write) _).2 ?_
    have first {key : String} (spelled : key ∈ F.spellings f)
        (present : key ∈ (s.members write).map Prod.fst) : key = s.name f := by
      obtain ⟨⟨_, w⟩, member, rfl⟩ := List.mem_map.1 present
      exact ((a.mem_members_iff spelled).1 member).1
    intro key spelled other spelled' present present'
    rw [first spelled present, first spelled' present']
  · intro f nothing
    apply omitted f
    cases given : write f with
    | none => rfl
    | some w =>
      have member := mem_given.2 given
      rw [nothing] at member
      cases member

/-- Writing members and reading them in their canonical form gives the record back. -/
theorem decode_canonical [DecidableEq Field] {write : Field → Option Json} {r : Record}
    (carried : ∀ f w, write f = some w → F.Carries f w.canonical r)
    (omitted : ∀ f, write f = none → F.required = false ∧ F.Omits f r) :
    s.decode (Json.object (s.members write)).canonical = .ok r := by
  rw [Json.canonical_object, canonical_members]
  have written : F.Written (.object (s.members fun f => (write f).map Json.canonical)) r := by
    refine a.written_members (fun f w given => ?_) fun f nothing => ?_
    · obtain ⟨x, written, rfl⟩ := Option.map_eq_some_iff.1 given
      exact carried f x written
    · exact omitted f (Option.map_eq_none_iff.1 nothing)
  have order := Json.sortMembers_perm (a.nodup_members fun f => (write f).map Json.canonical)
  exact a.decode_eq_ok_iff.2 ((F.written_perm order).2 written)

end Fieldwise

end Schema

/-! ## What records are written as -/

/-- A record comes back from the text that it is written as. -/
def Restored {Record : Type} (encode : Record → Json) (decode : Json → Except Problem Record)
    (r : Record) : Prop :=
  ∃ v, Json.parse? (encode r).compact = some v ∧ decode v = .ok r

theorem restored_of_canonical {Record : Type} {encode : Record → Json}
    {decode : Json → Except Problem Record} {r : Record} (whole : (encode r).Whole)
    (shallow : (encode r).nesting < 128) (read : decode (encode r).canonical = .ok r) :
    Restored encode decode r :=
  ⟨_, Json.parse?_compact whole (Nat.le_of_lt_succ shallow), read⟩

namespace Json

theorem whole_count (n : UInt64) : (int n.toNat).Whole := by
  have small := n.toNat_lt
  exact .int (by omega) (by omega)

theorem whole_nanoseconds (n : Int64) : (int n.toInt).Whole := by
  have low := n.le_toInt
  have high := n.toInt_lt
  exact .int low (by omega)

end Json

namespace Attributes

/-- All numbers in the attributes are whole. -/
def Whole (a : Attributes) : Prop :=
  (Json.object a.members).Whole

theorem whole_empty : empty.Whole :=
  .object (List.forall_mem_nil _)

theorem whole_ofMembers {members : List (String × Json)} (each : ∀ m ∈ members, m.2.Whole) :
    (ofMembers members).Whole :=
  (Json.Whole.object each).canonical

/-- The attributes are spelled by their own object, which is in canonical form. -/
theorem spells_canonical (a : Attributes) :
    (Json.object a.members).canonical.SpellsAttributes a := by
  rw [a.sorted.canonical_eq]
  exact Json.arranged_iff.2 a.sorted.canonical_eq

end Attributes

namespace SpanAggregate

/-- What is written for each field. -/
def write (r : SpanAggregate) : Field → Option Json
  | .name => some (.string r.name)
  | .errorCount => some (.int r.errorCount.toNat)
  | .runningCount => some (.int r.runningCount.toNat)
  | .latencyCounts => some (.array (r.latencyCounts.toList.map fun n => .int n.toNat))

theorem encode_eq (r : SpanAggregate) : r.encode = .object (schema.members r.write) :=
  rfl

theorem whole_encode (r : SpanAggregate) : r.encode.Whole := by
  rw [encode_eq]
  refine .object (Schema.forall_members fun f w written => ?_)
  cases f <;> obtain rfl := Option.some.inj written
  case name => exact .string r.name
  case errorCount => exact Json.whole_count r.errorCount
  case runningCount => exact Json.whole_count r.runningCount
  case latencyCounts =>
    refine .array fun v member => ?_
    obtain ⟨n, -, rfl⟩ := List.mem_map.1 member
    exact Json.whole_count n

theorem nesting_encode_le (r : SpanAggregate) : r.encode.nesting ≤ 2 := by
  rw [encode_eq]
  refine Schema.nesting_members_le fun f w written => ?_
  cases f <;> obtain rfl := Option.some.inj written
  case latencyCounts =>
    refine Nat.succ_le_succ (Json.nestingItems_le_iff.2 fun v member => ?_)
    obtain ⟨n, -, rfl⟩ := List.mem_map.1 member
    exact Nat.le_refl 0
  all_goals exact Nat.zero_le 1

theorem decode_canonical_encode (r : SpanAggregate) : decode r.encode.canonical = .ok r := by
  rw [encode_eq]
  refine fieldwise.decode_canonical (fun f w written => ?_) fun f nothing => ?_
  · cases f <;> obtain rfl := Option.some.inj written
    case latencyCounts =>
      have scalars : (r.latencyCounts.toList.map fun n => Json.int n.toNat).map Json.canonical =
          r.latencyCounts.toList.map fun n => Json.int n.toNat := by
        rw [List.map_map]
        rfl
      rw [Json.canonical_array, scalars]
      rfl
    all_goals rfl
  · cases f <;> cases nothing

theorem restored (r : SpanAggregate) : Restored encode decode r := by
  have shallow := r.nesting_encode_le
  exact restored_of_canonical r.whole_encode (by omega) r.decode_canonical_encode

end SpanAggregate

namespace SpanEvent

/-- What is written for each field. -/
def write (e : SpanEvent) : Field → Option Json
  | .name => some (.string e.name)
  | .timestamp => some (.int e.timestamp.toInt)
  | .attributes => some (.object e.attributes.members)

theorem encode_eq (e : SpanEvent) : e.encode = .object (schema.members e.write) :=
  rfl

theorem whole_encode {e : SpanEvent} (whole : e.attributes.Whole) : e.encode.Whole := by
  rw [encode_eq]
  refine .object (Schema.forall_members fun f w written => ?_)
  cases f <;> obtain rfl := Option.some.inj written
  case name => exact .string e.name
  case timestamp => exact Json.whole_nanoseconds e.timestamp
  case attributes => exact whole

theorem decode_canonical_encode (e : SpanEvent) : decode e.encode.canonical = .ok e := by
  rw [encode_eq]
  refine fieldwise.decode_canonical (fun f w written => ?_) fun f nothing => ?_
  · cases f <;> obtain rfl := Option.some.inj written
    case attributes => exact e.attributes.spells_canonical
    all_goals rfl
  · cases f <;> cases nothing

theorem restored {e : SpanEvent} (whole : e.attributes.Whole) (shallow : e.encode.nesting < 128) :
    Restored encode decode e :=
  restored_of_canonical (whole_encode whole) shallow e.decode_canonical_encode

end SpanEvent

namespace SpanDetail

/-- What is written for each field. -/
def write (r : SpanDetail) : Field → Option Json
  | .spanId => some (.string r.spanId)
  | .parentId => some (.string r.parentId)
  | .traceId => some (.string r.traceId)
  | .start => some (.int r.start.toInt)
  | .description => some (.string r.description)
  | .duration => r.duration.map fun n => .int n.toInt
  | .status => r.status.map fun code => .string code.name
  | .attributes => some (.object r.attributes.members)
  | .events => some (.array (r.events.map SpanEvent.encode))

theorem encode_eq (r : SpanDetail) : r.encode = .object (schema.members r.write) := by
  obtain ⟨_, _, _, _, _, duration, status, _, _⟩ := r
  cases duration <;> cases status <;> rfl

theorem whole_encode {r : SpanDetail} (whole : r.attributes.Whole)
    (each : ∀ e ∈ r.events, e.attributes.Whole) : r.encode.Whole := by
  rw [encode_eq]
  refine .object (Schema.forall_members fun f w written => ?_)
  cases f
  case duration =>
    obtain ⟨n, -, rfl⟩ := Option.map_eq_some_iff.1 written
    exact Json.whole_nanoseconds n
  case status =>
    obtain ⟨code, -, rfl⟩ := Option.map_eq_some_iff.1 written
    exact .string code.name
  all_goals obtain rfl := Option.some.inj written
  case start => exact Json.whole_nanoseconds r.start
  case attributes => exact whole
  case events =>
    refine .array fun v member => ?_
    obtain ⟨e, inside, rfl⟩ := List.mem_map.1 member
    exact SpanEvent.whole_encode (each e inside)
  all_goals exact .string _

theorem decode_canonical_encode (r : SpanDetail) : decode r.encode.canonical = .ok r := by
  rw [encode_eq]
  refine fieldwise.decode_canonical (fun f w written => ?_) fun f nothing => ?_
  · cases f
    case duration =>
      obtain ⟨n, some_duration, rfl⟩ := Option.map_eq_some_iff.1 written
      show (Json.int n.toInt).SpellsOptional (fun v n => v = .int (Int64.toInt n)) r.duration
      rw [some_duration]
      rfl
    case status =>
      obtain ⟨code, some_status, rfl⟩ := Option.map_eq_some_iff.1 written
      show (Json.string code.name).SpellsOptional Json.SpellsStatus r.status
      rw [some_status]
      exact ⟨code.name, rfl, .inr rfl⟩
    all_goals obtain rfl := Option.some.inj written
    case attributes => exact r.attributes.spells_canonical
    case events =>
      refine ⟨r.events.map fun e => e.encode.canonical, ?_, ?_⟩
      · rw [Json.canonical_array, List.map_map]
        rfl
      · rw [List.forall₂_map_left_iff, List.forall₂_same]
        intro e _
        exact SpanEvent.decode_eq_ok_iff.1 e.decode_canonical_encode
    all_goals rfl
  · cases f
    case duration => exact ⟨rfl, Option.map_eq_none_iff.1 nothing⟩
    case status => exact ⟨rfl, Option.map_eq_none_iff.1 nothing⟩
    all_goals cases nothing

theorem restored {r : SpanDetail} (whole : r.attributes.Whole)
    (each : ∀ e ∈ r.events, e.attributes.Whole) (shallow : r.encode.nesting < 128) :
    Restored encode decode r :=
  restored_of_canonical (whole_encode whole each) shallow r.decode_canonical_encode

end SpanDetail

/-! ## What has been read is written no deeper -/

namespace Format

variable {Record Field : Type} {F : Format Record Field}

theorem nesting_lt_of_mem_given {v w : Json} {f : Field} (member : w ∈ F.given f v) :
    w.nesting < v.nesting := by
  cases v with
  | object members =>
    obtain ⟨key, -, inside⟩ := Json.mem_valuesUnder_iff.1 member
    exact Json.nesting_lt_of_mem_members inside
  | array items =>
    rw [given, Option.mem_toList] at member
    exact Json.nesting_lt_of_mem_items (List.mem_of_getElem? member)
  | _ => cases member

/-- What a record holds in a field is blank or comes from the value that spells the record. -/
theorem Written.omits_or_carries {v : Json} {r : Record} (written : F.Written v r) (f : Field) :
    F.Omits f r ∨ ∃ w ∈ F.given f v, F.Carries f w r := by
  cases given : F.given f v with
  | nil => exact .inl (written.omitted f given).2
  | cons w rest =>
    have member : w ∈ F.given f v := by
      rw [given]
      exact List.mem_cons_self
    exact .inr ⟨w, List.mem_cons_self, written.carried f w member⟩

/-- The attributes that a record has in a field are inside of the value that spells it. -/
theorem Written.nesting_attributes_le {v : Json} {r : Record} (written : F.Written v r) {f : Field}
    {attributes : Attributes} (blank : F.Omits f r → attributes.members = [])
    (carried : ∀ {w}, F.Carries f w r → w.SpellsAttributes attributes) :
    (Json.object attributes.members).nesting ≤ max (v.nesting - 1) 1 := by
  rcases written.omits_or_carries f with omitted | ⟨w, member, carries⟩
  · rw [blank omitted]
    exact Nat.le_max_right _ 1
  · rw [← (carried carries).canonical_eq]
    have inner := nesting_lt_of_mem_given member
    have canonical := w.nesting_canonical_le
    omega

end Format

namespace SpanEvent

theorem nesting_encode_le {v : Json} {e : SpanEvent} (written : format.Written v e) :
    e.encode.nesting ≤ max v.nesting 2 := by
  have attributes := written.nesting_attributes_le (f := .attributes) id id
  have bounded : e.encode.nesting ≤ (Json.object e.attributes.members).nesting + 1 := by
    rw [encode_eq]
    refine Schema.nesting_members_le fun f w given => ?_
    cases f <;> obtain rfl := Option.some.inj given
    case attributes => exact Nat.le_refl _
    all_goals exact Nat.zero_le _
  omega

/-- An event that has been read comes back from what it is written as, if its numbers are whole. -/
theorem restored_of_parse? {text : String} {v : Json} (parsed : Json.parse? text = some v)
    {e : SpanEvent} (read : decode v = .ok e) (whole : e.attributes.Whole) :
    Restored encode decode e := by
  have shallow : v.nesting ≤ 127 := Json.nesting_le_of_parse? parsed
  have bounded := nesting_encode_le (decode_eq_ok_iff.1 read)
  exact restored whole (by omega)

end SpanEvent

namespace SpanDetail

/-- Each event of a record is spelled by a value inside of the one that spells the record. -/
theorem exists_written_event {v : Json} {r : SpanDetail} (written : format.Written v r)
    {e : SpanEvent} (member : e ∈ r.events) :
    ∃ items, .array items ∈ format.given .events v ∧
      ∃ item ∈ items, SpanEvent.format.Written item e := by
  rcases written.omits_or_carries .events with blank | ⟨w, given, items, rfl, all⟩
  · rw [show r.events = [] from blank] at member
    cases member
  · exact ⟨items, given, exists_of_mem_right all member⟩

theorem nesting_encode_le {v : Json} {r : SpanDetail} (written : format.Written v r) :
    r.encode.nesting ≤ max v.nesting 4 := by
  have attributes := written.nesting_attributes_le (f := .attributes) id id
  -- Each event has been read two levels below the record, so it is not deeper than that.
  have each : ∀ w ∈ r.events.map SpanEvent.encode, w.nesting ≤ max (v.nesting - 2) 2 := by
    intro w member
    obtain ⟨e, happened, rfl⟩ := List.mem_map.1 member
    obtain ⟨items, given, item, inside, spelled⟩ := exists_written_event written happened
    have outer := Format.nesting_lt_of_mem_given given
    have inner := Json.nesting_lt_of_mem_items inside
    have bounded := SpanEvent.nesting_encode_le spelled
    omega
  have events : (Json.array (r.events.map SpanEvent.encode)).nesting ≤ max (v.nesting - 1) 3 := by
    have bounded := Nat.succ_le_succ (Json.nestingItems_le_iff.2 each)
    rw [Json.nesting]
    omega
  have bounded : r.encode.nesting ≤ max (v.nesting - 1) 3 + 1 := by
    rw [encode_eq]
    refine Schema.nesting_members_le fun f w given => ?_
    cases f
    case duration =>
      obtain ⟨n, -, rfl⟩ := Option.map_eq_some_iff.1 given
      exact Nat.zero_le _
    case status =>
      obtain ⟨code, -, rfl⟩ := Option.map_eq_some_iff.1 given
      exact Nat.zero_le _
    all_goals obtain rfl := Option.some.inj given
    case attributes => exact attributes.trans (by omega)
    case events => exact events
    all_goals exact Nat.zero_le _
  omega

/-- A sampled span that has been read comes back from what it is written as, if the numbers in its
attributes are whole. -/
theorem restored_of_parse? {text : String} {v : Json} (parsed : Json.parse? text = some v)
    {r : SpanDetail} (read : decode v = .ok r) (whole : r.attributes.Whole)
    (each : ∀ e ∈ r.events, e.attributes.Whole) : Restored encode decode r := by
  have shallow : v.nesting ≤ 127 := Json.nesting_le_of_parse? parsed
  have bounded := nesting_encode_le (decode_eq_ok_iff.1 read)
  exact restored whole each (by omega)

end SpanDetail

/-- Every record comes back from the text that it is written as, if the numbers in its attributes
are whole and the text is not too deep for the reader. So does every record that has been read from
any text, whatever names, positions and spellings of codes the text has, if the numbers in its
attributes are whole. -/
theorem records_round_trip :
    (∀ r : SpanAggregate, Restored SpanAggregate.encode SpanAggregate.decode r) ∧
      (∀ e : SpanEvent, e.attributes.Whole → e.encode.nesting < 128 →
        Restored SpanEvent.encode SpanEvent.decode e) ∧
      (∀ r : SpanDetail, r.attributes.Whole → (∀ e ∈ r.events, e.attributes.Whole) →
        r.encode.nesting < 128 → Restored SpanDetail.encode SpanDetail.decode r) ∧
      ∀ text v, Json.parse? text = some v →
        (∀ r, SpanAggregate.decode v = .ok r →
          Restored SpanAggregate.encode SpanAggregate.decode r) ∧
        (∀ e, SpanEvent.decode v = .ok e → e.attributes.Whole →
          Restored SpanEvent.encode SpanEvent.decode e) ∧
        ∀ r, SpanDetail.decode v = .ok r → r.attributes.Whole →
          (∀ e ∈ r.events, e.attributes.Whole) →
            Restored SpanDetail.encode SpanDetail.decode r := by
  refine ⟨SpanAggregate.restored, fun e => SpanEvent.restored, fun r => SpanDetail.restored, ?_⟩
  intro text v parsed
  refine ⟨fun r _ => r.restored, fun e read => ?_, fun r read => ?_⟩
  · exact SpanEvent.restored_of_parse? parsed read
  · exact SpanDetail.restored_of_parse? parsed read

/-- A cancelled span with nested attributes in one of its events comes back. -/
theorem nested_round_trip :
    Restored SpanDetail.encode SpanDetail.decode
      ⟨"1", "", "", -1, "say \"hi\"", none, some .cancelled, .empty,
        [⟨"retry", 12,
          .ofMembers [("last", .bool true), ("after", .array [.int (-1), .object []])]⟩]⟩ := by
  have nested : (Attributes.ofMembers
      [("last", .bool true), ("after", .array [.int (-1), .object []])]).Whole := by
    refine Attributes.whole_ofMembers ?_
    simp only [List.forall_mem_cons]
    refine ⟨.bool true, .array ?_, nofun⟩
    simp only [List.forall_mem_cons]
    exact ⟨.int (by decide) (by decide), Attributes.whole_empty, nofun⟩
  exact records_round_trip.2.2.1 _ Attributes.whole_empty (List.forall_mem_singleton.2 nested)
    (by decide +kernel)

end SpanDashboard
