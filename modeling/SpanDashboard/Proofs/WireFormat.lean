import SpanDashboard.Proofs.Readers

/-!
# The wire format of records

What a JSON value must look like to be read as a `SpanEvent`, as a `SpanDetailRecord`, or as a
`SpanAggregateRecord`. The formats list the names and the positions of the fields and the values
that each can have; the schemas read exactly what they allow (`SpanDetail.detail_format_exact`,
`SpanAggregate.aggregate_format_exact`).
-/

set_option autoImplicit false

namespace SpanDashboard

/-! ## Events -/

namespace SpanEvent

/-- How events are written. -/
def format : Format SpanEvent Field where
  spellings
    | .name => ["name"]
    | .timestamp => ["timestamp"]
    | .attributes => ["attributes"]
  position
    | .name => 0
    | .timestamp => 1
    | .attributes => 2
  size := 3
  required := false
  Accepts
    | .name, v => v.IsText
    | .timestamp, v => v.IsNanoseconds
    | .attributes, v => v.IsAttributes
  Carries
    | .name, v, e => v = .string e.name
    | .timestamp, v, e => v = .int e.timestamp.toInt
    | .attributes, v, e => v.SpellsAttributes e.attributes
  Omits
    | .name, e => e.name = ""
    | .timestamp, e => e.timestamp = 0
    | .attributes, e => e.attributes.members = []

/-- An event is read field by field: its name as a text, its time as nanoseconds, its attributes as
an object. What is left out stays blank. -/
def fieldwise : schema.Fieldwise format where
  Value
    | .name => String
    | .timestamp => Int64
    | .attributes => Attributes
  read
    | .name => Json.asText
    | .timestamp => Json.asNanoseconds
    | .attributes => Json.asAttributes
  get
    | .name, e => e.name
    | .timestamp, e => e.timestamp
    | .attributes, e => e.attributes
  set
    | .name, s, e => { e with name := s }
    | .timestamp, n, e => { e with timestamp := n }
    | .attributes, a, e => { e with attributes := a }
  get_set f x e := by cases f <;> rfl
  get_set_of_ne := by
    intro f g different x e
    cases f <;> cases g <;> first | rfl | exact absurd rfl different
  ext := by
    intro e e' same
    cases e
    obtain rfl := same .name
    obtain rfl := same .timestamp
    obtain rfl := same .attributes
    rfl
  store_eq f v e := by cases f <;> rfl
  spellings_eq f := by cases f <;> rfl
  nodup_spellings := by decide
  nodup_fields := by decide
  field_at f := by cases f <;> rfl
  size_eq := rfl
  required_eq := rfl
  accepts_iff := by
    intro f v
    cases f with
    | name => exact Json.exists_asText_iff.symm
    | timestamp => exact Json.exists_asNanoseconds_iff.symm
    | attributes => exact Json.exists_asAttributes_iff.symm
  carries_iff := by
    intro f v e
    cases f with
    | name => exact Json.asText_eq_ok_iff.symm
    | timestamp => exact Json.asNanoseconds_eq_ok_iff.symm
    | attributes => exact Json.asAttributes_eq_ok_iff.symm
  omits_iff := by
    intro _ f e
    cases f with
    | attributes => exact Attributes.eq_empty_iff.symm
    | name | timestamp => rfl

theorem decode_eq_ok_iff {v : Json} {e : SpanEvent} : decode v = .ok e ↔ format.Written v e :=
  fieldwise.decode_eq_ok_iff

theorem decodes_iff {v : Json} : (∃ e, decode v = .ok e) ↔ format.Acceptable v :=
  fieldwise.decodes_iff

end SpanEvent

/-! ## Sampled spans -/

namespace SpanDetail

/-- How sampled spans are written. -/
def format : Format SpanDetail Field where
  spellings
    | .spanId => ["spanid", "spanId"]
    | .parentId => ["parentid", "parentId"]
    | .traceId => ["traceid", "traceId"]
    | .start => ["start", "startTimestamp"]
    | .description => ["description"]
    | .duration => ["duration", "durationNanos"]
    | .status => ["status", "statusCode"]
    | .attributes => ["attributes"]
    | .events => ["events"]
  position
    | .spanId => 0
    | .parentId => 1
    | .traceId => 2
    | .start => 3
    | .description => 4
    | .duration => 5
    | .status => 6
    | .attributes => 7
    | .events => 8
  size := 9
  required := false
  Accepts
    | .spanId, v | .parentId, v | .traceId, v | .description, v => v.IsText
    | .start, v => v.IsNanoseconds
    | .duration, v => v = .null ∨ v.IsNanoseconds
    | .status, v => v = .null ∨ v.IsStatus
    | .attributes, v => v.IsAttributes
    | .events, v => v.IsListOf SpanEvent.format.Acceptable
  Carries
    | .spanId, v, r => v = .string r.spanId
    | .parentId, v, r => v = .string r.parentId
    | .traceId, v, r => v = .string r.traceId
    | .start, v, r => v = .int r.start.toInt
    | .description, v, r => v = .string r.description
    | .duration, v, r => v.SpellsOptional (fun v n => v = .int (Int64.toInt n)) r.duration
    | .status, v, r => v.SpellsOptional Json.SpellsStatus r.status
    | .attributes, v, r => v.SpellsAttributes r.attributes
    | .events, v, r =>
      ∃ items, v = .array items ∧ List.Forall₂ SpanEvent.format.Written items r.events
  Omits
    | .spanId, r => r.spanId = ""
    | .parentId, r => r.parentId = ""
    | .traceId, r => r.traceId = ""
    | .start, r => r.start = 0
    | .description, r => r.description = ""
    | .duration, r => r.duration = none
    | .status, r => r.status = none
    | .attributes, r => r.attributes.members = []
    | .events, r => r.events = []

theorem asOptionalNanoseconds_eq_ok_iff {v : Json} {o : Option Int64} :
    v.asOptional Json.asNanoseconds = .ok o ↔
      v.SpellsOptional (fun v n => v = .int (Int64.toInt n)) o := by
  apply Json.asOptional_eq_ok_iff Json.asNanoseconds_eq_ok_iff
  intro n same
  cases same

theorem asOptionalStatus_eq_ok_iff {v : Json} {o : Option StatusCode} :
    v.asOptional Json.asStatus = .ok o ↔ v.SpellsOptional Json.SpellsStatus o := by
  apply Json.asOptional_eq_ok_iff Json.asStatus_eq_ok_iff
  rintro code ⟨name, same, -⟩
  cases same

theorem asEvents_eq_ok_iff {v : Json} {events : List SpanEvent} :
    v.asList SpanEvent.decode = .ok events ↔
      ∃ items, v = .array items ∧ List.Forall₂ SpanEvent.format.Written items events := by
  simp only [Json.asList_eq_ok_iff, SpanEvent.decode_eq_ok_iff]

/-- A sampled span is read field by field, each of the nine with the reader of its type; null stands
for no duration and no status, and each event is read by its own schema. -/
def fieldwise : schema.Fieldwise format where
  Value
    | .spanId | .parentId | .traceId | .description => String
    | .start => Int64
    | .duration => Option Int64
    | .status => Option StatusCode
    | .attributes => Attributes
    | .events => List SpanEvent
  read
    | .spanId | .parentId | .traceId | .description => Json.asText
    | .start => Json.asNanoseconds
    | .duration => Json.asOptional Json.asNanoseconds
    | .status => Json.asOptional Json.asStatus
    | .attributes => Json.asAttributes
    | .events => Json.asList SpanEvent.decode
  get
    | .spanId, r => r.spanId
    | .parentId, r => r.parentId
    | .traceId, r => r.traceId
    | .start, r => r.start
    | .description, r => r.description
    | .duration, r => r.duration
    | .status, r => r.status
    | .attributes, r => r.attributes
    | .events, r => r.events
  set
    | .spanId, s, r => { r with spanId := s }
    | .parentId, s, r => { r with parentId := s }
    | .traceId, s, r => { r with traceId := s }
    | .start, n, r => { r with start := n }
    | .description, s, r => { r with description := s }
    | .duration, n, r => { r with duration := n }
    | .status, code, r => { r with status := code }
    | .attributes, a, r => { r with attributes := a }
    | .events, es, r => { r with events := es }
  get_set f x r := by cases f <;> rfl
  get_set_of_ne := by
    intro f g different x r
    cases f <;> cases g <;> first | rfl | exact absurd rfl different
  ext := by
    intro r r' same
    cases r
    obtain rfl := same .spanId
    obtain rfl := same .parentId
    obtain rfl := same .traceId
    obtain rfl := same .start
    obtain rfl := same .description
    obtain rfl := same .duration
    obtain rfl := same .status
    obtain rfl := same .attributes
    obtain rfl := same .events
    rfl
  store_eq f v r := by cases f <;> rfl
  spellings_eq f := by cases f <;> rfl
  nodup_spellings := by decide
  nodup_fields := by decide
  field_at f := by cases f <;> rfl
  size_eq := rfl
  required_eq := rfl
  accepts_iff := by
    intro f v
    cases f with
    | spanId | parentId | traceId | description => exact Json.exists_asText_iff.symm
    | start => exact Json.exists_asNanoseconds_iff.symm
    | duration =>
      exact (Json.exists_asOptional_iff.trans
        (or_congr_right Json.exists_asNanoseconds_iff)).symm
    | status =>
      exact (Json.exists_asOptional_iff.trans (or_congr_right Json.exists_asStatus_iff)).symm
    | attributes => exact Json.exists_asAttributes_iff.symm
    | events => exact (Json.exists_asList_iff SpanEvent.decodes_iff).symm
  carries_iff := by
    intro f v r
    cases f with
    | spanId | parentId | traceId | description => exact Json.asText_eq_ok_iff.symm
    | start => exact Json.asNanoseconds_eq_ok_iff.symm
    | duration => exact asOptionalNanoseconds_eq_ok_iff.symm
    | status => exact asOptionalStatus_eq_ok_iff.symm
    | attributes => exact Json.asAttributes_eq_ok_iff.symm
    | events => exact asEvents_eq_ok_iff.symm
  omits_iff := by
    intro _ f r
    cases f with
    | attributes => exact Attributes.eq_empty_iff.symm
    | _ => rfl

theorem decode_eq_ok_iff {v : Json} {r : SpanDetail} : decode v = .ok r ↔ format.Written v r :=
  fieldwise.decode_eq_ok_iff

theorem decodes_iff {v : Json} : (∃ r, decode v = .ok r) ↔ format.Acceptable v :=
  fieldwise.decodes_iff

example : decode (.array [.string "a"]) = decode (.object [("spanId", .string "a")]) := by
  rfl

/-- A sampled span is read exactly from the values that its format allows, and carries what they
say; so are its events. Where keys are different, no field is given twice exactly if it is not given
under both of its names. Members with other keys do not matter, and neither does the choice between
the names of a field or the order of members. -/
theorem detail_format_exact :
    (∀ v r, decode v = .ok r ↔ format.Written v r) ∧
      (∀ v, (∃ r, decode v = .ok r) ↔ format.Acceptable v) ∧
      (∀ v e, SpanEvent.decode v = .ok e ↔ SpanEvent.format.Written v e) ∧
      (∀ v, (∃ e, SpanEvent.decode v = .ok e) ↔ SpanEvent.format.Acceptable v) ∧
      (∀ members f, (members.map Prod.fst).Nodup →
        ((format.given f (.object members)).length ≤ 1 ↔
          ∀ key ∈ format.spellings f, ∀ other ∈ format.spellings f,
            key ∈ members.map Prod.fst → other ∈ members.map Prod.fst → key = other)) ∧
      (∀ m before after, (∀ f, m.1 ∉ format.spellings f) →
        decode (.object (before ++ m :: after)) = decode (.object (before ++ after))) ∧
      ∀ members renamed shuffled, format.Respelled members renamed → renamed.Perm shuffled →
        ∀ r, decode (.object members) = .ok r ↔ decode (.object shuffled) = .ok r := by
  refine ⟨fun v r => decode_eq_ok_iff, fun v => decodes_iff,
    fun v e => SpanEvent.decode_eq_ok_iff, fun v => SpanEvent.decodes_iff, ?_, ?_, ?_⟩
  · intro members f distinct
    exact Json.length_valuesUnder_le_one_iff distinct (format.spellings f)
  · intro m before after unknown
    exact fieldwise.decode_unknown unknown before after
  · intro members renamed shuffled same order r
    exact fieldwise.decode_respelled same order

end SpanDetail

/-! ## Aggregates -/

namespace SpanAggregate

/-- How aggregates are written. -/
def format : Format SpanAggregate Field where
  spellings
    | .name => ["name"]
    | .errorCount => ["error", "errorCount"]
    | .runningCount => ["running", "runningCount"]
    | .latencyCounts => ["latency", "latencyCounts"]
  position
    | .name => 0
    | .errorCount => 1
    | .runningCount => 2
    | .latencyCounts => 3
  size := 4
  required := true
  Accepts
    | .name, v => v.IsText
    | .errorCount, v | .runningCount, v => v.IsCount
    | .latencyCounts, v => v.IsLatencyCounts
  Carries
    | .name, v, r => v = .string r.name
    | .errorCount, v, r => v = .int r.errorCount.toNat
    | .runningCount, v, r => v = .int r.runningCount.toNat
    | .latencyCounts, v, r => v = .array (r.latencyCounts.toList.map fun n => .int n.toNat)
  Omits _ _ := False

/-- An aggregate is read field by field: its name as a text, the two counts and the nine latency
counts as numbers. None of them may be left out. -/
def fieldwise : schema.Fieldwise format where
  Value
    | .name => String
    | .errorCount | .runningCount => UInt64
    | .latencyCounts => Vector UInt64 LatencyBucket.count
  read
    | .name => Json.asText
    | .errorCount | .runningCount => Json.asCount
    | .latencyCounts => Json.asLatencyCounts
  get
    | .name, r => r.name
    | .errorCount, r => r.errorCount
    | .runningCount, r => r.runningCount
    | .latencyCounts, r => r.latencyCounts
  set
    | .name, s, r => { r with name := s }
    | .errorCount, n, r => { r with errorCount := n }
    | .runningCount, n, r => { r with runningCount := n }
    | .latencyCounts, ns, r => { r with latencyCounts := ns }
  get_set f x r := by cases f <;> rfl
  get_set_of_ne := by
    intro f g different x r
    cases f <;> cases g <;> first | rfl | exact absurd rfl different
  ext := by
    intro r r' same
    cases r
    obtain rfl := same .name
    obtain rfl := same .errorCount
    obtain rfl := same .runningCount
    obtain rfl := same .latencyCounts
    rfl
  store_eq f v r := by cases f <;> rfl
  spellings_eq f := by cases f <;> rfl
  nodup_spellings := by decide
  nodup_fields := by decide
  field_at f := by cases f <;> rfl
  size_eq := rfl
  required_eq := rfl
  accepts_iff := by
    intro f v
    cases f with
    | name => exact Json.exists_asText_iff.symm
    | errorCount | runningCount => exact Json.exists_asCount_iff.symm
    | latencyCounts => exact Json.exists_asLatencyCounts_iff.symm
  carries_iff := by
    intro f v r
    cases f with
    | name => exact Json.asText_eq_ok_iff.symm
    | errorCount | runningCount => exact Json.asCount_eq_ok_iff.symm
    | latencyCounts => exact Json.asLatencyCounts_eq_ok_iff.symm
  omits_iff := nofun

theorem decode_eq_ok_iff {v : Json} {r : SpanAggregate} :
    decode v = .ok r ↔ format.Written v r :=
  fieldwise.decode_eq_ok_iff

theorem decodes_iff {v : Json} : (∃ r, decode v = .ok r) ↔ format.Acceptable v :=
  fieldwise.decodes_iff

/-- A value gives each of the four fields once, either under one of its names or in its place. -/
def Gives (v name errors running latency : Json) : Prop :=
  (∃ members, v = .object members ∧
    Json.valuesUnder ["name"] members = [name] ∧
    Json.valuesUnder ["error", "errorCount"] members = [errors] ∧
    Json.valuesUnder ["running", "runningCount"] members = [running] ∧
    Json.valuesUnder ["latency", "latencyCounts"] members = [latency]) ∨
  v = .array [name, errors, running, latency]

theorem gives_iff {v name errors running latency : Json} :
    Gives v name errors running latency ↔
      format.HasRoom v ∧ format.given .name v = [name] ∧ format.given .errorCount v = [errors] ∧
        format.given .runningCount v = [running] ∧ format.given .latencyCounts v = [latency] := by
  cases v with
  | object members => simp [Gives, Format.HasRoom, Format.given, format]
  | array items =>
    simp only [Gives, Format.HasRoom, Format.given, format]
    constructor
    · rintro (⟨_, same, -⟩ | same)
      · cases same
      · cases same
        exact ⟨Nat.le_refl 4, rfl, rfl, rfl, rfl⟩
    · rintro ⟨room, first, second, third, fourth⟩
      rcases items with _ | ⟨a, _ | ⟨b, _ | ⟨c, _ | ⟨d, rest⟩⟩⟩⟩
      case cons.cons.cons.cons =>
        -- There is no room for a fifth item.
        have nothing : rest = [] := by
          rw [← List.length_eq_zero_iff]
          simp only [List.length_cons] at room
          omega
        subst nothing
        cases first
        cases second
        cases third
        cases fourth
        exact .inr rfl
      all_goals cases fourth
  | _ => simp [Gives, Format.HasRoom]

theorem written_iff {v : Json} {r : SpanAggregate} :
    format.Written v r ↔
      Gives v (.string r.name) (.int r.errorCount.toNat) (.int r.runningCount.toNat)
        (.array (r.latencyCounts.toList.map fun n => .int n.toNat)) := by
  rw [format.written_iff_of_required rfl, gives_iff]
  refine and_congr_right fun _ => ?_
  constructor
  · intro each
    have carried (f : Field) {x : Json} (only : ∀ {w}, format.Carries f w r → w = x) :
        format.given f v = [x] := by
      obtain ⟨w, single, carries⟩ := each f
      rw [single, only carries]
    exact ⟨carried .name id, carried .errorCount id, carried .runningCount id,
      carried .latencyCounts id⟩
  · rintro ⟨name, errors, running, latency⟩ f
    cases f with
    | name => exact ⟨_, name, rfl⟩
    | errorCount => exact ⟨_, errors, rfl⟩
    | runningCount => exact ⟨_, running, rfl⟩
    | latencyCounts => exact ⟨_, latency, rfl⟩

theorem acceptable_iff {v : Json} :
    format.Acceptable v ↔
      ∃ name errors running latency, Gives v name errors running latency ∧
        name.IsText ∧ errors.IsCount ∧ running.IsCount ∧ latency.IsLatencyCounts := by
  simp only [gives_iff]
  rw [format.acceptable_iff_of_required rfl]
  constructor
  · rintro ⟨room, each⟩
    obtain ⟨name, name_given, text⟩ := each .name
    obtain ⟨errors, errors_given, count⟩ := each .errorCount
    obtain ⟨running, running_given, count'⟩ := each .runningCount
    obtain ⟨latency, latency_given, counts⟩ := each .latencyCounts
    exact ⟨name, errors, running, latency,
      ⟨room, name_given, errors_given, running_given, latency_given⟩, text, count, count', counts⟩
  · rintro ⟨name, errors, running, latency, ⟨room, given⟩, text, count, count', counts⟩
    obtain ⟨name_given, errors_given, running_given, latency_given⟩ := given
    refine ⟨room, fun f => ?_⟩
    cases f with
    | name => exact ⟨name, name_given, text⟩
    | errorCount => exact ⟨errors, errors_given, count⟩
    | runningCount => exact ⟨running, running_given, count'⟩
    | latencyCounts => exact ⟨latency, latency_given, counts⟩

end SpanAggregate

/-! ## Bodies of responses -/

theorem View.readRow_overview_eq_ok_iff {v : Json} {row : Row} :
    View.overview.readRow v = .ok row ↔ ∃ r, SpanAggregate.decode v = .ok r ∧ r.toRow = row :=
  map_eq_ok_iff

/-- An aggregate is read exactly from the values that give its four fields once each and carry its
values. Such a value is any that has a text, two counts and nine latency counts in these places.
Only what is read so comes into a table. -/
theorem SpanAggregate.aggregate_format_exact :
    (∀ v r, decode v = .ok r ↔
      Gives v (.string r.name) (.int r.errorCount.toNat) (.int r.runningCount.toNat)
        (.array (r.latencyCounts.toList.map fun n => .int n.toNat))) ∧
      (∀ v, (∃ r, decode v = .ok r) ↔
        ∃ name errors running latency, Gives v name errors running latency ∧
          name.IsText ∧ errors.IsCount ∧ running.IsCount ∧ latency.IsLatencyCounts) ∧
      ∀ body rows, Response.rows .overview body = .ok rows →
        ∃ items rs, Json.parse? body = some (.array items) ∧ rows = rs.map toRow ∧
          List.Forall₂ (fun w r =>
            Gives w (.string r.name) (.int r.errorCount.toNat) (.int r.runningCount.toNat)
              (.array (r.latencyCounts.toList.map fun n => .int n.toNat))) items rs := by
  refine ⟨fun v r => decode_eq_ok_iff.trans written_iff,
    fun v => decodes_iff.trans acceptable_iff, ?_⟩
  intro body rows read
  obtain ⟨items, parsed, each⟩ := Response.rows_eq_ok_iff.1 read
  simp only [View.readRow_overview_eq_ok_iff] at each
  obtain ⟨rs, rfl, all⟩ := exists_map_of_forall₂ each
  exact ⟨items, rs, parsed, rfl, all.imp fun _ _ read => written_iff.1 (decode_eq_ok_iff.1 read)⟩

end SpanDashboard
