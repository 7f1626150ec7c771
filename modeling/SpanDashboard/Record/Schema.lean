import SpanDashboard.Record.Problem

/-!
# Schemas

How records of one type are read from JSON, as a derived `Deserialize` reads them. A schema lists
the fields in order and says how the value of each is stored in a record; reading then goes over the
members of an object, or over the items of an array in the order of the fields, and stops at the
first problem.
-/

set_option autoImplicit false

namespace SpanDashboard

/-- The fields of a record type and how they are stored. -/
structure Schema (Record Field : Type) where
  /-- The name of the record type in messages. -/
  label : String
  /-- The fields in the order in which an array gives them. -/
  fields : List Field
  /-- The name of a field. -/
  name : Field → String
  /-- A second name under which a field may be given. -/
  otherName? : Field → Option String
  /-- Whether every field must be given. -/
  required : Bool
  /-- The record before any field is stored. -/
  blank : Record
  /-- Stores the value of a field. -/
  store : Field → Json → Record → Except Problem Record

namespace Schema

variable {Record Field : Type} [DecidableEq Field]

/-- The field with a given name, be it the first or the second one. -/
def fieldNamed? (s : Schema Record Field) (key : String) : Option Field :=
  s.fields.find? fun f => s.name f = key || s.otherName? f = some key

/-- A record being read, and the fields that it has been given. -/
structure Partial (Record Field : Type) where
  record : Record
  given : List Field

/-- Takes in a member of an object. Members that name no field are passed over. -/
def takeMember (s : Schema Record Field) (p : Partial Record Field) (member : String × Json) :
    Except Problem (Partial Record Field) :=
  match s.fieldNamed? member.1 with
  | none => .ok p
  | some f =>
    if f ∈ p.given then .error (.duplicateField (s.name f))
    else do
      let record ← s.store f member.2 p.record
      .ok ⟨record, f :: p.given⟩

/-- The first field that had to be given and was not. -/
def missing? (s : Schema Record Field) (given : List Field) : Option Field :=
  if s.required then s.fields.find? (· ∉ given) else none

/-- Reads the members of an object. -/
def ofMembers (s : Schema Record Field) (members : List (String × Json)) :
    Except Problem Record := do
  let p ← members.foldlM s.takeMember ⟨s.blank, []⟩
  match s.missing? p.given with
  | some f => .error (.missingField (s.name f))
  | none => .ok p.record

/-- Reads the items of an array, one for each field from the first one on. -/
def ofItems (s : Schema Record Field) (items : List Json) : Except Problem Record := do
  let record ← (s.fields.zip items).foldlM (fun r given => s.store given.1 given.2 r) s.blank
  if s.fields.length < items.length then .error (.extraItems items.length)
  else if s.required && items.length < s.fields.length then
    .error (.fewFields items.length s.fields.length s.label)
  else .ok record

/-- Reads a record. -/
def decode (s : Schema Record Field) : Json → Except Problem Record
  | .object members => s.ofMembers members
  | .array items => s.ofItems items
  | other => .error (.wrongKind other (.record s.label))

end Schema

end SpanDashboard
