import Mathlib.Data.List.Basic
import SpanDashboard.Selection

/-!
# Endpoint paths

A text is read back from the path segment that it is written as (`decode?_encode`), and a segment
contains no slash and no brace (`not_excluded_of_mem_encode`). So `endpoint_path`, which fills in
the places of a template one after the other, leaves a span name alone whatever it looks like, a
path is composed of the word of its view, the segment and the position of the bucket
(`path_eq_address`), and it tells these parts apart.
-/

set_option autoImplicit false

namespace SpanDashboard

/-! ## Segments -/

namespace Percent

/-- The characters that a segment does not contain: the special ones, except for the percent
sign. -/
def excluded : List Char :=
  [' ', '"', '#', '/', '<', '>', '?', '\x60', '\x7b', '\x7d']

/-- A byte that stands for itself is an ASCII character, and neither a percent sign nor excluded. -/
theorem plain_byte {b : UInt8} (plain : ¬ isEncoded b = true) :
    Char.ofNat b.toNat ≠ '%' ∧ Char.ofNat b.toNat ∉ excluded ∧
      String.utf8EncodeChar (Char.ofNat b.toNat) = [b] := by
  have bytes : ∀ n : Fin 256, ¬ isEncoded (.ofFin n) = true →
      Char.ofNat (UInt8.ofFin n).toNat ≠ '%' ∧ Char.ofNat (UInt8.ofFin n).toNat ∉ excluded ∧
        String.utf8EncodeChar (Char.ofNat (UInt8.ofFin n).toNat) = [.ofFin n] := by
    decide +kernel
  exact bytes b.toFin plain

theorem not_excluded_of_mem_encodeByte {b : UInt8} {c : Char} (member : c ∈ encodeByte b) :
    c ∉ excluded := by
  have digits : ∀ n < 16, Hex.upper n ∉ excluded := by decide
  have small := b.toNat_lt
  unfold encodeByte at member
  split at member
  case isTrue =>
    simp only [List.mem_cons, List.not_mem_nil, or_false] at member
    rcases member with rfl | rfl | rfl
    · decide
    · exact digits _ (by omega)
    · exact digits _ (Nat.mod_lt _ (by decide))
  case isFalse plain =>
    rw [List.mem_singleton.1 member]
    exact (plain_byte plain).2.1

theorem not_excluded_of_mem_encode {text : String} {c : Char} (member : c ∈ (encode text).toList) :
    c ∉ excluded := by
  rw [encode, String.toList_ofList] at member
  obtain ⟨b, -, written⟩ := List.mem_flatMap.1 member
  exact not_excluded_of_mem_encodeByte written

/-- A byte is read back, whatever follows it. -/
theorem decodeBytes_encodeByte (b : UInt8) (rest : List Char) :
    decodeBytes (encodeByte b ++ rest) = b :: decodeBytes rest := by
  unfold encodeByte
  split
  case isTrue encoded =>
    have small := b.toNat_lt
    have high := Hex.value?_upper (n := b.toNat / 16) (by omega)
    have low := Hex.value?_upper (n := b.toNat % 16) (by omega)
    have whole : UInt8.ofNat (16 * (b.toNat / 16) + b.toNat % 16) = b := by
      rw [Nat.div_add_mod, UInt8.ofNat_toNat]
    simp only [List.cons_append, List.nil_append]
    rw [decodeBytes, high, low]
    exact congrArg (· :: decodeBytes rest) whole
  case isFalse plain =>
    obtain ⟨no_percent, -, single⟩ := plain_byte plain
    rw [List.singleton_append, decodeBytes]
    · exact congrArg (· ++ decodeBytes rest) single
    · exact fun _ _ _ percent => absurd percent no_percent

theorem decodeBytes_flatMap (bytes : List UInt8) :
    decodeBytes (bytes.flatMap encodeByte) = bytes := by
  induction bytes with
  | nil => rfl
  | cons b rest ih => rw [List.flatMap_cons, decodeBytes_encodeByte, ih]

/-- A text is read back from its segment. -/
theorem decode?_encode (text : String) : decode? (encode text) = some text := by
  have bytes : (⟨(decodeBytes (encode text).toList).toArray⟩ : ByteArray) = text.toByteArray := by
    rw [encode, String.toList_ofList, decodeBytes_flatMap, ← String.utf8Encode_toList]
    exact ByteArray.ext List.data_toByteArray.symm
  rw [decode?, bytes, String.fromUTF8?, dif_pos text.isValidUTF8]
  rfl

theorem encode_injective {text other : String} (same : encode text = encode other) :
    text = other := by
  have read := decode?_encode text
  rw [same, decode?_encode] at read
  exact (Option.some.inj read).symm

end Percent

/-! ## Templates -/

namespace Text

/-- What has been replaced already is skipped. -/
theorem replaceFrom_skip (old new s rest : List Char) :
    replaceFrom old new s.length (s ++ rest) = replaceFrom old new 0 rest := by
  induction s with
  | nil => rfl
  | cons c s ih => exact ih

/-- A piece that a text begins with is replaced. -/
theorem replaceFrom_piece (first : Char) (others new rest : List Char) :
    replaceFrom (first :: others) new 0 (first :: others ++ rest) =
      new ++ replaceFrom (first :: others) new 0 rest := by
  have found : (first :: others).isPrefixOf (first :: (others ++ rest)) = true :=
    List.isPrefixOf_iff_prefix.2 (List.prefix_append (first :: others) rest)
  rw [List.cons_append, replaceFrom, found]
  exact congrArg (new ++ ·) (replaceFrom_skip _ new others rest)

/-- A text in which the first character of a piece does not occur is left alone. -/
theorem replaceFrom_append {first : Char} {others new s : List Char} (absent : ∀ c ∈ s, c ≠ first)
    (rest : List Char) :
    replaceFrom (first :: others) new 0 (s ++ rest) =
      s ++ replaceFrom (first :: others) new 0 rest := by
  induction s with
  | nil => rfl
  | cons c s ih =>
    obtain ⟨other, later⟩ := List.forall_mem_cons.1 absent
    have no_piece : (first :: others).isPrefixOf (c :: (s ++ rest)) = false := by
      simp [List.isPrefixOf, other.symm]
    rw [List.cons_append, replaceFrom, no_piece, ih later]
    rfl

end Text

namespace ViewSpec

/-- A place begins with a brace. -/
theorem exists_brace {place : String} (known : place ∈ [namePlace, bucketPlace]) :
    ∃ others, place.toList = '\x7b' :: others := by
  simp only [List.mem_cons, List.not_mem_nil, or_false] at known
  rcases known with rfl | rfl
  · exact ⟨_, rfl⟩
  · exact ⟨_, rfl⟩

/-- Nothing is put into a segment, since no place begins in it. -/
theorem replaceFrom_encode {place : String} (known : place ∈ [namePlace, bucketPlace])
    (new : List Char) (spanName : String) (rest : List Char) :
    Text.replaceFrom place.toList new 0 ((Percent.encode spanName).toList ++ rest) =
      (Percent.encode spanName).toList ++ Text.replaceFrom place.toList new 0 rest := by
  obtain ⟨others, begins⟩ := exists_brace known
  rw [begins]
  apply Text.replaceFrom_append
  rintro c member rfl
  exact Percent.not_excluded_of_mem_encode member (by decide)

/-- Filling in the places leaves a segment as it is. -/
theorem replaceAll_encode {place : String} (known : place ∈ [namePlace, bucketPlace])
    (new spanName : String) :
    Text.replaceAll place new (Percent.encode spanName) = Percent.encode spanName := by
  have alone := replaceFrom_encode known new.toList spanName []
  rw [List.append_nil] at alone
  rw [Text.replaceAll, alone]
  simp [Text.replaceFrom]

end ViewSpec

/-! ## Paths -/

/-- The path of a view whose template has the place of the span name below a word, and possibly the
place of the bucket below that. -/
theorem View.path_of_template {v : View} (word below : List Char) (key : DetailKey)
    (template : v.spec.pathTemplate.toList = word ++ (ViewSpec.namePlace.toList ++ below))
    (plain : '\x7b' ∉ word)
    (single : ∀ new, Text.replaceFrom ViewSpec.namePlace.toList new 0 below = below) :
    (v.path (some key)).toList =
      word ++ ((Percent.encode key.spanName).toList ++
        Text.replaceFrom ViewSpec.bucketPlace.toList key.bucketText.toList 0 below) := by
  have no_brace : ∀ c ∈ word, c ≠ '\x7b' := fun c member same => plain (same ▸ member)
  have named : Text.replaceAll ViewSpec.namePlace (Percent.encode key.spanName)
      v.spec.pathTemplate =
        String.ofList (word ++ ((Percent.encode key.spanName).toList ++ below)) := by
    rw [Text.replaceAll, template]
    congr 1
    refine (Text.replaceFrom_append no_brace _).trans (congrArg (word ++ ·) ?_)
    refine (Text.replaceFrom_piece _ _ _ below).trans (congrArg (_ ++ ·) ?_)
    exact single _
  have known : ViewSpec.bucketPlace ∈ [ViewSpec.namePlace, ViewSpec.bucketPlace] := by decide
  have segment := ViewSpec.replaceFrom_encode known key.bucketText.toList key.spanName below
  simp only [View.path, Option.map_some, Option.getD_some]
  rw [named, Text.replaceAll, String.toList_ofList, String.toList_ofList, ← segment]
  exact Text.replaceFrom_append no_brace _

namespace Selection

/-- The path of the records of a selection. -/
def path (s : Selection) : String :=
  s.view.path s.key?

/-- The path put together: the word of the view, and below it the span name as a segment and the
position of the bucket. -/
def address : Selection → String
  | overview => "aggregations"
  | errorDetail spanName => View.error.name ++ "/" ++ Percent.encode spanName
  | runningDetail spanName => View.running.name ++ "/" ++ Percent.encode spanName
  | latencyDetail spanName bucket =>
    View.latency.name ++ "/" ++ Percent.encode spanName ++ "/" ++ Numeral.text bucket.index

/-- Filling in the template of a view composes the path. -/
theorem path_eq_address (s : Selection) : s.path = s.address := by
  apply String.toList_inj.1
  cases s with
  | overview => rfl
  | errorDetail spanName =>
    have filled := View.path_of_template (v := .error) "error/".toList [] ⟨spanName, none⟩ rfl
      (by decide) fun _ => rfl
    simp [path, view, key?, filled, address, View.name, Text.replaceFrom]
  | runningDetail spanName =>
    have filled := View.path_of_template (v := .running) "running/".toList [] ⟨spanName, none⟩ rfl
      (by decide) fun _ => rfl
    simp [path, view, key?, filled, address, View.name, Text.replaceFrom]
  | latencyDetail spanName bucket =>
    have filled := View.path_of_template (v := .latency) "latency/".toList
      ('/' :: ViewSpec.bucketPlace.toList) ⟨spanName, some bucket⟩ rfl (by decide) fun _ => rfl
    have place : Text.replaceFrom ViewSpec.bucketPlace.toList (Numeral.text bucket.index).toList 0
        ('/' :: ViewSpec.bucketPlace.toList) = '/' :: (Numeral.text bucket.index).toList := by
      simp [Text.replaceFrom, ViewSpec.bucketPlace]
    simp [path, view, key?, filled, address, View.name, DetailKey.bucketText, place]

/-- What stands in a path before its first slash tells the view. -/
theorem view_eq_of_address_eq {s t : Selection} (same : s.address = t.address) :
    s.view = t.view := by
  have heads := congrArg (fun path => path.toList.head?) same
  revert heads
  cases s <;> cases t <;> simp [address, View.name, view]

/-- The path of a latency bucket can be taken apart: its segment contains no slash, and neither does
the position of its bucket. -/
theorem latency_address_injective {spanName other : String} {bucket bucket' : LatencyBucket}
    (same : (latencyDetail spanName bucket).address = (latencyDetail other bucket').address) :
    spanName = other ∧ bucket = bucket' := by
  have chars : (Percent.encode spanName).toList ++ '/' :: Numeral.ofNat bucket.index =
      (Percent.encode other).toList ++ '/' :: Numeral.ofNat bucket'.index := by
    simpa [address, Numeral.text] using congrArg String.toList same
  have no_slash : '/' ∉ (Percent.encode spanName).toList := fun member =>
    Percent.not_excluded_of_mem_encode member (by decide)
  have no_digit : '/' ∉ Numeral.ofNat bucket.index := fun member =>
    absurd (Numeral.isDigit_of_mem_ofNat member) (by decide)
  obtain ⟨segments, -, positions⟩ :=
    (List.append_cons_inj_of_notMem no_slash no_digit).1 chars
  refine ⟨Percent.encode_injective (String.toList_inj.1 segments), ?_⟩
  have read := Numeral.read?_ofNat bucket.index
  rw [positions, Numeral.read?_ofNat] at read
  have found := LatencyBucket.ofIndex?_index bucket
  rw [← Option.some.inj read, LatencyBucket.ofIndex?_index] at found
  exact (Option.some.inj found).symm

theorem address_injective {s t : Selection} (same : s.address = t.address) : s = t := by
  have same_view := view_eq_of_address_eq same
  cases s with
  | overview => cases t <;> first | rfl | cases same_view
  | errorDetail spanName =>
    cases t with
    | errorDetail other => rw [Percent.encode_injective ((String.append_right_inj _).1 same)]
    | _ => cases same_view
  | runningDetail spanName =>
    cases t with
    | runningDetail other => rw [Percent.encode_injective ((String.append_right_inj _).1 same)]
    | _ => cases same_view
  | latencyDetail spanName bucket =>
    cases t with
    | latencyDetail other bucket' =>
      obtain ⟨rfl, rfl⟩ := latency_address_injective same
      rfl
    | _ => cases same_view

/-- **A path tells what it leads to.** Different selections have different paths. The path of a
selection is the word of its view, and for a detail view the span name as one segment, and for a
latency bucket the position of the bucket. The segment is read back as the span name, and no place
of a template is found in it, whatever the span name looks like. -/
theorem path_identifies :
    (∀ s t : Selection, s.path = t.path ↔ s = t) ∧
    (∀ s : Selection, s.path = s.address) ∧
    ∀ spanName : String, Percent.decode? (Percent.encode spanName) = some spanName ∧
      ∀ place ∈ [ViewSpec.namePlace, ViewSpec.bucketPlace], ∀ new,
        Text.replaceAll place new (Percent.encode spanName) = Percent.encode spanName := by
  refine ⟨fun s t => ⟨fun same => ?_, fun same => same ▸ rfl⟩, path_eq_address, fun spanName => ?_⟩
  · rw [path_eq_address, path_eq_address] at same
    exact address_injective same
  · refine ⟨Percent.decode?_encode spanName, fun place known new => ?_⟩
    exact ViewSpec.replaceAll_encode known new spanName

example : (latencyDetail "\x7bbucket\x7d/é" .from1ms).path =
    "latency/%7Bbucket%7D%2F%C3%A9/3" := by
  decide +kernel

end Selection

end SpanDashboard
