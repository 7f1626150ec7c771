import Mathlib.Data.Bool.AllAny
import SpanDashboard.Proofs.Endpoints
import SpanDashboard.Settings

/-!
# Addresses as a browser reads them

What the URL standard says of the path of an address on a web server: a slash ends a segment, a
backslash does so too, a question mark or a number sign ends the path, and the segments `.` and `..`
stand for a directory, also where their points are percent-encoded. The further characters that a
browser encodes stay in their segments and are left as they are written here. `PATH_SEGMENT` covers
the slash and what ends a path, but neither the backslash nor the points.

A segment without any of this is read as it stands (`segments?_of_plain`), and no other is left by
the reading (`plain_of_mem_segments?`). So the address of a detail view has the segments of its
template exactly if the segment that is put in for the span name is plain, which depends on the name
(`isPlain_encode_iff`).
-/

set_option autoImplicit false

namespace SpanDashboard

/-! ## Reading an address -/

namespace Address

/-- The characters that end a segment and begin the next one. -/
def separators : List Char :=
  ['/', '\\']

/-- The characters that end the path. -/
def terminators : List Char :=
  ['?', '#']

/-- The segments that stand for the directory in which they are. -/
def sameSegments : List String :=
  [".", "%2e", "%2E"]

/-- The segments that stand for the directory above. -/
def parentSegments : List String :=
  ["..", ".%2e", ".%2E", "%2e.", "%2E.", "%2e%2e", "%2e%2E", "%2E%2e", "%2E%2E"]

/-- The segments that stand for a directory. -/
def dotSegments : List String :=
  sameSegments ++ parentSegments

/-- What an address with a server begins with. -/
def schemes : List (List Char) :=
  ["http://".toList, "https://".toList]

/-- The path after one more directory. -/
def enter (path : List String) (segment : String) : List String :=
  if segment ∈ parentSegments then path.dropLast
  else if segment ∈ sameSegments then path
  else path ++ [segment]

/-- The path with its last segment; a directory leaves an empty one. -/
def close (path : List String) (segment : String) : List String :=
  if segment ∈ dotSegments then enter path segment ++ [""] else path ++ [segment]

/-- How far an address has been read. The address has a scheme and a server, or it begins with a
slash and is on the server of the page. -/
inductive Reading where
  /-- Into the scheme, or nothing yet. -/
  | scheme (before : List Char)
  /-- Up to a slash with which the address begins. -/
  | slash
  /-- Into the name of the server. -/
  | server (before : List Char)
  /-- Into the path: the segments that are complete, and what there is of the next one. -/
  | path (segments : List String) (before : List Char)
  /-- Past the path. -/
  | past (segments : List String)
  deriving DecidableEq, Repr

namespace Reading

/-- Reads a character of the path. -/
def inPath (segments : List String) (before : List Char) (c : Char) : Reading :=
  if c ∈ separators then path (enter segments (String.ofList before)) []
  else if c ∈ terminators then past (close segments (String.ofList before))
  else path segments (before ++ [c])

/-- Reads a character. Slashes before the name of a server are skipped. -/
def step : Reading → Char → Reading
  | scheme before, c =>
    if before = [] ∧ c ∈ separators then slash
    else if before ++ [c] ∈ schemes then server [] else scheme (before ++ [c])
  | slash, c => if c ∈ separators then server [] else inPath [] [] c
  | server before, c =>
    if c ∈ separators then if before = [] then server [] else path [] []
    else if c ∈ terminators then past [""]
    else server (before ++ [c])
  | path segments before, c => inPath segments before c
  | past segments, _ => past segments

/-- The path, if there is one so far. -/
def segments? : Reading → Option (List String)
  | path segments before => some (close segments (String.ofList before))
  | past segments => some segments
  | _ => none

end Reading

/-- Reads an address. -/
def read (address : String) : Reading :=
  address.toList.foldl Reading.step (.scheme [])

/-- The path of an address, segment by segment. -/
def segments? (address : String) : Option (List String) :=
  (read address).segments?

theorem read_append (first rest : String) :
    read (first ++ rest) = rest.toList.foldl Reading.step (read first) := by
  rw [read, String.toList_append, List.foldl_append]
  rfl

/-! ## Plain segments -/

/-- Whether a segment contains nothing that ends it, and does not stand for a directory. -/
structure IsPlain (segment : String) : Prop where
  whole : ∀ c ∈ segment.toList, c ∉ separators ++ terminators
  named : segment ∉ dotSegments

theorem isPlain_of_all {segment : String}
    (whole : segment.toList.all (· ∉ separators ++ terminators) = true)
    (named : segment ∉ dotSegments) : IsPlain segment :=
  ⟨List.all_iff_forall_prop.1 whole, named⟩

theorem isPlain_empty : IsPlain "" :=
  isPlain_of_all rfl (by decide)

theorem IsPlain.enter {segment : String} (plain : IsPlain segment) (path : List String) :
    enter path segment = path ++ [segment] := by
  have named := plain.named
  rw [dotSegments, List.mem_append, not_or] at named
  rw [Address.enter, if_neg named.2, if_neg named.1]

theorem IsPlain.close {segment : String} (plain : IsPlain segment) (path : List String) :
    close path segment = path ++ [segment] :=
  if_neg plain.named

namespace Reading

/-- What does not end a segment is taken into it. -/
theorem foldl_step_path (segments : List String) (before : List Char) {text : List Char}
    (whole : ∀ c ∈ text, c ∉ separators ++ terminators) :
    text.foldl step (path segments before) = path segments (before ++ text) := by
  induction text generalizing before with
  | nil => rw [List.append_nil]; rfl
  | cons c text ih =>
    obtain ⟨plain, others⟩ := List.forall_mem_cons.1 whole
    rw [List.mem_append, not_or] at plain
    have taken : (path segments before).step c = path segments (before ++ [c]) := by
      rw [step, inPath, if_neg plain.1, if_neg plain.2]
    rw [List.foldl_cons, taken, ih _ others, List.append_assoc]
    rfl

/-- Plain segments with slashes between them are read as they stand. -/
theorem segments?_of_plain (directories : List String) (first : String) {rest : List String}
    (plain : ∀ segment ∈ first :: rest, IsPlain segment) :
    (("/".intercalate (first :: rest)).toList.foldl step (path directories [])).segments? =
      some (directories ++ first :: rest) := by
  induction rest generalizing directories first with
  | nil =>
    have last := plain first List.mem_cons_self
    rw [String.intercalate_singleton, foldl_step_path _ _ last.whole, List.nil_append, segments?,
      String.ofList_toList, last.close]
  | cons next rest ih =>
    obtain ⟨here, others⟩ := List.forall_mem_cons.1 plain
    have slash : (path directories first.toList).step '/' = path (directories ++ [first]) [] := by
      rw [step, inPath, if_pos (by decide), String.ofList_toList, here.enter]
    have between : "/".toList = ['/'] := rfl
    rw [String.intercalate_cons_cons, String.toList_append, String.toList_append,
      List.foldl_append, List.foldl_append, foldl_step_path _ _ here.whole, List.nil_append,
      between, List.foldl_cons, slash, List.foldl_nil, ih _ next others, List.append_assoc,
      List.singleton_append]

/-- Whether all complete segments are plain, and the next one is so far. -/
def IsPlain : Reading → Prop
  | path segments before =>
    (∀ segment ∈ segments, Address.IsPlain segment) ∧ ∀ c ∈ before, c ∉ separators ++ terminators
  | past segments => ∀ segment ∈ segments, Address.IsPlain segment
  | _ => True

end Reading

theorem forall_isPlain_snoc {path : List String} (each : ∀ segment ∈ path, IsPlain segment)
    {segment : String} (plain : IsPlain segment) : ∀ other ∈ path ++ [segment], IsPlain other :=
  List.forall_mem_append.2 ⟨each, List.forall_mem_singleton.2 plain⟩

/-- A segment that stands for a directory does not get into the path. -/
theorem forall_isPlain_enter {path : List String} (each : ∀ segment ∈ path, IsPlain segment)
    {segment : String} (whole : ∀ c ∈ segment.toList, c ∉ separators ++ terminators) :
    ∀ other ∈ enter path segment, IsPlain other := by
  unfold enter
  split
  case isTrue => exact fun other member => each other (List.dropLast_subset path member)
  case isFalse no_parent =>
    split
    case isTrue => exact each
    case isFalse no_same =>
      have named : segment ∉ dotSegments := by
        rw [dotSegments, List.mem_append, not_or]
        exact ⟨no_same, no_parent⟩
      exact forall_isPlain_snoc each ⟨whole, named⟩

theorem forall_isPlain_close {path : List String} (each : ∀ segment ∈ path, IsPlain segment)
    {segment : String} (whole : ∀ c ∈ segment.toList, c ∉ separators ++ terminators) :
    ∀ other ∈ close path segment, IsPlain other := by
  unfold close
  split
  case isTrue => exact forall_isPlain_snoc (forall_isPlain_enter each whole) isPlain_empty
  case isFalse named => exact forall_isPlain_snoc each ⟨whole, named⟩

namespace Reading

theorem isPlain_begin : (path [] []).IsPlain :=
  ⟨nofun, nofun⟩

theorem isPlain_inPath {segments : List String} {before : List Char}
    (plain : (path segments before).IsPlain) (c : Char) :
    (inPath segments before c).IsPlain := by
  obtain ⟨each, whole⟩ := plain
  have part : ∀ c ∈ (String.ofList before).toList, c ∉ separators ++ terminators := by
    rwa [String.toList_ofList]
  unfold inPath
  split
  case isTrue => exact ⟨forall_isPlain_enter each part, nofun⟩
  case isFalse no_separator =>
    split
    case isTrue => exact forall_isPlain_close each part
    case isFalse no_terminator =>
      refine ⟨each, List.forall_mem_append.2 ⟨whole, List.forall_mem_singleton.2 ?_⟩⟩
      rw [List.mem_append, not_or]
      exact ⟨no_separator, no_terminator⟩

/-- Reading on leaves plain segments only. -/
theorem isPlain_step {reading : Reading} (plain : reading.IsPlain) (c : Char) :
    (reading.step c).IsPlain := by
  cases reading with
  | scheme before =>
    rw [step]
    split
    · trivial
    · split <;> trivial
  | slash =>
    rw [step]
    split
    · trivial
    · exact isPlain_inPath isPlain_begin c
  | server before =>
    rw [step]
    split
    · split
      · trivial
      · exact isPlain_begin
    · split
      · exact List.forall_mem_singleton.2 isPlain_empty
      · trivial
  | path segments before => exact isPlain_inPath plain c
  | past segments => exact plain

theorem isPlain_foldl_step {reading : Reading} (plain : reading.IsPlain) (text : List Char) :
    (text.foldl step reading).IsPlain := by
  induction text generalizing reading with
  | nil => exact plain
  | cons c text ih => exact ih (isPlain_step plain c)

end Reading

/-- All segments that are read are plain. -/
theorem plain_of_mem_segments? {address : String} {segments : List String}
    (found : segments? address = some segments) : ∀ segment ∈ segments, IsPlain segment := by
  have beginning : (Reading.scheme []).IsPlain := trivial
  have plain : (read address).IsPlain := Reading.isPlain_foldl_step beginning address.toList
  rw [segments?] at found
  cases reading : read address with
  | path complete before =>
    rw [reading] at found plain
    rw [← Option.some.inj found]
    refine forall_isPlain_close plain.1 ?_
    rw [String.toList_ofList]
    exact plain.2
  | past complete =>
    rw [reading] at found plain
    rw [← Option.some.inj found]
    exact plain
  | _ => rw [reading] at found; cases found

end Address

/-! ## Encoded names -/

namespace Percent

/-- An encoded byte is visible, and it is a backslash only if the byte is one. -/
theorem of_mem_encodeByte {b : UInt8} {c : Char} (member : c ∈ encodeByte b) :
    (0x20 < c.toNat ∧ c.toNat < 0x7F) ∧ (c = '\\' → b = 0x5C) := by
  have bytes : ∀ n : Fin 256, (encodeByte (.ofFin n)).all (fun c =>
      (0x20 < c.toNat ∧ c.toNat < 0x7F) ∧ (c = '\\' → UInt8.ofFin n = 0x5C)) = true := by
    decide +kernel
  exact List.all_iff_forall_prop.1 (bytes b.toFin) c member

theorem visible_of_mem_encode {text : String} {c : Char} (member : c ∈ (encode text).toList) :
    0x20 < c.toNat ∧ c.toNat < 0x7F := by
  rw [encode, String.toList_ofList] at member
  obtain ⟨b, -, written⟩ := List.mem_flatMap.1 member
  exact (of_mem_encodeByte written).1

/-- Only the backslash has its byte in UTF-8, since all bytes of a longer form are 128 or more. -/
theorem backslash_of_mem_utf8 {c : Char} (member : 0x5C ∈ String.utf8EncodeChar c) :
    c = '\\' := by
  have byte {n : Nat} (same : 0x5C = UInt8.ofNat n) : n % 256 = 0x5C := by
    rw [← UInt8.toNat_ofNat', ← same]
    rfl
  simp only [String.utf8EncodeChar] at member
  split at member
  case isTrue single =>
    have same := byte (List.mem_singleton.1 member)
    exact Char.toNat_inj.1 (show c.val.toNat = 0x5C by omega)
  case isFalse =>
    split at member
    case isTrue =>
      simp only [List.mem_cons, List.not_mem_nil, or_false] at member
      rcases member with same | same <;> have := byte same <;> omega
    case isFalse =>
      split at member
      all_goals
        simp only [List.mem_cons, List.not_mem_nil, or_false] at member
      · rcases member with same | same | same <;> have := byte same <;> omega
      · rcases member with same | same | same | same <;> have := byte same <;> omega

theorem backslash_mem_encode_iff {text : String} :
    '\\' ∈ (encode text).toList ↔ '\\' ∈ text.toList := by
  rw [encode, utf8, String.toList_ofList]
  constructor
  · intro member
    obtain ⟨b, byte, written⟩ := List.mem_flatMap.1 member
    obtain ⟨c, here, part⟩ := List.mem_flatMap.1 byte
    rw [(of_mem_encodeByte written).2 rfl] at part
    exact backslash_of_mem_utf8 part ▸ here
  · intro member
    exact List.mem_flatMap.2 ⟨0x5C, List.mem_flatMap.2 ⟨_, member, by decide⟩, by decide⟩

/-- A name that stands for a directory as a segment is one that does so by itself: it is what is
read back from the segment. -/
theorem encode_mem_dotSegments_iff {text : String} :
    encode text ∈ Address.dotSegments ↔ text = "." ∨ text = ".." := by
  have read : ∀ segment ∈ Address.dotSegments,
      decode? segment = some "." ∨ decode? segment = some ".." := by
    decide +kernel
  constructor
  · intro member
    simpa only [decode?_encode, Option.some.injEq] using read _ member
  · rintro (rfl | rfl) <;> decide +kernel

/-- A name becomes a plain segment unless there is a backslash in it or it is a directory. -/
theorem isPlain_encode_iff {text : String} :
    Address.IsPlain (encode text) ↔ '\\' ∉ text.toList ∧ text ≠ "." ∧ text ≠ ".." := by
  constructor
  · intro plain
    have named := plain.named
    rw [encode_mem_dotSegments_iff, not_or] at named
    refine ⟨fun member => ?_, named⟩
    exact plain.whole _ (backslash_mem_encode_iff.2 member) (by decide)
  · intro ⟨no_backslash, no_dots⟩
    refine ⟨fun c member ending => ?_, ?_⟩
    · have endings : (Address.separators ++ Address.terminators).all
          (fun c => c ≠ '\\' → c ∈ excluded) = true := by
        decide
      have other : c ≠ '\\' := by
        rintro rfl
        exact no_backslash (backslash_mem_encode_iff.1 member)
      exact not_excluded_of_mem_encode member
        (List.all_iff_forall_prop.1 endings c ending other)
    · rw [encode_mem_dotSegments_iff, not_or]
      exact no_dots

end Percent

/-! ## Addresses of detail views -/

namespace Selection

/-- The segments of a path: those of the template of the view, with the name and the position of the
bucket in their places. -/
def segments : Selection → List String
  | overview => ["aggregations"]
  | errorDetail spanName => [View.error.name, Percent.encode spanName]
  | runningDetail spanName => [View.running.name, Percent.encode spanName]
  | latencyDetail spanName bucket =>
    [View.latency.name, Percent.encode spanName, Numeral.text bucket.index]

theorem path_eq_intercalate (s : Selection) : s.path = "/".intercalate s.segments := by
  rw [path_eq_address]
  cases s <;> simp [address, segments, String.intercalate_cons_cons, String.append_assoc]

theorem isPlain_name (view : View) : Address.IsPlain view.name := by
  cases view <;> exact Address.isPlain_of_all (by decide) (by decide)

theorem isPlain_index (bucket : LatencyBucket) :
    Address.IsPlain (Numeral.text bucket.index) := by
  cases bucket <;> exact Address.isPlain_of_all (by decide) (by decide)

/-- Of the segments of a detail view only that of the span name may be other than plain. -/
theorem forall_isPlain_segments_iff {s : Selection} {spanName : String}
    (opened : s.spanName? = some spanName) :
    (∀ segment ∈ s.segments, Address.IsPlain segment) ↔
      Address.IsPlain (Percent.encode spanName) := by
  cases s with
  | overview => cases opened
  | errorDetail _ => cases opened; simp [segments, isPlain_name]
  | runningDetail _ => cases opened; simp [segments, isPlain_name]
  | latencyDetail _ bucket => cases opened; simp [segments, isPlain_name, isPlain_index]

/-- The address of a view is read as its segments below those of the base path, exactly if these
segments are plain. -/
theorem segments?_url_iff {settings : Settings} {directories : List String}
    (base : Address.read (settings.url "") = .path directories []) (s : Selection) :
    Address.segments? (settings.url s.path) = some (directories ++ s.segments) ↔
      ∀ segment ∈ s.segments, Address.IsPlain segment := by
  have url_eq : settings.url s.path = settings.url "" ++ s.path := by
    rw [Settings.url, Settings.url, String.append_empty]
  obtain ⟨first, rest, cons⟩ : ∃ first rest, s.segments = first :: rest := by
    cases s <;> exact ⟨_, _, rfl⟩
  constructor
  · intro found segment member
    exact Address.plain_of_mem_segments? found segment (List.mem_append_right _ member)
  · intro plain
    rw [cons] at plain
    rw [url_eq, Address.segments?, Address.read_append, base, path_eq_intercalate, cons,
      Address.Reading.segments?_of_plain directories first plain]

/-- **When a span name stays one segment.** The segment of a span name consists of visible
characters, and none of them is a slash, a question mark or a number sign. But a backslash in the
name is left as it is, and so are the names that stand for a directory. The address of a detail view
is read as the segments of the base path and of the template of the view exactly if there is no
backslash in the name and it is neither of these two. -/
theorem one_segment_iff (spanName : String) :
    (∀ c ∈ (Percent.encode spanName).toList,
      0x20 < c.toNat ∧ c.toNat < 0x7F ∧ c ∉ ['/', '?', '#']) ∧
    ('\\' ∈ (Percent.encode spanName).toList ↔ '\\' ∈ spanName.toList) ∧
    (Percent.encode spanName ∈ Address.dotSegments ↔ spanName = "." ∨ spanName = "..") ∧
    ∀ (settings : Settings) (directories : List String),
      Address.read (settings.url "") = .path directories [] →
      ∀ s : Selection, s.spanName? = some spanName →
        (Address.segments? (settings.url s.path) = some (directories ++ s.segments) ↔
          '\\' ∉ spanName.toList ∧ spanName ≠ "." ∧ spanName ≠ "..") := by
  refine ⟨fun c member => ?_, Percent.backslash_mem_encode_iff,
    Percent.encode_mem_dotSegments_iff, fun settings directories base s opened => ?_⟩
  · have excluded : ['/', '?', '#'].all (· ∈ Percent.excluded) = true := by decide
    obtain ⟨low, high⟩ := Percent.visible_of_mem_encode member
    refine ⟨low, high, fun ends => Percent.not_excluded_of_mem_encode member ?_⟩
    exact List.all_iff_forall_prop.1 excluded c ends
  · rw [segments?_url_iff base, forall_isPlain_segments_iff opened, Percent.isPlain_encode_iff]

/-- A name with a special character of each other kind, asked for on a server of its own. -/
theorem one_segment_of_request :
    let settings : Settings := { serverOrigin := "http://localhost:30000" }
    let s := Selection.latencyDetail "GET /a?b=%2e#." .from1ms
    Address.read (settings.url "") = .path ["tracez", "get"] [] ∧
    s.spanName? = some "GET /a?b=%2e#." ∧
    Address.segments? (settings.url s.path) =
      some ["tracez", "get", "latency", "GET%20%2Fa%3Fb=%252e%23.", "3"] := by
  intro settings s
  have base : Address.read (settings.url "") = .path ["tracez", "get"] [] := by decide +kernel
  have named : s.spanName? = some "GET /a?b=%2e#." := rfl
  have encoded : ["tracez", "get"] ++ s.segments =
      ["tracez", "get", "latency", "GET%20%2Fa%3Fb=%252e%23.", "3"] := by decide +kernel
  obtain ⟨-, -, -, whole⟩ := one_segment_iff "GET /a?b=%2e#."
  refine ⟨base, named, ?_⟩
  rw [← encoded]
  exact (whole settings _ base s named).2 (by decide)

/-- A name with a backslash becomes two segments, and one that stands for the directory above takes
away the word of the view. -/
theorem one_segment_of_backslash :
    '\\' ∈ (Percent.encode "a\\b").toList ∧
    (errorDetail "a\\b").segments = ["error", "a\\b"] ∧
    Address.segments? (({} : Settings).url (errorDetail "a\\b").path) =
      some ["tracez", "get", "error", "a", "b"] ∧
    Percent.encode ".." ∈ Address.dotSegments ∧
    Address.segments? (({} : Settings).url (errorDetail "..").path) =
      some ["tracez", "get", ""] := by
  decide +kernel

end Selection

end SpanDashboard
