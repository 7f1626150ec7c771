import SpanDashboard.Proofs.Scanning

/-!
# Values from tokens

The tokens of a value are put together to the value, unless it nests too deep (`ofTokens?_tokens`).
So the text of a value is read as the canonical form of the value (`parse?_chars`). Conversely, a
value that has been read nests no deeper than the reader allows (`nesting_le_of_parse?`).
-/

set_option autoImplicit false

namespace SpanDashboard.Json

namespace Build

/-- Takes in some tokens. -/
def steps? (b : Build) (ts : List Token) : Option Build :=
  ts.foldlM step? b

theorem steps?_append (b : Build) (ts us : List Token) :
    b.steps? (ts ++ us) = (b.steps? ts).bind fun next => next.steps? us :=
  List.foldlM_append

theorem eq_complete_of_finish? {b : Build} {v : Json} (finished : b.finish? = some v) :
    b = complete v .top := by
  unfold finish? at finished
  split at finished
  · obtain rfl := Option.some.inj finished
    rfl
  · cases finished

theorem steps?_cons {b next : Build} {t : Token} (step : b.step? t = some next)
    (ts : List Token) : b.steps? (t :: ts) = next.steps? ts := by
  rw [steps?, List.foldlM_cons, step]
  rfl

end Build

theorem tokens_eq_cons (v : Json) : ∃ t ts, v.tokens = t :: ts ∧ t ≠ .arrayClose := by
  cases v with
  | array items => cases items <;> exact ⟨_, _, rfl, by simp⟩
  | object members => cases members <;> exact ⟨_, _, rfl, by simp⟩
  | _ => exact ⟨_, _, rfl, by simp⟩

namespace Build

/-- Where an array may end, its first item may begin as well. -/
theorem steps?_firstItem (outer : Place) (v : Json) (later : List Token) :
    (firstItem outer).steps? (v.tokens ++ later) =
      (value (.item [] outer)).steps? (v.tokens ++ later) := by
  obtain ⟨t, ts, tokens_eq, other⟩ := tokens_eq_cons v
  have same : (firstItem outer).step? t = (value (.item [] outer)).step? t := by
    cases t <;> first | rfl | exact absurd rfl other
  rw [tokens_eq, List.cons_append, steps?, steps?, List.foldlM_cons, List.foldlM_cons, same]

theorem steps?_itemTokens {outer : Place} {items : List Json}
    (each : ∀ v ∈ items, ∀ before,
      (value (.item before outer)).steps? v.tokens = some (.complete v (.item before outer)))
    (v : Json) (before : List Json) :
    (complete v (.item before outer)).steps? (itemTokens items ++ [.arrayClose]) =
      some (.complete (.array (before.reverse ++ v :: items)) outer) := by
  induction items generalizing v before with
  | nil =>
    have close : (complete v (.item before outer)).step? .arrayClose =
        some (complete (.array (v :: before).reverse) outer) := rfl
    rw [itemTokens, List.nil_append, steps?_cons close, List.reverse_cons]
    rfl
  | cons next rest ih =>
    obtain ⟨first, others⟩ := List.forall_mem_cons.1 each
    have comma : (complete v (.item before outer)).step? .comma =
        some (value (.item (v :: before) outer)) := rfl
    rw [itemTokens, List.cons_append, List.append_assoc, steps?_cons comma, steps?_append, first,
      Option.bind_some, ih others, List.reverse_cons, List.append_assoc, List.singleton_append]

theorem steps?_memberTokens {outer : Place} {members : List (String × Json)}
    (each : ∀ m ∈ members, ∀ before key,
      (value (.member before key outer)).steps? m.2.tokens =
        some (.complete m.2 (.member before key outer)))
    (v : Json) (before : List (String × Json)) (key : String) :
    (complete v (.member before key outer)).steps? (memberTokens members ++ [.objectClose]) =
      some (.complete (.object (before.reverse ++ (key, v) :: members)) outer) := by
  induction members generalizing v before key with
  | nil =>
    have close : (complete v (.member before key outer)).step? .objectClose =
        some (complete (.object ((key, v) :: before).reverse) outer) := rfl
    rw [memberTokens, List.nil_append, steps?_cons close, List.reverse_cons]
    rfl
  | cons m rest ih =>
    obtain ⟨first, others⟩ := List.forall_mem_cons.1 each
    have comma : (complete v (.member before key outer)).step? .comma =
        some (nextKey ((key, v) :: before) outer) := rfl
    have named : (nextKey ((key, v) :: before) outer).step? (.string m.1) =
        some (colon ((key, v) :: before) m.1 outer) := rfl
    have given : (colon ((key, v) :: before) m.1 outer).step? .colon =
        some (value (.member ((key, v) :: before) m.1 outer)) := rfl
    rw [memberTokens, List.cons_append, List.cons_append, List.cons_append, List.append_assoc,
      steps?_cons comma, steps?_cons named, steps?_cons given, steps?_append, first,
      Option.bind_some, ih others, List.reverse_cons, List.append_assoc, List.singleton_append]

/-- The tokens of a value are put together to the value, where it does not nest too deep. -/
theorem steps?_tokens (v : Json) {place : Place}
    (shallow : place.depth + v.nesting ≤ maxNesting) :
    (value place).steps? v.tokens = some (.complete v place) := by
  induction v using Json.induction generalizing place with
  | null => rfl
  | bool b => rfl
  | int n => rfl
  | double x => rfl
  | string s => rfl
  | array items ih =>
    have inside : place.depth < maxNesting := by
      rw [nesting] at shallow
      omega
    have opened : (value place).step? .arrayOpen = some (firstItem place) := if_pos inside
    cases items with
    | nil =>
      rw [tokens, steps?_cons opened]
      rfl
    | cons first rest =>
      have all (v) (member : v ∈ first :: rest) (before : List Json) :
          (value (.item before place)).steps? v.tokens =
            some (.complete v (.item before place)) := by
        apply ih v member
        have deeper := nesting_lt_of_mem_items member
        rw [Place.depth]
        omega
      rw [tokens, steps?_cons opened, steps?_firstItem, steps?_append,
        all first List.mem_cons_self, Option.bind_some,
        steps?_itemTokens fun v member => all v (List.mem_cons_of_mem first member)]
      rfl
  | object members ih =>
    have inside : place.depth < maxNesting := by
      rw [nesting] at shallow
      omega
    have opened : (value place).step? .objectOpen = some (firstKey place) := if_pos inside
    cases members with
    | nil =>
      rw [tokens, steps?_cons opened]
      rfl
    | cons first rest =>
      have all (m) (member : m ∈ first :: rest) (before : List (String × Json)) (key : String) :
          (value (.member before key place)).steps? m.2.tokens =
            some (.complete m.2 (.member before key place)) := by
        apply ih m member
        have deeper := nesting_lt_of_mem_members member
        rw [Place.depth]
        omega
      have named : (firstKey place).step? (.string first.1) = some (colon [] first.1 place) := rfl
      have given : (colon [] first.1 place).step? .colon =
          some (value (.member [] first.1 place)) := rfl
      rw [tokens, steps?_cons opened, steps?_cons named, steps?_cons given, steps?_append,
        all first List.mem_cons_self, Option.bind_some,
        steps?_memberTokens fun m member => all m (List.mem_cons_of_mem first member)]
      rfl

end Build

/-! ## How deep a value that has been read can be -/

/-- The value of a word is no container. -/
def Token.IsFlat : Token → Prop
  | .scalar v => v.nesting = 0
  | _ => True

/-- A value that is written as a word. -/
def IsWord : Json → Prop
  | .null | .bool _ | .int _ | .double _ => True
  | .string _ | .array _ | .object _ => False

theorem exists_isWord_of_wordToken? {word : List Char} {t : Token}
    (token : wordToken? word = some t) : ∃ v : Json, t = .scalar v ∧ v.IsWord := by
  unfold wordToken? at token
  split at token
  · exact ⟨.null, (Option.some.inj token).symm, trivial⟩
  split at token
  · exact ⟨.bool true, (Option.some.inj token).symm, trivial⟩
  split at token
  · exact ⟨.bool false, (Option.some.inj token).symm, trivial⟩
  · obtain ⟨l, -, number⟩ := Option.bind_eq_some_iff.1 token
    obtain ⟨v, read, rfl⟩ := Option.map_eq_some_iff.1 number
    refine ⟨v, rfl, ?_⟩
    simp only [Literal.value?] at read
    split at read
    · obtain rfl := Option.some.inj read
      trivial
    split at read
    · obtain rfl := Option.some.inj read
      trivial
    · obtain ⟨x, -, rfl⟩ := Option.map_eq_some_iff.1 read
      trivial

theorem isFlat_of_wordToken? {word : List Char} {t : Token} (token : wordToken? word = some t) :
    t.IsFlat := by
  obtain ⟨v, rfl, word⟩ := exists_isWord_of_wordToken? token
  cases v <;> first | rfl | exact word.elim

namespace Scan

theorem isFlat_of_some {ts us : List Token} {state next : Scan}
    (same : some (us, state) = some (ts, next)) (flat : ∀ t ∈ us, t.IsFlat) :
    ∀ t ∈ ts, t.IsFlat := by
  obtain ⟨rfl, -⟩ := Prod.mk.inj (Option.some.inj same)
  exact flat

theorem isFlat_of_start {c : Char} {ts : List Token} {next : Scan}
    (begun : start c = some (ts, next)) : ∀ t ∈ ts, t.IsFlat := by
  unfold start at begun
  split at begun
  case h_8 =>
    split at begun
    · exact isFlat_of_some begun (by simp)
    split at begun
    · exact isFlat_of_some begun (by simp)
    · cases begun
  all_goals exact isFlat_of_some begun (by simp [Token.IsFlat])

theorem isFlat_of_step {state next : Scan} {c : Char} {ts : List Token}
    (step : state.step c = some (ts, next)) : ∀ t ∈ ts, t.IsFlat := by
  cases state with
  | between => exact isFlat_of_start step
  | word before =>
    rw [Scan.step] at step
    split at step
    · exact isFlat_of_some step (by simp)
    · obtain ⟨t, token, more⟩ := Option.bind_eq_some_iff.1 step
      obtain ⟨⟨us, after⟩, begun, same⟩ := Option.bind_eq_some_iff.1 more
      apply isFlat_of_some same
      exact List.forall_mem_cons.2 ⟨isFlat_of_wordToken? token, isFlat_of_start begun⟩
  | string before =>
    rw [Scan.step] at step
    unfold inString at step
    split at step
    · obtain ⟨cs, -, same⟩ := Option.map_eq_some_iff.1 step
      exact isFlat_of_some (congrArg some same) (by simp [Token.IsFlat])
    · exact isFlat_of_some step (by simp)
    · split at step
      · cases step
      · exact isFlat_of_some step (by simp)
  | escape before =>
    rw [Scan.step] at step
    split at step
    · exact isFlat_of_some step (by simp)
    · obtain ⟨d, -, same⟩ := Option.map_eq_some_iff.1 step
      exact isFlat_of_some (congrArg some same) (by simp)
  | unit before value missing =>
    obtain ⟨digit, -, more⟩ := Option.bind_eq_some_iff.1 step
    cases missing with
    | zero => exact isFlat_of_some more (by simp)
    | succ missing => exact isFlat_of_some more (by simp)

theorem isFlat_of_run {state : Scan} {text : List Char} {ts : List Token}
    (read : state.run text = some ts) : ∀ t ∈ ts, t.IsFlat := by
  induction text generalizing state ts with
  | nil =>
    cases state with
    | between =>
      obtain rfl := Option.some.inj read
      simp
    | word before =>
      obtain ⟨t, token, rfl⟩ := Option.map_eq_some_iff.1 read
      simpa using isFlat_of_wordToken? token
    | string before => cases read
    | escape before => cases read
    | unit before value missing => cases read
  | cons c rest ih =>
    rw [run] at read
    obtain ⟨⟨us, next⟩, step, more⟩ := Option.bind_eq_some_iff.1 read
    obtain ⟨later, read_later, same⟩ := Option.bind_eq_some_iff.1 more
    obtain rfl := Option.some.inj same
    exact List.forall_mem_append.2 ⟨isFlat_of_step step, ih read_later⟩

end Scan

/-- A place is not inside of more containers than the reader allows, and neither is anything before
it in these containers. -/
def Place.Fits : Place → Prop
  | .top => True
  | .item before outer =>
    outer.depth < maxNesting ∧ (∀ v ∈ before, outer.depth + 1 + v.nesting ≤ maxNesting) ∧
      outer.Fits
  | .member before _ outer =>
    outer.depth < maxNesting ∧ (∀ m ∈ before, outer.depth + 1 + m.2.nesting ≤ maxNesting) ∧
      outer.Fits

theorem Place.Fits.depth_le {place : Place} (fits : place.Fits) : place.depth ≤ maxNesting := by
  cases place with
  | top => exact Nat.zero_le _
  | item before outer => exact fits.1
  | member before key outer => exact fits.1

namespace Build

/-- What has been read so far fits in the containers that the reader allows. -/
def Fits : Build → Prop
  | value place => place.Fits
  | firstItem outer => (Place.item [] outer).Fits
  | firstKey outer => (Place.member [] "" outer).Fits
  | nextKey before outer => (Place.member before "" outer).Fits
  | colon before key outer => (Place.member before key outer).Fits
  | complete v place => place.depth + v.nesting ≤ maxNesting ∧ place.Fits

theorem depth_add_nesting_array_le {outer : Place} {items : List Json}
    (inside : outer.depth < maxNesting)
    (each : ∀ v ∈ items, outer.depth + 1 + v.nesting ≤ maxNesting) :
    outer.depth + (array items).nesting ≤ maxNesting := by
  have shallow : nestingItems items ≤ maxNesting - (outer.depth + 1) := by
    refine nestingItems_le_iff.2 fun v member => ?_
    have := each v member
    omega
  rw [nesting]
  omega

theorem depth_add_nesting_object_le {outer : Place} {members : List (String × Json)}
    (inside : outer.depth < maxNesting)
    (each : ∀ m ∈ members, outer.depth + 1 + m.2.nesting ≤ maxNesting) :
    outer.depth + (object members).nesting ≤ maxNesting := by
  have shallow : nestingMembers members ≤ maxNesting - (outer.depth + 1) := by
    refine nestingMembers_le_iff.2 fun m member => ?_
    have := each m member
    omega
  rw [nesting]
  omega

theorem fits_begin {place : Place} (fits : place.Fits) {t : Token} (flat : t.IsFlat)
    {next : Build} (step : begin? place t = some next) : next.Fits := by
  unfold begin? at step
  split at step
  · obtain rfl := Option.some.inj step
    refine ⟨?_, fits⟩
    rw [show _ = 0 from flat]
    exact fits.depth_le
  · obtain rfl := Option.some.inj step
    exact ⟨fits.depth_le, fits⟩
  · obtain ⟨inside, same⟩ := Option.ite_none_right_eq_some.1 step
    obtain rfl := Option.some.inj same
    exact ⟨inside, by simp, fits⟩
  · obtain ⟨inside, same⟩ := Option.ite_none_right_eq_some.1 step
    obtain rfl := Option.some.inj same
    exact ⟨inside, by simp, fits⟩
  · cases step

theorem fits_step {b next : Build} (fits : b.Fits) {t : Token} (flat : t.IsFlat)
    (step : b.step? t = some next) : next.Fits := by
  unfold step? at step
  split at step
  -- A value begins, on its own or as the first item of an array.
  case h_1 => exact fits_begin fits flat step
  case h_3 => exact fits_begin fits flat step
  -- A container ends.
  case h_2 outer =>
    obtain rfl := Option.some.inj step
    exact ⟨Nat.succ_le_of_lt fits.1, fits.2.2⟩
  case h_4 outer =>
    obtain rfl := Option.some.inj step
    exact ⟨Nat.succ_le_of_lt fits.1, fits.2.2⟩
  case h_9 v before outer =>
    obtain rfl := Option.some.inj step
    obtain ⟨shallow, inside, others, fits⟩ := fits
    have each : ∀ w ∈ (v :: before).reverse, outer.depth + 1 + w.nesting ≤ maxNesting := by
      intro w member
      rcases List.mem_cons.1 (List.mem_reverse.1 member) with rfl | early
      · exact shallow
      · exact others w early
    exact ⟨depth_add_nesting_array_le inside each, fits⟩
  case h_11 v before key outer =>
    obtain rfl := Option.some.inj step
    obtain ⟨shallow, inside, others, fits⟩ := fits
    have each : ∀ m ∈ ((key, v) :: before).reverse,
        outer.depth + 1 + m.2.nesting ≤ maxNesting := by
      intro m member
      rcases List.mem_cons.1 (List.mem_reverse.1 member) with rfl | early
      · exact shallow
      · exact others m early
    exact ⟨depth_add_nesting_object_le inside each, fits⟩
  -- The place of the next value, or of its key, has one more value before it.
  case h_8 v before outer =>
    obtain rfl := Option.some.inj step
    obtain ⟨shallow, inside, others, fits⟩ := fits
    exact ⟨inside, List.forall_mem_cons.2 ⟨shallow, others⟩, fits⟩
  case h_10 v before key outer =>
    obtain rfl := Option.some.inj step
    obtain ⟨shallow, inside, others, fits⟩ := fits
    exact ⟨inside, List.forall_mem_cons.2 ⟨shallow, others⟩, fits⟩
  case h_12 => cases step
  all_goals
    obtain rfl := Option.some.inj step
    exact fits

theorem fits_steps {b next : Build} (fits : b.Fits) {ts : List Token}
    (flat : ∀ t ∈ ts, t.IsFlat) (steps : b.steps? ts = some next) : next.Fits := by
  induction ts generalizing b with
  | nil =>
    obtain rfl := Option.some.inj steps
    exact fits
  | cons t ts ih =>
    obtain ⟨first, others⟩ := List.forall_mem_cons.1 flat
    rw [steps?, List.foldlM_cons] at steps
    obtain ⟨middle, step, more⟩ := Option.bind_eq_some_iff.1 steps
    exact ih (fits_step fits first step) others more

end Build

/-! ## Values that nest too deep -/

namespace Build

/-- A container is only begun where it is not too deep. -/
theorem inside_of_steps? {place : Place} {t : Token} {ts : List Token} {b opened : Build}
    (built : (value place).steps? (t :: ts) = some b)
    (opens : begin? place t = if place.depth < maxNesting then some opened else none) :
    place.depth < maxNesting ∧ opened.steps? ts = some b := by
  rw [steps?, List.foldlM_cons] at built
  obtain ⟨next, step, more⟩ := Option.bind_eq_some_iff.1 built
  obtain ⟨inside, same⟩ := Option.ite_none_right_eq_some.1 (opens.symm.trans step)
  obtain rfl := Option.some.inj same
  exact ⟨inside, more⟩

/-- Once the tokens of a value that is not too deep have been taken in, the value is complete. -/
theorem steps?_of_tokens_append {v : Json} {place : Place} {ts : List Token} {b : Build}
    (built : (value place).steps? (v.tokens ++ ts) = some b)
    (shallow : place.depth + v.nesting ≤ maxNesting) : (complete v place).steps? ts = some b := by
  rwa [steps?_append, steps?_tokens v shallow] at built

theorem shallow_of_itemTokens {outer : Place} {items : List Json}
    (each : ∀ v ∈ items, ∀ before ts b,
      (value (.item before outer)).steps? (v.tokens ++ ts) = some b →
        outer.depth + 1 + v.nesting ≤ maxNesting)
    {v : Json} {before : List Json} {ts : List Token} {b : Build}
    (built : (complete v (.item before outer)).steps? (itemTokens items ++ ts) = some b) :
    ∀ v ∈ items, outer.depth + 1 + v.nesting ≤ maxNesting := by
  induction items generalizing v before with
  | nil => exact nofun
  | cons next rest ih =>
    obtain ⟨first, others⟩ := List.forall_mem_cons.1 each
    have comma : (complete v (.item before outer)).step? .comma =
        some (value (.item (v :: before) outer)) := rfl
    rw [itemTokens, List.cons_append, List.append_assoc, steps?_cons comma] at built
    have shallow := first _ _ _ built
    exact List.forall_mem_cons.2 ⟨shallow, ih others (steps?_of_tokens_append built shallow)⟩

theorem shallow_of_memberTokens {outer : Place} {members : List (String × Json)}
    (each : ∀ m ∈ members, ∀ before key ts b,
      (value (.member before key outer)).steps? (m.2.tokens ++ ts) = some b →
        outer.depth + 1 + m.2.nesting ≤ maxNesting)
    {v : Json} {before : List (String × Json)} {key : String} {ts : List Token} {b : Build}
    (built : (complete v (.member before key outer)).steps? (memberTokens members ++ ts) = some b) :
    ∀ m ∈ members, outer.depth + 1 + m.2.nesting ≤ maxNesting := by
  induction members generalizing v before key with
  | nil => exact nofun
  | cons next rest ih =>
    obtain ⟨first, others⟩ := List.forall_mem_cons.1 each
    have comma : (complete v (.member before key outer)).step? .comma =
        some (nextKey ((key, v) :: before) outer) := rfl
    have named : (nextKey ((key, v) :: before) outer).step? (.string next.1) =
        some (colon ((key, v) :: before) next.1 outer) := rfl
    have given : (colon ((key, v) :: before) next.1 outer).step? .colon =
        some (value (.member ((key, v) :: before) next.1 outer)) := rfl
    rw [memberTokens, List.cons_append, List.cons_append, List.cons_append, List.append_assoc,
      steps?_cons comma, steps?_cons named, steps?_cons given] at built
    have shallow := first _ _ _ _ built
    exact List.forall_mem_cons.2 ⟨shallow, ih others (steps?_of_tokens_append built shallow)⟩

/-- The tokens of a value are only taken in where it does not nest too deep. -/
theorem shallow_of_steps? (v : Json) {place : Place} {ts : List Token} {b : Build}
    (built : (value place).steps? (v.tokens ++ ts) = some b) (inside : place.depth ≤ maxNesting) :
    place.depth + v.nesting ≤ maxNesting := by
  induction v using Json.induction generalizing place ts b with
  | null => exact inside
  | bool b => exact inside
  | int n => exact inside
  | double x => exact inside
  | string s => exact inside
  | array items ih =>
    cases items with
    | nil =>
      obtain ⟨inside, -⟩ := inside_of_steps? built rfl
      exact depth_add_nesting_array_le inside (List.forall_mem_nil _)
    | cons first rest =>
      rw [tokens, List.cons_append, List.append_assoc, List.append_assoc] at built
      obtain ⟨inside, built⟩ := inside_of_steps? built rfl
      have all (v) (member : v ∈ first :: rest) (before ts b)
          (built : (value (.item before place)).steps? (v.tokens ++ ts) = some b) :
          place.depth + 1 + v.nesting ≤ maxNesting :=
        ih v member built inside
      rw [steps?_firstItem] at built
      have shallow := all first List.mem_cons_self _ _ _ built
      have others := shallow_of_itemTokens
        (fun v member => all v (List.mem_cons_of_mem first member))
        (steps?_of_tokens_append built shallow)
      exact depth_add_nesting_array_le inside (List.forall_mem_cons.2 ⟨shallow, others⟩)
  | object members ih =>
    cases members with
    | nil =>
      obtain ⟨inside, -⟩ := inside_of_steps? built rfl
      exact depth_add_nesting_object_le inside (List.forall_mem_nil _)
    | cons first rest =>
      rw [tokens, List.cons_append, List.cons_append, List.cons_append, List.append_assoc,
        List.append_assoc] at built
      obtain ⟨inside, built⟩ := inside_of_steps? built rfl
      have all (m) (member : m ∈ first :: rest) (before key ts b)
          (built : (value (.member before key place)).steps? (m.2.tokens ++ ts) = some b) :
          place.depth + 1 + m.2.nesting ≤ maxNesting :=
        ih m member built inside
      have named : (firstKey place).step? (.string first.1) = some (colon [] first.1 place) := rfl
      have given : (colon [] first.1 place).step? .colon =
          some (value (.member [] first.1 place)) := rfl
      rw [steps?_cons named, steps?_cons given] at built
      have shallow := all first List.mem_cons_self _ _ _ _ built
      have others := shallow_of_memberTokens
        (fun m member => all m (List.mem_cons_of_mem first member))
        (steps?_of_tokens_append built shallow)
      exact depth_add_nesting_object_le inside (List.forall_mem_cons.2 ⟨shallow, others⟩)

end Build

/-- The tokens of a value are put together to the value, unless it nests too deep. -/
theorem ofTokens?_tokens (v : Json) :
    ofTokens? v.tokens = if v.nesting ≤ maxNesting then some v else none := by
  have whole : ofTokens? v.tokens = ((Build.value .top).steps? v.tokens).bind Build.finish? := rfl
  rw [whole]
  split
  case isTrue shallow =>
    rw [Build.steps?_tokens v (by rw [Place.depth]; omega)]
    rfl
  case isFalse deep =>
    cases built : (Build.value .top).steps? v.tokens with
    | none => rfl
    | some b =>
      rw [← List.append_nil v.tokens] at built
      have shallow := Build.shallow_of_steps? v built (Nat.zero_le _)
      rw [Place.depth] at shallow
      omega

/-- The text of a value is read as the canonical form of the value, in every layout. -/
theorem parse?_chars {layout : Layout} (blank : layout.IsBlank) {v : Json} (whole : v.Whole)
    (shallow : v.nesting ≤ maxNesting) (depth : Nat) :
    parse? (String.ofList (v.chars layout depth)) = some v.canonical := by
  rw [parse?, tree?, tokens?_chars blank whole, Option.bind_some, ofTokens?_tokens,
    if_pos shallow, Option.map_some]

theorem parse?_compact {v : Json} (whole : v.Whole) (shallow : v.nesting ≤ maxNesting) :
    parse? v.compact = some v.canonical :=
  parse?_chars Layout.compact_isBlank whole shallow 0

/-- A value that has been read is no deeper than the reader allows. -/
theorem nesting_le_of_parse? {text : String} {v : Json} (read : parse? text = some v) :
    v.nesting ≤ maxNesting := by
  obtain ⟨w, tree, rfl⟩ := Option.map_eq_some_iff.1 read
  obtain ⟨ts, scanned, built⟩ := Option.bind_eq_some_iff.1 tree
  obtain ⟨b, steps, finished⟩ := Option.bind_eq_some_iff.1 built
  have fits : b.Fits :=
    Build.fits_steps (b := .value .top) trivial (Scan.isFlat_of_run scanned) steps
  obtain rfl := Build.eq_complete_of_finish? finished
  have shallow : 0 + w.nesting ≤ maxNesting := fits.1
  have := nesting_canonical_le w
  omega

end SpanDashboard.Json
