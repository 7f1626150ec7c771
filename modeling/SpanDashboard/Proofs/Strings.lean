import SpanDashboard.Proofs.Building
import SpanDashboard.Text.Blank

/-!
# Strings in a JSON text

A string in a value that has been read was a token of the text, and between its quotation marks
stood a character for each of its own. So the string has fewer characters than the text, and this
remains true when blank ones are not counted (`weight_lt_of_contains`), whatever may have been
trimmed off.
-/

set_option autoImplicit false

namespace SpanDashboard

namespace Text

/-- How many characters are not blank. -/
def weight (text : List Char) : Nat :=
  text.countP fun c => !isBlank c

theorem weight_append (text more : List Char) : weight (text ++ more) = weight text + weight more :=
  List.countP_append

theorem weight_cons (c : Char) (text : List Char) :
    weight (c :: text) = weight [c] + weight text :=
  weight_append [c] text

theorem weight_singleton_le (c : Char) : weight [c] ≤ 1 :=
  List.countP_le_length

theorem weight_dropWhile (text : List Char) : weight (text.dropWhile isBlank) = weight text := by
  induction text with
  | nil => rfl
  | cons c rest ih =>
    by_cases blank : isBlank c = true
    · rw [List.dropWhile_cons_of_pos blank, ih, weight, weight, List.countP_cons_of_neg]
      simp [blank]
    · rw [List.dropWhile_cons_of_neg blank]

theorem weight_trim (s : String) : weight (trim s).toList = weight s.toList := by
  have back (text : List Char) : weight text.reverse = weight text := List.countP_reverse
  rw [trim, String.toList_ofList, back, weight_dropWhile, back, weight_dropWhile]

end Text

namespace Json

/-- A string stands somewhere in a value. -/
inductive Contains (s : String) : Json → Prop where
  | string : Contains s (.string s)
  | item {items : List Json} {v : Json} (member : v ∈ items) (inside : v.Contains s) :
      Contains s (.array items)
  | value {members : List (String × Json)} {m : String × Json} (member : m ∈ members)
      (inside : m.2.Contains s) : Contains s (.object members)

/-- The canonical form contains nothing new. -/
theorem contains_of_canonical {s : String} {v : Json} (inside : v.canonical.Contains s) :
    v.Contains s := by
  induction v using Json.induction with
  | null => exact inside
  | bool b => exact inside
  | int n => exact inside
  | double x => exact inside
  | string r => exact inside
  | array items ih =>
    rw [canonical_array] at inside
    cases inside with
    | item member inside =>
      obtain ⟨v, present, rfl⟩ := List.mem_map.1 member
      exact .item present (ih v present inside)
  | object members ih =>
    rw [canonical_object] at inside
    cases inside with
    | value member inside =>
      obtain ⟨m, present, rfl⟩ := List.mem_map.1 (mem_sortMembers member)
      exact .value present (ih m present inside)

/-! ## From the value to a token -/

/-- A token brings a string into the value. -/
def Token.Brings (s : String) : Token → Prop
  | .string r => r = s
  | .scalar v => v.Contains s
  | _ => False

namespace Place

/-- A string stands in one of the containers around a place, before the place. -/
def Contains (s : String) : Place → Prop
  | .top => False
  | .item before outer => (∃ v ∈ before, v.Contains s) ∨ outer.Contains s
  | .member before _ outer => (∃ m ∈ before, m.2.Contains s) ∨ outer.Contains s

theorem contains_item_nil {s : String} {outer : Place} :
    (item [] outer).Contains s ↔ outer.Contains s := by
  simp [Contains]

theorem contains_member_nil {s : String} (key : String) {outer : Place} :
    (member [] key outer).Contains s ↔ outer.Contains s := by
  simp [Contains]

theorem contains_item_cons {s : String} {v : Json} {before : List Json} {outer : Place} :
    (item (v :: before) outer).Contains s ↔ v.Contains s ∨ (item before outer).Contains s := by
  simp [Contains, or_assoc]

theorem contains_member_cons {s : String} {m : String × Json} {before : List (String × Json)}
    {key : String} {outer : Place} :
    (member (m :: before) key outer).Contains s ↔
      m.2.Contains s ∨ (member before key outer).Contains s := by
  simp [Contains, or_assoc]

theorem contains_of_array {s : String} {before : List Json} {outer : Place}
    (inside : (array before.reverse).Contains s ∨ outer.Contains s) :
    (item before outer).Contains s := by
  refine inside.imp_left fun inside => ?_
  cases inside with
  | item member inside => exact ⟨_, List.mem_reverse.1 member, inside⟩

theorem contains_of_object {s : String} {before : List (String × Json)} (key : String)
    {outer : Place} (inside : (object before.reverse).Contains s ∨ outer.Contains s) :
    (member before key outer).Contains s := by
  refine inside.imp_left fun inside => ?_
  cases inside with
  | value member inside => exact ⟨_, List.mem_reverse.1 member, inside⟩

end Place

namespace Build

/-- A string stands in what has been read. -/
def Contains (s : String) : Build → Prop
  | value place => place.Contains s
  | firstItem outer => (Place.item [] outer).Contains s
  | firstKey outer => (Place.member [] "" outer).Contains s
  | nextKey before outer => (Place.member before "" outer).Contains s
  | colon before key outer => (Place.member before key outer).Contains s
  | complete v place => v.Contains s ∨ place.Contains s

theorem contains_begin {s : String} {place : Place} {t : Token} {next : Build}
    (step : begin? place t = some next) (inside : next.Contains s) :
    place.Contains s ∨ t.Brings s := by
  unfold begin? at step
  split at step
  · obtain rfl := Option.some.inj step
    exact inside.symm
  · obtain rfl := Option.some.inj step
    rcases inside with inside | around
    · cases inside
      exact .inr rfl
    · exact .inl around
  · obtain ⟨-, same⟩ := Option.ite_none_right_eq_some.1 step
    obtain rfl := Option.some.inj same
    exact .inl (Place.contains_item_nil.1 inside)
  · obtain ⟨-, same⟩ := Option.ite_none_right_eq_some.1 step
    obtain rfl := Option.some.inj same
    exact .inl ((Place.contains_member_nil "").1 inside)
  · cases step

theorem contains_step {s : String} {b next : Build} {t : Token} (step : b.step? t = some next)
    (inside : next.Contains s) : b.Contains s ∨ t.Brings s := by
  unfold step? at step
  split at step
  -- A value begins, on its own or as the first item of an array.
  case h_1 => exact contains_begin step inside
  case h_3 => exact contains_begin step inside
  -- A container ends.
  case h_2 =>
    obtain rfl := Option.some.inj step
    exact .inl (Place.contains_of_array inside)
  case h_4 =>
    obtain rfl := Option.some.inj step
    exact .inl (Place.contains_of_object "" inside)
  case h_9 =>
    obtain rfl := Option.some.inj step
    exact .inl (Place.contains_item_cons.1 (Place.contains_of_array inside))
  case h_11 key outer =>
    obtain rfl := Option.some.inj step
    exact .inl (Place.contains_member_cons.1 (Place.contains_of_object key inside))
  -- A value is complete, and another one follows.
  case h_8 =>
    obtain rfl := Option.some.inj step
    exact .inl (Place.contains_item_cons.1 inside)
  case h_10 =>
    obtain rfl := Option.some.inj step
    exact .inl (Place.contains_member_cons.1 inside)
  case h_12 => cases step
  all_goals
    obtain rfl := Option.some.inj step
    exact .inl inside

theorem contains_steps {s : String} {b next : Build} {ts : List Token}
    (steps : b.steps? ts = some next) (inside : next.Contains s) :
    b.Contains s ∨ ∃ t ∈ ts, t.Brings s := by
  induction ts generalizing b with
  | nil =>
    obtain rfl := Option.some.inj steps
    exact .inl inside
  | cons t ts ih =>
    rw [steps?, List.foldlM_cons] at steps
    obtain ⟨middle, step, more⟩ := Option.bind_eq_some_iff.1 steps
    rcases ih more with early | ⟨u, member, brought⟩
    · rcases contains_step step early with earlier | brought
      · exact .inl earlier
      · exact .inr ⟨t, List.mem_cons_self, brought⟩
    · exact .inr ⟨u, List.mem_cons_of_mem t member, brought⟩

end Build

theorem exists_token_of_contains {s : String} {ts : List Token} {v : Json}
    (built : ofTokens? ts = some v) (inside : v.Contains s) : ∃ t ∈ ts, t.Brings s := by
  obtain ⟨b, steps, finished⟩ := Option.bind_eq_some_iff.1 built
  obtain rfl := Build.eq_complete_of_finish? finished
  rcases Build.contains_steps steps (.inl inside) with nothing | brought
  · exact nothing.elim
  · exact brought

/-! ## From the token to the text -/

theorem not_brings_of_wordToken? {word : List Char} {t : Token} (token : wordToken? word = some t)
    (s : String) : ¬ t.Brings s := by
  obtain ⟨v, rfl, word⟩ := exists_isWord_of_wordToken? token
  intro inside
  cases inside <;> exact word

/-- How many of the characters that a part of a string stands for are not blank, at most. -/
def Piece.weight : Piece → Nat
  | .char c => Text.weight [c]
  | .unit _ => 1

/-- The weight of the parts of a string. -/
def piecesWeight (ps : List Piece) : Nat :=
  (ps.map Piece.weight).sum

theorem piecesWeight_cons (p : Piece) (ps : List Piece) :
    piecesWeight (p :: ps) = p.weight + piecesWeight ps := by
  rw [piecesWeight, List.map_cons, List.sum_cons]
  rfl

theorem piecesWeight_reverse (ps : List Piece) : piecesWeight ps.reverse = piecesWeight ps := by
  rw [piecesWeight, List.map_reverse, List.sum_reverse]
  rfl

/-- The characters of a string weigh no more than its parts. -/
theorem weight_le_of_join? {ps : List Piece} {cs : List Char} (joined : Piece.join? ps = some cs) :
    Text.weight cs ≤ piecesWeight ps := by
  fun_induction Piece.join? ps generalizing cs with
  | case1 =>
    obtain rfl := Option.some.inj joined
    exact Nat.le_refl _
  | case2 c rest ih =>
    obtain ⟨later, others, rfl⟩ := Option.map_eq_some_iff.1 joined
    rw [Text.weight_cons, piecesWeight_cons]
    exact Nat.add_le_add_left (ih others) _
  | case3 high low rest _ _ ih =>
    obtain ⟨later, others, rfl⟩ := Option.map_eq_some_iff.1 joined
    have := ih others
    have := Text.weight_singleton_le (joinSurrogates high low)
    rw [Text.weight_cons, piecesWeight_cons, piecesWeight_cons, Piece.weight, Piece.weight]
    omega
  | case6 high low rest _ _ ih =>
    obtain ⟨later, others, rfl⟩ := Option.map_eq_some_iff.1 joined
    rw [Text.weight_cons, piecesWeight_cons]
    exact Nat.add_le_add (Text.weight_singleton_le _) (ih others)
  | case8 n rest _ _ ih =>
    obtain ⟨later, others, rfl⟩ := Option.map_eq_some_iff.1 joined
    rw [Text.weight_cons, piecesWeight_cons]
    exact Nat.add_le_add (Text.weight_singleton_le _) (ih others)
  | case4 => cases joined
  | case5 => cases joined
  | case7 => cases joined

namespace Scan

/-- The weight of what has been read of a token, quotation marks and backslashes included. -/
def weight : Scan → Nat
  | between | word _ => 0
  | string before => piecesWeight before + 1
  | escape before | unit before _ _ => piecesWeight before + 2

/-- After a character the state is heavier by the character at most, and the strings that the
character completes are lighter than the state and the character together. -/
def Weighs (state : Scan) (c : Char) (ts : List Token) (next : Scan) : Prop :=
  next.weight ≤ state.weight + Text.weight [c] ∧
    ∀ s, (∃ t ∈ ts, t.Brings s) → Text.weight s.toList < state.weight + Text.weight [c]

theorem weighs_of_some {state next after : Scan} {c : Char} {ts us : List Token}
    (same : some (us, after) = some (ts, next)) (weighs : Weighs state c us after) :
    Weighs state c ts next := by
  obtain ⟨rfl, rfl⟩ := Prod.mk.inj (Option.some.inj same)
  exact weighs

/-- A character that begins a token completes no string. -/
theorem start_brings {c : Char} {ts : List Token} {next : Scan}
    (begun : start c = some (ts, next)) :
    next.weight ≤ Text.weight [c] ∧ ∀ s, ∀ t ∈ ts, ¬ t.Brings s := by
  unfold start at begun
  split at begun
  case h_8 =>
    split at begun
    · obtain ⟨rfl, rfl⟩ := Prod.mk.inj (Option.some.inj begun)
      exact ⟨Nat.zero_le _, by simp⟩
    split at begun
    · obtain ⟨rfl, rfl⟩ := Prod.mk.inj (Option.some.inj begun)
      exact ⟨Nat.zero_le _, by simp⟩
    · cases begun
  all_goals
    obtain ⟨rfl, rfl⟩ := Prod.mk.inj (Option.some.inj begun)
    exact ⟨by decide, by simp [Token.Brings]⟩

theorem weighs_inString {before : List Piece} {c : Char} {ts : List Token} {next : Scan}
    (step : inString before c = some (ts, next)) : Weighs (string before) c ts next := by
  have quote : Text.weight ['"'] = 1 := by decide
  unfold inString at step
  split at step
  · obtain ⟨cs, joined, same⟩ := Option.map_eq_some_iff.1 step
    refine weighs_of_some (congrArg some same) ⟨Nat.zero_le _, ?_⟩
    rintro s ⟨t, member, brought⟩
    obtain rfl := List.mem_singleton.1 member
    obtain rfl : String.ofList cs = s := brought
    have light := weight_le_of_join? joined
    rw [piecesWeight_reverse] at light
    rw [String.toList_ofList, weight]
    omega
  · exact weighs_of_some step ⟨Nat.le_refl _, by simp⟩
  · split at step
    · cases step
    · refine weighs_of_some step ⟨?_, by simp⟩
      rw [weight, weight, piecesWeight_cons, Piece.weight]
      omega

theorem weighs_step {state next : Scan} {c : Char} {ts : List Token}
    (step : state.step c = some (ts, next)) : Weighs state c ts next := by
  cases state with
  | between =>
    obtain ⟨light, nothing⟩ := start_brings step
    refine ⟨Nat.le_add_left_of_le light, ?_⟩
    rintro s ⟨t, member, brought⟩
    exact absurd brought (nothing s t member)
  | word before =>
    rw [Scan.step] at step
    split at step
    · exact weighs_of_some step ⟨Nat.zero_le _, by simp⟩
    · obtain ⟨t, token, more⟩ := Option.bind_eq_some_iff.1 step
      obtain ⟨⟨us, after⟩, begun, same⟩ := Option.bind_eq_some_iff.1 more
      obtain ⟨light, nothing⟩ := start_brings begun
      refine weighs_of_some same ⟨Nat.le_add_left_of_le light, ?_⟩
      rintro s ⟨u, member, brought⟩
      rcases List.mem_cons.1 member with rfl | later
      · exact absurd brought (not_brings_of_wordToken? token s)
      · exact absurd brought (nothing s u later)
  | string before => exact weighs_inString step
  | escape before =>
    rw [Scan.step] at step
    split at step
    · exact weighs_of_some step ⟨Nat.le_add_right _ _, by simp⟩
    · obtain ⟨d, -, same⟩ := Option.map_eq_some_iff.1 step
      refine weighs_of_some (congrArg some same) ⟨?_, by simp⟩
      have := Text.weight_singleton_le d
      rw [weight, weight, piecesWeight_cons, Piece.weight]
      omega
  | unit before value missing =>
    obtain ⟨digit, -, more⟩ := Option.bind_eq_some_iff.1 step
    cases missing with
    | zero =>
      refine weighs_of_some more ⟨?_, by simp⟩
      rw [weight, weight, piecesWeight_cons, Piece.weight]
      omega
    | succ missing => exact weighs_of_some more ⟨Nat.le_add_right _ _, by simp⟩

/-- A string in a text is lighter than the text. -/
theorem weight_lt_of_run {state : Scan} {text : List Char} {ts : List Token}
    (read : state.run text = some ts) {s : String} (brought : ∃ t ∈ ts, t.Brings s) :
    Text.weight s.toList < state.weight + Text.weight text := by
  induction text generalizing state ts with
  | nil =>
    cases state with
    | between =>
      obtain rfl := Option.some.inj read
      simp at brought
    | word before =>
      obtain ⟨t, token, rfl⟩ := Option.map_eq_some_iff.1 read
      obtain ⟨u, member, brought⟩ := brought
      obtain rfl := List.mem_singleton.1 member
      exact absurd brought (not_brings_of_wordToken? token s)
    | string before => cases read
    | escape before => cases read
    | unit before value missing => cases read
  | cons c rest ih =>
    rw [run] at read
    obtain ⟨⟨us, next⟩, step, more⟩ := Option.bind_eq_some_iff.1 read
    obtain ⟨later, read_later, same⟩ := Option.bind_eq_some_iff.1 more
    obtain rfl := Option.some.inj same
    obtain ⟨light, lighter⟩ := weighs_step step
    obtain ⟨t, member, brought⟩ := brought
    rw [Text.weight_cons]
    rcases List.mem_append.1 member with now | then_
    · have := lighter s ⟨t, now, brought⟩
      omega
    · have := ih read_later ⟨t, then_, brought⟩
      omega

end Scan

/-- A string in a value that has been read is lighter than the text of the value. -/
theorem weight_lt_of_contains {text s : String} {v : Json} (read : parse? text = some v)
    (inside : v.Contains s) : Text.weight s.toList < Text.weight text.toList := by
  obtain ⟨w, tree, rfl⟩ := Option.map_eq_some_iff.1 read
  obtain ⟨ts, scanned, built⟩ := Option.bind_eq_some_iff.1 tree
  have brought := exists_token_of_contains built (contains_of_canonical inside)
  have light := Scan.weight_lt_of_run scanned brought
  rwa [Scan.weight, Nat.zero_add] at light

end Json

end SpanDashboard
