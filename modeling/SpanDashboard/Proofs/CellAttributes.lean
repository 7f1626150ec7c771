import Mathlib.Algebra.Ring.Nat
import Mathlib.Data.List.Induction
import SpanDashboard.Proofs.Buckets
import SpanDashboard.Selection

/-!
# The attributes that a clicked cell may have

The attributes come from the page and can be any texts. What `from_attributes` reads of them is
given here as a grammar: which texts spell a position (`SpellsIndex`), for which texts a cell is
decoded, and which fault is found in all other texts (`Faulty`). The theorem at the end says that
this is exact.
-/

set_option autoImplicit false

namespace SpanDashboard

namespace Numeral

/-- Some digits, one at least, spell a number, of which the last digit gives the ones. -/
inductive Spells : List Char → Nat → Prop where
  | digit (k : Fin 10) : Spells [Nat.digitChar k] k
  | more {digits : List Char} {n : Nat} (before : Spells digits n) (k : Fin 10) :
      Spells (digits ++ [Nat.digitChar k]) (10 * n + k)

theorem isDigit_digitChar (k : Fin 10) : (Nat.digitChar k).isDigit = true := by
  rw [Nat.isDigit_digitChar]
  exact decide_eq_true k.isLt

theorem value_snoc (digits : List Char) (k : Fin 10) :
    value (digits ++ [Nat.digitChar k]) = 10 * value digits + k := by
  have ones : (Nat.digitChar k).toNat = '0'.toNat + k := Nat.toNat_digitChar_of_lt_ten k.isLt
  rw [value, Nat.ofDigitChars_append, Nat.ofDigitChars_cons, ones, Nat.add_sub_cancel_left]
  rfl

theorem exists_digitChar {c : Char} (digit : c.isDigit = true) :
    ∃ k : Fin 10, Nat.digitChar k = c := by
  obtain ⟨low, high⟩ := Char.isDigit_iff_toNat.1 digit
  have zero : '0'.toNat = 48 := rfl
  have nine : '9'.toNat = 57 := rfl
  have small : c.toNat - 48 < 10 := by omega
  refine ⟨⟨c.toNat - 48, small⟩, Char.toNat_inj.1 ?_⟩
  rw [Nat.toNat_digitChar_of_lt_ten small]
  omega

theorem Spells.isDigit {digits : List Char} {n : Nat} (spelled : Spells digits n) :
    ∀ c ∈ digits, c.isDigit = true := by
  induction spelled with
  | digit k => exact List.forall_mem_singleton.2 (isDigit_digitChar k)
  | more before k ih =>
    exact List.forall_mem_append.2 ⟨ih, List.forall_mem_singleton.2 (isDigit_digitChar k)⟩

theorem Spells.value_eq {digits : List Char} {n : Nat} (spelled : Spells digits n) :
    value digits = n := by
  induction spelled with
  | digit k =>
    rw [← List.nil_append [Nat.digitChar k], value_snoc]
    exact Nat.zero_add k
  | more before k ih => rw [value_snoc, ih]

theorem Spells.ne_nil {digits : List Char} {n : Nat} (spelled : Spells digits n) : digits ≠ [] := by
  cases spelled <;> simp

theorem spells_value {digits : List Char} (nonempty : digits ≠ [])
    (all : ∀ c ∈ digits, c.isDigit = true) : Spells digits (value digits) := by
  induction digits using List.reverseRecOn with
  | nil => exact absurd rfl nonempty
  | append_singleton before c ih =>
    obtain ⟨earlier, last⟩ := List.forall_mem_append.1 all
    obtain ⟨k, rfl⟩ := exists_digitChar (last c List.mem_cons_self)
    cases before with
    | nil =>
      have single : value [Nat.digitChar k] = k := (Spells.digit k).value_eq
      rw [List.nil_append, single]
      exact .digit k
    | cons first others =>
      rw [value_snoc]
      exact (ih (List.cons_ne_nil first others) earlier).more k

theorem read?_eq_some_iff {text : List Char} {n : Nat} :
    read? text = some n ↔ Spells text n := by
  rw [read?, Option.ite_none_right_eq_some]
  constructor
  · rintro ⟨accepted, same⟩
    obtain ⟨nonempty, all⟩ := Bool.and_eq_true_iff.1 accepted
    obtain rfl := Option.some.inj same
    exact spells_value (by simpa using nonempty) (List.all_eq_true.1 all)
  · intro spelled
    have all := List.all_eq_true.2 spelled.isDigit
    simp [spelled.ne_nil, all, spelled.value_eq]

end Numeral

theorem Column.ofId?_eq_some_iff {s : String} {c : Column} : ofId? s = some c ↔ c.id = s := by
  constructor
  · intro found
    have same := List.find?_some found
    exact of_decide_eq_true same
  · rintro rfl
    exact ofId?_id c

namespace OverviewCell

/-! ## Positions -/

/-- Digits spell a position, and may stand after a plus sign. -/
def SpellsIndex (text : String) (i : Nat) : Prop :=
  ∃ digits, Numeral.Spells digits i ∧ (text.toList = digits ∨ text.toList = '+' :: digits)

/-- A text without the plus sign that it may begin with. -/
def unsigned : List Char → List Char
  | '+' :: rest => rest
  | other => other

theorem spellsIndex_iff {text : String} {i : Nat} :
    SpellsIndex text i ↔ Numeral.Spells (unsigned text.toList) i := by
  constructor
  · rintro ⟨digits, spelled, plain | signed⟩
    · have no_sign : ∀ rest, digits ≠ '+' :: rest := by
        rintro rest rfl
        exact absurd (spelled.isDigit '+' List.mem_cons_self) (by decide)
      rwa [plain, unsigned]
      exact no_sign
    · rwa [signed, unsigned]
  · intro spelled
    refine ⟨unsigned text.toList, spelled, ?_⟩
    unfold unsigned
    split
    case h_1 rest signed => exact .inr signed
    case h_2 => exact .inl rfl

theorem readIndex?_eq_some_iff {text : String} {i : Nat} :
    readIndex? text = some i ↔ SpellsIndex text i ∧ i < 2 ^ 64 := by
  show (Numeral.read? (unsigned text.toList)).filter (fun i => i < indexLimit) = some i ↔ _
  rw [Option.filter_eq_some_iff, Numeral.read?_eq_some_iff, spellsIndex_iff, decide_eq_true_iff]
  rfl

theorem readIndex?_eq_none_iff {text : String} :
    readIndex? text = none ↔ ∀ i, SpellsIndex text i → 2 ^ 64 ≤ i := by
  rw [Option.eq_none_iff_forall_ne_some]
  refine forall_congr' fun i => ?_
  rw [ne_eq, readIndex?_eq_some_iff, not_and, Nat.not_lt]

/-! ## What the attributes come to -/

/-- What the bucket of a latency cell comes to. -/
inductive ReadsBucket : Option String → Except Failure LatencyBucket → Prop where
  | bucket {text : String} {b : LatencyBucket} (spelled : SpellsIndex text b.index) :
      ReadsBucket (some text) (.ok b)
  | outOfRange {text : String} {i : Nat} (spelled : SpellsIndex text i) (high : 9 ≤ i)
      (small : i < 2 ^ 64) : ReadsBucket (some text) (.error (.bucketOutOfRange i))
  | missing : ReadsBucket none (.error (.setup .bucketMissing))
  | unreadable {text : String} (large : ∀ i, SpellsIndex text i → 2 ^ 64 ≤ i) :
      ReadsBucket (some text) (.error (.setup (.badBucket text)))

theorem readsBucket_readBucket (bucket : Option String) :
    ReadsBucket bucket (readBucket bucket) := by
  cases bucket with
  | none => exact .missing
  | some text =>
    cases index : readIndex? text with
    | none =>
      simp only [readBucket, index]
      exact .unreadable (readIndex?_eq_none_iff.1 index)
    | some i =>
      obtain ⟨spelled, small⟩ := readIndex?_eq_some_iff.1 index
      cases found : LatencyBucket.ofIndex? i with
      | none =>
        simp only [readBucket, index, found]
        refine .outOfRange spelled (Nat.not_lt.1 fun inside => ?_) small
        obtain ⟨b, present⟩ := LatencyBucket.exists_ofIndex? inside
        rw [found] at present
        cases present
      | some b =>
        simp only [readBucket, index, found]
        refine .bucket ?_
        rwa [LatencyBucket.index_of_ofIndex? found]

/-- No text has two readings. -/
theorem readBucket_eq_iff {bucket : Option String} {result : Except Failure LatencyBucket} :
    readBucket bucket = result ↔ ReadsBucket bucket result := by
  constructor
  · rintro rfl
    exact readsBucket_readBucket bucket
  · intro reads
    cases reads with
    | @bucket text b spelled =>
      have small : (b.index : Nat) < 2 ^ 64 := Nat.lt_trans b.index.isLt (by decide)
      simp only [readBucket, readIndex?_eq_some_iff.2 ⟨spelled, small⟩,
        LatencyBucket.ofIndex?_index]
    | @outOfRange text i spelled high small =>
      have absent : LatencyBucket.ofIndex? i = none := List.getElem?_eq_none high
      simp only [readBucket, readIndex?_eq_some_iff.2 ⟨spelled, small⟩, absent]
    | missing => rfl
    | unreadable large => simp only [readBucket, readIndex?_eq_none_iff.2 large]

/-- What the attributes of a clicked cell come to. -/
inductive ReadsCell : String → Option String → Except Failure OverviewCell → Prop where
  | errorCount (bucket : Option String) : ReadsCell "error" bucket (.ok .errorCount)
  | runningCount (bucket : Option String) : ReadsCell "running" bucket (.ok .runningCount)
  | latency {bucket : Option String} {b : LatencyBucket} (reads : ReadsBucket bucket (.ok b)) :
      ReadsCell "latency" bucket (.ok (.latency b))
  | badLatency {bucket : Option String} {failure : Failure}
      (reads : ReadsBucket bucket (.error failure)) : ReadsCell "latency" bucket (.error failure)
  /-- No column has the identifier. -/
  | unknownColumn {column : String} (bucket : Option String)
      (unknown : ∀ c : Column, c.id ≠ column) :
      ReadsCell column bucket (.error (.setup (.unknownColumn column)))
  /-- A click on the column opens no detail view. -/
  | notClickable {c : Column} (bucket : Option String) (closed : c.detailView? = none) :
      ReadsCell c.id bucket (.error (.setup (.notClickable c)))

theorem readsCell_ofAttributes (column : String) (bucket : Option String) :
    ReadsCell column bucket (ofAttributes column bucket) := by
  cases found : Column.ofId? column with
  | none =>
    simp only [ofAttributes, found]
    refine .unknownColumn bucket fun c same => ?_
    rw [Column.ofId?_eq_some_iff.2 same] at found
    cases found
  | some c =>
    obtain rfl := Column.ofId?_eq_some_iff.1 found
    simp only [ofAttributes, found]
    cases c with
    | errorCount => exact .errorCount bucket
    | runningCount => exact .runningCount bucket
    | latencyCounts =>
      have reads := readsBucket_readBucket bucket
      cases result : readBucket bucket with
      | ok b => exact .latency (result ▸ reads)
      | error failure => exact .badLatency (result ▸ reads)
    | _ => exact .notClickable bucket rfl

/-- The attributes are read as the grammar says, and no attributes have two readings. -/
theorem ofAttributes_eq_iff {column : String} {bucket : Option String}
    {result : Except Failure OverviewCell} :
    ofAttributes column bucket = result ↔ ReadsCell column bucket result := by
  constructor
  · rintro rfl
    exact readsCell_ofAttributes column bucket
  · intro reads
    cases reads with
    | errorCount => rfl
    | runningCount => rfl
    | latency reads =>
      show (readBucket bucket).map OverviewCell.latency = _
      rw [readBucket_eq_iff.2 reads]
      rfl
    | badLatency reads =>
      show (readBucket bucket).map OverviewCell.latency = _
      rw [readBucket_eq_iff.2 reads]
      rfl
    | unknownColumn _ unknown =>
      have none_found : Column.ofId? column = none :=
        Option.eq_none_iff_forall_ne_some.2 fun c found =>
          unknown c (Column.ofId?_eq_some_iff.1 found)
      simp only [ofAttributes, none_found]
    | @notClickable c _ closed =>
      cases c <;> first | rfl | cases closed

/-! ## The cases one by one -/

section Cases

variable {column : String} {bucket : Option String}

theorem ofAttributes_eq_errorCount_iff :
    ofAttributes column bucket = .ok .errorCount ↔ column = "error" := by
  rw [ofAttributes_eq_iff]
  constructor
  · rintro ⟨⟩
    rfl
  · rintro rfl
    exact .errorCount bucket

theorem ofAttributes_eq_runningCount_iff :
    ofAttributes column bucket = .ok .runningCount ↔ column = "running" := by
  rw [ofAttributes_eq_iff]
  constructor
  · rintro ⟨⟩
    rfl
  · rintro rfl
    exact .runningCount bucket

theorem ofAttributes_eq_latency_iff {b : LatencyBucket} :
    ofAttributes column bucket = .ok (.latency b) ↔ column = "latency" ∧
      ∃ text i, bucket = some text ∧ SpellsIndex text i ∧ i ≤ 8 ∧ (b.index : Nat) = i := by
  rw [ofAttributes_eq_iff]
  constructor
  · rintro (_ | _ | ⟨⟨spelled⟩⟩)
    exact ⟨rfl, _, _, rfl, spelled, Nat.le_of_lt_succ b.index.isLt, rfl⟩
  · rintro ⟨rfl, text, i, rfl, spelled, -, rfl⟩
    exact .latency (.bucket spelled)

theorem ofAttributes_eq_outOfRange_iff {i : Nat} :
    ofAttributes column bucket = .error (.bucketOutOfRange i) ↔ column = "latency" ∧
      ∃ text, bucket = some text ∧ SpellsIndex text i ∧ 9 ≤ i ∧ i < 2 ^ 64 := by
  rw [ofAttributes_eq_iff]
  constructor
  · rintro (_ | _ | _ | (_ | ⟨spelled, high, small⟩))
    exact ⟨rfl, _, rfl, spelled, high, small⟩
  · rintro ⟨rfl, text, rfl, spelled, high, small⟩
    exact .badLatency (.outOfRange spelled high small)

theorem exists_ofAttributes_iff :
    (∃ cell, ofAttributes column bucket = .ok cell) ↔
      column = "error" ∨ column = "running" ∨ column = "latency" ∧
        ∃ text i, bucket = some text ∧ SpellsIndex text i ∧ i ≤ 8 := by
  constructor
  · rintro ⟨cell, decoded⟩
    cases cell with
    | errorCount => exact .inl (ofAttributes_eq_errorCount_iff.1 decoded)
    | runningCount => exact .inr (.inl (ofAttributes_eq_runningCount_iff.1 decoded))
    | latency b =>
      obtain ⟨named, text, i, given, spelled, low, -⟩ := ofAttributes_eq_latency_iff.1 decoded
      exact .inr (.inr ⟨named, text, i, given, spelled, low⟩)
  · rintro (named | named | ⟨named, text, i, given, spelled, low⟩)
    · exact ⟨_, ofAttributes_eq_errorCount_iff.2 named⟩
    · exact ⟨_, ofAttributes_eq_runningCount_iff.2 named⟩
    · obtain ⟨b, found⟩ := LatencyBucket.exists_ofIndex? (Nat.lt_succ_of_le low)
      have position := LatencyBucket.index_of_ofIndex? found
      exact ⟨_, ofAttributes_eq_latency_iff.2 ⟨named, text, i, given, spelled, low, position⟩⟩

theorem exists_setupFault_iff :
    (∃ fault, ofAttributes column bucket = .error (.setup fault)) ↔
      ¬ (column = "error" ∨ column = "running" ∨ column = "latency" ∧
        ∃ text i, bucket = some text ∧ SpellsIndex text i ∧ i < 2 ^ 64) := by
  constructor
  · rintro ⟨fault, failed⟩ (named | named | ⟨named, text, i, given, spelled, small⟩)
    · cases failed.symm.trans (ofAttributes_eq_errorCount_iff.2 named)
    · cases failed.symm.trans (ofAttributes_eq_runningCount_iff.2 named)
    · rcases Nat.lt_or_ge i 9 with low | high
      · obtain ⟨cell, decoded⟩ := exists_ofAttributes_iff.2
          (.inr (.inr ⟨named, text, i, given, spelled, Nat.le_of_lt_succ low⟩))
        cases failed.symm.trans decoded
      · have rejected := ofAttributes_eq_outOfRange_iff.2 ⟨named, text, given, spelled, high, small⟩
        cases failed.symm.trans rejected
  · intro other
    cases result : ofAttributes column bucket with
    | ok cell =>
      refine absurd (exists_ofAttributes_iff.1 ⟨cell, result⟩) fun accepted => other ?_
      refine accepted.imp_right (Or.imp_right ?_)
      rintro ⟨named, text, i, given, spelled, low⟩
      exact ⟨named, text, i, given, spelled, Nat.lt_of_le_of_lt low (by decide)⟩
    | error failure =>
      cases ofAttributes_eq_iff.1 result with
      | badLatency reads =>
        cases reads with
        | outOfRange spelled high small =>
          exact absurd (.inr (.inr ⟨rfl, _, _, rfl, spelled, small⟩)) other
        | missing => exact ⟨_, rfl⟩
        | unreadable => exact ⟨_, rfl⟩
      | unknownColumn => exact ⟨_, rfl⟩
      | notClickable => exact ⟨_, rfl⟩

end Cases

/-- **The attributes of a clicked cell are read by an exact grammar.** They stand for the error or
the running cell exactly if the column is so called, whatever the bucket is, and for the cell of a
latency bucket exactly if the column is `latency` and the bucket is there and spells the position of
this bucket. A position that is too high, but fits in 64 bits, is reported as such. Everything else
is a fault of the setup, and the grammar says which. -/
theorem attributes_read_exactly (column : String) (bucket : Option String) :
    (ofAttributes column bucket = .ok .errorCount ↔ column = "error") ∧
    (ofAttributes column bucket = .ok .runningCount ↔ column = "running") ∧
    (∀ b, ofAttributes column bucket = .ok (.latency b) ↔ column = "latency" ∧
      ∃ text i, bucket = some text ∧ SpellsIndex text i ∧ i ≤ 8 ∧ (b.index : Nat) = i) ∧
    ((∃ cell, ofAttributes column bucket = .ok cell) ↔
      column = "error" ∨ column = "running" ∨ column = "latency" ∧
        ∃ text i, bucket = some text ∧ SpellsIndex text i ∧ i ≤ 8) ∧
    (∀ i, ofAttributes column bucket = .error (.bucketOutOfRange i) ↔ column = "latency" ∧
      ∃ text, bucket = some text ∧ SpellsIndex text i ∧ 9 ≤ i ∧ i < 2 ^ 64) ∧
    ((∃ fault, ofAttributes column bucket = .error (.setup fault)) ↔
      ¬ (column = "error" ∨ column = "running" ∨ column = "latency" ∧
        ∃ text i, bucket = some text ∧ SpellsIndex text i ∧ i < 2 ^ 64)) ∧
    ∀ result, ofAttributes column bucket = result ↔ ReadsCell column bucket result := by
  refine ⟨ofAttributes_eq_errorCount_iff, ofAttributes_eq_runningCount_iff, fun b => ?_,
    exists_ofAttributes_iff, fun i => ?_, exists_setupFault_iff, fun result => ofAttributes_eq_iff⟩
  · exact ofAttributes_eq_latency_iff
  · exact ofAttributes_eq_outOfRange_iff

example : ofAttributes "latency" (some "+0003") = .ok (.latency .from1ms) := by
  rfl

end OverviewCell

end SpanDashboard
