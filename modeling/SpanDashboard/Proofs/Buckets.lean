import Mathlib.Data.List.Basic
import SpanDashboard.LatencyBucket

/-!
# Durations and their buckets

The bucket of a duration is the last one that starts at or before it. The search of `for_duration`
finds this one (`isLast_ofDuration`), and the test `contains` accepts exactly the durations of which
it is this one (`contains_iff_isLast`), because a bucket ends where the next one starts. That the
two agree follows, and so does that buckets and durations are in the same order.
-/

set_option autoImplicit false

namespace SpanDashboard.LatencyBucket

/-- Later buckets start at longer durations. -/
theorem all_increasing :
    all.Pairwise fun a b => a.index < b.index ∧ a.lowerBound < b.lowerBound := by
  decide

theorem index_inj {a b : LatencyBucket} (same : a.index = b.index) : a = b := by
  have found := ofIndex?_index a
  rw [same, ofIndex?_index] at found
  exact (Option.some.inj found).symm

theorem lowerBound_le_iff {a b : LatencyBucket} :
    a.lowerBound ≤ b.lowerBound ↔ a.index ≤ b.index := by
  cases a <;> cases b <;> decide

theorem lowerBound_nonneg (b : LatencyBucket) : 0 ≤ b.lowerBound := by
  cases b <;> decide

theorem index_getElem_all : ∀ i : Fin all.length, (all[i].index : Nat) = i := by
  decide

theorem index_of_ofIndex? {i : Nat} {b : LatencyBucket} (found : ofIndex? i = some b) :
    b.index = i := by
  obtain ⟨inside, rfl⟩ := List.getElem?_eq_some_iff.1 found
  exact index_getElem_all ⟨i, inside⟩

theorem exists_ofIndex? {i : Nat} (inside : i < count) : ∃ b, ofIndex? i = some b :=
  ⟨all.get ⟨i, inside⟩, List.getElem?_eq_getElem inside⟩

/-! ## The last bucket that starts at or before a duration -/

/-- The bucket starts at or before the duration, and so does no later one. -/
def IsLast (b : LatencyBucket) (duration : Int) : Prop :=
  b.lowerBound ≤ duration ∧ ∀ c : LatencyBucket, c.lowerBound ≤ duration → c.index ≤ b.index

theorem IsLast.unique {a b : LatencyBucket} {duration : Int} (first : a.IsLast duration)
    (second : b.IsLast duration) : a = b :=
  index_inj (Fin.le_antisymm (second.2 a first.1) (first.2 b second.1))

/-- The upper bound of a bucket is the lower bound of all later ones together. -/
theorem upperBound?_all_iff {b : LatencyBucket} {duration : Int} :
    (b.upperBound?.all fun upper => duration < upper) = true ↔
      ∀ c : LatencyBucket, c.lowerBound ≤ duration → c.index ≤ b.index := by
  cases next : b.next? with
  | none =>
    have last : ∀ c : LatencyBucket, c.index ≤ b.index := by
      intro c
      by_contra later
      have inside : (b.index : Nat) + 1 < count := by
        have bound := c.index.isLt
        have above : (b.index : Nat) < c.index := Fin.not_le.1 later
        omega
      obtain ⟨d, found⟩ := exists_ofIndex? inside
      rw [next?, found] at next
      cases next
    simp [upperBound?, next, last]
  | some above =>
    have position : (above.index : Nat) = b.index + 1 := index_of_ofIndex? next
    have before : (b.upperBound?.all fun upper => duration < upper) = true ↔
        duration < above.lowerBound := by
      simp [upperBound?, next]
    rw [before]
    constructor
    · intro ended c started
      have lower : c.lowerBound < above.lowerBound := Int.lt_of_le_of_lt started ended
      have earlier : ¬ above.index ≤ c.index := fun le =>
        Int.not_le.2 lower (lowerBound_le_iff.2 le)
      have : (c.index : Nat) < above.index := Fin.not_le.1 earlier
      exact Fin.le_def.2 (by omega)
    · intro last
      by_contra started
      have le : (above.index : Nat) ≤ b.index := last above (Int.not_lt.1 started)
      omega

/-- The durations in a bucket are those of which it is the last one to start. -/
theorem contains_iff_isLast {b : LatencyBucket} {duration : Int} :
    b.contains duration = true ↔ b.IsLast duration := by
  rw [contains, Bool.and_eq_true, decide_eq_true_iff, upperBound?_all_iff, IsLast]

/-! ## The bucket that is found for a duration -/

theorem ofDuration_of_neg {duration : Int} (negative : duration < 0) :
    ofDuration duration = from0s := by
  have none_starts : (all.reverse.find? fun b => b.lowerBound ≤ duration) = none := by
    refine List.find?_eq_none.2 fun b _ started => ?_
    have := lowerBound_nonneg b
    have := of_decide_eq_true started
    omega
  rw [ofDuration, none_starts, Option.getD_none]

/-- The search goes through the buckets from the last one down, so it stops at the last one that
starts at or before the duration. -/
theorem isLast_ofDuration {duration : Int} (nonneg : 0 ≤ duration) :
    (ofDuration duration).IsLast duration := by
  have starts : (all.reverse.find? fun b => b.lowerBound ≤ duration).isSome = true :=
    List.find?_isSome.2 ⟨from0s, by decide, decide_eq_true nonneg⟩
  obtain ⟨b, found⟩ := Option.isSome_iff_exists.1 starts
  obtain ⟨started, later, earlier, split, skipped⟩ := List.find?_eq_some_iff_append.1 found
  have decreasing : (later ++ b :: earlier).Pairwise fun a c => c.index < a.index := by
    rw [← split, List.pairwise_reverse]
    exact all_increasing.imp And.left
  rw [ofDuration, found, Option.getD_some]
  refine ⟨of_decide_eq_true started, fun c starts => ?_⟩
  have member : c ∈ later ++ b :: earlier := by
    rw [← split]
    exact List.mem_reverse.2 (mem_all c)
  rcases List.mem_append.1 member with passed | reached
  · have := skipped c passed
    simp [starts] at this
  · rcases List.mem_cons.1 reached with rfl | before
    · exact Fin.le_refl _
    · have ordered := (List.pairwise_append.1 decreasing).2.1
      exact Fin.le_of_lt ((List.pairwise_cons.1 ordered).1 c before)

theorem contains_iff_eq_ofDuration {b : LatencyBucket} {duration : Int} (nonneg : 0 ≤ duration) :
    b.contains duration = true ↔ b = ofDuration duration := by
  rw [contains_iff_isLast]
  constructor
  · intro last
    exact last.unique (isLast_ofDuration nonneg)
  · rintro rfl
    exact isLast_ofDuration nonneg

theorem ofDuration_mono {shorter longer : Int} (le : shorter ≤ longer) :
    (ofDuration shorter).index ≤ (ofDuration longer).index := by
  by_cases negative : shorter < 0
  · rw [ofDuration_of_neg negative]
    exact Fin.zero_le _
  · have nonneg : 0 ≤ shorter := Int.not_lt.1 negative
    have started := (isLast_ofDuration nonneg).1
    exact (isLast_ofDuration (Int.le_trans nonneg le)).2 _ (Int.le_trans started le)

/-- **The buckets partition the durations, and the search agrees with the test.** A duration that is
not negative is in exactly one of the nine buckets, and this is the one that is found for it; a
negative one is in none, and the first bucket is found for it. A longer duration never has an
earlier bucket. -/
theorem buckets_partition (duration : Int) :
    all.length = 9 ∧ (∀ b : LatencyBucket, b ∈ all) ∧
    (0 ≤ duration → ∀ b : LatencyBucket, b.contains duration = true ↔ b = ofDuration duration) ∧
    (duration < 0 → (∀ b : LatencyBucket, b.contains duration = false) ∧
      all.head? = some (ofDuration duration)) ∧
    ∀ longer, duration ≤ longer → (ofDuration duration).index ≤ (ofDuration longer).index := by
  refine ⟨rfl, mem_all, fun nonneg b => contains_iff_eq_ofDuration nonneg, fun negative => ⟨?_, ?_⟩,
    fun longer => ofDuration_mono⟩
  · intro b
    refine Bool.eq_false_iff.2 fun inside => ?_
    have started := (contains_iff_isLast.1 inside).1
    have := lowerBound_nonneg b
    omega
  · rw [ofDuration_of_neg negative]
    rfl

end SpanDashboard.LatencyBucket
