import Mathlib.Data.List.Forall2
import SpanDashboard.Response

/-!
# Results of readers

When a reader gives a value and when it gives an error, for the ways in which readers are put
together. A list is read item by item: what is read of it stands in the order of the items, and the
error is that of the first item that cannot be read. So is the body of a response.
-/

set_option autoImplicit false

namespace SpanDashboard

variable {ε α β γ : Type}

theorem bind_eq_ok_iff {x : Except ε α} {f : α → Except ε β} {b : β} :
    x >>= f = .ok b ↔ ∃ a, x = .ok a ∧ f a = .ok b := by
  cases x <;> simp [bind, Except.bind]

theorem map_eq_ok_iff {x : Except ε α} {f : α → β} {b : β} :
    x.map f = .ok b ↔ ∃ a, x = .ok a ∧ f a = b := by
  cases x <;> simp [Except.map]

/-- All of a list is read exactly if each of its values is. -/
theorem mapM_eq_ok_iff {f : α → Except ε β} {as : List α} {bs : List β} :
    as.mapM f = .ok bs ↔ List.Forall₂ (fun a b => f a = .ok b) as bs := by
  induction as generalizing bs with
  | nil =>
    rw [List.mapM_nil, List.forall₂_nil_left_iff]
    exact ⟨fun same => (Except.ok.inj same).symm, fun same => congrArg Except.ok same.symm⟩
  | cons a as ih =>
    rw [List.mapM_cons, bind_eq_ok_iff, List.forall₂_cons_left_iff]
    constructor
    · rintro ⟨b, first, more⟩
      obtain ⟨later, others, same⟩ := bind_eq_ok_iff.1 more
      exact ⟨b, later, first, ih.1 others, (Except.ok.inj same).symm⟩
    · rintro ⟨b, later, first, others, rfl⟩
      exact ⟨b, first, bind_eq_ok_iff.2 ⟨later, ih.2 others, rfl⟩⟩

/-- A list is not read exactly if there is a first value that is not. -/
theorem mapM_eq_error_iff {f : α → Except ε β} {as : List α} {e : ε} :
    as.mapM f = .error e ↔
      ∃ before a after, as = before ++ a :: after ∧ (∀ x ∈ before, ∃ b, f x = .ok b) ∧
        f a = .error e := by
  induction as with
  | nil =>
    refine iff_of_false nofun ?_
    rintro ⟨before, a, after, split, -⟩
    cases before <;> cases split
  | cons first rest ih =>
    have stepped : (first :: rest).mapM f = .error e ↔
        f first = .error e ∨ ∃ b, f first = .ok b ∧ rest.mapM f = .error e := by
      rw [List.mapM_cons]
      cases f first <;> cases rest.mapM f <;> simp [bind, Except.bind, pure, Except.pure]
    rw [stepped]
    constructor
    · rintro (bad | ⟨b, read, later⟩)
      · exact ⟨[], first, rest, rfl, nofun, bad⟩
      · obtain ⟨before, a, after, rfl, good, bad⟩ := ih.1 later
        exact ⟨first :: before, a, after, rfl, List.forall_mem_cons.2 ⟨⟨b, read⟩, good⟩, bad⟩
    · rintro ⟨before, a, after, split, good, bad⟩
      cases before with
      | nil =>
        obtain ⟨rfl, -⟩ := List.cons.inj split
        exact .inl bad
      | cons x before =>
        obtain ⟨rfl, rfl⟩ := List.cons.inj split
        obtain ⟨⟨b, read⟩, good⟩ := List.forall_mem_cons.1 good
        exact .inr ⟨b, read, ih.2 ⟨before, a, after, rfl, good, bad⟩⟩

theorem exists_forall₂_iff {R : α → β → Prop} {as : List α} :
    (∃ bs, List.Forall₂ R as bs) ↔ ∀ a ∈ as, ∃ b, R a b := by
  induction as with
  | nil => simp
  | cons a as ih =>
    rw [List.forall_mem_cons, ← ih]
    simp only [List.forall₂_cons_left_iff]
    constructor
    · rintro ⟨-, b, bs, first, others, -⟩
      exact ⟨⟨b, first⟩, bs, others⟩
    · rintro ⟨⟨b, first⟩, bs, others⟩
      exact ⟨_, b, bs, first, others, rfl⟩

theorem exists_of_mem_right {R : α → β → Prop} {as : List α} {bs : List β}
    (all : List.Forall₂ R as bs) {b : β} (member : b ∈ bs) : ∃ a ∈ as, R a b := by
  induction all with
  | nil => cases member
  | cons related _ ih =>
    rcases List.mem_cons.1 member with rfl | later
    · exact ⟨_, List.mem_cons_self, related⟩
    · obtain ⟨a, inside, related⟩ := ih later
      exact ⟨a, List.mem_cons_of_mem _ inside, related⟩

theorem exists_map_of_forall₂ {R : α → β → Prop} {f : β → γ} {as : List α}
    {cs : List γ} (all : List.Forall₂ (fun a c => ∃ b, R a b ∧ f b = c) as cs) :
    ∃ bs, cs = bs.map f ∧ List.Forall₂ R as bs := by
  induction all with
  | nil => exact ⟨[], rfl, .nil⟩
  | cons first _ ih =>
    obtain ⟨b, related, rfl⟩ := first
    obtain ⟨bs, rfl, others⟩ := ih
    exact ⟨b :: bs, rfl, .cons related others⟩

/-- The body of a response is an array of rows of the view. -/
theorem Response.rows_eq_ok_iff {view : View} {body : String} {rows : List Row} :
    Response.rows view body = .ok rows ↔
      ∃ items, Json.parse? body = some (.array items) ∧
        List.Forall₂ (fun w row => view.readRow w = .ok row) items rows := by
  rw [Response.rows]
  split
  case h_1 nothing => simp [nothing]
  case h_2 items read =>
    simp only [read, Option.some_inj, Json.array.injEq, exists_eq_left', ← mapM_eq_ok_iff]
    cases items.mapM view.readRow <;> simp [Except.mapError]
  case h_3 v other read =>
    simp only [read, Option.some_inj]
    refine iff_of_false nofun ?_
    rintro ⟨items, same, -⟩
    exact other items same

end SpanDashboard
