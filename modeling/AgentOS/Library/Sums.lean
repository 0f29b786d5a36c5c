import Mathlib.Algebra.Order.BigOperators.Group.List
import Mathlib.Algebra.Order.Floor.Ring
import Mathlib.Algebra.Order.Ring.Int
import Mathlib.Tactic.Linarith

/-! Sums of costs over lists: what a page of a list leaves out, sums taken group by
group, and sums of terms that are rounded up. -/
namespace Library.Sums
variable {α β : Type} {cost : α → Int}

def sum (items : List α) (cost : α → Int) : Int := (items.map cost).sum

@[simp] theorem sum_nil (cost : α → Int) : sum [] cost = 0 := rfl

@[simp] theorem sum_cons (item : α) (items : List α) (cost : α → Int) : sum (item::items) cost = cost item + sum items cost := by
  simp [sum]

theorem sum_append (first second : List α) (cost : α → Int) : sum (first ++ second) cost = sum first cost + sum second cost := by
  simp [sum]

theorem sum_perm {first second : List α} (perm : first.Perm second) (cost : α → Int) : sum first cost = sum second cost :=
  (perm.map cost).sum_eq

theorem sum_congr {items : List α} {first second : α → Int} (same : ∀ item ∈ items, first item = second item) :
    sum items first = sum items second := by
  rw [sum,sum,List.map_congr_left same]

theorem sum_filter (items : List α) (counted : α → Bool) (cost : α → Int) :
    sum (items.filter counted) cost = sum items fun item => if counted item then cost item else 0 := by
  induction items with
  | nil => rfl
  | cons item items ih =>
    cases kept : counted item with
    | true => simp [kept,ih]
    | false => simp [kept,ih]

theorem sum_nonneg {items : List α} (free : ∀ item ∈ items, 0 ≤ cost item) : 0 ≤ sum items cost := by
  apply List.sum_nonneg
  intro price listed
  obtain ⟨item,inside,rfl⟩ := List.mem_map.mp listed
  exact free item inside

theorem sum_eq_zero_iff {items : List α} (free : ∀ item ∈ items, 0 ≤ cost item) :
    sum items cost = 0 ↔ ∀ item ∈ items, cost item = 0 := by
  induction items with
  | nil => simp
  | cons item items ih =>
    have here := free item List.mem_cons_self
    have later := fun other inside => free other (List.mem_cons_of_mem item inside)
    have rest := sum_nonneg later
    rw [sum_cons,List.forall_mem_cons,← ih later]
    omega

theorem sum_add (items : List α) (first second : α → Int) :
    (sum items fun item => first item + second item) = sum items first + sum items second := by
  induction items with
  | nil => rfl
  | cons item items ih =>
    rw [sum_cons,sum_cons,sum_cons,ih]
    omega

theorem sum_take_add (items : List α) (cost : α → Int) (page : Nat) :
    sum items cost = sum (items.take page) cost + sum (items.drop page) cost := by
  rw [← sum_append,List.take_append_drop]

theorem sum_groups [DecidableEq β] (groups : List β) (items : List α) (group : α → β) (cost : α → Int) (distinct : groups.Nodup) :
    sum groups (fun one => sum items fun item => if group item = one then cost item else 0) =
      sum items fun item => if group item ∈ groups then cost item else 0 := by
  induction groups with
  | nil =>
    have nothing : sum items (fun _ => 0) = 0 := (sum_eq_zero_iff fun _ _ => le_rfl).mpr fun _ _ => rfl
    simpa using nothing.symm
  | cons one groups ih =>
    obtain ⟨fresh,distinct⟩ := List.nodup_cons.mp distinct
    rw [sum_cons,ih distinct]
    clear ih
    induction items with
    | nil => rfl
    | cons item items ih =>
      rw [sum_cons,sum_cons,sum_cons,← ih]
      have apart : (if group item ∈ one::groups then cost item else 0) =
          (if group item = one then cost item else 0) + if group item ∈ groups then cost item else 0 := by
        by_cases same : group item = one
        · simp [same,fresh]
        · simp [same]
      rw [apart]
      omega

/-! ### Terms that are each rounded up -/

section
variable {R : Type} [Field R] [LinearOrder R] [IsStrictOrderedRing R] [FloorRing R] {first second : α → R}
variable (items : List α)

def nonzero (term : α → R) : Nat := items.countP fun item => term item ≠ 0

theorem le_sum_ceil (term : α → R) : (items.map term).sum ≤ sum items fun item => ⌈term item⌉ := by
  induction items with
  | nil => simp
  | cons item items ih =>
    have here := Int.le_ceil (term item)
    rw [List.map_cons,List.sum_cons,sum_cons]
    push_cast
    linarith

theorem sum_ceil_lt (term : α → R) : ((sum items fun item => ⌈term item⌉ : Int) : R) < (items.map term).sum + nonzero items term ∨
      nonzero items term = 0 ∧ ((sum items fun item => ⌈term item⌉ : Int) : R) = (items.map term).sum := by
  induction items with
  | nil => simp [nonzero]
  | cons item items ih =>
    rw [List.map_cons,List.sum_cons,sum_cons,nonzero,List.countP_cons,← nonzero]
    by_cases zero : term item = 0
    · simpa [zero] using ih
    · have here := Int.ceil_lt_add_one (term item)
      have later : ((sum items fun item => ⌈term item⌉ : Int) : R) ≤ (items.map term).sum + nonzero items term := by
        obtain below | ⟨none_,same⟩ := ih
        · exact below.le
        · simp [none_,same]
      left
      simp only [zero,ne_eq,not_false_eq_true,decide_true,if_true]
      push_cast
      linarith

omit [IsStrictOrderedRing R] in
theorem sum_ceil_mono (below : ∀ item ∈ items, first item ≤ second item) :
    (sum items fun item => ⌈first item⌉) ≤ sum items fun item => ⌈second item⌉ := by
  induction items with
  | nil => simp
  | cons item items ih =>
    have here := Int.ceil_le_ceil (below item List.mem_cons_self)
    have later := ih fun other inside => below other (List.mem_cons_of_mem item inside)
    rw [sum_cons,sum_cons]
    omega

theorem sum_ceil_add (first second : α → R) :
    (sum items fun item => ⌈first item + second item⌉) ≤ (sum items fun item => ⌈first item⌉) + (sum items fun item => ⌈second item⌉) ∧
      (sum items fun item => ⌈first item⌉) + (sum items fun item => ⌈second item⌉) ≤
        (sum items fun item => ⌈first item + second item⌉) + items.length := by
  induction items with
  | nil => simp
  | cons item items ih =>
    have apart := Int.ceil_add_le (first item) (second item)
    have together := Int.ceil_add_ceil_le (first item) (second item)
    simp only [sum_cons,List.length_cons]
    push_cast
    omega

end

end Library.Sums
