import Mathlib.Data.Int.NatAbs
import Mathlib.Data.List.Basic

/-! Two machines under one sequence of inputs. Where related states answer alike exactly on the inputs that meet a
condition, the machines answer alike exactly as long as the inputs meet it. -/
namespace Library.Machines
variable {σ τ ι ο : Type}

def after (step : σ → ι → ο × σ) (state : σ) (inputs : List ι) : σ :=
  inputs.foldl (fun state input => (step state input).2) state

def answers (step : σ → ι → ο × σ) : σ → List ι → List ο
  | _,[] => []
  | state,input::inputs => (step state input).1::answers step (step state input).2 inputs

def Throughout (step : σ → ι → ο × σ) (meets : σ → ι → Prop) : σ → List ι → Prop
  | _,[] => True
  | state,input::inputs => meets state input ∧ Throughout step meets (step state input).2 inputs

section
variable {step : σ → ι → ο × σ} {meets : σ → ι → Prop} {state : σ} {input : ι} {inputs more : List ι}

@[simp] theorem after_nil : after step state [] = state := rfl

@[simp] theorem after_cons : after step state (input::inputs) = after step (step state input).2 inputs := rfl

theorem after_append : after step state (inputs ++ more) = after step (after step state inputs) more :=
  List.foldl_append

theorem throughout_append : Throughout step meets state (inputs ++ more) ↔
    Throughout step meets state inputs ∧ Throughout step meets (after step state inputs) more := by
  induction inputs generalizing state with
  | nil => exact (and_iff_right trivial).symm
  | cons input inputs ih => exact (and_congr_right fun _ => ih).trans and_assoc.symm

theorem answers_append : answers step state (inputs ++ more) = answers step state inputs ++ answers step (after step state inputs) more := by
  induction inputs generalizing state with
  | nil => rfl
  | cons input inputs ih => exact congrArg ((step state input).1 :: ·) ih

theorem answers_length : (answers step state inputs).length = inputs.length := by
  induction inputs generalizing state with
  | nil => rfl
  | cons input inputs ih => exact congrArg (· + 1) ih

theorem answers_countP_le (left : σ → Nat) (kind : ο → Bool)
    (pays : ∀ state input, (if kind (step state input).1 then 1 else 0) + left (step state input).2 ≤ left state) :
    (answers step state inputs).countP kind + left (after step state inputs) ≤ left state := by
  induction inputs generalizing state with
  | nil => exact Nat.le_of_eq (Nat.zero_add _)
  | cons input inputs ih =>
    refine Nat.le_trans ?_ (pays state input)
    have rest : (answers step (step state input).2 inputs).countP kind + left (after step (step state input).2 inputs) ≤
        left (step state input).2 := ih
    simp only [answers,List.countP_cons,after_cons]
    omega

theorem answers_all (holds : σ → Prop) (good : ο → Prop)
    (kept : ∀ state input, holds state → good (step state input).1 ∧ holds (step state input).2) (start : holds state) :
    ∀ answer ∈ answers step state inputs, good answer := by
  induction inputs generalizing state with
  | nil => exact fun answer inside => by cases inside
  | cons input inputs ih =>
    obtain ⟨well,still⟩ := kept state input start
    exact List.forall_mem_cons.mpr ⟨well,ih still⟩

theorem after_preserved (holds : σ → Prop) (kept : ∀ state input, holds state → holds (step state input).2)
    (start : holds state) : holds (after step state inputs) := by
  induction inputs generalizing state with
  | nil => exact start
  | cons input inputs ih => exact ih (kept state input start)

theorem answered_at {answer : ο} (paired : (input,answer) ∈ inputs.zip (answers step state inputs)) :
    ∃ met, answer = (step met input).1 := by
  induction inputs generalizing state with
  | nil => cases paired
  | cons first more ih =>
    rcases List.mem_cons.mp paired with same | later
    · cases same
      exact ⟨state,rfl⟩
    · exact ih later

def outlay (step : σ → ι → ο × σ) (cost : ι → ο → Int) (state : σ) (inputs : List ι) : Int :=
  ((inputs.zip (answers step state inputs)).map fun taken => cost taken.1 taken.2).sum

theorem outlay_cons {cost : ι → ο → Int} : outlay step cost state (input::inputs) =
    cost input (step state input).1 + outlay step cost (step state input).2 inputs := by
  unfold outlay
  rw [answers,List.zip_cons_cons,List.map_cons,List.sum_cons]

theorem outlay_le {cost : ι → ο → Int} {used : σ → Int} {cap : Int} (paid : ∀ state input,
      used state + cost input (step state input).1 ≤ used (step state input).2)
    (capped : ∀ state input, cost input (step state input).1 ≠ 0 → used (step state input).2 ≤ cap) (start : 0 ≤ used state) :
    outlay step cost state inputs ≤ max 0 cap := by
  have within : outlay step cost state inputs ≤ max 0 (cap - used state) := by
    clear start
    induction inputs generalizing state with
    | nil =>
      change (0 : Int) ≤ _
      omega
    | cons input inputs ih =>
      have pays := paid state input
      have later : outlay step cost (step state input).2 inputs ≤ max 0 (cap - used (step state input).2) := ih
      rw [outlay_cons]
      by_cases free : cost input (step state input).1 = 0
      · omega
      · have within := capped state input free
        omega
  omega

end

section
variable {first : σ → ι → ο × σ} {second : τ → ι → ο × τ} {relates : σ → τ → Prop} {meets : σ → ι → Prop}
  (alike : ∀ state other input, relates state other → meets state input →
    (first state input).1 = (second other input).1 ∧ relates (first state input).2 (second other input).2)
include alike

theorem related_after {state : σ} {other : τ} {inputs : List ι} (related : relates state other)
    (met : Throughout first meets state inputs) : relates (after first state inputs) (after second other inputs) := by
  induction inputs generalizing state other with
  | nil => exact related
  | cons input inputs ih => exact ih (alike state other input related met.1).2 met.2

theorem answers_eq_iff (apart : ∀ state other input, relates state other → ¬ meets state input →
    (first state input).1 ≠ (second other input).1) {state : σ} {other : τ} {inputs : List ι} (related : relates state other) :
    answers first state inputs = answers second other inputs ↔ Throughout first meets state inputs := by
  induction inputs generalizing state other with
  | nil => exact iff_of_true rfl trivial
  | cons input inputs ih =>
    by_cases met : meets state input
    · obtain ⟨same,further⟩ := alike state other input related met
      refine Iff.trans ?_ ((ih further).trans (and_iff_right met).symm)
      exact List.cons_eq_cons.trans (and_iff_right same)
    · exact iff_of_false (fun same => apart state other input related met (List.cons_eq_cons.mp same).1) fun all => met all.1

end
end Library.Machines
