import Mathlib.Logic.Relation

/-! Programs that act on a shared state one atomic step at a time.
A program can run alone, be cut off after any number of steps, or be interleaved
with others. One judgement covers all three: what it does whatever steps others
take between its own. -/
namespace Library

inductive Program (σ α : Type) : Type where
  | pure (value : α)
  | act (effect : σ → σ) (next : σ → Program σ α)

namespace Program
variable {σ α β : Type}

protected def bind : Program σ α → (α → Program σ β) → Program σ β
  | .pure value, rest => rest value
  | .act effect next, rest => .act effect fun state => (next state).bind rest

instance : Monad (Program σ) where
  pure := .pure
  bind := Program.bind

def atomic (step : σ → α × σ) : Program σ α :=
  .act (fun state => (step state).2) fun state => .pure (step state).1

theorem bind_assoc' {γ : Type} (program : Program σ α) (f : α → Program σ β) (g : β → Program σ γ) :
    (program.bind f).bind g = program.bind fun value => (f value).bind g := by
  induction program with
  | pure value => rfl
  | act effect next ih =>
    simp only [Program.bind]
    congr 1
    funext state
    exact ih state

theorem bind_pure' (program : Program σ α) : program.bind .pure = program := by
  induction program with
  | pure value => rfl
  | act effect next ih =>
    simp only [Program.bind]
    congr 1
    funext state
    exact ih state

instance : LawfulMonad (Program σ) := LawfulMonad.mk' _ bind_pure' (fun _ _ => rfl) bind_assoc'

/-! ### Running alone -/

def run : Program σ α → σ → α × σ
  | .pure value, state => (value,state)
  | .act effect next, state => (next state).run (effect state)

/-- The state a process leaves behind when it dies after `steps` of its steps. -/
def cut : Nat → Program σ α → σ → σ
  | _, .pure _, state => state
  | 0, .act _ _, state => state
  | steps+1, .act effect next, state => cut steps (next state) (effect state)

@[simp] theorem run_pure (value : α) (state : σ) : (Pure.pure value : Program σ α).run state = (value,state) := rfl

@[simp] theorem run_atomic (step : σ → α × σ) (state : σ) : (atomic step).run state = step state := rfl

theorem run_bind (program : Program σ α) (rest : α → Program σ β) (state : σ) :
    (program >>= rest).run state = (rest (program.run state).1).run (program.run state).2 := by
  change (program.bind rest).run state = _
  induction program generalizing state with
  | pure value => rfl
  | act effect next ih => exact ih state (effect state)

theorem cut_bind (program : Program σ α) (rest : α → Program σ β) (steps : Nat) (state : σ) :
    (program >>= rest).cut steps state = program.cut steps state ∨ program.cut steps state = (program.run state).2 ∧
        ∃ later, (program >>= rest).cut steps state = (rest (program.run state).1).cut later (program.run state).2 := by
  change (program.bind rest).cut steps state = _ ∨ _ ∧ ∃ later, (program.bind rest).cut steps state = _
  induction program generalizing steps state with
  | pure value =>
    refine .inr ⟨?_,steps,rfl⟩
    cases steps <;> rfl
  | act effect next ih =>
    cases steps with
    | zero => exact .inl rfl
    | succ steps => exact ih state steps (effect state)

theorem exists_cut (program : Program σ α) (state : σ) : ∃ steps, program.cut steps state = (program.run state).2 := by
  induction program generalizing state with
  | pure value => exact ⟨0,rfl⟩
  | act effect next ih =>
    obtain ⟨steps,same⟩ := ih state (effect state)
    exact ⟨steps + 1,same⟩

/-! ### What a program does among others -/

/-- Started at `state`, whatever `rely` steps others take before each of its own,
the program takes only `step` steps and leaves every answer with `post`. -/
def Holds (rely step : σ → σ → Prop) (post : α → σ → Prop) : Program σ α → σ → Prop
  | .pure value, state => post value state
  | .act effect next, state => ∀ now, Relation.ReflTransGen rely state now →
      step now (effect now) ∧ (next now).Holds rely step post (effect now)

def Alone : σ → σ → Prop := fun _ _ => False

theorem steps_alone {state now : σ} : Relation.ReflTransGen Alone state now ↔ now = state := by
  constructor
  · intro steps
    cases steps.cases_head with
    | inl same => exact same.symm
    | inr first =>
      obtain ⟨_,impossible,_⟩ := first
      exact impossible.elim
  · rintro rfl
    exact .refl

section
variable {rely step : σ → σ → Prop}

variable {program : Program σ α} {state : σ}

variable {post : α → σ → Prop}

@[simp] theorem holds_pure {value : α} : (Pure.pure value : Program σ α).Holds rely step post state ↔ post value state := Iff.rfl

theorem holds_bind {post : β → σ → Prop} {rest : α → Program σ β} : (program >>= rest).Holds rely step post state ↔
      program.Holds rely step (fun value => (rest value).Holds rely step post) state := by
  change (program.bind rest).Holds rely step post state ↔ _
  induction program generalizing state with
  | pure value => rfl
  | act effect next ih => exact forall₂_congr fun now _ => and_congr_right fun _ => ih now

theorem Holds.mono {rely' step' : σ → σ → Prop} {post post' : α → σ → Prop}
    (held : program.Holds rely step post state) (fewer : ∀ before after, rely' before after → rely before after)
    (steps : ∀ before after, step before after → step' before after)
    (answers : ∀ value after, post value after → post' value after) : program.Holds rely' step' post' state := by
  induction program generalizing state with
  | pure value => exact answers value state held
  | act effect next ih =>
    intro now others
    have own := held now (Relation.ReflTransGen.mono fewer _ _ others)
    exact ⟨steps _ _ own.1,ih now own.2⟩

theorem Holds.run (held : program.Holds rely step post state) :
    Relation.ReflTransGen step state (program.run state).2 ∧ post (program.run state).1 (program.run state).2 := by
  induction program generalizing state with
  | pure value => exact ⟨.refl,held⟩
  | act effect next ih =>
    obtain ⟨first,rest⟩ := held state .refl
    exact ⟨.head first (ih state rest).1,(ih state rest).2⟩

theorem Holds.cut (held : program.Holds rely step post state) (steps : Nat) :
    Relation.ReflTransGen step state (program.cut steps state) := by
  induction program generalizing steps state with
  | pure value => cases steps <;> exact .refl
  | act effect next ih =>
    cases steps with
    | zero => exact .refl
    | succ steps =>
      obtain ⟨first,rest⟩ := held state .refl
      exact .head first (ih state rest steps)

end

end Program
end Library
