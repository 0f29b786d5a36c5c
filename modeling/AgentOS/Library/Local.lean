import AgentOS.Library.Invariant

/-! Routines with variables of their own. An error ends such a routine and leaves
its variables as they were, so that whoever handles the error still reads them. -/
namespace Library

abbrev Local (σ τ ε α : Type) : Type := ExceptT ε (StateT τ (Program σ)) α

namespace Local
variable {σ τ ε α β : Type}

def call (routine : Routine σ ε α) : Local σ τ ε α :=
  ExceptT.mk fun locals => ExceptT.run routine >>= fun answer => Pure.pure (answer,locals)

variable (routine : Local σ τ ε α)

/-- Runs to an end from some locals and answers how it ended, with the locals left behind. -/
def run (locals : τ) : Routine σ ε (Except ε α × τ) :=
  ExceptT.mk (StateT.run (ExceptT.run routine) locals >>= fun ended => Pure.pure (.ok ended))

def get : Local σ τ ε τ := ExceptT.mk fun locals => Pure.pure (.ok locals,locals)

def modify (change : τ → τ) : Local σ τ ε Unit := ExceptT.mk fun locals => Pure.pure (.ok (),change locals)

def outcome : Local σ τ ε (Except ε α) :=
  ExceptT.mk fun locals => StateT.run (ExceptT.run routine) locals >>= fun ended =>
    Pure.pure (.ok ended.1,ended.2)

theorem run_call (routine : Routine σ ε α) (locals : τ) :
    (call routine : Local σ τ ε α).run locals = routine.outcome >>= fun answer => Pure.pure (answer,locals) := by
  change ExceptT.mk ((ExceptT.run routine >>= fun answer => Pure.pure (answer,locals)) >>= fun ended => Pure.pure (.ok ended)) =
    ExceptT.mk ((ExceptT.run routine >>= fun answer => Pure.pure (Except.ok answer)) >>= ExceptT.bindCont _)
  rw [bind_assoc,bind_assoc]
  rfl

theorem run_bind (rest : α → Local σ τ ε β) (locals : τ) :
    (routine >>= rest).run locals = routine.run locals >>= fun ended => match ended with
      | (.ok value,after) => (rest value).run after
      | (.error error,after) => Pure.pure (.error error,after) := by
  change ExceptT.mk ((StateT.run (ExceptT.run routine) locals >>= fun ended =>
      StateT.run (ExceptT.bindCont rest ended.1) ended.2) >>= fun ended => Pure.pure (.ok ended)) =
    ExceptT.mk ((StateT.run (ExceptT.run routine) locals >>= fun ended => Pure.pure (Except.ok ended)) >>=
      ExceptT.bindCont _)
  rw [bind_assoc,bind_assoc]
  congr 1
  refine bind_congr fun ended => ?_
  rcases ended with ⟨answer,after⟩
  cases answer <;> rfl

theorem run_outcome (locals : τ) :
    routine.outcome.run locals = routine.run locals >>= fun ended => Pure.pure (.ok ended.1,ended.2) := by
  change ExceptT.mk ((StateT.run (ExceptT.run routine) locals >>= fun ended =>
      Pure.pure ((.ok ended.1,ended.2) : Except ε (Except ε α) × τ)) >>= fun ended => Pure.pure (.ok ended)) =
    ExceptT.mk ((StateT.run (ExceptT.run routine) locals >>= fun ended => Pure.pure (Except.ok ended)) >>=
      ExceptT.bindCont _)
  rw [bind_assoc,bind_assoc]
  rfl

/-! ### The steps it can take -/

/-- Whatever its locals and whatever others do, every step is in `step`. -/
def Takes (step : σ → σ → Prop) (routine : Local σ τ ε α) : Prop := ∀ locals, (routine.run locals).Takes step

section
variable {step : σ → σ → Prop}

theorem takes_pure (value : α) : Takes step (Pure.pure value : Local σ τ ε α) := fun _ => Routine.takes_pure _

theorem takes_throw (error : ε) : Takes step (throw error : Local σ τ ε α) := fun _ => Routine.takes_pure _

theorem takes_get : Takes step (get : Local σ τ ε τ) := fun _ => Routine.takes_pure _

theorem takes_modify (change : τ → τ) : Takes step (modify change : Local σ τ ε Unit) := fun _ => Routine.takes_pure _

theorem takes_call {routine : Routine σ ε α} (taken : routine.Takes step) : Takes step (call routine : Local σ τ ε α) := by
  intro locals
  rw [run_call]
  exact taken.outcome.bind fun _ => Routine.takes_pure _

theorem Takes.bind {routine : Local σ τ ε α} {rest : α → Local σ τ ε β} (first : routine.Takes step)
    (second : ∀ value, (rest value).Takes step) : (routine >>= rest).Takes step := by
  intro locals
  rw [run_bind]
  refine (first locals).bind fun ended => ?_
  rcases ended with ⟨answer,after⟩
  cases answer with
  | ok value => exact second value after
  | error error => exact Routine.takes_pure _

theorem Takes.once {condition : Prop} [Decidable condition] {first : Local σ τ ε β} {rest : Local σ τ ε α} (taken : first.Takes step)
    (others : rest.Takes step) : Takes step (if condition then first >>= fun _ => rest else rest) := by
  split
  · exact taken.bind fun _ => others
  · exact others

theorem takes_call_then {post : α → Prop} {routine : Routine σ ε α} {rest : α → Local σ τ ε β}
    (first : routine.Gives step post) (second : ∀ value, post value → (rest value).Takes step) :
    (call routine >>= rest).Takes step := by
  intro locals
  rw [run_bind,run_call,bind_assoc]
  refine first.outcome.then fun answer allowed => ?_
  cases answer with
  | ok value => exact second value (allowed value rfl) locals
  | error error => exact Routine.takes_pure _

theorem Takes.outcome {routine : Local σ τ ε α} (taken : routine.Takes step) : routine.outcome.Takes step := by
  intro locals
  rw [run_outcome]
  exact (taken locals).bind fun _ => Routine.takes_pure _

end
end Local
end Library
