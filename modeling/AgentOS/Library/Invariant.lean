import AgentOS.Library.Interleaving

/-! Routines among others that keep an invariant. A routine is within it when it
keeps it too and answers only what it may, whatever the others do meanwhile. -/
namespace Library

namespace Routine
variable {σ ε α β : Type} {invariant : σ → Prop}

/-- Among steps that end where the invariant holds, the routine's steps do so too
and it answers what `post` allows. -/
def Within (invariant : σ → Prop) (post : α → Prop) (routine : Routine σ ε α) : Prop :=
  ∀ state, invariant state → Holds (fun _ after => invariant after) (fun _ after => invariant after)
    (fun answer after => invariant after ∧ ∀ value, answer = .ok value → post value) routine state

def Maintains (invariant : σ → Prop) (before after : σ) : Prop := invariant before → invariant after

theorem invariant_steps {before now : σ} (held : invariant before)
    (others : Relation.ReflTransGen (fun _ after => invariant after) before now) : invariant now := by
  rcases others.cases_tail with rfl | ⟨_,_,last⟩
  · exact held
  · exact last

variable {post : α → Prop} {routine : Routine σ ε α}

theorem within_pure {value : α} (allowed : post value) : (Pure.pure value : Routine σ ε α).Within invariant post := by
  intro state held
  refine ⟨held,fun _ same => ?_⟩
  cases same
  exact allowed

theorem within_settle {answer : Except ε α} (allowed : ∀ value, answer = .ok value → post value) :
    (settle answer : Routine σ ε α).Within invariant post := fun _ held => ⟨held,allowed⟩

theorem within_throw (error : ε) : (throw error : Routine σ ε α).Within invariant post := by
  intro state held
  refine ⟨held,fun _ same => ?_⟩
  cases same

theorem within_atomic {action : σ → Except ε α × σ}
    (kept : ∀ now, invariant now → invariant (action now).2 ∧ ∀ value, (action now).1 = .ok value → post value) :
    (atomic action : Routine σ ε α).Within invariant post := by
  intro state held now others
  have done := kept now (invariant_steps held others)
  exact ⟨done.1,done⟩

theorem Within.bind {post' : β → Prop} {rest : α → Routine σ ε β}
    (first : routine.Within invariant post) (second : ∀ value, post value → (rest value).Within invariant post') :
    (routine >>= rest).Within invariant post' := by
  intro state held
  rw [holds_bind]
  apply (first state held).weaken
  rintro answer after ⟨kept,allowed⟩
  cases answer with
  | ok value => exact second value (allowed value rfl) after kept
  | error error =>
    refine ⟨kept,fun _ same => ?_⟩
    cases same

theorem Within.outcome (inside : routine.Within invariant post) :
    routine.outcome.Within invariant fun answer => ∀ value, answer = .ok value → post value := by
  intro state held
  rw [holds_outcome]
  apply (inside state held).weaken
  rintro answer after ⟨kept,allowed⟩
  refine ⟨kept,fun _ same => ?_⟩
  cases same
  exact allowed

theorem within_forM {items : List β} {body : β → Routine σ ε PUnit}
    (inside : ∀ item ∈ items, (body item).Within invariant fun _ => True) : (items.forM body).Within invariant fun _ => True := by
  induction items with
  | nil => exact within_pure trivial
  | cons item items ih =>
    change Within invariant _ (body item >>= fun _ => items.forM body)
    exact (inside item List.mem_cons_self).bind fun _ _ => ih fun other later => inside other (List.mem_cons_of_mem _ later)

theorem Within.cut (inside : routine.Within invariant post) {state : σ}
    (held : invariant state) (steps : Nat) : invariant (routine.cut steps state) :=
  invariant_steps held ((inside state held).cut steps)

theorem Within.exec (inside : routine.Within invariant post) {state : σ}
    (held : invariant state) : invariant (routine.exec state).2 := (inside state held).exec.2.1

theorem Takes.within (taken : routine.Takes (Maintains invariant)) : routine.Within invariant fun _ => True := by
  have along : ∀ program : Program σ (Except ε α), ∀ state, invariant state →
      program.Holds (fun _ _ => True) (Maintains invariant) (fun _ _ => True) state →
      program.Holds (fun _ after => invariant after) (fun _ after => invariant after)
        (fun answer after => invariant after ∧ ∀ value, answer = .ok value → True) state := by
    intro program
    induction program with
    | pure answer => exact fun _ held _ => ⟨held,fun _ _ => trivial⟩
    | act effect next ih =>
      intro state held holds now others
      obtain ⟨maintains,rest⟩ := holds now (Relation.ReflTransGen.mono (fun _ _ _ => trivial) _ _ others)
      have kept := maintains (invariant_steps held others)
      exact ⟨kept,ih now (effect now) kept rest⟩
  exact fun state held => along _ state held (taken state)

theorem Within.ends {taken : List (σ × σ)} {value : α} {start : σ} (inside : routine.Within invariant post) (held : invariant start)
    (kept : ∀ moment ∈ taken, invariant moment.1) (ends : routine.Ends taken (.ok value)) : post value := by
  have along : ∀ {program left : Program σ (Except ε α)} {taken : List (σ × σ)}, program.Steps taken left →
      ∀ state, (∀ moment ∈ taken, invariant moment.1) →
        program.Holds (fun _ after => invariant after) (fun _ after => invariant after)
          (fun answer after => invariant after ∧ ∀ value, answer = .ok value → post value) state →
        ∃ after, left.Holds (fun _ after => invariant after) (fun _ after => invariant after)
          (fun answer after => invariant after ∧ ∀ value, answer = .ok value → post value) after := by
    intro program left taken walked
    induction walked with
    | rest => exact fun state _ holds => ⟨state,holds⟩
    | act now walked ih =>
      intro state kept holds
      have here : invariant now := kept _ List.mem_cons_self
      exact ih _ (fun moment later => kept moment (List.mem_cons_of_mem _ later)) (holds now (.single here)).2
  obtain ⟨_,_,allowed⟩ := along ends start kept (inside start held)
  exact allowed value rfl

end Routine

/-- The thread's steps end where the invariant holds, as long as everybody's do. -/
def Thread.Within {σ : Type} (invariant : σ → Prop) (thread : Thread σ) : Prop :=
  ∃ state, thread.program.Holds (fun _ after => invariant after) (fun _ after => invariant after) (fun _ _ => True) state

theorem Routine.Within.thread {σ ε α : Type} {invariant : σ → Prop} {post : α → Prop} {routine : Routine σ ε α} {state : σ}
    (inside : routine.Within invariant post) (held : invariant state) : routine.thread.Within invariant :=
  ⟨state,Program.Holds.mono (inside state held) (fun _ _ other => other) (fun _ _ own => own) fun _ _ _ => trivial⟩

namespace Interleaved
variable {ι σ : Type} [DecidableEq ι] {pool later : ι → Thread σ} {state after : σ} {trace : List (Moment ι σ)}
  {invariant : σ → Prop}

theorem maintained (ran : Interleaved pool state trace later after) (within : ∀ who, (pool who).Within invariant)
    (held : invariant state) : (∀ moment ∈ trace, invariant moment.before) ∧ invariant after := by
  induction ran with
  | done => exact ⟨by simp,held⟩
  | @step pool _ state _ trace who Answer effect next ready rest ih =>
    obtain ⟨start,holds⟩ := within who
    rw [ready] at holds
    obtain ⟨kept,left⟩ := holds state (.single held)
    have others : ∀ other, (Function.update pool who ⟨Answer,next state⟩ other).Within invariant := by
      intro other
      by_cases same : other = who
      · subst same
        rw [Function.update_self]
        exact ⟨_,left⟩
      · rw [Function.update_of_ne same]
        exact within other
    obtain ⟨each,last⟩ := ih others kept
    refine ⟨fun moment inside => ?_,last⟩
    rcases List.mem_cons.mp inside with rfl | inside
    · exact held
    · exact each moment inside

theorem answers {ε α : Type} {post : α → Prop} {routine : Routine σ ε α} {who : ι} {value : α}
    (ran : Interleaved pool state trace later after) (within : ∀ who, (pool who).Within invariant)
    (held : invariant state) (inside : routine.Within invariant post) (started : pool who = routine.thread)
    (ended : later who = (Pure.pure value : Routine σ ε α).thread) : post value := by
  have kept := (ran.maintained within held).1
  refine inside.ends held ?_ (ran.routine_ends who started ended)
  intro moment mine
  obtain ⟨at_,inTrace,same⟩ := List.mem_map.mp mine
  rw [← same]
  exact kept at_ (List.mem_filter.mp inTrace).1

theorem alone {ε α : Type} (routine : Routine σ ε α) (state : σ) : ∃ trace, Interleaved (fun _ : Unit => routine.thread) state trace
      (fun _ => (Routine.settle (routine.exec state).1 : Routine σ ε α).thread) (routine.exec state).2 := by
  have program : ∀ (program : Program σ (Except ε α)) (state : σ),
      ∃ trace, Interleaved (fun _ : Unit => ⟨_,program⟩) state trace (fun _ => ⟨_,.pure (program.run state).1⟩)
        (program.run state).2 := by
    intro program
    induction program with
    | pure answer => exact fun state => ⟨[],.done _ _⟩
    | act effect next ih =>
      intro state
      obtain ⟨trace,ran⟩ := ih state (effect state)
      have single : (fun _ : Unit => (⟨_,next state⟩ : Thread σ)) =
          Function.update (fun _ : Unit => ⟨_,.act effect next⟩) () ⟨_,next state⟩ := by
        funext who
        rfl
      rw [single] at ran
      exact ⟨_,.step () _ effect next rfl ran⟩
  exact program (ExceptT.run routine) state

end Interleaved
end Library
