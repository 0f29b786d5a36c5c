import AgentOS.Library.Local

/-! Routines that rely on the others. What a routine once found stays so as long
as the others keep to one kind of step, and the routine keeps to a kind of its own. -/
namespace Library

def Stable {σ : Type} (step : σ → σ → Prop) (holds : σ → Prop) : Prop :=
  ∀ before after, step before after → holds before → holds after

namespace Stable
variable {σ : Type} {step : σ → σ → Prop} {left right : σ → Prop}

theorem and (first : Stable step left) (second : Stable step right) : Stable step fun state => left state ∧ right state :=
  fun before after taken held => ⟨first before after taken held.1,second before after taken held.2⟩

theorem steps (stable : Stable step left) {before after : σ} (taken : Relation.ReflTransGen step before after)
    (held : left before) : left after := by
  induction taken with
  | refl => exact held
  | tail _ last ih => exact stable _ _ last ih

end Stable

namespace Routine
variable {σ ε α β : Type} {rely step : σ → σ → Prop} {before : σ → Prop}

/-- From where `before` holds, among others whose steps are in `rely`, the
routine's steps are in `step` and every answer leaves `post`. -/
def Upholds (rely step : σ → σ → Prop) (before : σ → Prop) (post : α → σ → Prop) (routine : Routine σ ε α) : Prop :=
  ∀ state, before state → Holds rely step (fun answer after => ∀ value, answer = .ok value → post value after) routine state

variable {post : α → σ → Prop} {routine : Routine σ ε α}

theorem upholds_pure {value : α} (answers : ∀ state, before state → post value state) :
    (Pure.pure value : Routine σ ε α).Upholds rely step before post := by
  intro state held other same
  cases same
  exact answers state held

theorem upholds_throw (error : ε) : (throw error : Routine σ ε α).Upholds rely step before post := by
  intro _ _ value impossible
  cases impossible

variable {rest : α → Routine σ ε β} {answer : Except ε α} {held : σ → Prop}

theorem upholds_settle (answers : ∀ value state, answer = .ok value → before state → post value state) :
    (settle answer : Routine σ ε α).Upholds rely step before post := fun state held value same => answers value state same held

theorem upholds_atomic {action : σ → Except ε α × σ} (stable : Stable rely before)
    (acts : ∀ now, before now → step now (action now).2 ∧ ∀ value, (action now).1 = .ok value → post value (action now).2) :
    (atomic action : Routine σ ε α).Upholds rely step before post :=
  fun _ held => holds_atomic.mpr fun now others => acts now (stable.steps others held)

theorem Upholds.bind {post' : β → σ → Prop}
    (first : routine.Upholds rely step before post) (second : ∀ value, (rest value).Upholds rely step (post value) post') :
    (routine >>= rest).Upholds rely step before post' := by
  intro state held
  rw [holds_bind]
  apply (first state held).weaken
  intro answer after answers
  cases answer with
  | ok value => exact second value after (answers value rfl)
  | error error =>
    intro value impossible
    cases impossible

theorem upholds_settled {post : β → σ → Prop} (later : ∀ value, answer = .ok value → (rest value).Upholds rely step before post) :
    (settle answer >>= rest).Upholds rely step before post := by
  cases answer with
  | ok value => exact later value rfl
  | error error =>
    intro _ _ value impossible
    cases impossible

theorem Upholds.outcome (upholds : routine.Upholds rely step before post) :
    routine.outcome.Upholds rely step before fun answer after => ∀ value, answer = .ok value → post value after := by
  intro state held
  rw [holds_outcome]
  apply (upholds state held).weaken
  intro answer after answers ended same
  cases same
  exact answers

theorem Upholds.mono {before' : σ → Prop} {post post' : α → σ → Prop}
    (upholds : routine.Upholds rely step before post) (fewer : ∀ state, before' state → before state)
    (more : ∀ value after, post value after → post' value after) : routine.Upholds rely step before' post' :=
  fun state held => (upholds state (fewer state held)).weaken fun _ after answers value same => more value after (answers value same)

theorem Takes.upholding (taken : routine.Takes step) : routine.Upholds rely step before fun _ _ => True := by
  intro state _
  exact (taken state).mono (fun _ _ _ => trivial) (fun _ _ own => own) fun _ _ _ _ _ => trivial

theorem Upholds.keeping (upholds : routine.Upholds rely step before post) (others : Stable rely held) (own : Stable step held) :
    routine.Upholds rely step (fun state => before state ∧ held state) fun value after => post value after ∧ held after := by
  have along : ∀ program : Program σ (Except ε α), ∀ state, held state →
      program.Holds rely step (fun answer after => ∀ value, answer = .ok value → post value after) state →
      program.Holds rely step (fun answer after => ∀ value, answer = .ok value → post value after ∧ held after) state := by
    intro program
    induction program with
    | pure answer => exact fun state kept holds value same => ⟨holds value same,kept⟩
    | act effect next ih =>
      intro state kept holds now steps
      have here := others.steps steps kept
      obtain ⟨mine,rest⟩ := holds now steps
      exact ⟨mine,ih now (effect now) (own now _ mine here) rest⟩
  exact fun state both => along _ state both.2 (upholds state both.1)

theorem Takes.keeping (taken : routine.Takes step) (stable : Stable step held) : routine.Upholds step step held fun _ => held := by
  have upholds : routine.Upholds step step (fun _ => True) fun _ _ => True := taken.upholding
  exact (upholds.keeping stable stable).mono (fun _ kept => ⟨trivial,kept⟩) fun _ _ both => both.2

theorem upholds_forM {items : List β} {body : β → Routine σ ε PUnit} {done : β → σ → Prop}
    (stable : ∀ item ∈ items, Stable step (done item))
    (each : ∀ item ∈ items, (body item).Upholds step step (fun _ => True) fun _ => done item) :
    (items.forM body).Upholds step step (fun _ => True) fun _ after => ∀ item ∈ items, done item after := by
  induction items with
  | nil => exact upholds_pure fun _ _ _ inside => absurd inside List.not_mem_nil
  | cons item items ih =>
    have first := each item List.mem_cons_self
    have kept := stable item List.mem_cons_self
    have rest := ih (fun other inside => stable other (List.mem_cons_of_mem _ inside))
      fun other inside => each other (List.mem_cons_of_mem _ inside)
    change Upholds step step _ _ (body item >>= fun _ => items.forM body)
    refine first.bind fun _ => ((rest.keeping kept kept).mono (fun _ here => ⟨trivial,here⟩) ?_)
    intro _ after both other inside
    obtain rfl | inside := List.mem_cons.mp inside
    · exact both.2
    · exact both.1 other inside

theorem Upholds.exec (upholds : routine.Upholds rely step before post)
    {state after : σ} {value : α} (held : before state) (done : routine.exec state = (.ok value,after)) : post value after := by
  have ended := (upholds state held).exec.2
  rw [done] at ended
  exact ended value rfl

end Routine

namespace Local
variable {σ τ : Type}

end Local

/-! ### Pools -/

/-- From where it stands, the thread takes steps of the kind as long as the others do. -/
def Thread.Upholds {σ : Type} (step : σ → σ → Prop) (thread : Thread σ) (state : σ) : Prop :=
  thread.program.Holds step step (fun _ _ => True) state

theorem Routine.Upholds.thread {σ ε α : Type} {step : σ → σ → Prop} {before : σ → Prop} {post : α → σ → Prop}
    {routine : Routine σ ε α} {state : σ} (upholds : routine.Upholds step step before post) (held : before state) :
    routine.thread.Upholds step state :=
  Program.Holds.mono (upholds state held) (fun _ _ other => other) (fun _ _ own => own) fun _ _ _ => trivial

theorem Thread.Takes.upholds {σ : Type} {own step : σ → σ → Prop} {thread : Thread σ} (taken : thread.Takes own)
    (steps : ∀ before after, own before after → step before after) (state : σ) : thread.Upholds step state :=
  Program.Holds.mono (taken state) (fun _ _ _ => trivial) steps fun _ _ done => done

theorem Thread.Upholds.later {σ : Type} {step : σ → σ → Prop} {thread : Thread σ} {before after : σ}
    (upholds : thread.Upholds step before) (taken : step before after) : thread.Upholds step after := by
  obtain ⟨Answer,program⟩ := thread
  cases program with
  | pure answer => trivial
  | act effect next => exact fun now others => upholds now (.head taken others)

theorem Interleaved.upheld {ι σ : Type} [DecidableEq ι] {step : σ → σ → Prop} {pool later : ι → Thread σ} {state after : σ}
    {trace : List (Moment ι σ)} (ran : Interleaved pool state trace later after)
    (uphold : ∀ who, (pool who).Upholds step state) : ∀ moment ∈ trace, step moment.before moment.after := by
  induction ran with
  | done => exact fun _ inside => absurd inside (List.not_mem_nil)
  | @step pool _ state _ trace who Answer effect next ready rest ih =>
    have mine := uphold who
    unfold Thread.Upholds at mine
    rw [ready] at mine
    obtain ⟨here,left⟩ := mine state .refl
    have others : ∀ other, (Function.update pool who ⟨Answer,next state⟩ other).Upholds step (effect state) := by
      intro other
      by_cases same : other = who
      · subst same
        rw [Function.update_self]
        exact left
      · rw [Function.update_of_ne same]
        exact (uphold other).later here
    intro moment inside
    rcases List.mem_cons.mp inside with rfl | inside
    · exact here
    · exact ih others moment inside

theorem Interleaved.concluded {ι σ ε α : Type} [DecidableEq ι] {step : σ → σ → Prop} {pool later : ι → Thread σ}
    {state after : σ} {trace : List (Moment ι σ)} (ran : Interleaved pool state trace later after)
    (steps : ∀ moment ∈ trace, step moment.before moment.after) {who : ι} {routine : Routine σ ε α} {before : σ → Prop}
    {post : α → σ → Prop} (started : pool who = routine.thread) (upholds : routine.Upholds step step before post)
    (held : before state) (stable : ∀ value, Stable step (post value)) {value : α}
    (ended : later who = (Routine.settle (.ok value) : Routine σ ε α).thread) : post value after := by
  have along : ∀ program : Program σ (Except ε α), pool who = ⟨_,program⟩ →
      program.Holds step step (fun answer now => ∀ value, answer = .ok value → post value now) state → post value after := by
    clear started upholds held
    induction ran with
    | done =>
      intro program started holds
      rw [started] at ended
      cases ended
      exact holds value rfl
    | @step pool _ state _ trace mover Answer effect next ready _ ih =>
      intro program started holds
      have here := steps ⟨mover,state,effect state⟩ List.mem_cons_self
      have rest : ∀ moment ∈ trace, step moment.before moment.after := fun moment inside => steps moment (.tail _ inside)
      by_cases same : mover = who
      · subst same
        rw [ready] at started
        cases started
        exact ih rest ended (next state) (Function.update_self _ _ _) (holds state .refl).2
      · refine ih rest ended program (by rw [Function.update_of_ne (Ne.symm same),started]) ?_
        cases program with
        | pure answer => exact fun value answered => stable value _ _ here (holds value answered)
        | act effect next => exact fun now others => holds now (.head here others)
  exact along _ started (upholds state held)

/-! ### What comes first -/

namespace Program
variable {σ α β : Type} {seen : σ → Prop} {barred : σ → σ → Prop}

/-- Whatever others do meanwhile, no step is barred until one is taken from a state that is seen; a program that ends before that
answers as `post` allows. -/
def Until (seen : σ → Prop) (barred : σ → σ → Prop) (post : α → Prop) : Program σ α → Prop
  | .pure value => post value
  | .act effect next => ∀ now, ¬ barred now (effect now) ∧ (seen now ∨ Until seen barred post (next now))

theorem Until.bind {post : α → Prop} {post' : β → Prop} {program : Program σ α} {rest : α → Program σ β}
    (first : program.Until seen barred post) (second : ∀ value, post value → (rest value).Until seen barred post') :
    (program.bind rest).Until seen barred post' := by
  induction program with
  | pure value => exact second value first
  | act effect next ih =>
    intro now
    obtain ⟨free,later⟩ := first now
    exact ⟨free,later.imp_right fun later => ih now later⟩

theorem Until.seen_before {post : α → Prop} {program left : Program σ α} {taken early late : List (σ × σ)} {step : σ × σ}
    (holds : program.Until seen barred post) (walked : program.Steps taken left) (parts : taken = early ++ step::late)
    (bars : barred step.1 step.2) : ∃ moment ∈ early, seen moment.1 := by
  induction walked generalizing early with
  | rest =>
    simp at parts
  | act now walked ih =>
    obtain ⟨free,later⟩ := holds now
    cases early with
    | nil =>
      obtain ⟨rfl,_⟩ := List.cons.inj parts
      exact absurd bars free
    | cons first early =>
      obtain ⟨same,rest⟩ := List.cons.inj (parts.trans (List.cons_append ..))
      obtain here | later := later
      · exact ⟨first,List.mem_cons_self,same ▸ here⟩
      · obtain ⟨moment,inside,found⟩ := ih later rest
        exact ⟨moment,List.mem_cons_of_mem first inside,found⟩

end Program

namespace Routine
variable {σ ε α β : Type} {seen : σ → Prop} {barred : σ → σ → Prop}

/-- `Program.Until` of a routine, which may fail at any time. -/
def Until (seen : σ → Prop) (barred : σ → σ → Prop) (post : α → Prop) (routine : Routine σ ε α) : Prop :=
  Program.Until seen barred (fun answer => ∀ value, answer = .ok value → post value) (ExceptT.run routine)

variable {post : α → Prop}

theorem until_pure {value : α} (allowed : post value) : (Pure.pure value : Routine σ ε α).Until seen barred post := by
  intro other same
  cases same
  exact allowed

theorem until_throw (error : ε) : (throw error : Routine σ ε α).Until seen barred post := by
  intro _ impossible
  cases impossible

theorem until_settle {answer : Except ε α} (allowed : ∀ value, answer = .ok value → post value) :
    (settle answer).Until seen barred post := allowed

theorem until_atomic {action : σ → Except ε α × σ}
    (acts : ∀ now, ¬ barred now (action now).2 ∧ (seen now ∨ ∀ value, (action now).1 = .ok value → post value)) :
    (atomic action).Until seen barred post := acts

theorem Until.bind {post' : β → Prop} {routine : Routine σ ε α} {rest : α → Routine σ ε β}
    (first : routine.Until seen barred post) (second : ∀ value, post value → (rest value).Until seen barred post') :
    (routine >>= rest).Until seen barred post' := by
  apply Program.Until.bind first
  intro answer allowed
  cases answer with
  | ok value => exact second value (allowed value rfl)
  | error error =>
    intro _ impossible
    cases impossible

theorem Until.outcome {routine : Routine σ ε α} (holds : routine.Until seen barred post) :
    routine.outcome.Until seen barred fun answer => ∀ value, answer = .ok value → post value := by
  apply Program.Until.bind holds
  intro answer allowed ended same
  cases same
  exact allowed

theorem Takes.until {routine : Routine σ ε α} (taken : routine.Takes fun before after => ¬ barred before after) :
    routine.Until seen barred fun _ => True := by
  have along : ∀ program : Program σ (Except ε α), ∀ state,
      program.Holds (fun _ _ => True) (fun before after => ¬ barred before after) (fun _ _ => True) state →
        program.Until seen barred fun answer => ∀ value, answer = .ok value → True := by
    intro program
    induction program with
    | pure answer => exact fun _ _ _ _ => trivial
    | act effect next ih =>
      intro state holds now
      obtain ⟨free,later⟩ := holds now (.single trivial)
      exact ⟨free,.inr (ih now _ later)⟩
  unfold Until
  have taken : ∀ state, Program.Holds (fun _ _ => True) (fun before after => ¬ barred before after) (fun _ _ => True)
      (ExceptT.run routine) state := taken
  cases run : ExceptT.run routine with
  | pure answer => exact fun _ _ => trivial
  | act effect next =>
    rw [run] at taken
    exact fun now => along _ now (taken now) now

end Routine

end Library
