import AgentOS.Library.Routine
import Mathlib.Logic.Function.Basic

/-! Interleavings of programs on a shared state. A run of a pool records every
step with the thread that took it; what one thread did is a path through its
own program, whatever the others did in between. -/
namespace Library

namespace Program
variable {σ α β : Type}

/-- The program's own steps, each from whatever state it found, and what is left of it. -/
inductive Steps : Program σ α → List (σ × σ) → Program σ α → Prop
  | rest (program : Program σ α) : Steps program [] program
  | act {effect : σ → σ} {next : σ → Program σ α} {taken : List (σ × σ)} {left : Program σ α} (now : σ)
      (steps : Steps (next now) taken left) : Steps (.act effect next) ((now,effect now)::taken) left

def Ends (program : Program σ α) (taken : List (σ × σ)) (answer : α) : Prop := program.Steps taken (.pure answer)

variable {taken : List (σ × σ)}

theorem ends_pure {value answer : α} : (.pure value : Program σ α).Ends taken answer ↔ taken = [] ∧ answer = value := by
  constructor
  · intro steps
    cases steps
    exact ⟨rfl,rfl⟩
  · rintro ⟨rfl,rfl⟩
    exact .rest _

theorem ends_act {effect : σ → σ} {next : σ → Program σ α} {answer : α} : (.act effect next : Program σ α).Ends taken answer ↔
      ∃ now later, taken = (now,effect now)::later ∧ (next now).Ends later answer := by
  constructor
  · intro steps
    cases steps with
    | act now steps => exact ⟨now,_,rfl,steps⟩
  · rintro ⟨now,later,rfl,steps⟩
    exact .act now steps

theorem ends_bind {program : Program σ α} {rest : α → Program σ β} {answer : β} : (program >>= rest).Ends taken answer ↔
      ∃ first value second, taken = first ++ second ∧ program.Ends first value ∧ (rest value).Ends second answer := by
  change (program.bind rest).Ends taken answer ↔ _
  induction program generalizing taken with
  | pure value =>
    constructor
    · intro ends
      exact ⟨[],value,taken,rfl,.rest _,ends⟩
    · rintro ⟨first,found,second,rfl,start,ends⟩
      obtain ⟨rfl,rfl⟩ := ends_pure.mp start
      exact ends
  | act effect next ih =>
    rw [Program.bind,ends_act]
    constructor
    · rintro ⟨now,later,rfl,ends⟩
      obtain ⟨first,value,second,rfl,start,ends⟩ := (ih now).mp ends
      exact ⟨_,value,second,rfl,.act now start,ends⟩
    · rintro ⟨first,value,second,rfl,start,ends⟩
      obtain ⟨now,later,same,begun⟩ := ends_act.mp start
      rw [same]
      exact ⟨now,later ++ second,rfl,(ih now).mpr ⟨later,value,second,rfl,begun,ends⟩⟩

theorem Holds.along {rely step : σ → σ → Prop} {post : α → σ → Prop} {program left : Program σ α} {state : σ}
    (held : program.Holds rely step post state) (anything : ∀ before after, rely before after) (walked : program.Steps taken left) :
    (∀ moment ∈ taken, step moment.1 moment.2) ∧ ∃ after, left.Holds rely step post after := by
  induction walked generalizing state with
  | rest => exact ⟨by simp,state,held⟩
  | act now walked ih =>
    obtain ⟨here,later⟩ := held now (.single (anything state now))
    obtain ⟨there,rest⟩ := ih later
    refine ⟨fun moment inside => ?_,rest⟩
    rcases List.mem_cons.mp inside with rfl | inside
    · exact here
    · exact there moment inside

end Program

namespace Routine
variable {σ ε α β : Type}

/-- The routine ended with an answer or an error after these steps of its own. -/
def Ends (routine : Routine σ ε α) (taken : List (σ × σ)) (answer : Except ε α) : Prop :=
  Program.Ends (ExceptT.run routine) taken answer

variable {taken : List (σ × σ)} {routine : Routine σ ε α} {answer : Except ε α}

theorem ends_pure {value : α} :
    (Pure.pure value : Routine σ ε α).Ends taken answer ↔ taken = [] ∧ answer = .ok value := Program.ends_pure

theorem ends_throw {error : ε} :
    (throw error : Routine σ ε α).Ends taken answer ↔ taken = [] ∧ answer = .error error := Program.ends_pure

theorem ends_atomic {action : σ → Except ε α × σ} :
    (atomic action).Ends taken answer ↔ ∃ now, taken = [(now,(action now).2)] ∧ answer = (action now).1 := by
  change Program.Ends (.act _ _) taken answer ↔ _
  rw [Program.ends_act]
  constructor
  · rintro ⟨now,later,rfl,ends⟩
    obtain ⟨rfl,rfl⟩ := Program.ends_pure.mp ends
    exact ⟨now,rfl,rfl⟩
  · rintro ⟨now,rfl,rfl⟩
    exact ⟨now,[],rfl,.rest _⟩

theorem ends_outcome {answer : Except ε (Except ε α)} :
    routine.outcome.Ends taken answer ↔ ∃ ended, answer = .ok ended ∧ routine.Ends taken ended := by
  change Program.Ends (ExceptT.run routine >>= fun ended => Pure.pure (Except.ok ended)) taken answer ↔ _
  rw [Program.ends_bind]
  constructor
  · rintro ⟨first,ended,second,rfl,ends,done⟩
    obtain ⟨rfl,rfl⟩ := Program.ends_pure.mp done
    exact ⟨ended,rfl,by rwa [List.append_nil]⟩
  · rintro ⟨ended,rfl,ends⟩
    exact ⟨taken,ended,[],by rw [List.append_nil],ends,.rest _⟩

variable {rest : α → Routine σ ε β}

theorem ends_bind {answer : Except ε β} : (routine >>= rest).Ends taken answer ↔
      (∃ error, answer = .error error ∧ routine.Ends taken (.error error)) ∨
        ∃ first value second, taken = first ++ second ∧ routine.Ends first (.ok value) ∧ (rest value).Ends second answer := by
  change Program.Ends (ExceptT.run routine >>= ExceptT.bindCont rest) taken answer ↔ _
  rw [Program.ends_bind]
  constructor
  · rintro ⟨first,ended,second,rfl,start,done⟩
    cases ended with
    | error error =>
      obtain ⟨rfl,rfl⟩ := Program.ends_pure.mp done
      exact .inl ⟨error,rfl,by rwa [List.append_nil]⟩
    | ok value => exact .inr ⟨first,value,second,rfl,start,done⟩
  · rintro (⟨error,rfl,start⟩ | ⟨first,value,second,rfl,start,done⟩)
    · exact ⟨taken,.error error,[],by rw [List.append_nil],start,.rest _⟩
    · exact ⟨first,.ok value,second,rfl,start,done⟩

theorem ends_bind_ok {answer : β} : (routine >>= rest).Ends taken (.ok answer) ↔
      ∃ first value second, taken = first ++ second ∧ routine.Ends first (.ok value) ∧ (rest value).Ends second (.ok answer) := by
  rw [ends_bind]
  constructor
  · rintro (⟨_,impossible,_⟩ | later)
    · cases impossible
    · exact later
  · exact .inr

theorem Holds.ends {rely step : σ → σ → Prop} {post : Except ε α → σ → Prop}
    {state : σ} (held : routine.Holds rely step post state) (anything : ∀ before after, rely before after)
    (ends : routine.Ends taken answer) : (∀ moment ∈ taken, step moment.1 moment.2) ∧ ∃ after, post answer after :=
  Program.Holds.along held anything ends

theorem Throws.ends [Nonempty σ] {allowed : ε → Prop} (throws : routine.Throws allowed)
    {error : ε} (ends : routine.Ends taken (.error error)) : allowed error := by
  obtain ⟨state⟩ := ‹Nonempty σ›
  obtain ⟨_,_,listed⟩ := (throws state).ends (fun _ _ => trivial) ends
  exact listed error rfl

def Single (routine : Routine σ ε α) : Prop := ∃ action, routine = atomic action

theorem Single.ends (single : routine.Single) :
    routine.Ends taken answer ↔ ∃ before after, taken = [(before,after)] ∧ routine.exec before = (answer,after) := by
  obtain ⟨action,rfl⟩ := single
  rw [ends_atomic]
  constructor
  · rintro ⟨now,rfl,rfl⟩
    exact ⟨now,_,rfl,rfl⟩
  · rintro ⟨before,after,rfl,done⟩
    rw [exec_atomic] at done
    exact ⟨before,by rw [done],by rw [done]⟩

theorem Takes.ends {step : σ → σ → Prop} (allowed : routine.Takes step) (ends : routine.Ends taken answer) :
    ∀ moment ∈ taken, step moment.1 moment.2 := by
  intro moment inside
  exact ((allowed moment.1).ends (fun _ _ => trivial) ends).1 moment inside

end Routine

/-! ### Pools -/

structure Thread (σ : Type) : Type 1 where
  Answer : Type
  program : Program σ Answer

def Routine.thread {σ ε α : Type} (routine : Routine σ ε α) : Thread σ := ⟨Except ε α,ExceptT.run routine⟩

/-- Whatever others do meanwhile, every step of the thread is in `step`. -/
def Thread.Takes {σ : Type} (step : σ → σ → Prop) (thread : Thread σ) : Prop :=
  ∀ state, thread.program.Holds (fun _ _ => True) step (fun _ _ => True) state

theorem Routine.Takes.thread {σ ε α : Type} {step : σ → σ → Prop} {routine : Routine σ ε α} (taken : routine.Takes step) :
    routine.thread.Takes step := taken

theorem Thread.Takes.mono {σ : Type} {step step' : σ → σ → Prop} {thread : Thread σ} (taken : thread.Takes step)
    (steps : ∀ before after, step before after → step' before after) : thread.Takes step' :=
  fun state => Program.Holds.mono (taken state) (fun _ _ other => other) steps fun _ _ ended => ended

structure Moment (ι σ : Type) where
  who : ι
  before : σ
  after : σ

section
variable {ι σ : Type} [DecidableEq ι]

inductive Interleaved : (ι → Thread σ) → σ → List (Moment ι σ) → (ι → Thread σ) → σ → Prop
  | done (pool : ι → Thread σ) (state : σ) : Interleaved pool state [] pool state
  | step {pool later : ι → Thread σ} {state after : σ} {trace : List (Moment ι σ)} (who : ι) (Answer : Type)
      (effect : σ → σ) (next : σ → Program σ Answer) (ready : pool who = ⟨Answer,.act effect next⟩)
      (rest : Interleaved (Function.update pool who ⟨Answer,next state⟩) (effect state) trace later after) :
      Interleaved pool state (⟨who,state,effect state⟩::trace) later after

def own (who : ι) (trace : List (Moment ι σ)) : List (σ × σ) :=
  (trace.filter fun moment => moment.who = who).map fun moment => (moment.before,moment.after)

theorem own_append (who : ι) (early late : List (Moment ι σ)) : own who (early ++ late) = own who early ++ own who late := by
  simp [own]

theorem own_cons_self (moment : Moment ι σ) (trace : List (Moment ι σ)) :
    own moment.who (moment::trace) = (moment.before,moment.after)::own moment.who trace := by
  simp [own]

theorem mem_own_iff {who : ι} {trace : List (Moment ι σ)} {step : σ × σ} :
    step ∈ own who trace ↔ ∃ moment ∈ trace, moment.who = who ∧ (moment.before,moment.after) = step := by
  simp only [own,List.mem_map,List.mem_filter,decide_eq_true_eq]
  constructor
  · rintro ⟨moment,⟨inside,mine⟩,same⟩
    exact ⟨moment,inside,mine,same⟩
  · rintro ⟨moment,inside,mine,same⟩
    exact ⟨moment,⟨inside,mine⟩,same⟩

namespace Interleaved
variable {pool later : ι → Thread σ} {state after : σ} {trace : List (Moment ι σ)}

section
variable (ran : Interleaved pool state trace later after) (who : ι)
include ran

theorem steps {α : Type} {program : Program σ α} (started : pool who = ⟨α,program⟩) :
    ∃ left, later who = ⟨α,left⟩ ∧ program.Steps (own who trace) left := by
  induction ran generalizing program with
  | done => exact ⟨program,started,.rest program⟩
  | @step pool _ state _ trace mover Answer effect next ready _ ih =>
    by_cases same : mover = who
    · subst same
      rw [ready] at started
      cases started
      obtain ⟨left,ended,path⟩ := ih (Function.update_self _ _ _)
      refine ⟨left,ended,?_⟩
      have mine : own mover (⟨mover,state,effect state⟩::trace) = (state,effect state)::own mover trace := by
        simp [own]
      rw [mine]
      exact .act state path
    · have other : own who (⟨mover,state,effect state⟩::trace) = own who trace := by simp [own,same]
      rw [other]
      apply ih
      rw [Function.update_of_ne (Ne.symm same)]
      exact started

theorem ends {α : Type} {program : Program σ α}
    (started : pool who = ⟨α,program⟩) {answer : α} (ended : later who = ⟨α,.pure answer⟩) : program.Ends (own who trace) answer := by
  obtain ⟨left,found,path⟩ := ran.steps who started
  rw [found] at ended
  cases ended
  exact path

theorem routine_ends {ε α : Type} {routine : Routine σ ε α} (started : pool who = routine.thread) {answer : Except ε α}
    (ended : later who = (Routine.settle answer : Routine σ ε α).thread) : routine.Ends (own who trace) answer :=
  ran.ends who started ended

end

theorem mem_own {who : ι} {moment : Moment ι σ} (inside : moment ∈ trace) (mine : moment.who = who) :
    (moment.before,moment.after) ∈ own who trace :=
  List.mem_map.mpr ⟨moment,List.mem_filter.mpr ⟨inside,by simpa using mine⟩,rfl⟩

variable {step : σ → σ → Prop}

theorem moment (ran : Interleaved pool state trace later after) {moment : Moment ι σ}
    (inside : moment ∈ trace) (takes : (pool moment.who).Takes step) : step moment.before moment.after := by
  have program : pool moment.who = ⟨_,(pool moment.who).program⟩ := rfl
  obtain ⟨left,_,walked⟩ := ran.steps moment.who program
  have along := (takes moment.before).along (fun _ _ => trivial) walked
  exact along.1 _ (mem_own inside rfl)

theorem moments (ran : Interleaved pool state trace later after)
    (takes : ∀ who, (pool who).Takes step) : ∀ moment ∈ trace, step moment.before moment.after :=
  fun moment inside => ran.moment inside (takes moment.who)

theorem split {early late : List (Moment ι σ)} (ran : Interleaved pool state (early ++ late) later after) :
    ∃ middle between, Interleaved pool state early middle between ∧ Interleaved middle between late later after := by
  induction early generalizing pool state with
  | nil => exact ⟨pool,state,.done pool state,ran⟩
  | cons moment early ih =>
    cases ran with
    | step who Answer effect next ready rest =>
      obtain ⟨middle,between,first,second⟩ := ih rest
      exact ⟨middle,between,.step who Answer effect next ready first,second⟩

theorem head {moment : Moment ι σ} (ran : Interleaved pool state (moment::trace) later after) :
    moment.before = state ∧ ∃ middle, Interleaved middle moment.after trace later after := by
  cases ran with
  | step who Answer effect next ready rest => exact ⟨rfl,_,rest⟩

theorem upto {early late : List (Moment ι σ)} {moment : Moment ι σ}
    (ran : Interleaved pool state (early ++ moment::late) later after) : ∃ middle,
      Interleaved pool state early middle moment.before ∧ Interleaved middle moment.before (moment::late) later after := by
  obtain ⟨middle,between,first,rest⟩ := ran.split
  obtain ⟨rfl,_⟩ := rest.head
  exact ⟨middle,first,rest⟩

section
variable {early middle late : List (Moment ι σ)} {first second : Moment ι σ}
  (ran : Interleaved pool state (early ++ first::(middle ++ second::late)) later after)
include ran

theorem between : ∃ start finish, Interleaved start first.after middle finish second.before := by
  obtain ⟨_,_,rest⟩ := ran.upto
  obtain ⟨_,start,rest⟩ := rest.head
  obtain ⟨finish,middle,_⟩ := rest.upto
  exact ⟨start,finish,middle⟩

theorem since : ∃ start finish, Interleaved start first.before (first::middle) finish second.before := by
  obtain ⟨start,_,rest⟩ := ran.upto
  rw [← List.cons_append] at rest
  obtain ⟨finish,middle,_⟩ := rest.upto
  exact ⟨start,finish,middle⟩

end

theorem path (ran : Interleaved pool state trace later after)
    (steps : ∀ moment ∈ trace, step moment.before moment.after) : Relation.ReflTransGen step state after := by
  induction ran with
  | done => exact .refl
  | step who Answer effect next ready rest ih =>
    have first := steps ⟨who,_,effect _⟩ List.mem_cons_self
    exact .head first (ih fun moment inside => steps moment (List.mem_cons_of_mem _ inside))

theorem preserved (holds : σ → Prop) (ran : Interleaved pool state trace later after)
    (steps : ∀ moment ∈ trace, holds moment.before → holds moment.after) (held : holds state) : holds after := by
  induction ran with
  | done => exact held
  | @step pool later state after trace who Answer effect next ready rest ih =>
    have first := steps ⟨who,state,effect state⟩ List.mem_cons_self held
    exact ih (fun moment inside => steps moment (List.mem_cons_of_mem _ inside)) first

end Interleaved

theorem own_split {who : ι} {trace : List (Moment ι σ)} {early late : List (σ × σ)} {step : σ × σ}
    (mine : own who trace = early ++ step::late) : ∃ before moment after, trace = before ++ moment::after ∧
      moment.who = who ∧ own who before = early ∧ (moment.before,moment.after) = step := by
  unfold own at mine
  obtain ⟨first,second,filtered,firstMapped,secondMapped⟩ := List.map_eq_append_iff.mp mine
  obtain ⟨moment,rest,rfl,here,_⟩ := List.map_eq_cons_iff.mp secondMapped
  obtain ⟨before,remaining,rfl,beforeFiltered,remainingFiltered⟩ := List.filter_eq_append_iff.mp filtered
  obtain ⟨skipped,after,rfl,others,matching,_⟩ := List.filter_eq_cons_iff.mp remainingFiltered
  refine ⟨before ++ skipped,moment,after,by simp,by simpa using matching,?_,here⟩
  have none : skipped.filter (fun moment => decide (moment.who = who)) = [] := by
    rw [List.filter_eq_nil_iff]
    exact others
  rw [own,List.filter_append,beforeFiltered,none,List.append_nil,firstMapped]

def play : List ι → (ι → Thread σ) → σ → List (Moment ι σ) × (ι → Thread σ) × σ
  | [], pool, state => ([],pool,state)
  | who::schedule, pool, state =>
    match pool who with
    | ⟨_,.pure _⟩ => play schedule pool state
    | ⟨Answer,.act effect next⟩ =>
      let played := play schedule (Function.update pool who ⟨Answer,next state⟩) (effect state)
      (⟨who,state,effect state⟩::played.1,played.2)

theorem interleaved_play (schedule : List ι) (pool : ι → Thread σ) (state : σ) :
    Interleaved pool state (play schedule pool state).1 (play schedule pool state).2.1 (play schedule pool state).2.2 := by
  induction schedule generalizing pool state with
  | nil => exact .done pool state
  | cons who schedule ih =>
    unfold play
    split
    · exact ih pool state
    · rename_i Answer effect next ready
      exact .step who Answer effect next ready (ih _ _)

end
end Library
