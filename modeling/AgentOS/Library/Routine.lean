import AgentOS.Library.Program

/-! Routines: programs that may throw. A routine's answer is a value or an error,
and an error ends it unless a caller asks for the outcome instead. -/
namespace Library

abbrev Routine (σ ε : Type) (α : Type) : Type := ExceptT ε (Program σ) α

namespace Routine
variable {σ ε α β : Type}

def exec (routine : Routine σ ε α) (state : σ) : Except ε α × σ := Program.run (ExceptT.run routine) state

/-- The state left behind by a caller that dies after `steps` atomic steps. -/
def cut (steps : Nat) (routine : Routine σ ε α) (state : σ) : σ := Program.cut steps (ExceptT.run routine) state

def atomic (step : σ → Except ε α × σ) : Routine σ ε α := ExceptT.mk (Program.atomic step)

def outcome (routine : Routine σ ε α) : Routine σ ε (Except ε α) :=
  ExceptT.mk (ExceptT.run routine >>= fun answer => Pure.pure (.ok answer))

def settle (answer : Except ε α) : Routine σ ε α := ExceptT.mk (Pure.pure answer)

@[simp] theorem exec_pure (value : α) (state : σ) :
    (Pure.pure value : Routine σ ε α).exec state = (.ok value,state) := rfl

@[simp] theorem exec_throw (error : ε) (state : σ) :
    (throw error : Routine σ ε α).exec state = (.error error,state) := rfl

@[simp] theorem exec_atomic (step : σ → Except ε α × σ) (state : σ) :
    (atomic step).exec state = step state := rfl

@[simp] theorem exec_settle (answer : Except ε α) (state : σ) :
    (settle answer : Routine σ ε α).exec state = (answer,state) := rfl

theorem exec_bind (routine : Routine σ ε α) (rest : α → Routine σ ε β) (state : σ) :
    (routine >>= rest).exec state = match routine.exec state with
      | (.ok value,after) => (rest value).exec after
      | (.error error,after) => (.error error,after) := by
  change Program.run (ExceptT.run routine >>= ExceptT.bindCont rest) state = _
  rw [Program.run_bind]
  unfold exec
  rcases Program.run (ExceptT.run routine) state with ⟨answer,after⟩
  cases answer <;> rfl

@[simp] theorem exec_outcome (routine : Routine σ ε α) (state : σ) :
    routine.outcome.exec state = (.ok (routine.exec state).1,(routine.exec state).2) := by
  change Program.run (ExceptT.run routine >>= fun answer => Pure.pure (Except.ok answer)) state = _
  rw [Program.run_bind]
  rfl

theorem exec_bind_ok (routine : Routine σ ε α) (rest : α → Routine σ ε β) (state after : σ) (result : β) :
    (routine >>= rest).exec state = (.ok result,after) ↔
      ∃ value middle, routine.exec state = (.ok value,middle) ∧ (rest value).exec middle = (.ok result,after) := by
  rw [exec_bind]
  rcases routine.exec state with ⟨answer,middle⟩
  cases answer with
  | error error => simp
  | ok value =>
    constructor
    · exact fun rest => ⟨value,middle,rfl,rest⟩
    · rintro ⟨_,_,equal,rest⟩
      cases equal
      exact rest

theorem cut_bind (routine : Routine σ ε α) (rest : α → Routine σ ε β) (steps : Nat) (state : σ) :
    (routine >>= rest).cut steps state = routine.cut steps state ∨ ∃ value after later, routine.exec state = (.ok value,after) ∧
        (routine >>= rest).cut steps state = (rest value).cut later after := by
  rcases Program.cut_bind (ExceptT.run routine) (ExceptT.bindCont rest) steps state with early | ⟨ended,later,late⟩
  · exact .inl early
  · rcases done : routine.exec state with ⟨answer,after⟩
    rw [exec] at done
    rw [done] at late ended
    cases answer with
    | ok value => exact .inr ⟨value,after,later,rfl,late⟩
    | error error =>
      refine .inl (late.trans ?_)
      have stopped : (Pure.pure (Except.error error) : Program σ (Except ε β)).cut later after = after := by
        cases later <;> rfl
      exact stopped.trans ended.symm

theorem exists_cut (routine : Routine σ ε α) (state : σ) : ∃ steps, routine.cut steps state = (routine.exec state).2 :=
  Program.exists_cut _ _

/-- Run alone from a state, the routine ends as `post` says. -/
def Leads (state : σ) (post : Except ε α → σ → Prop) (routine : Routine σ ε α) : Prop :=
  post (routine.exec state).1 (routine.exec state).2

theorem leads_bind {routine : Routine σ ε α} {rest : α → Routine σ ε β} {state : σ} {early : Except ε α → σ → Prop}
    {post : Except ε β → σ → Prop} (first : routine.Leads state early)
    (later : ∀ value after, early (.ok value) after → (rest value).Leads after post)
    (failed : ∀ error after, early (.error error) after → post (.error error) after) : (routine >>= rest).Leads state post := by
  unfold Leads at first ⊢
  rw [exec_bind]
  rcases ended : routine.exec state with ⟨answer,after⟩
  rw [ended] at first
  cases answer with
  | ok value => exact later value after first
  | error error => exact failed error after first

theorem leads_settled {answer : Except ε α} {rest : α → Routine σ ε β} {state : σ} {post : Except ε β → σ → Prop}
    (later : ∀ value, answer = .ok value → (rest value).Leads state post)
    (failed : ∀ error, answer = .error error → post (.error error) state) : (settle answer >>= rest).Leads state post := by
  cases answer with
  | ok value => exact later value rfl
  | error error => exact failed error rfl

theorem Leads.outcome {routine : Routine σ ε α} {state : σ} {post : Except ε α → σ → Prop} (first : routine.Leads state post) :
    routine.outcome.Leads state fun answer after => ∃ ended, answer = .ok ended ∧ post ended after := by
  unfold Leads
  rw [exec_outcome]
  exact ⟨_,rfl,first⟩

theorem Leads.mono {routine : Routine σ ε α} {state : σ} {early late : Except ε α → σ → Prop}
    (first : routine.Leads state early) (more : ∀ answer after, early answer after → late answer after) :
    routine.Leads state late := more _ _ first

@[simp] theorem cut_pure (value : α) (steps : Nat) (state : σ) : (Pure.pure value : Routine σ ε α).cut steps state = state := by
  cases steps <;> rfl

@[simp] theorem cut_throw (error : ε) (steps : Nat) (state : σ) : (throw error : Routine σ ε α).cut steps state = state := by
  cases steps <;> rfl

/-- `Program.Holds` of a routine: `post` says how it may end and in what state. -/
def Holds (rely step : σ → σ → Prop) (post : Except ε α → σ → Prop) (routine : Routine σ ε α) (state : σ) : Prop :=
  Program.Holds rely step post (ExceptT.run routine) state

section
variable {rely step : σ → σ → Prop}

variable {post : Except ε α → σ → Prop} {routine : Routine σ ε α} {state : σ}

@[simp] theorem holds_pure {value : α} :
    Holds rely step post (Pure.pure value : Routine σ ε α) state ↔ post (.ok value) state := Iff.rfl

@[simp] theorem holds_throw {error : ε} :
    Holds rely step post (throw error : Routine σ ε α) state ↔ post (.error error) state := Iff.rfl

@[simp] theorem holds_settle {answer : Except ε α} :
    Holds rely step post (settle answer : Routine σ ε α) state ↔ post answer state := Iff.rfl

theorem holds_atomic {action : σ → Except ε α × σ} :
    Holds rely step post (atomic action) state ↔ ∀ now, Relation.ReflTransGen rely state now →
      step now (action now).2 ∧ post (action now).1 (action now).2 := Iff.rfl

/-- How `rest` continues after a routine that ended with `answer`. -/
def continued (rely step : σ → σ → Prop) (post : Except ε β → σ → Prop) (rest : α → Routine σ ε β) :
    Except ε α → σ → Prop
  | .ok value, state => Holds rely step post (rest value) state
  | .error error, state => post (.error error) state

variable {rest : α → Routine σ ε β}

@[simp] theorem continued_ok {post : Except ε β → σ → Prop} {value : α} :
    continued rely step post rest (.ok value) state ↔ Holds rely step post (rest value) state := Iff.rfl

@[simp] theorem continued_error {post : Except ε β → σ → Prop} {error : ε} :
    continued rely step post rest (.error error) state ↔ post (.error error) state := Iff.rfl

theorem holds_bind {post : Except ε β → σ → Prop} : Holds rely step post (routine >>= rest) state ↔
      Holds rely step (continued rely step post rest) routine state := by
  change Program.Holds rely step post (ExceptT.run routine >>= ExceptT.bindCont rest) state ↔ _
  rw [Program.holds_bind]
  have same : (fun answer => Program.Holds rely step post (ExceptT.bindCont rest answer)) =
      continued rely step post rest := by
    funext answer
    cases answer <;> rfl
  rw [same]
  rfl

theorem holds_outcome {post : Except ε (Except ε α) → σ → Prop} :
    Holds rely step post routine.outcome state ↔ Holds rely step (fun answer => post (.ok answer)) routine state := by
  change Program.Holds rely step post (ExceptT.run routine >>= fun answer => Pure.pure (Except.ok answer)) state ↔ _
  rw [Program.holds_bind]
  rfl

theorem Holds.mono {rely' step' : σ → σ → Prop} {post post' : Except ε α → σ → Prop} (held : Holds rely step post routine state)
    (fewer : ∀ before after, rely' before after → rely before after)
    (steps : ∀ before after, step before after → step' before after)
    (answers : ∀ answer after, post answer after → post' answer after) :
    Holds rely' step' post' routine state := Program.Holds.mono held fewer steps answers

theorem Holds.weaken {post post' : Except ε α → σ → Prop}
    (held : Holds rely step post routine state) (answers : ∀ answer after, post answer after → post' answer after) :
    Holds rely step post' routine state := held.mono (fun _ _ other => other) (fun _ _ own => own) answers

theorem Holds.exec (held : Holds rely step post routine state) :
    Relation.ReflTransGen step state (routine.exec state).2 ∧ post (routine.exec state).1 (routine.exec state).2 :=
  Program.Holds.run held

theorem Holds.cut (held : Holds rely step post routine state) (steps : Nat) :
    Relation.ReflTransGen step state (routine.cut steps state) := Program.Holds.cut held steps

end

/-! ### The steps a routine can take -/

/-- Whatever others do meanwhile, every step of the routine is in `step`. -/
def Takes (step : σ → σ → Prop) (routine : Routine σ ε α) : Prop :=
  ∀ state, Holds (fun _ _ => True) step (fun _ _ => True) routine state

/-- No step of the routine changes what `observe` sees. -/
abbrev Keeps {ω : Type} (observe : σ → ω) (routine : Routine σ ε α) : Prop :=
  routine.Takes fun before after => observe after = observe before

section
variable {step : σ → σ → Prop}

@[simp] theorem takes_pure (value : α) : Takes step (Pure.pure value : Routine σ ε α) := fun _ => trivial

@[simp] theorem takes_throw (error : ε) : Takes step (throw error : Routine σ ε α) := fun _ => trivial

@[simp] theorem takes_settle (answer : Except ε α) : Takes step (settle answer : Routine σ ε α) := fun _ => trivial

variable {action : σ → Except ε α × σ}

theorem takes_atomic (taken : ∀ now, step now (action now).2) :
    Takes step (atomic action) := fun _ => holds_atomic.mpr fun now _ => ⟨taken now,trivial⟩

variable {routine : Routine σ ε α} {post : α → Prop}

variable {rest : α → Routine σ ε β}

theorem Takes.bind (first : routine.Takes step) (second : ∀ value, (rest value).Takes step) : (routine >>= rest).Takes step := by
  intro state
  rw [holds_bind]
  apply (first state).weaken
  intro answer after _
  cases answer with
  | ok value => exact second value after
  | error error => trivial

/-- As `Takes`, where besides every answer is one that `post` allows. -/
def Gives (step : σ → σ → Prop) (post : α → Prop) (routine : Routine σ ε α) : Prop :=
  ∀ state, Holds (fun _ _ => True) step (fun answer _ => ∀ value, answer = .ok value → post value) routine state

theorem gives_pure {value : α} (allowed : post value) : Gives step post (Pure.pure value : Routine σ ε α) := by
  intro _ other same
  cases same
  exact allowed

theorem gives_throw (error : ε) : Gives step post (throw error : Routine σ ε α) := by
  intro _ value impossible
  cases impossible

theorem gives_atomic (taken : ∀ now, step now (action now).2)
    (allowed : ∀ now value, (action now).1 = .ok value → post value) : Gives step post (atomic action) :=
  fun _ => holds_atomic.mpr fun now _ => ⟨taken now,allowed now⟩

theorem Gives.bind {post' : β → Prop}
    (first : routine.Gives step post) (second : ∀ value, post value → (rest value).Gives step post') :
    (routine >>= rest).Gives step post' := by
  intro state
  rw [holds_bind]
  apply (first state).weaken
  intro answer after allowed
  cases answer with
  | ok value => exact second value (allowed value rfl) after
  | error error =>
    intro value impossible
    cases impossible

theorem Gives.mono {post post' : α → Prop} (gives : routine.Gives step post)
    (more : ∀ value, post value → post' value) : routine.Gives step post' :=
  fun state => (gives state).weaken fun _ _ allowed value same => more value (allowed value same)

theorem Gives.takes (gives : routine.Gives step post) : routine.Takes step := fun state => (gives state).weaken fun _ _ _ => trivial

theorem Takes.gives (taken : routine.Takes step) : routine.Gives step fun _ => True :=
  fun state => (taken state).weaken fun _ _ _ _ _ => trivial

theorem Gives.then (first : routine.Gives step post) (second : ∀ value, post value → (rest value).Takes step) :
    (routine >>= rest).Takes step := (first.bind fun value allowed => (second value allowed).gives).takes

theorem Takes.outcome (taken : routine.Takes step) : routine.outcome.Takes step :=
  fun state => holds_outcome.mpr (taken state)

theorem Gives.outcome (gives : routine.Gives step post) :
    routine.outcome.Gives step fun answer => ∀ value, answer = .ok value → post value := by
  intro state
  rw [holds_outcome]
  apply (gives state).weaken
  intro answer after allowed ended same
  cases same
  exact allowed

theorem takes_forM {items : List β} {body : β → Routine σ ε PUnit} (taken : ∀ item ∈ items, (body item).Takes step) :
    (items.forM body).Takes step := by
  induction items with
  | nil => exact takes_pure PUnit.unit
  | cons item items ih =>
    change Takes step (body item >>= fun _ => items.forM body)
    exact (taken item List.mem_cons_self).bind fun _ => ih fun other inside => taken other (List.mem_cons_of_mem _ inside)

theorem Takes.mono {step' : σ → σ → Prop} (taken : routine.Takes step)
    (steps : ∀ before after, step before after → step' before after) : routine.Takes step' :=
  fun state => (taken state).mono (fun _ _ other => other) steps fun _ _ ended => ended

theorem Takes.exec (taken : routine.Takes step) (state : σ) :
    Relation.ReflTransGen step state (routine.exec state).2 := (taken state).exec.1

theorem Takes.cut (taken : routine.Takes step) (steps : Nat) (state : σ) :
    Relation.ReflTransGen step state (routine.cut steps state) := (taken state).cut steps

end

/-! ### The errors a routine can end with -/

/-- Whatever others do meanwhile, an error of the routine is one that `allowed` lists. -/
def Throws (allowed : ε → Prop) (routine : Routine σ ε α) : Prop :=
  ∀ state, Holds (fun _ _ => True) (fun _ _ => True) (fun answer _ => ∀ error, answer = .error error → allowed error)
    routine state

section
variable {allowed : ε → Prop}

theorem throws_pure (value : α) : Throws allowed (Pure.pure value : Routine σ ε α) := by
  intro _ error impossible
  cases impossible

theorem throws_throw {error : ε} (listed : allowed error) : Throws allowed (throw error : Routine σ ε α) := by
  intro _ other same
  cases same
  exact listed

theorem throws_atomic {action : σ → Except ε α × σ}
    (listed : ∀ now error, (action now).1 = .error error → allowed error) : Throws allowed (atomic action) :=
  fun _ => holds_atomic.mpr fun now _ => ⟨trivial,listed now⟩

theorem throws_outcome (routine : Routine σ ε α) : Throws allowed routine.outcome := by
  intro state
  rw [holds_outcome]
  have anyhow : routine.Takes fun _ _ => True := by
    intro state
    unfold Holds
    induction ExceptT.run routine generalizing state with
    | pure value => trivial
    | act effect next ih => exact fun now _ => ⟨trivial,ih now (effect now)⟩
  apply (anyhow state).weaken
  intro answer after _ error impossible
  cases impossible

theorem Throws.bind {routine : Routine σ ε α} {rest : α → Routine σ ε β} (first : routine.Throws allowed)
    (second : ∀ value, (rest value).Throws allowed) : (routine >>= rest).Throws allowed := by
  intro state
  rw [holds_bind]
  apply (first state).weaken
  intro answer after listed
  cases answer with
  | ok value => exact second value after
  | error error =>
    rintro _ ⟨⟩
    exact listed error rfl

end

section

theorem kept_steps {ω : Type} {observe : σ → ω} {before after : σ}
    (steps : Relation.ReflTransGen (fun before after => observe after = observe before) before after) :
    observe after = observe before := by
  induction steps with
  | refl => rfl
  | tail _ last ih => exact last.trans ih

theorem Keeps.exec {ω : Type} {observe : σ → ω} {routine : Routine σ ε α} (kept : routine.Keeps observe) (state : σ) :
    observe (routine.exec state).2 = observe state := kept_steps (Takes.exec kept state)

theorem Keeps.cut {ω : Type} {observe : σ → ω} {routine : Routine σ ε α} (kept : routine.Keeps observe) (steps : Nat)
    (state : σ) : observe (routine.cut steps state) = observe state := kept_steps (Takes.cut kept steps state)

theorem Keeps.of_exec {ω : Type} {observe : σ → ω} {routine : Routine σ ε α} {state after : σ} {answer : Except ε α}
    (kept : routine.Keeps observe) (done : routine.exec state = (answer,after)) : observe after = observe state := by
  have same := Keeps.exec kept state
  rwa [done] at same

end

end Routine
end Library
