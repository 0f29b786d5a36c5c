import AgentOS.Library.Routine

/-! Routines that run alone to an answer. Every state on the way is good, so one that is
cut off leaves a good state too. -/
namespace Library.Routine
variable {σ ε α β : Type} {good : σ → Prop}

/-- Alone from the state, the routine answers as `post` says by way of good states. -/
def Completes (good : σ → Prop) (post : α → σ → Prop) (routine : Routine σ ε α) (state : σ) : Prop :=
  Holds Program.Alone (fun _ after => good after) (fun answer after => ∃ value, answer = .ok value ∧ post value after) routine state

variable {post : α → σ → Prop} {state : σ} {routine : Routine σ ε α}

variable {action : σ → Except ε α × σ} {post' : β → σ → Prop} {value : α}

theorem completes_pure (answers : post value state) :
    (Pure.pure value : Routine σ ε α).Completes good post state := ⟨value,rfl,answers⟩

theorem completes_atomic
    (answers : (action state).1 = .ok value) (kept : good (action state).2) (leaves : post value (action state).2) :
    (atomic action : Routine σ ε α).Completes good post state := by
  apply holds_atomic.mpr
  intro now others
  obtain rfl := Program.steps_alone.mp others
  exact ⟨kept,value,answers,leaves⟩

theorem completes_outcome {post : Except ε α → σ → Prop}
    (kept : good (action state).2) (leaves : post (action state).1 (action state).2) :
    (outcome (atomic action : Routine σ ε α)).Completes good post state := by
  apply holds_outcome.mpr
  apply holds_atomic.mpr
  intro now others
  obtain rfl := Program.steps_alone.mp others
  exact ⟨kept,_,rfl,leaves⟩

variable {rest : α → Routine σ ε β}

theorem Completes.bind (first : routine.Completes good post state)
    (second : ∀ value after, post value after → (rest value).Completes good post' after) :
    (routine >>= rest).Completes good post' state := by
  apply holds_bind.mpr
  apply first.weaken
  rintro answer after ⟨value,rfl,answers⟩
  exact second value after answers

theorem completes_bind (post : α → σ → Prop) (first : routine.Completes good post state)
    (second : ∀ value after, post value after → (rest value).Completes good post' after) :
    (routine >>= rest).Completes good post' state := first.bind second

theorem completes_settled {post : β → σ → Prop} {answer : Except ε α}
    (settled : answer = .ok value) (later : (rest value).Completes good post state) :
    (settle answer >>= rest).Completes good post state := by
  subst settled
  exact later

theorem Completes.exec (completes : routine.Completes good post state) :
    ∃ value after, routine.exec state = (.ok value,after) ∧ post value after := by
  obtain ⟨_,value,answers,leaves⟩ := Holds.exec completes
  exact ⟨value,_,Prod.ext answers rfl,leaves⟩

theorem Completes.cut (completes : routine.Completes good post state)
    (start : good state) (steps : Nat) : good (routine.cut steps state) := by
  rcases (Holds.cut completes steps).cases_tail with same | ⟨_,_,last⟩
  · rw [same]
    exact start
  · exact last

/-! ### Routines that may fail -/

/-- Alone from the state, the routine goes by good states; it ends with a fault that is allowed or answers as `post` says. -/
def Attempts (good : σ → Prop) (allowed : ε → Prop) (post : α → σ → Prop) (routine : Routine σ ε α) (state : σ) : Prop :=
  Holds Program.Alone (fun _ after => good after) (fun answer after => match answer with
    | .ok value => post value after
    | .error fault => allowed fault) routine state

section
variable {allowed : ε → Prop}

variable {post : α → σ → Prop} {state : σ}

theorem attempts_pure {value : α} (answers : post value state) :
    (Pure.pure value : Routine σ ε α).Attempts good allowed post state := answers

theorem attempts_throw {fault : ε} (may : allowed fault) : (throw fault : Routine σ ε α).Attempts good allowed post state := may

theorem attempts_atomic {action : σ → Except ε α × σ} (kept : good (action state).2)
    (answers : ∀ value, (action state).1 = .ok value → post value (action state).2)
    (fails : ∀ fault, (action state).1 = .error fault → allowed fault) : (atomic action).Attempts good allowed post state := by
  apply holds_atomic.mpr
  intro now others
  obtain rfl := Program.steps_alone.mp others
  refine ⟨kept,?_⟩
  cases ended : (action now).1 with
  | ok value => exact answers value ended
  | error fault => exact fails fault ended

theorem attempts_bind (post : α → σ → Prop) {post' : β → σ → Prop} {routine : Routine σ ε α} {rest : α → Routine σ ε β}
    (first : routine.Attempts good allowed post state)
    (second : ∀ value after, post value after → (rest value).Attempts good allowed post' after) :
    (routine >>= rest).Attempts good allowed post' state := by
  apply holds_bind.mpr
  apply first.weaken
  intro answer after ended
  cases answer with
  | ok value => exact second value after ended
  | error fault => exact ended

variable {answer : Except ε α}

theorem attempts_settled {post : β → σ → Prop} {rest : α → Routine σ ε β}
    (later : ∀ value, answer = .ok value → (rest value).Attempts good allowed post state)
    (fails : ∀ fault, answer = .error fault → allowed fault) : (settle answer >>= rest).Attempts good allowed post state := by
  cases answer with
  | ok value => exact later value rfl
  | error fault => exact fails fault rfl

theorem Attempts.exec {routine : Routine σ ε α} {state after : σ}
    (attempts : routine.Attempts good allowed post state) (start : good state) (done : routine.exec state = (answer,after)) :
    good after ∧ (∀ value, answer = .ok value → post value after) ∧ ∀ fault, answer = .error fault → allowed fault := by
  obtain ⟨steps,ended⟩ := Holds.exec attempts
  rw [done] at steps ended
  refine ⟨?_,?_,?_⟩
  · obtain same | ⟨_,_,last⟩ := steps.cases_tail
    · exact (show after = state from same) ▸ start
    · exact last
  · intro value same
    cases same
    exact ended
  · intro fault same
    cases same
    exact ended

theorem Attempts.cut {routine : Routine σ ε α} (attempts : routine.Attempts good allowed post state)
    (start : good state) (steps : Nat) : good (routine.cut steps state) := by
  obtain same | ⟨_,_,last⟩ := (Holds.cut attempts steps).cases_tail
  · rw [same]
    exact start
  · exact last

end

end Library.Routine
