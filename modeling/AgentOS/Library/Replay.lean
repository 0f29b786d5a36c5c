import Mathlib.Data.List.Basic

/-! Histories of a step that may fail: replays, which fail with their first failing step, and
attempts, where a step that fails is as if it had not been. -/
namespace Library
variable {σ ε α β : Type}

theorem exists_ok {answer : Except ε α} (accepted : answer.isOk = true) : ∃ value, answer = .ok value := by
  cases answer with
  | error error => cases accepted
  | ok value => exact ⟨value,rfl⟩

theorem bind_ok {first : Except ε α} {next : α → Except ε β} {value : β} :
    (first >>= next) = .ok value ↔ ∃ middle, first = .ok middle ∧ next middle = .ok value := by
  cases first with
  | error error =>
    constructor
    · intro impossible
      cases impossible
    · rintro ⟨_,impossible,_⟩
      cases impossible
  | ok found =>
    constructor
    · exact fun rest => ⟨found,rfl,rest⟩
    · rintro ⟨_,⟨⟩,rest⟩
      exact rest

theorem ok_of_map {found : Except ε α} {reads : α → β} {read : β} (seen : found.toOption.map reads = some read) :
    ∃ value, found = .ok value ∧ reads value = read := by
  cases found with
  | error error => cases seen
  | ok value => exact ⟨value,rfl,Option.some.inj seen⟩

section
variable (step : σ → α → Except ε σ)

def replay : σ → List α → Except ε σ
  | state, [] => .ok state
  | state, input::inputs => match step state input with
    | .ok after => replay after inputs
    | .error error => .error error

def attempt (state : σ) (input : α) : σ := match step state input with
  | .ok after => after
  | .error _ => state

def attempts (state : σ) (inputs : List α) : σ := inputs.foldl (attempt step) state

end

section
variable {step : σ → α → Except ε σ} {state after last : σ} {input : α} {inputs more : List α}

theorem replay_cons : replay step state (input::inputs) = .ok last ↔
    ∃ after, step state input = .ok after ∧ replay step after inputs = .ok last := by
  rw [replay]
  cases step state input with
  | ok after => simp
  | error error => simp

theorem replay_append : replay step state (inputs ++ more) = .ok last ↔
    ∃ middle, replay step state inputs = .ok middle ∧ replay step middle more = .ok last := by
  induction inputs generalizing state with
  | nil => simp [replay]
  | cons input inputs ih =>
    rw [List.cons_append,replay_cons]
    simp only [ih,replay_cons]
    constructor
    · rintro ⟨after,first,middle,rest,later⟩
      exact ⟨middle,⟨after,first,rest⟩,later⟩
    · rintro ⟨middle,⟨after,first,rest⟩,later⟩
      exact ⟨after,first,middle,rest,later⟩

theorem attempt_ok (ok : step state input = .ok after) : attempt step state input = after := by
  rw [attempt,ok]

theorem attempt_error {error : ε} (failed : step state input = .error error) : attempt step state input = state := by
  rw [attempt,failed]

theorem attempts_append : attempts step state (inputs ++ more) = attempts step (attempts step state inputs) more :=
  List.foldl_append

theorem attempts_preserved (allowed : σ → α → Prop) (holds : σ → Prop)
    (steps : ∀ state input after, holds state → allowed state input → step state input = .ok after → holds after) (start : holds state)
    (allow : ∀ early input late, inputs = early ++ input::late → allowed (attempts step state early) input) :
    holds (attempts step state inputs) := by
  induction inputs generalizing state with
  | nil => exact start
  | cons input inputs ih =>
    have first : holds (attempt step state input) := by
      cases tried : step state input with
      | ok after =>
        rw [attempt_ok tried]
        exact steps state input after start (allow [] input inputs rfl) tried
      | error error =>
        rw [attempt_error tried]
        exact start
    refine ih first fun early other late split => ?_
    exact allow (input::early) other late (by rw [split]; rfl)

theorem attempts_kept (holds : σ → Prop) (steps : ∀ state input after, holds state → step state input = .ok after → holds after)
    (start : holds state) : holds (attempts step state inputs) :=
  attempts_preserved (fun _ _ => True) holds (fun state input after held _ => steps state input after held) start
    fun _ _ _ _ => trivial

end

/-! ### Duplicates -/

section
variable (duplicate : σ → α → Bool) (step : σ → α → Except ε σ)

/-- The inputs of a replay that are no duplicates, each with the state that it found. -/
def fresh : σ → List α → List (σ × α)
  | _, [] => []
  | state, input::inputs => match step state input with
    | .error _ => []
    | .ok after => if duplicate state input then fresh after inputs else (state,input)::fresh after inputs

end

section
variable {duplicate : σ → α → Bool} {step : σ → α → Except ε σ} {state after last : σ} {input : α} {inputs : List α}

theorem fresh_duplicate (repeated : duplicate state input = true) (ok : step state input = .ok after) :
    fresh duplicate step state (input::inputs) = fresh duplicate step after inputs := by
  rw [fresh,ok]
  exact if_pos repeated

theorem fresh_new (new : duplicate state input = false) (ok : step state input = .ok after) :
    fresh duplicate step state (input::inputs) = (state,input)::fresh duplicate step after inputs := by
  rw [fresh,ok]
  exact if_neg (by simp [new])

theorem fresh_sublist : ((fresh duplicate step state inputs).map Prod.snd).Sublist inputs := by
  induction inputs generalizing state with
  | nil => exact List.Sublist.refl _
  | cons input inputs ih =>
    rw [fresh]
    split
    · exact List.nil_sublist _
    · split
      · exact ih.cons _
      · exact ih.cons_cons _

theorem fresh_preserved (holds : List (σ × α) → σ → Prop)
    (repeats : ∀ {state input after}, duplicate state input = true → step state input = .ok after → after = state)
    (steps : ∀ {early state input after}, holds early state → duplicate state input = false → step state input = .ok after →
      holds (early ++ [(state,input)]) after)
    {early : List (σ × α)} (start : holds early state) (replayed : replay step state inputs = .ok last) :
    holds (early ++ fresh duplicate step state inputs) last := by
  induction inputs generalizing early state with
  | nil =>
    cases replayed
    rwa [fresh,List.append_nil]
  | cons input inputs ih =>
    obtain ⟨after,first,rest⟩ := replay_cons.mp replayed
    cases known : duplicate state input with
    | true =>
      rw [fresh_duplicate known first]
      cases repeats known first
      exact ih start rest
    | false =>
      rw [fresh_new known first]
      have later := ih (steps start known first) rest
      rwa [List.append_assoc] at later

theorem replay_fresh (repeats : ∀ {state input after}, duplicate state input = true → step state input = .ok after → after = state)
    (replayed : replay step state inputs = .ok last) :
    replay step state ((fresh duplicate step state inputs).map Prod.snd) = .ok last := by
  induction inputs generalizing state with
  | nil => exact replayed
  | cons input inputs ih =>
    obtain ⟨after,first,rest⟩ := replay_cons.mp replayed
    cases known : duplicate state input with
    | true =>
      rw [fresh_duplicate known first]
      cases repeats known first
      exact ih rest
    | false =>
      rw [fresh_new known first]
      exact replay_cons.mpr ⟨after,first,ih rest⟩

end

end Library
