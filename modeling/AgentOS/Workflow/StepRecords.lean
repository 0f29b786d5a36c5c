import AgentOS.Library.Machines
import AgentOS.Workflow.AgentStep

/-! The rows that attempts at a step write, over crashes, retries and resumes. An attempt writes the row that it read
with some fields changed, and both stores keep what a later row leaves out, so an error stays when the row is run again. -/
namespace AgentOS.Workflow
open Library Machines
open OrderedMap (get?_set get?_set_some)

abbrev StepKey := String × String × Nat

def keyOf (row : StepRun) : StepKey := (row.runId,row.stepKey,row.attempt)

/-! ### The rows in Postgres -/

structure StepRows where
  runs : List String
  sessions : List String
  steps : OrderedMap StepKey StepRun := .empty

/-- The columns of the conflicting row that the insertion sets: a field left out is not set. -/
def updatedRow (existing step : StepRun) : StepRun :=
  {existing with
    status := step.status
    input := step.input.or existing.input
    output := step.output.or existing.output
    error := step.error.or existing.error
    externalSessionId := step.externalSessionId.or existing.externalSessionId
    updatedAt := step.updatedAt
    startedAt := step.startedAt.or existing.startedAt
    completedAt := step.completedAt.or existing.completedAt}

def StepRows.upsertStepRun (rows : StepRows) (step : StepRun) : Except Fault (StepRun × StepRows) :=
  if step.attempt < 1 ∨ Repository.POSTGRES_INTEGER_MAX < step.attempt then
    .error (.error "attempt must be a positive PostgreSQL integer")
  else match rows.steps.get? (keyOf step) with
    | some existing =>
      if step.externalSessionId.any (· ∉ rows.sessions) then
        .error (.error "step_runs_external_session_id_external_sessions_id_fk")
      else .ok (updatedRow existing step,{rows with steps := rows.steps.set (keyOf step) (updatedRow existing step)})
    | none =>
      if rows.steps.values.any (·.id = step.id) then .error (.error "step_runs_pkey")
      else if step.runId ∉ rows.runs then .error (.error "step_runs_run_id_workflow_runs_id_fk")
      else if step.externalSessionId.any (· ∉ rows.sessions) then
        .error (.error "step_runs_external_session_id_external_sessions_id_fk")
      else .ok (step,{rows with steps := rows.steps.set (keyOf step) step})

/-! ### The rows an attempt writes -/

def draftRow (id runId stepKey : String) (attempt : Nat) (input : Json) (now : Instant) : StepRun where
  id := id
  runId := runId
  stepKey := stepKey
  attempt := attempt
  status := .pending
  input := some input
  createdAt := now
  updatedAt := now

def runningRow (step : StepRun) (now : Instant) : StepRun :=
  {step with status := .running,updatedAt := now,startedAt := some now}

def failedRow (step : StepRun) (error : Json) (now : Instant) : StepRun :=
  {step with status := .failed,error := some error,updatedAt := now,completedAt := some now}

/-- How an attempt ends: its effect had succeeded before, its session did, or it failed. -/
inductive StepEnding where
  | replayed (output : Json)
  | succeeded (output : Json) (session : ExternalSession)
  | failed (error : Json)

def StepEnding.row (step : StepRun) (now : Instant) : StepEnding → StepRun
  | .replayed output => {step with status := .succeeded,output := some output,updatedAt := now,completedAt := some now}
  | .succeeded output session => {step with
    status := .succeeded
    output := some output
    externalSessionId := some session.id
    updatedAt := now
    completedAt := some now}
  | .failed error => failedRow step error now

/-! ### Attempts, one write after another -/

structure StepStore (σ : Type) where
  steps : σ → OrderedMap StepKey StepRun
  upsert : σ → StepRun → Option (StepRun × σ)
  createSession : σ → ExternalSession → σ

def memoryStore : StepStore Repository where
  steps := Repository.stepRuns
  upsert repository step := (repository.upsertStepRun step).toOption
  createSession repository session := {repository with
    externalSessions := repository.externalSessions.set session.id session}

def neonStore : StepStore StepRows where
  steps := StepRows.steps
  upsert rows step := (rows.upsertStepRun step).toOption
  createSession rows session := {rows with sessions := session.id::rows.sessions}

structure Recording (σ : Type) where
  store : σ
  step : Option StepRun := none

inductive StepEvent where
  /-- An attempt reads the rows of its step. One that crashes is followed by another that begins. -/
  | begins (id runId stepKey : String) (attempt : Nat) (input : Json) (now : Instant)
  | starts (now : Instant)
  | ends (ending : StepEnding) (now : Instant)
  /-- `recordAdvisoryReviewFailure`, on one of the review's rows. -/
  | reviewFails (runId : String) (attempt : Nat) (error : Json) (now : Instant)

section
variable {σ : Type} (store : StepStore σ)

def written (state : σ) (row : StepRun) (step : Option StepRun) : List StepRun × Recording σ :=
  match store.upsert state row with
  | some stored => ([row],{store := stored.2,step := step})
  | none => ([],{store := state})

def sessionKept (state : σ) : StepEnding → σ
  | .succeeded _ session => store.createSession state session
  | _ => state

/-- The rows that an event writes, and what it leaves. A step of which any row has succeeded is replayed from it. -/
def record (recording : Recording σ) : StepEvent → List StepRun × Recording σ
  | .begins id runId stepKey attempt input now =>
    if (store.steps recording.store).values.any fun row =>
        row.runId = runId && row.stepKey = stepKey && row.status = .succeeded then
      ([],{store := recording.store})
    else match (store.steps recording.store).get? (runId,stepKey,attempt) with
      | some prior => ([],{store := recording.store,step := some prior})
      | none =>
        let draft := draftRow id runId stepKey attempt input now
        written store recording.store draft (some draft)
  | .starts now => match recording.step with
    | none => ([],recording)
    | some step => written store recording.store (runningRow step now) (some step)
  | .ends ending now => match recording.step with
    | none => ([],recording)
    | some step => written store (sessionKept store recording.store ending) (ending.row step now) none
  | .reviewFails runId attempt error now =>
    match (store.steps recording.store).get? (runId,"review",attempt) with
    | none => ([],{store := recording.store})
    | some step =>
      if step.status = .succeeded then ([],{store := recording.store})
      else written store recording.store (failedRow step error now) none

end

/-! ### The two stores beside each other -/

structure Storable (repository : Repository) (row : StepRun) : Prop where
  run : (repository.runs.get? row.runId).isSome
  attempt : 1 ≤ row.attempt ∧ row.attempt ≤ Repository.POSTGRES_INTEGER_MAX
  session : ∀ session, row.externalSessionId = some session → (repository.externalSessions.get? session).isSome
  id : repository.stepRuns.get? (keyOf row) = none → ∀ stored ∈ repository.stepRuns.values, stored.id ≠ row.id

def resulting (steps : OrderedMap StepKey StepRun) (row : StepRun) : StepRun :=
  match steps.get? (keyOf row) with
  | some existing => Repository.merged existing row
  | none => row

section
variable {repository : Repository} {rows : StepRows} {row : StepRun}

theorem memory_upsert (storable : Storable repository row) : memoryStore.upsert repository row =
    some (resulting repository.stepRuns row,
      {repository with stepRuns := repository.stepRuns.set (keyOf row) (resulting repository.stepRuns row)}) := by
  obtain ⟨run,stored⟩ := Option.isSome_iff_exists.mp storable.run
  have known : row.externalSessionId.filter (fun id => (repository.externalSessions.get? id).isNone) = none := by
    rw [Option.filter_eq_none_iff]
    intro session named
    simpa [Option.isSome_iff_ne_none] using storable.session session named
  unfold memoryStore Repository.upsertStepRun Repository.requireRun resulting
  dsimp only
  rw [stored]
  simp only [bind,Except.bind]
  rw [if_neg (not_or.mpr ⟨storable.attempt.1.not_gt,storable.attempt.2.not_gt⟩),known]
  dsimp only
  cases held : repository.stepRuns.get? (keyOf row) with
  | some existing =>
    rw [show repository.stepRuns.get? (row.runId,row.stepKey,row.attempt) = some existing from held]
    rfl
  | none =>
    rw [show repository.stepRuns.get? (row.runId,row.stepKey,row.attempt) = none from held,if_neg]
    · rfl
    · simpa using storable.id held

theorem memory_upsert_refused (unstorable : ¬ Storable repository row) : memoryStore.upsert repository row = none := by
  unfold memoryStore Repository.upsertStepRun Repository.requireRun
  dsimp only
  cases run : repository.runs.get? row.runId with
  | none => rfl
  | some stored =>
    simp only [bind,Except.bind]
    split
    · rfl
    rename_i range
    split
    · rfl
    rename_i known
    have session : ∀ session, row.externalSessionId = some session → (repository.externalSessions.get? session).isSome := by
      intro session named
      simpa [Option.isSome_iff_ne_none] using Option.filter_eq_none_iff.mp known session named
    have attempt : 1 ≤ row.attempt ∧ row.attempt ≤ Repository.POSTGRES_INTEGER_MAX := by omega
    split
    · rename_i existing held
      refine absurd ⟨by rw [run]; rfl,attempt,session,fun none_ => ?_⟩ unstorable
      rw [show repository.stepRuns.get? (row.runId,row.stepKey,row.attempt) = none from none_] at held
      cases held
    · split
      · rfl
      · rename_i fresh
        refine absurd ⟨by rw [run]; rfl,attempt,session,fun _ => ?_⟩ unstorable
        simpa using fresh

structure SameSteps (repository : Repository) (rows : StepRows) : Prop where
  steps : repository.stepRuns = rows.steps
  runs : ∀ id, (repository.runs.get? id).isSome ↔ id ∈ rows.runs
  sessions : ∀ id, (repository.externalSessions.get? id).isSome ↔ id ∈ rows.sessions

structure Rooted (repository : Repository) : Prop where
  keyed : ∀ key row, repository.stepRuns.get? key = some row → keyOf row = key
  runs : ∀ key row, repository.stepRuns.get? key = some row → (repository.runs.get? row.runId).isSome
  attempts : ∀ key row, repository.stepRuns.get? key = some row →
    1 ≤ row.attempt ∧ row.attempt ≤ Repository.POSTGRES_INTEGER_MAX
  sessions : ∀ key row session, repository.stepRuns.get? key = some row → row.externalSessionId = some session →
    (repository.externalSessions.get? session).isSome

theorem neon_upsert (same : SameSteps repository rows) (storable : Storable repository row) :
    neonStore.upsert rows row = some (resulting repository.stepRuns row,
      {rows with steps := rows.steps.set (keyOf row) (resulting repository.stepRuns row)}) := by
  have sessions : ¬ row.externalSessionId.any (· ∉ rows.sessions) = true := by
    intro unknown
    obtain ⟨session,named,absent⟩ := Option.any_eq_true _ _ |>.mp unknown
    exact of_decide_eq_true absent ((same.sessions session).mp (storable.session session named))
  unfold neonStore StepRows.upsertStepRun resulting
  dsimp only
  rw [if_neg (not_or.mpr ⟨storable.attempt.1.not_gt,storable.attempt.2.not_gt⟩),same.steps]
  cases held : rows.steps.get? (keyOf row) with
  | some existing =>
    dsimp only
    rw [if_neg sessions]
    rfl
  | none =>
    dsimp only
    rw [if_neg,if_neg (not_not.mpr ((same.runs _).mp storable.run)),if_neg sessions]
    · rfl
    · simpa [← same.steps] using storable.id (same.steps ▸ held)

theorem neon_upsert_refused (same : SameSteps repository rows) (rooted : Rooted repository) (unstorable : ¬ Storable repository row) :
    neonStore.upsert rows row = none := by
  have outside : (row.externalSessionId.any fun session => session ∉ rows.sessions) = false →
      ∀ session, row.externalSessionId = some session → (repository.externalSessions.get? session).isSome := by
    intro known session named
    have inside := Option.any_eq_false _ _ |>.mp known session named
    exact (same.sessions session).mpr (by simpa using inside)
  unfold neonStore StepRows.upsertStepRun
  dsimp only
  split
  · rfl
  rename_i range
  have attempt : 1 ≤ row.attempt ∧ row.attempt ≤ Repository.POSTGRES_INTEGER_MAX := by omega
  split
  · rename_i existing held
    rw [← same.steps] at held
    split
    · rfl
    · rename_i known
      have named : existing.runId = row.runId := congrArg Prod.fst (rooted.keyed _ _ held)
      have run := named ▸ rooted.runs _ _ held
      refine absurd ⟨run,attempt,outside (by simpa using known),fun none_ => ?_⟩ unstorable
      rw [none_] at held
      cases held
  · rename_i held
    split
    · rfl
    rename_i fresh
    split
    · rfl
    rename_i run
    split
    · rfl
    · rename_i known
      refine absurd ⟨(same.runs _).mpr (not_not.mp run),attempt,outside (by simpa using known),fun _ => ?_⟩ unstorable
      rw [same.steps]
      simpa using fresh

/-! ### One write -/

section
variable (steps : OrderedMap StepKey StepRun)

theorem resulting_output (row : StepRun) :
    (resulting steps row).output = row.output.or ((steps.get? (keyOf row)).bind StepRun.output) := by
  unfold resulting
  cases steps.get? (keyOf row) with
  | some existing => rfl
  | none => exact Option.or_none.symm

theorem resulting_error (row : StepRun) :
    (resulting steps row).error = row.error.or ((steps.get? (keyOf row)).bind StepRun.error) := by
  unfold resulting
  cases steps.get? (keyOf row) with
  | some existing => rfl
  | none => exact Option.or_none.symm

theorem resulting_session (row : StepRun) : (resulting steps row).externalSessionId =
    row.externalSessionId.or ((steps.get? (keyOf row)).bind StepRun.externalSessionId) := by
  unfold resulting
  cases steps.get? (keyOf row) with
  | some existing => rfl
  | none => exact Option.or_none.symm

theorem resulting_status (row : StepRun) : (resulting steps row).status = row.status := by
  unfold resulting
  cases steps.get? (keyOf row) <;> rfl

end

theorem resulting_key {steps : OrderedMap StepKey StepRun} (keyed : ∀ key row, steps.get? key = some row → keyOf row = key) :
    keyOf (resulting steps row) = keyOf row := by
  unfold resulting
  cases held : steps.get? (keyOf row) with
  | some existing => exact keyed (keyOf row) existing held
  | none => rfl

def stored (repository : Repository) (row : StepRun) : Repository :=
  {repository with stepRuns := repository.stepRuns.set (keyOf row) (resulting repository.stepRuns row)}

variable {step : Option StepRun}

theorem written_storable (storable : Storable repository row) :
    written memoryStore repository row step = ([row],{store := stored repository row,step := step}) := by
  unfold written
  rw [memory_upsert storable]
  rfl

theorem written_unstorable (unstorable : ¬ Storable repository row) :
    written memoryStore repository row step = ([],{store := repository}) := by
  unfold written
  rw [memory_upsert_refused unstorable]

theorem Rooted.stored (rooted : Rooted repository) (storable : Storable repository row) : Rooted (stored repository row) := by
  have named : keyOf (resulting repository.stepRuns row) = keyOf row := resulting_key rooted.keyed
  constructor
  · intro key found held
    rcases get?_set_some held with ⟨rfl,rfl⟩ | ⟨_,there⟩
    · exact named
    · exact rooted.keyed key found there
  · intro key found held
    rcases get?_set_some held with ⟨rfl,rfl⟩ | ⟨_,there⟩
    · rw [show (resulting repository.stepRuns row).runId = row.runId from congrArg Prod.fst named]
      exact storable.run
    · exact rooted.runs key found there
  · intro key found held
    rcases get?_set_some held with ⟨rfl,rfl⟩ | ⟨_,there⟩
    · rw [show (resulting repository.stepRuns row).attempt = row.attempt from congrArg (fun key => key.2.2) named]
      exact storable.attempt
    · exact rooted.attempts key found there
  · intro key found session held mine
    rcases get?_set_some held with ⟨rfl,rfl⟩ | ⟨_,there⟩
    · rw [resulting_session,Option.or_eq_some_iff] at mine
      rcases mine with own | ⟨_,kept⟩
      · exact storable.session session own
      · obtain ⟨existing,there,theirs⟩ := Option.bind_eq_some_iff.mp kept
        exact rooted.sessions _ existing session there theirs
    · exact rooted.sessions key found session there mine

/-! ### What the rows say -/

def lastSuccess (log : List StepRun) (key : StepKey) : Option Json :=
  (log.filter fun row => keyOf row = key && row.status = .succeeded).getLast?.bind StepRun.output

theorem lastSuccess_concat (log : List StepRun) (key : StepKey) : lastSuccess (log ++ [row]) key =
    if keyOf row = key ∧ row.status = .succeeded then row.output else lastSuccess log key := by
  unfold lastSuccess
  rw [List.filter_append,List.filter_singleton]
  split
  · rename_i succeeded
    simp [succeeded]
  · rename_i other
    have left : (decide (keyOf row = key) && decide (row.status = .succeeded)) = false := by simpa using other
    simp [left]

def ErrorsFailed (steps : OrderedMap StepKey StepRun) : Prop :=
  ∀ key row, steps.get? key = some row → row.error.isSome → row.status = .failed

def OutputsLast (steps : OrderedMap StepKey StepRun) (log : List StepRun) : Prop :=
  ∀ key, (steps.get? key).bind StepRun.output = lastSuccess log key

/-- The row that an attempt started from is the stored one, as far as later rows leave it. -/
structure UnderWay (repository : Repository) (step row : StepRun) : Prop where
  held : repository.stepRuns.get? (keyOf step) = some row
  error : row.error = step.error
  output : row.output = step.output
  session : row.externalSessionId = step.externalSessionId

structure Consistent (recording : Recording Repository) (log : List StepRun) : Prop where
  rooted : Rooted recording.store
  outputs : OutputsLast recording.store.stepRuns log
  underWay : ∀ step, recording.step = some step → ∃ row, UnderWay recording.store step row

theorem UnderWay.storable {step later : StepRun} (rooted : Rooted repository) (underWay : UnderWay repository step row)
    (same : keyOf later = keyOf step) (session : ∀ session, later.externalSessionId = some session →
      step.externalSessionId = some session ∨ (repository.externalSessions.get? session).isSome) : Storable repository later := by
  have held := underWay.held
  rw [← same] at held
  have named := rooted.keyed _ _ held
  refine ⟨?_,?_,?_,fun none_ => ?_⟩
  · rw [← show row.runId = later.runId from congrArg Prod.fst named]
    exact rooted.runs _ _ held
  · rw [← show row.attempt = later.attempt from congrArg (fun key => key.2.2) named]
    exact rooted.attempts _ _ held
  · intro id mine
    rcases session id mine with kept | known
    · exact rooted.sessions _ row id held (underWay.session.trans kept)
    · exact known
  · rw [none_] at held
    cases held

theorem outputs_stored {log : List StepRun} (outputs : OutputsLast repository.stepRuns log)
    (brings : row.status = .succeeded → row.output.isSome)
    (keeps : row.status ≠ .succeeded → row.output.or ((repository.stepRuns.get? (keyOf row)).bind StepRun.output) =
      (repository.stepRuns.get? (keyOf row)).bind StepRun.output) : OutputsLast (stored repository row).stepRuns (log ++ [row]) := by
  intro key
  rw [lastSuccess_concat]
  show (((repository.stepRuns.set _ _).get? key).bind StepRun.output) = _
  rw [get?_set]
  by_cases here : key = keyOf row
  · subst here
    rw [if_pos rfl,Option.bind_some,resulting_output]
    by_cases succeeded : row.status = .succeeded
    · rw [if_pos ⟨rfl,succeeded⟩]
      obtain ⟨output,there⟩ := Option.isSome_iff_exists.mp (brings succeeded)
      rw [there]
      rfl
    · rw [if_neg (fun both => succeeded both.2),keeps succeeded,outputs]
  · rw [if_neg here,if_neg (fun both => here both.1.symm),outputs]

theorem Consistent.written {log : List StepRun} {recording : Recording Repository} (consistent : Consistent recording log)
    (brings : row.status = .succeeded → row.output.isSome)
    (keeps : row.status ≠ .succeeded → row.output.or ((recording.store.stepRuns.get? (keyOf row)).bind StepRun.output) =
      (recording.store.stepRuns.get? (keyOf row)).bind StepRun.output)
    (goesOn : ∀ next, step = some next → UnderWay (Workflow.stored recording.store row) next (resulting recording.store.stepRuns row)) :
    Consistent (Workflow.written memoryStore recording.store row step).2
      (log ++ (Workflow.written memoryStore recording.store row step).1) := by
  by_cases storable : Storable recording.store row
  · rw [written_storable storable]
    exact ⟨consistent.rooted.stored storable,outputs_stored consistent.outputs brings keeps,fun next going => ⟨_,goesOn next going⟩⟩
  · rw [written_unstorable storable,List.append_nil]
    exact ⟨consistent.rooted,consistent.outputs,fun _ going => absurd going.symm (Option.some_ne_none _)⟩

end

section
variable {recording : Recording Repository} {log : List StepRun}

theorem Consistent.rests (consistent : Consistent recording log) : Consistent {store := recording.store} log :=
  ⟨consistent.rooted,consistent.outputs,fun _ going => absurd going.symm (Option.some_ne_none _)⟩

theorem sessionKept_steps (repository : Repository) (ending : StepEnding) :
    (sessionKept memoryStore repository ending).stepRuns = repository.stepRuns := by
  cases ending <;> rfl

theorem sessionKept_sessions {repository : Repository} {session : String} (ending : StepEnding)
    (known : (repository.externalSessions.get? session).isSome) :
    ((sessionKept memoryStore repository ending).externalSessions.get? session).isSome := by
  cases ending with
  | succeeded output kept =>
    show ((repository.externalSessions.set _ _).get? session).isSome
    rw [get?_set]
    split
    · rfl
    · exact known
  | replayed output => exact known
  | failed error => exact known

theorem Consistent.sessionKept (consistent : Consistent recording log) (ending : StepEnding) :
    Consistent {recording with store := sessionKept memoryStore recording.store ending} log := by
  have steps := sessionKept_steps recording.store ending
  have runs : (Workflow.sessionKept memoryStore recording.store ending).runs = recording.store.runs := by
    cases ending <;> rfl
  refine ⟨⟨?_,?_,?_,?_⟩,?_,?_⟩
  · rw [steps]
    exact consistent.rooted.keyed
  · rw [steps,runs]
    exact consistent.rooted.runs
  · rw [steps]
    exact consistent.rooted.attempts
  · rw [steps]
    exact fun key row session held mine => sessionKept_sessions ending (consistent.rooted.sessions key row session held mine)
  · rw [steps]
    exact consistent.outputs
  · intro step going
    obtain ⟨row,underWay⟩ := consistent.underWay step going
    exact ⟨row,steps ▸ underWay.held,underWay.error,underWay.output,underWay.session⟩

theorem output_kept {repository : Repository} {step row later : StepRun} (underWay : UnderWay repository step row)
    (same : keyOf later = keyOf step) (output : later.output = step.output) :
    later.output.or ((repository.stepRuns.get? (keyOf later)).bind StepRun.output) =
      (repository.stepRuns.get? (keyOf later)).bind StepRun.output := by
  rw [same,underWay.held,Option.bind_some,output,underWay.output]
  exact Option.or_self

theorem UnderWay.running {repository : Repository} {step row : StepRun} (underWay : UnderWay repository step row) (now : Instant) :
    UnderWay (stored repository (runningRow step now)) step (resulting repository.stepRuns (runningRow step now)) where
  held := by
    show (repository.stepRuns.set _ _).get? (keyOf step) = _
    rw [get?_set]
    exact if_pos rfl
  error := by
    rw [resulting_error,show keyOf (runningRow step now) = keyOf step from rfl,underWay.held,Option.bind_some,underWay.error]
    exact Option.or_self
  output := by
    rw [resulting_output,show keyOf (runningRow step now) = keyOf step from rfl,underWay.held,Option.bind_some,underWay.output]
    exact Option.or_self
  session := by
    rw [resulting_session,show keyOf (runningRow step now) = keyOf step from rfl,underWay.held,Option.bind_some,underWay.session]
    exact Option.or_self

theorem underWay_self {repository : Repository} {step : StepRun} (held : repository.stepRuns.get? (keyOf step) = some step) :
    UnderWay repository step step := ⟨held,rfl,rfl,rfl⟩

theorem Consistent.record (consistent : Consistent recording log) (event : StepEvent) :
    Consistent (record memoryStore recording event).2 (log ++ (record memoryStore recording event).1) := by
  cases event with
  | begins id runId stepKey attempt input now =>
    unfold Workflow.record
    dsimp only
    split
    · rw [List.append_nil]
      exact consistent.rests
    split
    · rename_i prior held
      rw [List.append_nil]
      refine ⟨consistent.rooted,consistent.outputs,?_⟩
      rintro step ⟨⟩
      have named := consistent.rooted.keyed _ _ held
      exact ⟨prior,underWay_self (named.symm ▸ held)⟩
    · rename_i none_
      have fresh : recording.store.stepRuns.get? (keyOf (draftRow id runId stepKey attempt input now)) = none := none_
      refine consistent.written nofun (fun _ => ?_) ?_
      · rw [fresh]
        rfl
      · rintro next ⟨⟩
        have unchanged : resulting recording.store.stepRuns (draftRow id runId stepKey attempt input now) =
            draftRow id runId stepKey attempt input now := by
          unfold resulting
          rw [fresh]
        rw [unchanged]
        refine underWay_self ?_
        show (recording.store.stepRuns.set _ _).get? _ = _
        rw [get?_set,if_pos rfl,unchanged]
  | starts now =>
    unfold Workflow.record
    dsimp only
    split
    · rw [List.append_nil]
      exact consistent
    · rename_i step going
      obtain ⟨row,underWay⟩ := consistent.underWay step going
      refine consistent.written nofun (fun _ => output_kept underWay rfl rfl) ?_
      rintro next ⟨⟩
      exact underWay.running now
  | ends ending now =>
    unfold Workflow.record
    dsimp only
    split
    · rw [List.append_nil]
      exact consistent
    · rename_i step going
      have kept := consistent.sessionKept ending
      obtain ⟨row,underWay⟩ := kept.underWay step going
      refine kept.written ?_ (fun unsuccessful => ?_) fun _ going => absurd going.symm (Option.some_ne_none _)
      · cases ending <;> intro succeeded
        · rfl
        · rfl
        · cases succeeded
      · cases ending
        · exact absurd rfl unsuccessful
        · exact absurd rfl unsuccessful
        · exact output_kept underWay rfl rfl
  | reviewFails runId attempt error now =>
    unfold Workflow.record
    dsimp only
    split
    · rw [List.append_nil]
      exact consistent.rests
    · rename_i step held
      split
      · rw [List.append_nil]
        exact consistent.rests
      · have named := consistent.rooted.keyed _ _ held
        have underWay : UnderWay recording.store step step := underWay_self (named.symm ▸ held)
        exact consistent.written nofun (fun _ => output_kept underWay rfl rfl) fun _ going => absurd going.symm (Option.some_ne_none _)

end

/-! ### Both stores -/

section
variable {recording : Recording Repository} {other : Recording StepRows} {repository : Repository} {rows : StepRows} {row : StepRun}

structure Alike (recording : Recording Repository) (other : Recording StepRows) : Prop where
  same : SameSteps recording.store other.store
  step : recording.step = other.step

theorem written_alike {step : Option StepRun} (same : SameSteps repository rows) (rooted : Rooted repository) :
    (written memoryStore repository row step).1 = (written neonStore rows row step).1 ∧
      Alike (written memoryStore repository row step).2 (written neonStore rows row step).2 := by
  by_cases storable : Storable repository row
  · rw [written_storable storable]
    unfold written
    rw [neon_upsert same storable]
    exact ⟨rfl,⟨congrArg (OrderedMap.set · _ _) same.steps,same.runs,same.sessions⟩,rfl⟩
  · rw [written_unstorable storable]
    unfold written
    rw [neon_upsert_refused same rooted storable]
    exact ⟨rfl,same,rfl⟩

theorem sessionKept_same (same : SameSteps repository rows) (ending : StepEnding) :
    SameSteps (sessionKept memoryStore repository ending) (sessionKept neonStore rows ending) := by
  cases ending with
  | succeeded output session =>
    refine ⟨same.steps,same.runs,fun id => ?_⟩
    show ((repository.externalSessions.set _ _).get? id).isSome ↔ id ∈ session.id::rows.sessions
    rw [get?_set,List.mem_cons]
    split
    · rename_i here
      exact iff_of_true rfl (.inl here)
    · rename_i elsewhere
      rw [same.sessions,or_iff_right elsewhere]
  | replayed output => exact same
  | failed error => exact same

variable {event : StepEvent}

theorem record_alike {log : List StepRun} (alike : Alike recording other)
    (consistent : Consistent recording log) : (record memoryStore recording event).1 = (record neonStore other event).1 ∧
      Alike (record memoryStore recording event).2 (record neonStore other event).2 := by
  have steps : memoryStore.steps recording.store = neonStore.steps other.store := alike.same.steps
  cases event with
  | begins id runId stepKey attempt input now =>
    unfold record
    dsimp only
    rw [steps]
    split
    · exact ⟨rfl,alike.same,rfl⟩
    split
    · exact ⟨rfl,alike.same,rfl⟩
    · exact written_alike alike.same consistent.rooted
  | starts now =>
    unfold record
    dsimp only
    rw [← alike.step]
    split
    · exact ⟨rfl,alike⟩
    · exact written_alike alike.same consistent.rooted
  | ends ending now =>
    unfold record
    dsimp only
    rw [← alike.step]
    split
    · exact ⟨rfl,alike⟩
    · exact written_alike (sessionKept_same alike.same ending) (consistent.sessionKept ending).rooted
  | reviewFails runId attempt error now =>
    unfold record
    dsimp only
    rw [steps]
    split
    · exact ⟨rfl,alike.same,rfl⟩
    split
    · exact ⟨rfl,alike.same,rfl⟩
    · exact written_alike alike.same consistent.rooted

/-! ### Errors -/

/-- A row is run or succeeds only if the row that its attempt has read carries no error. -/
def Unfailed (recording : Recording Repository) : StepEvent → Prop
  | .begins _ _ _ _ _ _ | .reviewFails _ _ _ _ | .ends (.failed _) _ => True
  | .starts _ | .ends (.replayed _) _ | .ends (.succeeded _ _) _ => ∀ step, recording.step = some step → step.error = none

theorem errors_written {step : Option StepRun} (errors : ErrorsFailed repository.stepRuns)
    (clean : row.status = .failed ∨ (resulting repository.stepRuns row).error = none) :
    ErrorsFailed (written memoryStore repository row step).2.store.stepRuns := by
  by_cases storable : Storable repository row
  · rw [written_storable storable]
    intro key found held present
    rcases get?_set_some held with ⟨_,rfl⟩ | ⟨_,there⟩
    · rcases clean with failed | none_
      · rw [resulting_status,failed]
      · rw [none_] at present
        cases present
    · exact errors key found there present
  · rw [written_unstorable storable]
    exact errors

theorem UnderWay.error_kept {step later : StepRun} (underWay : UnderWay repository step row) (same : keyOf later = keyOf step)
    (error : later.error = step.error) : (resulting repository.stepRuns later).error = step.error := by
  rw [resulting_error,same,underWay.held,Option.bind_some,error,underWay.error]
  exact Option.or_self

theorem errors_record {log : List StepRun} (consistent : Consistent recording log)
    (errors : ErrorsFailed recording.store.stepRuns) (clean : Unfailed recording event) :
    ErrorsFailed (record memoryStore recording event).2.store.stepRuns := by
  cases event with
  | begins id runId stepKey attempt input now =>
    unfold record
    dsimp only
    split
    · exact errors
    split
    · exact errors
    · rename_i none_
      have fresh : recording.store.stepRuns.get? (keyOf (draftRow id runId stepKey attempt input now)) = none := none_
      refine errors_written errors (.inr ?_)
      rw [resulting_error,fresh]
      rfl
  | starts now =>
    unfold record
    dsimp only
    split
    · exact errors
    · rename_i step going
      obtain ⟨row,underWay⟩ := consistent.underWay step going
      refine errors_written errors (.inr (Eq.trans ?_ (clean step going)))
      exact underWay.error_kept rfl rfl
  | ends ending now =>
    unfold record
    dsimp only
    split
    · exact errors
    · rename_i step going
      obtain ⟨row,underWay⟩ := (consistent.sessionKept ending).underWay step going
      have kept : ErrorsFailed (sessionKept memoryStore recording.store ending).stepRuns := by rwa [sessionKept_steps]
      cases ending with
      | failed error => exact errors_written kept (.inl rfl)
      | replayed output =>
        refine errors_written kept (.inr (Eq.trans ?_ (clean step going)))
        exact underWay.error_kept rfl rfl
      | succeeded output session =>
        refine errors_written kept (.inr (Eq.trans ?_ (clean step going)))
        exact underWay.error_kept rfl rfl
  | reviewFails runId attempt error now =>
    unfold record
    dsimp only
    split
    · exact errors
    split
    · exact errors
    · exact errors_written errors (.inl rfl)

theorem error_stays {step later : StepRun} {next : Option StepRun} (storable : Storable repository later)
    (underWay : UnderWay repository step row) (same : keyOf later = keyOf step) (error : later.error = step.error)
    (carried : step.error ≠ none) (going : later.status ≠ .failed) :
    ¬ ErrorsFailed (written memoryStore repository later next).2.store.stepRuns := by
  rw [written_storable storable]
  intro errors
  have held : (stored repository later).stepRuns.get? (keyOf later) = some (resulting repository.stepRuns later) := by
    show (repository.stepRuns.set _ _).get? _ = _
    rw [get?_set,if_pos rfl]
  refine going ((resulting_status _ _).symm.trans (errors _ _ held ?_))
  rw [underWay.error_kept same error]
  exact Option.isSome_iff_ne_none.mpr carried

theorem error_stays_record {log : List StepRun} (consistent : Consistent recording log)
    (unclean : ¬ Unfailed recording event) : ¬ ErrorsFailed (record memoryStore recording event).2.store.stepRuns := by
  cases event with
  | begins => exact absurd trivial unclean
  | reviewFails => exact absurd trivial unclean
  | starts now =>
    obtain ⟨step,unclean⟩ := not_forall.mp unclean
    obtain ⟨going,carried⟩ := not_forall.mp unclean
    obtain ⟨row,underWay⟩ := consistent.underWay step going
    unfold record
    dsimp only
    rw [going]
    exact error_stays (underWay.storable consistent.rooted rfl fun _ => .inl) underWay rfl rfl carried nofun
  | ends ending now =>
    have kept := consistent.sessionKept ending
    cases ending with
    | failed error => exact absurd trivial unclean
    | replayed output =>
      obtain ⟨step,unclean⟩ := not_forall.mp unclean
      obtain ⟨going,carried⟩ := not_forall.mp unclean
      obtain ⟨row,underWay⟩ := kept.underWay step going
      unfold record
      dsimp only
      rw [going]
      exact error_stays (underWay.storable kept.rooted rfl fun _ => .inl) underWay rfl rfl carried nofun
    | succeeded output session =>
      obtain ⟨step,unclean⟩ := not_forall.mp unclean
      obtain ⟨going,carried⟩ := not_forall.mp unclean
      obtain ⟨row,underWay⟩ := kept.underWay step going
      unfold record
      dsimp only
      rw [going]
      refine error_stays (underWay.storable kept.rooted rfl fun id mine => .inr ?_) underWay rfl rfl carried nofun
      cases mine
      show ((recording.store.externalSessions.set _ _).get? _).isSome
      rw [get?_set,if_pos rfl]
      rfl

end

/-! ### Every sequence of attempts -/

def log (recording : Recording Repository) (events : List StepEvent) : List StepRun :=
  (answers (record memoryStore) recording events).flatten

/-- At every point both stores hold the same rows, errors stand only on rows that failed, and outputs are those of the
last success. -/
structure KeepTheirMeaning (recording : Recording Repository) (other : Recording StepRows) (events : List StepEvent) : Prop where
  same : ∀ before, before <+: events → (after (record memoryStore) recording before).store.stepRuns =
    (after (record neonStore) other before).store.steps
  errors : ∀ before, before <+: events → ErrorsFailed (after (record memoryStore) recording before).store.stepRuns
  outputs : ∀ before, before <+: events →
    OutputsLast (after (record memoryStore) recording before).store.stepRuns (log recording before)

section
variable {recording : Recording Repository} {other : Recording StepRows} {events : List StepEvent}

variable {written : List StepRun}

section
variable (start : Consistent recording written)
include start

theorem consistent_after (events : List StepEvent) :
    Consistent (after (record memoryStore) recording events) (written ++ log recording events) := by
  induction events generalizing recording written with
  | nil =>
    rw [show log recording [] = [] from rfl,List.append_nil]
    exact start
  | cons event events ih =>
    have later := ih (start.record event)
    rwa [List.append_assoc] at later

theorem alike_after (alike : Alike recording other)
    (events : List StepEvent) : Alike (after (record memoryStore) recording events) (after (record neonStore) other events) := by
  induction events generalizing recording other written with
  | nil => exact alike
  | cons event events ih => exact ih (start.record event) (record_alike alike start).2

theorem errors_after (errors : ErrorsFailed recording.store.stepRuns) (clean : Throughout (record memoryStore) Unfailed recording events) :
    ErrorsFailed (after (record memoryStore) recording events).store.stepRuns := by
  induction events generalizing recording written with
  | nil => exact errors
  | cons event events ih => exact ih (start.record event) (errors_record start errors clean.1) clean.2

theorem unfailed_of_errors (errors : ∀ before, before <+: events → ErrorsFailed (after (record memoryStore) recording before).store.stepRuns) :
    Throughout (record memoryStore) Unfailed recording events := by
  induction events generalizing recording written with
  | nil => trivial
  | cons event events ih =>
    refine ⟨?_,ih (start.record event) fun before inside => errors (event::before) (List.cons_prefix_cons.mpr ⟨rfl,inside⟩)⟩
    by_contra unclean
    exact error_stays_record start unclean (errors [event] (List.cons_prefix_cons.mpr ⟨rfl,List.nil_prefix⟩))

end

end

/-- From stores without steps on, the rows keep their meaning exactly as long as no attempt runs, or brings to success,
a row that carries an error. -/
theorem keepTheirMeaning_iff {repository : Repository} {rows : StepRows} (same : SameSteps repository rows)
    (empty : repository.stepRuns = .empty) (events : List StepEvent) :
    KeepTheirMeaning {store := repository} {store := rows} events ↔
      Throughout (record memoryStore) Unfailed {store := repository} events := by
  have none_ : ∀ key, repository.stepRuns.get? key = none := by
    intro key
    rw [empty]
    rfl
  have unheld : ∀ key row, repository.stepRuns.get? key ≠ some row := by
    intro key row held
    rw [none_] at held
    cases held
  have start : Consistent {store := repository} [] := by
    refine ⟨⟨?_,?_,?_,?_⟩,fun key => ?_,fun _ going => absurd going.symm (Option.some_ne_none _)⟩
    · exact fun key row held => absurd held (unheld key row)
    · exact fun key row held => absurd held (unheld key row)
    · exact fun key row held => absurd held (unheld key row)
    · exact fun key row _ held => absurd held (unheld key row)
    · exact congrArg (Option.bind · StepRun.output) (none_ key)
  have clean : ErrorsFailed repository.stepRuns := fun key row held => absurd held (unheld key row)
  constructor
  · exact fun keeps => unfailed_of_errors start keeps.errors
  · intro unfailed
    refine ⟨fun before _ => (alike_after start ⟨same,rfl⟩ before).same.steps,?_,fun before _ => ?_⟩
    · rintro before ⟨rest,rfl⟩
      exact errors_after start clean (throughout_append.mp unfailed).1
    · exact (consistent_after start before).outputs

def steppingMemory : Repository := ({} : Repository).setRun
  {id := "run-1",projectId := "project-1",pipeline := "feature",status := .running,createdAt := 0,updatedAt := 0}

def steppingRows : StepRows := {runs := ["run-1"],sessions := []}

theorem stepping_same : SameSteps steppingMemory steppingRows where
  steps := rfl
  runs id := by
    show ((OrderedMap.empty.set _ _).get? id).isSome ↔ id ∈ ["run-1"]
    rw [get?_set,List.mem_singleton]
    split
    · rename_i same
      simp [same]
    · rename_i apart
      simp [apart]
  sessions id := by simp [steppingMemory,steppingRows,Repository.setRun]

def interrupted : List StepEvent :=
  [.begins "step-1" "run-1" "implementation" 1 .null 0,.starts 1,.ends (.failed (.str "transient")) 2]

def retried : List StepEvent := interrupted ++
  [.begins "step-2" "run-1" "implementation" 2 .null 3,.starts 4,.ends (.succeeded (.str "done")
    {id := "session-1",runId := "run-1",provider := "kimi",externalId := "1",status := .active,createdAt := 4}) 5]

theorem unfailed_of {recording : Recording Repository} (clean : (recording.step.all fun step => step.error = none) = true) :
    ∀ step, recording.step = some step → step.error = none := by
  intro step going
  rw [going] at clean
  simpa using clean

/-- A failed attempt and the next one, which has a row of its own. -/
theorem retried_keep_their_meaning : KeepTheirMeaning {store := steppingMemory} {store := steppingRows} retried :=
  (keepTheirMeaning_iff stepping_same rfl retried).mpr
    ⟨trivial,unfailed_of (by decide +kernel),trivial,trivial,unfailed_of (by decide +kernel),unfailed_of (by decide +kernel),trivial⟩

/-- A failed attempt that a resumed run makes again: the row runs with the error it failed with. -/
theorem resumed_attempt_keeps_error : ¬ ∀ (repository : Repository) (rows : StepRows) (events : List StepEvent),
    SameSteps repository rows → repository.stepRuns = .empty → KeepTheirMeaning {store := repository} {store := rows} events := by
  intro keep
  let events : List StepEvent := interrupted ++ [.begins "step-1" "run-1" "implementation" 1 .null 3,.starts 4]
  have errors := (keep steppingMemory steppingRows events stepping_same rfl).errors events List.prefix_rfl
    ("run-1","implementation",1)
  have held : (((after (record memoryStore) {store := steppingMemory} events).store.stepRuns.get?
      ("run-1","implementation",1)).any fun row => row.error.isSome && row.status = .running) = true := by decide +kernel
  obtain ⟨row,found,both⟩ := Option.any_eq_true _ _ |>.mp held
  rw [Bool.and_eq_true,decide_eq_true_eq] at both
  have failed := errors row found both.1
  rw [both.2] at failed
  cases failed

end AgentOS.Workflow
