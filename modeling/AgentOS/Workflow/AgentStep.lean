import AgentOS.Library.Local
import AgentOS.Workflow.Access

/-! A step that an agent does. Each attempt claims the session's effect, is
admitted against the budgets, starts a session or finds it again, collects and
checks its output, and whatever happened cleans up and settles. -/
namespace AgentOS.Workflow
open Library Checkpoint AgentOS.Action

/-! ### What a step is given -/

structure Schema where
  parse : Json → Option Json
  stable : ∀ value parsed, parse value = some parsed → parse parsed = some parsed
  issues : Json → String := fun _ => ""

structure RuntimeOutput where
  data : Option Json := none
  hasText : Bool := false

/-- An event of a session's stream, with the entries of the feed it gives rise to. -/
structure StreamedEvent where
  wellFormed : Bool := true
  notes : List ProgressNote := []
  last : Bool := false

/-- What the runtime answers about a session. A stream that is late, or no output,
means that the session's time ran out first. -/
structure RuntimeAnswers where
  startRefusal : Nat → Option Fault := fun _ => none
  stream : Nat → String → List StreamedEvent × Bool := fun _ _ => ([],false)
  output : Nat → String → Option RuntimeOutput := fun _ _ => none
  rendered : Json → Option String := fun _ => none

structure StepDependencies where
  workflow : FeatureWorkflowInput
  roles : FeatureWorkflowRoles
  execution : Option WorkflowExecutionContext := none
  budgetLimits : BudgetLimits := Outbox.DEFAULT_WORKFLOW_BUDGET_LIMITS
  deploymentDailyLimitMicrodollars : Option Int := none
  deploymentDailyUsageMicrodollars : Nat → Option Int := fun _ => none
  priceUsage : RuntimeUsage → String → Except Fault Int
  runtimeAccess : Option AccessPreparation := none
  answers : RuntimeAnswers := {}

structure StepRequest where
  stepKey : String
  role : FeatureRole
  input : Json
  schema : Schema
  finalizeOutput : Option (Nat → String → RuntimeOutput → Except Fault (Option Json)) := none

def stepRunId (runId stepKey : String) (attempt : Nat) : String := runId ++ ":" ++ stepKey ++ ":" ++ toString attempt

def runtimeAccessKey (runId stepKey : String) (attempt : Nat) : String :=
  "runtime-access:" ++ runId ++ ":" ++ stepKey ++ ":" ++ toString attempt

/-- What an attempt has settled before its session: its row, its claim, its budget. -/
structure AttemptScope where
  number : Nat
  step : StepRun
  progress : StepProgressContext
  effectKey : String
  definition : FeatureRoleDefinition
  claimed : Effect
  lease : EffectLease
  limits : BudgetLimits
  workflowSpent : Int
  dailySpent : Int
  estimatedMicrodollars : Int

structure AttemptState where
  handle : Option String := none
  externalSessionId : Option String := none
  usageRecorded : Bool := false
  recordedMicrodollars : Int := 0
  usageDraft : Option UsageRecord := none
  usageFailure : Option Fault := none
  runtimeStartAttempted : Bool := false
  runtimeAccess : Option RuntimeAccess := none
  completedResult : Option Json := none

abbrev Attempt := Local World AttemptState Fault

inductive AttemptEnd where
  | completed (output : Json)
  | retry (lastError : Option Fault)

/-! ### Errors of the runtime -/

def isWorkflowTransient : Fault → Bool
  | .transient _ | .startPending _ => true
  | _ => false

def classifiedRuntimeError (fault : Fault) : Fault :=
  match fault with
  | .permanent _ | .transient _ | .startPending _ | .budgetExhausted _ => fault
  | fault => if isTransientOperationError fault then .transient "runtime transient failure"
    else if fault.message?.isNone then .permanent "runtime operation failed" else fault

def hasErrorCode (fault : Fault) (code : String) : Bool :=
  ((causesOf fault).take 6).any fun cause => cause.code = some (.str code)

def DEFINITE_START_REJECTIONS : List Int := [400,401,403,404,422]

def isDefiniteStartRejection (fault : Fault) : Bool :=
  (((causesOf fault).take 6).findSome? fun cause => cause.status.bind Json.number?).any (· ∈ DEFINITE_START_REJECTIONS)

/-- Why there was no structured output, in the two shapes that mean different things. -/
def noStructuredOutputDetail (hasText : Bool) (elapsedMs : Int) : String :=
  let seconds := max 0 ((elapsedMs + 500).fdiv 1000)
  let elapsed := if seconds < 60 then toString seconds ++ "s"
    else toString (seconds / 60) ++ "m" ++ toString (seconds % 60) ++ "s"
  if hasText then
    "no structured output: the session ended after " ++ elapsed ++
      " having sent text instead of the required JSON message"
  else "no structured output: the session ran " ++ elapsed ++
    " and ended silently, which is what a session cut off at its deadline looks like"

/-! ### The ledger -/

def BUDGET_OVERRIDE_EVENT : String := "run.budget_override_granted"

def visitBudgetOverride (granted : Int) (event : Event) : Int :=
  if event.type ≠ BUDGET_OVERRIDE_EVENT then granted
  else match (event.payload.field? "microdollars").bind Json.number? with
    | some amount => if isSafeInteger amount ∧ 0 < amount then granted + amount else granted
    | none => granted

def budgetLimitsWithOverrides (env : Environment) (deps : StepDependencies) : Action BudgetLimits := do
  let granted ← scanRunEvents env deps.workflow.runId visitBudgetOverride 1000 none 0
  let base := deps.budgetLimits
  pure {base with
    workflowLimitMicrodollars := base.workflowLimitMicrodollars + granted
    dailyLimitMicrodollars := base.dailyLimitMicrodollars + granted}

/-- What the session cost: as reported and priced, or else the whole reservation. -/
def reportedUsage (env : Environment) (deps : StepDependencies) (scope : AttemptScope) (handle : Option String)
    (attempted : Bool) : Action (RuntimeUsage × Int) := do
  let whole : RuntimeUsage × Int :=
    ({runtimeMs := if attempted then sessionTimeoutMs else 0},if attempted then scope.estimatedMicrodollars else 0)
  match handle with
  | none => pure whole
  | some _ => do
    match ← (Runtime.usage env).outcome with
    | .error _ => pure whole
    | .ok usage => match deps.priceUsage usage scope.definition.agent.model with
      | .error _ => pure whole
      | .ok priced => pure (if isNonNegativeSafeInteger priced then (usage,priced) else whole)

def usageId (runId : String) (progress : StepProgressContext) : String :=
  "usage:" ++ runId ++ ":" ++ progress.stepKey ++ ":" ++ toString progress.attempt ++
    (if progress.resumeGeneration = 0 then "" else ":resume:" ++ toString progress.resumeGeneration)

def usageEntry (deps : StepDependencies) (scope : AttemptScope) (usage : RuntimeUsage) (microdollars : Int)
    (recordedAt : Instant) : UsageRecord where
  idempotencyId := usageId deps.workflow.runId scope.progress
  runId := deps.workflow.runId
  stepRunId := some scope.progress.stepRunId
  model := scope.definition.agent.model
  pricingVersion := USAGE_PRICING_VERSION ++ ":" ++ deps.workflow.digests.config
  inputTokens := usage.inputTokens
  outputTokens := usage.outputTokens
  cacheReadInputTokens := usage.cacheReadInputTokens.getD 0
  cacheCreation5mInputTokens := usage.cacheCreation5mInputTokens.getD 0
  cacheCreation1hInputTokens := usage.cacheCreation1hInputTokens.getD 0
  runtimeMs := usage.runtimeMs
  microdollars := microdollars
  recordedAt := recordedAt

def appendUsage (env : Environment) (entry : UsageRecord) : Action UsageRecord :=
  repository env fun _ repository => repository.appendUsage entry

def appendUsageTwice (env : Environment) (entry : UsageRecord) : Action UsageRecord := do
  match ← (appendUsage env entry).outcome with
  | .ok stored => pure stored
  | .error fault => if isTransientOperationError fault then appendUsage env entry else throw fault

def recordUsage (env : Environment) (deps : StepDependencies) (scope : AttemptScope) : Attempt Unit := do
  let state ← Local.get
  if state.usageRecorded then pure ()
  else match state.usageFailure with
    | some fault => throw fault
    | none => do
      let entry ← match state.usageDraft with
        | some entry => pure entry
        | none => do
          let (usage,microdollars) ← Local.call (reportedUsage env deps scope state.handle state.runtimeStartAttempted)
          let recordedAt ← Local.call (now env)
          let entry := usageEntry deps scope usage microdollars recordedAt
          Local.modify fun state => {state with usageDraft := some entry}
          pure entry
      match ← Local.outcome (Local.call (appendUsageTwice env entry)) with
      | .ok _ => Local.modify fun state => {state with usageRecorded := true,recordedMicrodollars := entry.microdollars}
      | .error fault => do
        Local.modify fun state => {state with usageFailure := some fault}
        throw fault

/-! ### The session -/

def note (eventKey phase message : String) : ProgressNote := {eventKey := eventKey,phase := phase,message := message}

def accessRequest (deps : StepDependencies) (request : StepRequest) (number : Nat) : AccessRequest where
  workflow := deps.workflow
  stepId := stepRunId deps.workflow.runId request.stepKey number
  logicalStepId := request.stepKey
  role := request.role
  stepInput := request.input
  idempotencyKey := runtimeAccessKey deps.workflow.runId request.stepKey number

/-- The access of an attempt: the one its checkpoint stores, prepared anew where
that one was staged in a process, or prepared and stored. -/
def prepareAccess (env : Environment) (deps : StepDependencies) (request : StepRequest) (number : Nat)
    (preparation : AccessPreparation) : Action RuntimeAccess := do
  let asked := accessRequest deps request number
  let now ← now env
  let fingerprint := Json.obj [("attempt",.num number),("inputFingerprint",request.input),("stepKey",.str request.stepKey)]
  let (effect,lease) ← claimEffect env (executionOwner deps.workflow deps.execution)
    (effectDraft deps.workflow.runId asked.idempotencyKey "runtime-session-access" fingerprint now) (2 * 60000)
  if effect.status = .succeeded then do
    let stored ← requireRuntimeAccess effect.output
    if ¬ stored.ephemeral then pure stored
    else do
      let prepared ← prepareRuntimeAccess env preparation asked
      requireRuntimeAccess (some prepared.json)
  else do
    let _ ← markEffectStarted env lease
    let prepared ← prepareRuntimeAccess env preparation asked
    let access ← requireRuntimeAccess (some prepared.json)
    let _ ← completeEffect env lease access.json
    pure access

def startRequest (deps : StepDependencies) (request : StepRequest) (scope : AttemptScope) (access : Option RuntimeAccess) :
    RuntimeStartRequest where
  runId := deps.workflow.runId
  stepId := stepRunId deps.workflow.runId request.stepKey scope.number
  agentId := scope.definition.agent.id
  environmentId := scope.definition.environment.id
  input := request.input
  timeoutMs := sessionTimeoutMs
  idempotencyKey := scope.effectKey
  maxCostMicrodollars := scope.estimatedMicrodollars
  resources := (access.map RuntimeAccess.resources).getD []
  credentialRefs := (access.map RuntimeAccess.credentialRefs).getD []

def reconcileStart (env : Environment) (unsupported : String) (sent : RuntimeStartRequest) : Action (Option String) :=
  if env.composition.reconcileStart then Runtime.reconcileStart env sent.idempotencyKey
  else throw (.permanent unsupported)

def UNSUPPORTED_RECONCILIATION : String := "runtime provider does not support start reconciliation"

/-- What an error of the create request means: refused, so that nothing was
bought, or ambiguous, so that the session has to be looked for. -/
def recoverStart (env : Environment) (sent : RuntimeStartRequest) (fault : Fault) : Attempt String := do
  let refused : Attempt Unit := Local.modify fun state => {state with runtimeStartAttempted := false}
  let classified := classifiedRuntimeError fault
  if isWorkflowTransient fault then do
    refused
    throw fault
  else if ¬ isWorkflowTransient classified then do
    if isDefiniteStartRejection fault then refused
    throw classified
  else if hasErrorCode fault "runtime_session_missing" then do
    refused
    throw classified
  else match ← Local.call (reconcileStart env UNSUPPORTED_RECONCILIATION sent) with
    | none => throw (.startPending "runtime create response was ambiguous and reconciliation is pending")
    | some handle => pure handle

section
variable (env : Environment) (deps : StepDependencies) (request : StepRequest) (scope : AttemptScope)

def sealSession (handle : String) : Action Unit := do
  let aad := handleAad deps.workflow scope.progress.stepRunId request.role handle
  let sealed_ ← sealHandle env handle aad
  let _ ← repository env fun now repository => repository.createExternalSession {
    id := externalSessionId handle
    runId := deps.workflow.runId
    stepRunId := some scope.progress.stepRunId
    provider := "runtime"
    externalId := handle
    status := .active
    state := some (sealedState sealed_ aad request.role)
    createdAt := now}
  pure ()

def recordSession (handle : String) : Attempt Unit := do
  Local.modify fun state => {state with handle := some handle,externalSessionId := some (externalSessionId handle)}
  let known ← Local.call (readRepository env fun repository => repository.getExternalSession (externalSessionId handle))
  if known.isNone then Local.call (sealSession env deps request scope handle)
  let _ ← Local.call (attachExternalRef env scope.lease handle)

def startAnew (sent : RuntimeStartRequest) (found : Option String) : Attempt Unit := do
  let _ ← Local.call (repository env fun now repository => repository.upsertStepRun
    {scope.step with status := .running,updatedAt := now,startedAt := some now})
  Local.modify fun state => {state with runtimeStartAttempted := true}
  let handle ← match found with
    | some handle => pure handle
    | none => do
      match ← Local.outcome (Local.call (Runtime.start env deps.answers.startRefusal sent)) with
      | .ok handle => pure handle
      | .error fault => recoverStart env sent fault
  recordSession env deps request scope handle

end

def sealedHandle (session : ExternalSession) : Option Json :=
  match session.state with
  | none => none
  | some state =>
    if state.field? "version" = some (.str SEALED_STATE_VERSION) then state.field? "sealedHandle" else none

def takeUp (env : Environment) (deps : StepDependencies) (request : StepRequest) (scope : AttemptScope)
    (sent : RuntimeStartRequest) (externalRef : String) : Attempt Unit := do
  Local.modify fun state => {state with externalSessionId := some (externalSessionId externalRef)}
  let known ← Local.call (readRepository env fun repository =>
    repository.getExternalSession (externalSessionId externalRef))
  match known.bind sealedHandle with
  | some sealed_ => do
    let handle ← Local.call (openHandle env sealed_
      (handleAad deps.workflow scope.progress.stepRunId request.role externalRef))
    Local.modify fun state => {state with handle := some handle}
    if handle ≠ externalRef then throw (.permanent "persisted runtime handle mismatch")
  | none => do
    if ¬ env.composition.reconcileStart then throw (.permanent "persisted runtime handle is unavailable")
    Local.modify fun state => {state with runtimeStartAttempted := true}
    match ← Local.call (Runtime.reconcileStart env sent.idempotencyKey) with
    | none => throw (.startPending "runtime handle repair is pending reconciliation")
    | some repaired => do
      if repaired ≠ externalRef then throw (.startPending "runtime handle repair is pending reconciliation")
      Local.modify fun state => {state with handle := some repaired}
      Local.call (sealSession env deps request scope repaired)

def findStarted (env : Environment) (sent : RuntimeStartRequest) : Attempt String := do
  if ¬ env.composition.reconcileStart then throw (.permanent UNSUPPORTED_RECONCILIATION)
  Local.modify fun state => {state with runtimeStartAttempted := true}
  match ← Local.call (Runtime.reconcileStart env sent.idempotencyKey) with
  | none => throw (.startPending "runtime start reconciliation has not found the session yet")
  | some handle => do
    Local.modify fun state => {state with handle := some handle}
    pure handle

/-- Gets the attempt its session: a new one only where none may have been started. -/
def startSession (env : Environment) (deps : StepDependencies) (request : StepRequest) (scope : AttemptScope) :
    Attempt Unit := do
  Local.call (ask env fun _ => ())
  Local.call (ask env fun _ => ())
  let started ← Local.call (markEffectStarted env scope.lease)
  let state ← Local.get
  let sent := startRequest deps request scope state.runtimeAccess
  Local.call (recordStepProgress env deps.workflow.runId scope.progress
    (note "sending" "sending" "Sending request to the model"))
  match started.externalRef with
  | some externalRef => takeUp env deps request scope sent externalRef
  | none =>
    if started.status = .started ∧ scope.claimed.status = .started then do
      let handle ← findStarted env sent
      startAnew env deps request scope sent (some handle)
    else startAnew env deps request scope sent none

def consumeEvents (env : Environment) (deps : StepDependencies) (scope : AttemptScope) (handle : String) :
    Nat → List StreamedEvent → Action Unit
  | _, [] => pure ()
  | count, event::events => do
    match ← readRepository env fun repository => (repository.getRun deps.workflow.runId).map Run.status with
    | some .cancelled => do
      Runtime.cancel env handle
      throw (.permanent "run_cancelled")
    | _ =>
      if count + 1 > 10000 then throw (.permanent "runtime emitted too many events")
      else if ¬ event.wellFormed then throw (.permanent "runtime emitted a malformed event")
      else do
        event.notes.forM fun note => recordStepProgress env deps.workflow.runId scope.progress note
        if event.last then pure () else consumeEvents env deps scope handle (count + 1) events

def sessionOutput (env : Environment) (deps : StepDependencies) (scope : AttemptScope) (handle : String) :
    Action RuntimeOutput := do
  recordStepProgress env deps.workflow.runId scope.progress (note "waiting" "waiting" "Waiting on response")
  let (events,late) ← ask env fun tick => deps.answers.stream tick handle
  consumeEvents env deps scope handle 0 events
  if late then throw (.transient "runtime session timed out")
  else do
    recordStepProgress env deps.workflow.runId scope.progress (note "collecting" "working" "Collecting model response")
    match ← ask env fun tick => deps.answers.output tick handle with
    | none => throw (.transient "runtime session timed out")
    | some output => pure output

def finalized (env : Environment) (request : StepRequest) (handle : String) (output : RuntimeOutput) :
    Action (Option Json) :=
  match request.finalizeOutput with
  | none => pure output.data
  | some finalize => do
    let answered ← ask env fun tick => finalize tick handle output
    Routine.settle answered

def validOutput (env : Environment) (request : StepRequest) (handle : String) (output : RuntimeOutput)
    (sessionStarted : Instant) : Action Json := do
  match ← finalized env request handle output with
  | none => do
    let ended ← now env
    throw (.permanent ("runtime output for " ++ request.stepKey ++ " is invalid (" ++
      noStructuredOutputDetail output.hasText (ended - sessionStarted) ++ ")"))
  | some candidate => match request.schema.parse candidate with
    | none => throw (.permanent ("runtime output for " ++ request.stepKey ++ " is invalid (" ++
        Store.slice (request.schema.issues candidate) 700 ++ ")"))
    | some parsed => pure parsed

def updateSession (env : Environment) (externalSessionId : Option String) (update : Instant → ExternalSessionUpdate) :
    Action Unit :=
  match externalSessionId with
  | none => pure ()
  | some id => do
    let _ ← repository env fun now repository => repository.updateExternalSession id (update now)
    pure ()

def completedMessage (model : String) : Option String → String
  | none => "Step completed"
  | some rendered => "Step completed. Model (" ++ model ++ ") returned: " ++ rendered

def completeStep (env : Environment) (deps : StepDependencies) (scope : AttemptScope) (handle : String) (output : Json) :
    Attempt Unit := do
  let _ ← Local.call (completeEffect env scope.lease output)
  let _ ← Local.call (repository env fun now repository => repository.upsertStepRun {scope.step with
    status := .succeeded
    output := some output
    externalSessionId := some (externalSessionId handle)
    updatedAt := now
    completedAt := some now})
  let state ← Local.get
  Local.call (updateSession env state.externalSessionId fun now => {status := some .completed,updatedAt := some now})
  let rendered := deps.answers.rendered output
  Local.call (recordStepProgress env deps.workflow.runId scope.progress {
    eventKey := "completed"
    phase := "completed"
    message := completedMessage scope.progress.model rendered
    code := rendered})
  Local.modify fun state => {state with completedResult := some output}

def attemptSession (env : Environment) (deps : StepDependencies) (request : StepRequest) (scope : AttemptScope) :
    Attempt Unit := do
  Local.call (recordStepProgress env deps.workflow.runId scope.progress
    (note "preparing" "preparing" "Preparing workspace"))
  match deps.runtimeAccess with
  | none => pure ()
  | some preparation => do
    let access ← Local.call (prepareAccess env deps request scope.number preparation)
    Local.modify fun state => {state with runtimeAccess := some access}
  startSession env deps request scope
  let state ← Local.get
  let handle := state.handle.getD ""
  let sessionStarted ← Local.call (now env)
  let output ← Local.call (sessionOutput env deps scope handle)
  recordUsage env deps scope
  Local.call (recordStepProgress env deps.workflow.runId scope.progress
    (note "validating" "validating" "Validating model response"))
  let parsed ← Local.call (validOutput env request handle output sessionStarted)
  completeStep env deps scope handle parsed

/-! ### When it goes wrong, and in the end -/

def failureNote (retrying : Bool) : ProgressNote :=
  if retrying then note "retrying" "retrying" "Step interrupted; retrying" else note "failed" "failed" "Step failed"

def failureJson (error : Fault) : Json :=
  .obj [("code",.str (if isWorkflowTransient error then "transient" else "permanent")),("message",.str (safeError error))]

/-- What an attempt does with an error: it fails the effect and the row, and asks
for another attempt where the error is a passing one. -/
def recoverAttempt (env : Environment) (deps : StepDependencies) (scope : AttemptScope) (fault : Fault) :
    Attempt (Option Fault) := do
  match fault with
  | .startPending _ => do
    Local.call (recordStepProgress env deps.workflow.runId scope.progress
      (note "start-pending" "waiting" "Waiting for the model session"))
    let _ ← Local.call (renewEffect env scope.lease)
    throw fault
  | fault => do
    let recorded ← Local.outcome (recordUsage env deps scope)
    let failure := match recorded with
      | .ok _ => fault
      | .error failure => failure
    let error := classifiedRuntimeError failure
    let transient := isWorkflowTransient error
    Local.call (recordStepProgress env deps.workflow.runId scope.progress
      (failureNote (transient && scope.number < maxStepAttempts)))
    let state ← Local.get
    match state.handle with
    | none => pure ()
    | some handle => do
      let _ ← Local.outcome (Local.call (Runtime.cancel env handle))
      pure ()
    let _ ← Local.call (failEffect env scope.lease (safeError error) (¬ transient))
    let _ ← Local.call (repository env fun now repository => repository.upsertStepRun {scope.step with
      status := .failed
      error := some (failureJson error)
      updatedAt := now
      completedAt := some now})
    Local.call (updateSession env state.externalSessionId fun now => {
      status := some (if safeError error = "run_cancelled" then .cancelled else .failed)
      updatedAt := some now})
    if transient then pure (some error) else throw error

def cleanUp (env : Environment) (handle : Option String) : Action Bool :=
  match handle with
  | none => pure false
  | some handle => do
    match ← (Runtime.cleanup env handle).outcome with
    | .ok _ => pure true
    | .error _ => pure false

def settlement (deps : StepDependencies) (request : StepRequest) (scope : AttemptScope) (recorded : Int) (now : Instant) :
    SessionSettlement where
  reservationKey := Outbox.reservationKey scope.effectKey
  runId := deps.workflow.runId
  stepKey := request.stepKey
  actualMicrodollars := recorded
  workflowSpentMicrodollars := scope.workflowSpent + recorded
  dailySpentMicrodollars := scope.dailySpent + recorded
  workflowLimitMicrodollars := scope.limits.workflowLimitMicrodollars
  dailyLimitMicrodollars := scope.limits.dailyLimitMicrodollars
  now := now

section
variable (env : Environment) (deps : StepDependencies) (request : StepRequest) (scope : AttemptScope)

/-- Settles the reservation and lets go of the project's session, once no session can still be running. -/
def finishAttempt : Attempt (Option Fault) := do
  let state ← Local.get
  let cleaned ← Local.call (cleanUp env state.handle)
  if cleaned then
    Local.call (updateSession env state.externalSessionId fun now => {cleanupAt := some now,updatedAt := some now})
  let safeToSettle := ¬ state.runtimeStartAttempted ∨ state.handle.isSome ∧ cleaned
  if safeToSettle then do
    recordUsage env deps scope
    let state ← Local.get
    let answer ← Local.call (settleSession env (settlement deps request scope state.recordedMicrodollars))
    Local.call (checkpoint env fun _ store =>
      .ok ((),store.releaseSession deps.workflow.projectId deps.workflow.runId request.stepKey))
    match answer with
    | .settled => pure none
    | .exceeded reason => pure (some (.budgetExhausted reason))
  else pure none

def runSession : Action AttemptEnd := do
  let (ended,state) ← Local.run (attemptSession env deps request scope) {}
  let (recovered,state) ← match ended with
    | .ok _ => pure (.ok none,state)
    | .error fault => Local.run (recoverAttempt env deps scope fault) state
  let (finished,state) ← Local.run (finishAttempt env deps request scope) state
  let settlementFailure ← Routine.settle finished
  let lastError ← Routine.settle recovered
  match settlementFailure with
  | some fault => throw fault
  | none => match state.completedResult with
    | some output => pure (.completed output)
    | none => pure (.retry lastError)

end

/-! ### Attempts -/

section
variable (deps : StepDependencies) (request : StepRequest) (definition : FeatureRoleDefinition)

def stepInput : Json :=
  let execution := deps.execution.getD DEFAULT_EXECUTION
  let provenance := Json.obj [("agentId",.str definition.agent.id),("deploymentVersion",.str execution.deploymentVersion),
    ("digests",deps.workflow.digests.json),("environmentId",.str definition.environment.id),
    ("environmentRuntime",.str definition.environment.runtime),("execution",execution.json),
    ("model",.str definition.agent.model),("repositorySha",.str deps.workflow.repositorySha),
    ("role",.str request.role.text),("sourceSnapshotDigest",.str deps.workflow.sourceSnapshotDigest),
    ("taskVersion",.str execution.taskVersion),("workflowVersion",.str "feature-workflow-v1")]
  .obj [("inputFingerprint",request.input),("payload",request.input),("provenance",provenance)]

def sessionFingerprint (number : Nat) : Fingerprint :=
  .obj [("agentId",.str definition.agent.id),("attempt",.num number),("digests",deps.workflow.digests.json),
    ("environmentId",.str definition.environment.id),("execution",(deps.execution.getD DEFAULT_EXECUTION).json),
    ("inputFingerprint",request.input),("repositorySha",.str deps.workflow.repositorySha),
    ("sourceSnapshotDigest",.str deps.workflow.sourceSnapshotDigest),("stepKey",.str request.stepKey)]

end

section
variable (env : Environment) (deps : StepDependencies) (request : StepRequest) (definition : FeatureRoleDefinition)

def claimSession (number : Nat) (now : Instant) : Action (Effect × EffectLease) :=
  claimEffect env (executionOwner deps.workflow deps.execution)
    (effectDraft deps.workflow.runId (Outbox.runtimeEffectKey deps.workflow.runId request.stepKey number) "runtime-session"
      (sessionFingerprint deps request definition number) now) (sessionTimeoutMs + 60000)

def admitAttempt (effectKey : String) (now : Instant) : Action (BudgetLimits × Int × Int × Int) := do
  let limits ← budgetLimitsWithOverrides env deps
  let workflowSpent ← readRepository env fun repository =>
    Outbox.totalMicrodollars (repository.listUsage deps.workflow.runId 1000)
  let at_ ← Action.now env
  let dailySpent ← Outbox.projectDailyUsageMicrodollars env at_ deps.workflow.projectId
  let deploymentSpent ← ask env deps.deploymentDailyUsageMicrodollars
  let estimated := definition.maxReservationMicrodollars.getD defaultSessionReservationMicrodollars
  if ¬ isSafeInteger estimated ∨ estimated < 1 ∨ estimated > limits.workflowLimitMicrodollars then
    throw (.permanent "role cost reservation is invalid")
  else do
    let admission ← checkpoint env fun _ store => store.admitSession {
      reservationKey := Outbox.reservationKey effectKey
      projectId := deps.workflow.projectId
      runId := deps.workflow.runId
      stepKey := request.stepKey
      workflowSpentMicrodollars := workflowSpent
      dailySpentMicrodollars := dailySpent
      workflowLimitMicrodollars := limits.workflowLimitMicrodollars
      dailyLimitMicrodollars := limits.dailyLimitMicrodollars
      admissionNumerator := limits.admissionNumerator
      admissionDenominator := limits.admissionDenominator
      deploymentDailyLimitMicrodollars := deploymentSpent.bind fun _ => deps.deploymentDailyLimitMicrodollars
      deploymentSpentMicrodollars := deploymentSpent
      now := now
      leaseExpiresAt := now + sessionTimeoutMs + 60000
      estimatedMicrodollars := estimated}
    match admission with
    | .refused .concurrency => throw (.transient "global workflow session is busy")
    | .refused .workflowBudget => throw (.budgetExhausted .workflowBudget)
    | .refused .dailyBudget => throw (.budgetExhausted .dailyBudget)
    | .admitted => pure (limits,workflowSpent,dailySpent,estimated)

end

def replayOutput (env : Environment) (request : StepRequest) (step : StepRun) (claimed : Effect) (now : Instant) :
    Action AttemptEnd :=
  match claimed.output.bind request.schema.parse with
  | none => throw (.permanent ("checkpoint output for " ++ request.stepKey ++ " is invalid"))
  | some parsed => do
    let _ ← repository env fun _ repository => repository.upsertStepRun
      {step with status := .succeeded,output := some parsed,updatedAt := now,completedAt := some now}
    pure (.completed parsed)

def pendingStep (deps : StepDependencies) (request : StepRequest) (definition : FeatureRoleDefinition) (number : Nat)
    (now : Instant) : StepRun where
  id := stepRunId deps.workflow.runId request.stepKey number
  runId := deps.workflow.runId
  stepKey := request.stepKey
  attempt := number
  status := .pending
  input := some (stepInput deps request definition)
  createdAt := now
  updatedAt := now

def progressContext (deps : StepDependencies) (request : StepRequest) (definition : FeatureRoleDefinition) (number : Nat)
    (generation : Int) : StepProgressContext where
  stepRunId := stepRunId deps.workflow.runId request.stepKey number
  stepKey := request.stepKey
  attempt := number
  resumeGeneration := generation
  model := definition.agent.model

def attemptClaimed (env : Environment) (deps : StepDependencies) (request : StepRequest) (definition : FeatureRoleDefinition)
    (step : StepRun) (progress : StepProgressContext) (number : Nat) (now : Instant) (claimed : Effect) (lease : EffectLease) :
    Action AttemptEnd :=
  match claimed.status with
  | .succeeded => replayOutput env request step claimed now
  | .deadLetter => throw (.permanent (claimed.error.getD "dead-lettered session"))
  | .failed => pure (.retry (some (.transient (claimed.error.getD "transient session failure"))))
  | .pending | .started => do
    let effectKey := Outbox.runtimeEffectKey deps.workflow.runId request.stepKey number
    let (limits,workflowSpent,dailySpent,estimated) ← admitAttempt env deps request definition effectKey now
    runSession env deps request {
      number := number
      step := step
      progress := progress
      effectKey := effectKey
      definition := definition
      claimed := claimed
      lease := lease
      limits := limits
      workflowSpent := workflowSpent
      dailySpent := dailySpent
      estimatedMicrodollars := estimated}

def attempt (env : Environment) (deps : StepDependencies) (deadlineMs : Instant) (request : StepRequest) (generation : Int)
    (existing : List StepRun) (number : Nat) : Action AttemptEnd := do
  assertContinuable env deps.workflow.runId deps.workflow.projectId deadlineMs
  let now ← now env
  match deps.roles.role request.role with
  | none => throw (.permanent ("feature role '" ++ request.role.text ++ "' is not declared by this project"))
  | some definition => do
    let prior := existing.find? fun step => step.stepKey = request.stepKey && step.attempt = number
    let step := prior.getD (pendingStep deps request definition number now)
    if prior.isNone then
      let _ ← repository env fun _ repository => repository.upsertStepRun step
    let (claimed,lease) ← claimSession env deps request definition number now
    attemptClaimed env deps request definition step (progressContext deps request definition number generation) number now
      claimed lease

def attempts (env : Environment) (deps : StepDependencies) (deadlineMs : Instant) (request : StepRequest) (generation : Int)
    (existing : List StepRun) : List Nat → Option Fault → Action Json
  | [], lastError => throw (lastError.getD (.permanent ("step " ++ request.stepKey ++ " failed")))
  | number::later, _ => do
    match ← attempt env deps deadlineMs request generation existing number with
    | .completed output => pure output
    | .retry lastError => attempts env deps deadlineMs request generation existing later lastError

def replayedStep (request : StepRequest) : List StepRun → Except Fault (Option Json)
  | [] => .ok none
  | step::steps =>
    if (step.input.bind (Json.field? · "inputFingerprint")) ≠ some request.input then
      .error (.permanent ("step " ++ request.stepKey ++ " was replayed with different input"))
    else if step.status = .succeeded then
      match step.output.bind request.schema.parse with
      | none => .error (.permanent ("stored output for " ++ request.stepKey ++ " is invalid"))
      | some output => .ok (some output)
    else replayedStep request steps

def runAgentStep (env : Environment) (deps : StepDependencies) (deadlineMs : Instant) (request : StepRequest) :
    Action Json := do
  let generation ← resumeGenerationOf env deps.workflow.runId
  let existing ← readRepository env fun repository => repository.listStepRuns deps.workflow.runId 100
  match ← Routine.settle (replayedStep request (existing.filter fun step => step.stepKey = request.stepKey)) with
  | some output => pure output
  | none => attempts env deps deadlineMs request generation existing ((List.range maxStepAttempts).map (· + 1)) none

end AgentOS.Workflow
