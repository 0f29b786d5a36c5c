import AgentOS.Outbox.Orphan

/-! What a reconciliation pass does to one run before it delivers anything for
it: orphaned sessions first, then the run's clock, which can fail the run. -/
namespace AgentOS.ControlPlane
open Outbox AgentOS.Action

def MAX_WORKFLOW_TIMEOUT_MS : Int := 60 * 60000

def ACTIVE_RUN_STATUSES : List RunStatus := [.pending,.running,.waiting]

def TERMINAL : List RunStatus := [.succeeded,.failed,.cancelled]

inductive FailCode where
  | workflowDeadlineExceeded
  | approvalExpired
  deriving DecidableEq

def FailCode.text : FailCode → String
  | .workflowDeadlineExceeded => "workflow_deadline_exceeded"
  | .approvalExpired => "approval_expired"

def FailCode.error (code : FailCode) : Json := .obj [("code",.str code.text)]

theorem FailCode.error_injective {first second : FailCode} (same : first.error = second.error) : first = second := by
  cases first <;> cases second <;> first | rfl | exact absurd same (by decide)

def FailCode.output (code : FailCode) : Json := .obj [("reason",.str code.text),("status",.str "failed")]

variable (env : Environment)
variable (run : Run)

def workflowTimeoutMs : Action Int := do
  if run.pipeline ≠ "goal" then pure MAX_WORKFLOW_TIMEOUT_MS
  else match ← readRepository env fun repository => repository.listConfigSnapshots run.id 2 with
    | [snapshot] =>
      pure ((env.goalTimeoutFromSnapshot snapshot.config).elim MAX_WORKFLOW_TIMEOUT_MS
        fun timeoutMs => min timeoutMs MAX_WORKFLOW_TIMEOUT_MS)
    | _ => pure MAX_WORKFLOW_TIMEOUT_MS

def deterministicGoalChildRunId (parentRunId : String) (step : Nat) : String :=
  "goal-child-" ++ env.sha256 (parentRunId ++ "\x00" ++ toString step)

/-- The run's approval for the specification: a pending one before a consumed one. -/
def specDodApproval (runId : String) : Action (Option Approval) := do
  let pending ← readRepository env fun repository => repository.listApprovals runId (some .pending) 100 none
  let consumed ← readRepository env fun repository => repository.listApprovals runId (some .consumed) 100 none
  pure ((pending ++ consumed).find? fun approval => approval.scope = SPEC_DOD_SCOPE)

/-- The child a progress record names, where it is the one its step must have. -/
def goalChildRunId (parent : Run) (progress : GoalProgress) : Option String :=
  let expected := deterministicGoalChildRunId env parent.id progress.step
  if progress.criterionId = none ∧ (progress.payload.bind (·.field? "childRunId")).bind Json.string? = some expected then
    some expected
  else none

def goalChildren (env : Environment) (parent : Run) : List GoalProgress → Action (List Run)
  | [] => pure []
  | progress::rest => match goalChildRunId env parent progress with
    | none => goalChildren env parent rest
    | some childRunId => do
      let child ← readRepository env fun repository => repository.getRun childRunId
      let children ← goalChildren env parent rest
      pure (child.toList ++ children)

def goalChildRuns (parent : Run) : Action (List Run) := do
  let progress ← readRepository env fun repository => repository.listGoalProgress parent.id 100
  goalChildren env parent progress

variable (now : Instant)

def waitingFailCode : Action (Option FailCode) := do
  match ← specDodApproval env run.id with
  | none => pure none
  | some approval =>
    if approval.status = .pending ∧ approval.expiresAt ≤ now then do
      let _ ← repository env fun _ repository =>
        .ok (repository.expireApproval approval.id run.id approval.scope approval.fingerprint now)
      pure (some .approvalExpired)
    else pure none

def anchored : Option Approval → Instant
  | some approval => match approval.status,approval.consumedAt with
    | .consumed,some consumedAt => consumedAt
    | _,_ => run.createdAt
  | none => run.createdAt

def featureFailCode : Action (Option FailCode) := do
  let approval ← specDodApproval env run.id
  if now ≥ anchored run approval + MAX_WORKFLOW_TIMEOUT_MS then pure (some .workflowDeadlineExceeded) else pure none

def lastChildCompletion (children : List Run) : Option Instant := (children.filterMap Run.completedAt).max?

def goalFailCode : Action (Option FailCode) := do
  let children ← goalChildRuns env run
  if children.any (·.status ∉ TERMINAL) then pure none
  else do
    let cap ← workflowTimeoutMs env run
    if now ≥ (lastChildCompletion children).getD run.createdAt + cap then pure (some .workflowDeadlineExceeded)
    else pure none

def failCode : Action (Option FailCode) :=
  if run.status ∉ ACTIVE_RUN_STATUSES ∨ run.pipeline ≠ "feature" ∧ run.pipeline ≠ "goal" then pure none
  else if run.status = .waiting then waitingFailCode env run now
  else if run.pipeline = "feature" then featureFailCode env run now
  else goalFailCode env run now

def failure (code : FailCode) (now : Instant) : RunUpdate where
  status := some .failed
  output := some code.output
  error := some code.error
  updatedAt := now
  completedAt := some now
  cleanupAt := some (now + 24 * 60 * 60000)

def expireListed (runId : String) (now : Instant) (approvals : List Approval) : Action Unit :=
  approvals.forM fun approval => do
    let _ ← repository env fun _ repository =>
      .ok (repository.expireApproval approval.id runId approval.scope approval.fingerprint now)
    pure ()

def expirePending (env : Environment) (runId : String) (now : Instant) : Nat → Option Cursor → Action Unit
  | 0, _ => pure ()
  | pages+1, after => do
    let approvals ← readRepository env fun repository => repository.listApprovals runId (some .pending) 100 after
    expireListed env runId now approvals
    match approvals.getLast? with
    | some last =>
      if approvals.length < 100 then pure ()
      else expirePending env runId now pages (some {at_ := last.createdAt,id := last.id})
    | none => pure ()

def failRun (code : FailCode) (now : Instant) : Action Run := do
  match ← repository env fun _ repository =>
    repository.transitionRun run.id ACTIVE_RUN_STATUSES (failure code now) (some run.stateVersion) with
  | none => pure run
  | some failed => do
    expirePending env failed.id now 10 none
    pure failed

def timeOut : Action Run := do
  match ← failCode env run now with
  | none => pure run
  | some code => failRun env run code now

def orphanReconcileRequest (runId : String) : Request where
  idempotencyKey := "workflow-orphan-reconcile:" ++ runId
  runId := runId

/-- Reconciles the orphans of a feature run and reads it again; where that
fails, the pass skips the run. -/
def refreshed (listed : Run) : Action (Option Run) := do
  if listed.pipeline = "feature" ∧ env.composition.orphanReconciliation then
    match ← (requestOrphanReconciliation env (orphanReconcileRequest listed.id)).outcome with
    | .error _ => pure none
    | .ok _ => do
      let found ← readRepository env fun repository => repository.getRun listed.id
      pure (some (found.getD listed))
  else pure (some listed)

def reconcileRun (listed : Run) : Action (Option Run) := do
  let now ← Action.now env
  match ← refreshed env listed with
  | none => pure none
  | some run => do
    let run ← timeOut env run now
    pure (some run)

end AgentOS.ControlPlane
