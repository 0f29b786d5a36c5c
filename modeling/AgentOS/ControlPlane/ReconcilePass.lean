import AgentOS.ControlPlane.Cancel
import AgentOS.ControlPlane.Reconciliation
import AgentOS.Outbox.ApprovalResume
import AgentOS.Outbox.Cleanup

/-! A reconciliation pass: it visits every run from the cursor on and delivers what
each is owed, and then it advances the backlogs. -/
namespace AgentOS.ControlPlane
open Outbox AgentOS.Action

/-! ### What a visit delivers -/

structure Tally where
  delivered : Nat := 0
  failed : Nat := 0
  deriving DecidableEq

namespace Tally

def failure : Tally := {failed := 1}

def add (first second : Tally) : Tally where
  delivered := first.delivered + second.delivered
  failed := first.failed + second.failed

instance : Add Tally := ⟨add⟩

end Tally

def deliver (operation : Action Unit) : Action Tally := do
  match ← operation.outcome with
  | .ok _ => pure {delivered := 1}
  | .error _ => pure .failure

/-- What the reconciliation takes from the goal workflow and the configuration. -/
structure GoalReading where
  goalDefinitionsFromInput : Option Json → Option (List (String × Json))
  validateDurableGoalInputs : Run → List ConfigSnapshot → List GoalCriterion → Bool

structure ReconcileOptions where
  cursorStore : Bool := true
  projectId : Option String := none
  requestCancel : Bool := true
  requestCleanup : Bool := true
  advanceBacklogs : Option (String → Action Unit) := none

/-! ### Children of goals -/

/-- `.` of an expression: what ends a line is left out. -/
def inLine (char : Char) : Bool := char ≠ '\n' && char ≠ '\r' && char.toNat ≠ 0x2028 && char.toNat ≠ 0x2029

/-- The parent and the step that `goal:<parent>:step:<step>` names. -/
def goalStepKey (key : String) : Option (String × Nat) :=
  let stem := key.toList.dropLast
  let parent := (stem.drop 5).take (stem.length - 11)
  if stem = "goal:".toList ++ parent ++ ":step:".toList ∧ parent ≠ [] ∧ parent.all inLine then
    match key.toList.getLast? with
    | some '1' => some (String.ofList parent,1)
    | some '2' => some (String.ofList parent,2)
    | some '3' => some (String.ofList parent,3)
    | _ => none
  else none

def childProgressId (parentRunId : String) (step : Nat) : String :=
  "goal:" ++ parentRunId ++ ":step:" ++ toString step ++ ":child"

def childCheckpoint (parentRunId childRunId : String) (step : Nat) (progress : List GoalProgress) : Bool :=
  (progress.find? fun candidate => candidate.id = childProgressId parentRunId step).any fun checkpoint =>
    checkpoint.criterionId = none && checkpoint.step = step && checkpoint.status = .pending &&
      checkpoint.payload.bind (·.field? "childRunId") = some (.str childRunId)

variable (env : Environment)

def isGoalOwnedFeatureChild (run : Run) : Action Bool := do
  if run.pipeline ≠ "feature" then pure false
  else match ((run.input.bind (·.field? "idempotencyKey")).bind Json.string?).bind goalStepKey with
    | none => pure false
    | some (parentRunId,step) =>
      if deterministicGoalChildRunId env parentRunId step ≠ run.id then pure false
      else do
        match ← readRepository env fun repository => repository.getRun parentRunId with
        | none => pure false
        | some parent =>
          if parent.pipeline ≠ "goal" ∨ parent.projectId ≠ run.projectId then pure false
          else do
            let progress ← readRepository env fun repository => repository.listGoalProgress parentRunId 100
            pure (childCheckpoint parentRunId run.id step progress)

def pendingChildRunId (run : Run) (progress : GoalProgress) : Option String :=
  let expected := deterministicGoalChildRunId env run.id progress.step
  if progress.criterionId = none ∧ progress.status = .pending ∧ progress.id = childProgressId run.id progress.step ∧
      progress.payload.bind (·.field? "childRunId") = some (.str expected) then some expected
  else none

def cancelledAt (now : Instant) : RunUpdate := {status := some .cancelled,updatedAt := now}

def cancelGoalChild (run : Run) (now : Instant) (childRunId : String) : Action (List String) := do
  match ← readRepository env fun repository => repository.getRun childRunId with
  | none => pure []
  | some child =>
    if child.projectId ≠ run.projectId ∨ child.pipeline ≠ "feature" ∨ child.status ∉ ACTIVE_RUN_STATUSES then pure []
    else do
      let transitioned ← repository env fun _ repository =>
        repository.transitionRun child.id ACTIVE_RUN_STATUSES (cancelledAt now) (some child.stateVersion)
      pure (transitioned.map fun _ => child.id).toList

def cancelListedChildren (env : Environment) (run : Run) (now : Instant) : List String → Action (List String)
  | [] => pure []
  | childRunId::rest => do
    let cancelled ← cancelGoalChild env run now childRunId
    let others ← cancelListedChildren env run now rest
    pure (cancelled ++ others)

def cancelGoalChildren (run : Run) (now : Instant) : Action (List String) := do
  let progress ← readRepository env fun repository => repository.listGoalProgress run.id 100
  cancelListedChildren env run now (progress.filterMap (pendingChildRunId env run))

/-! ### The requests for a run -/

def workflowRequest (kind runId : String) : Request := {idempotencyKey := "workflow-" ++ kind ++ ":" ++ runId,runId := runId}

def deliverAll (requests : List (Action Unit)) : Action Tally :=
  match requests with
  | [] => pure {}
  | request::rest => do
    let first ← deliver request
    let others ← deliverAll rest
    pure (first + others)

def cancelledChildren (run : Run) (now : Instant) : Action (List String) :=
  if run.pipeline = "goal" then cancelGoalChildren env run now else pure []

variable (options : ReconcileOptions)

/-- A goal's children are cancelled before it is, where the outbox can cancel. -/
def deliverCancels (run : Run) (now : Instant) : Action Tally := do
  let childRunIds ← cancelledChildren env run now
  let runIds := if options.requestCancel then childRunIds ++ [run.id] else []
  deliverAll (runIds.map fun runId => requestCancel env (workflowRequest "cancel" runId))

def deliverCleanup (run : Run) : Action Tally :=
  if options.requestCleanup then deliver (requestCleanup env (workflowRequest "cleanup" run.id)) else pure {}

def timedOut (run : Run) : Bool :=
  run.status = .failed && run.error.bind (·.field? "code") = some (.str FailCode.workflowDeadlineExceeded.text)

def isWorkflow (run : Run) : Bool := run.pipeline = "feature" || run.pipeline = "goal"

/-! ### Starting a pending run -/

def snapshotOf (run : Run) (revision : ConfigRevision) : ConfigSnapshot where
  id := "config_snapshot_" ++ String.ofList ((env.sha256 (run.pipeline ++ ":" ++ run.id)).toList.take 32)
  runId := run.id
  configRevisionId := revision.id
  config := revision.config
  provenance := revision.provenance
  createdAt := run.createdAt

def createSnapshot (snapshot : ConfigSnapshot) : Action Unit := do
  let _ ← repository env fun _ repository => repository.createConfigSnapshot snapshot
  pure ()

def repairSnapshot (run : Run) (snapshots : List ConfigSnapshot) : Action (Tally × List ConfigSnapshot) := do
  match snapshots,run.configRevisionId with
  | [],some configRevisionId =>
    match ← readRepository env fun repository => repository.configRevisions.get? configRevisionId with
    | none => pure ({},[])
    | some revision => do
      let repaired ← deliver (createSnapshot env (snapshotOf env run revision))
      let snapshots ← readRepository env fun repository => repository.listConfigSnapshots run.id 2
      pure (repaired,snapshots)
  | snapshots,_ => pure ({},snapshots)

def goalCriterion (env : Environment) (run : Run) (ordinal : Nat) (definition : String × Json) : GoalCriterion where
  id := "goalCriterion_" ++
    String.ofList ((env.sha256 ("goalCriterion:goal:" ++ run.id ++ ":criterion:" ++ toString ordinal)).toList.take 32)
  runId := run.id
  ordinal := ordinal
  description := definition.1
  definition := definition.2
  status := .pending
  createdAt := run.createdAt

def defines (definition : String × Json) (criterion : GoalCriterion) : Bool :=
  criterion.description = definition.1 && criterion.definition = definition.2

def createCriterion (criterion : GoalCriterion) : Action Unit := do
  let _ ← repository env fun _ repository => repository.createGoalCriterionIdempotently criterion
  pure ()

def repairCriterion (run : Run) (criteria : List GoalCriterion) (ordinal : Nat)
    (definition : String × Json) : Action (Tally × Bool) := do
  match criteria.find? fun candidate => candidate.ordinal = ordinal with
  | some existing => pure ({},defines definition existing)
  | none => do
    let repaired ← deliver (createCriterion env (goalCriterion env run ordinal definition))
    pure (repaired,decide (repaired.failed = 0))

/-- Adds the criteria that are missing; false if one differs or could not be added. -/
def repairCriteria (env : Environment) (run : Run) (criteria : List GoalCriterion) :
    Nat → List (String × Json) → Action (Tally × Bool)
  | _,[] => pure ({},true)
  | ordinal,definition::rest => do
    let (tally,valid) ← repairCriterion env run criteria ordinal definition
    let (others,valids) ← repairCriteria env run criteria (ordinal + 1) rest
    pure (tally + others,valid && valids)

def criteriaMatch (definitions : List (String × Json)) (criteria : List GoalCriterion) : Bool :=
  criteria.length = definitions.length && (criteria.zip definitions).zipIdx.all fun ((criterion,definition),ordinal) =>
    criterion.ordinal = ordinal && defines definition criterion

variable (reading : GoalReading)

def goalReady (run : Run) (snapshots : List ConfigSnapshot) (definitions : List (String × Json)) : Action (Tally × Bool) := do
  if run.pipeline ≠ "goal" then pure ({},true)
  else do
    let criteria ← readRepository env fun repository => repository.listGoalCriteria run.id 21
    let (repaired,valid) ← repairCriteria env run criteria 0 definitions
    let criteria ← readRepository env fun repository => repository.listGoalCriteria run.id 21
    pure (repaired,valid && criteriaMatch definitions criteria && reading.validateDurableGoalInputs run snapshots criteria)

def goalDefinitions (run : Run) : Option (List (String × Json)) :=
  if run.pipeline = "goal" then reading.goalDefinitionsFromInput run.input else some []

def pendingStart (run : Run) : StartRequest where
  toRequest := workflowRequest "start" run.id
  pipeline := if run.pipeline = "goal" then .goal else .feature

def startReady (run : Run) (definitions : List (String × Json)) : Action (Tally × Bool) := do
  let listed ← readRepository env fun repository => repository.listConfigSnapshots run.id 2
  let (repaired,snapshots) ← repairSnapshot env run listed
  if snapshots.length ≠ 1 then pure (repaired + .failure,false)
  else do
    let (criteria,ready) ← goalReady env reading run snapshots definitions
    if ready then do
      let started ← deliver (requestStart env (pendingStart run))
      pure (repaired + criteria + started,true)
    else pure (repaired + criteria + .failure,false)

def startPending (run : Run) : Action (Tally × Bool) := do
  if isWorkflow run = false ∨ run.status ≠ .pending then pure ({},true)
  else do
    let owned ← isGoalOwnedFeatureChild env run
    if owned then pure ({},false)
    else match goalDefinitions reading run with
      | none => pure (.failure,false)
      | some definitions => startReady env reading run definitions

/-! ### Decisions -/

def decisionOf (type : String) : Option Decision :=
  if type = "approval.approved" then some .approve else if type = "approval.rejected" then some .reject else none

def resumeRequest (runId : String) (event : Event) : Option ApprovalResumeRequest := do
  let decision ← decisionOf event.type
  let approvalId ← (event.payload.field? "approvalId").bind Json.string?
  let scopeHash ← (event.payload.field? "scopeHash").bind Json.string?
  some
    {idempotencyKey := "workflow-resume:" ++ approvalId ++ ":" ++ decision.text,runId := runId,approvalId := approvalId,
      decision := decision,scopeHash := scopeHash}

/-- The decisions are looked for in one page of the run's events; the requests that
were called for are answered beside the tally. -/
def deliverDecisions (run : Run) : Action (Tally × List ApprovalResumeRequest) := do
  let events ← readRepository env fun repository => repository.listEvents run.id none 1000
  let requests := events.filterMap (resumeRequest run.id)
  let tally ← deliverAll (requests.map (requestApprovalResume env))
  pure (tally,requests)

/-! ### The visit and the pass -/

def cancelsOf (run : Run) (now : Instant) : Action Tally :=
  if isWorkflow run ∧ run.status = .cancelled then deliverCancels env options run now else pure {}

def cleanupOf (run : Run) : Action Tally :=
  if isWorkflow run ∧ run.status ∈ TERMINAL then deliverCleanup env options run else pure {}

def visitWorkflow (options : ReconcileOptions) (run : Run) (now : Instant) : Action (Tally × List ApprovalResumeRequest) := do
  if timedOut run then do
    let cancels ← deliverCancels env options run now
    let cleanup ← deliverCleanup env options run
    pure (cancels + cleanup,[])
  else do
    let (started,goesOn) ← startPending env reading run
    if goesOn then do
      let cancels ← cancelsOf env options run now
      let cleanup ← cleanupOf env options run
      let (decisions,resumes) ← deliverDecisions env run
      pure (started + cancels + cleanup + decisions,resumes)
    else pure (started,[])

def reconcilesOrphans (listed : Run) : Bool :=
  listed.pipeline = "feature" && env.composition.orphanReconciliation

/-- A visit of a listed run: the run as its clock left it, what was delivered, and the
resumes that were called for. -/
structure Visit where
  listed : Run
  found : Option Run
  tally : Tally
  resumes : List ApprovalResumeRequest
  deriving DecidableEq

def visitRun (options : ReconcileOptions) (listed : Run) : Action Visit := do
  let now ← Action.now env
  match ← refreshed env listed with
  | none => pure {listed := listed,found := none,tally := .failure,resumes := []}
  | some current => do
    let run ← timeOut env current now
    let (rest,resumes) ← visitWorkflow env reading options run now
    let orphans : Tally := if reconcilesOrphans env listed then {delivered := 1} else {}
    pure {listed := listed,found := some run,tally := orphans + rest,resumes := resumes}

def cursorOf (run : Run) : Cursor := {at_ := run.createdAt,id := run.id}

def savedCursor (stored saved : Option Cursor) : Option Cursor :=
  match stored,saved with
  | some held,some next => if timestampedBefore held.at_ held.id next.at_ next.id then some next else some held
  | _,saved => saved

def saveCursor (cursor : Option Cursor) : Action Unit :=
  if options.cursorStore then call env fun _ world => (.ok (),{world with cursor := savedCursor world.cursor cursor})
  else pure ()

def loadCursor : Action (Option Cursor) :=
  if options.cursorStore then call env fun _ world => (.ok world.cursor,world) else pure none

def visitRuns (env : Environment) (reading : GoalReading) (options : ReconcileOptions) : List Run → Action (List Visit)
  | [] => pure []
  | run::rest => do
    let visit ← visitRun env reading options run
    saveCursor env options (some (cursorOf run))
    let visits ← visitRuns env reading options rest
    pure (visit::visits)

def visitPages (env : Environment) (reading : GoalReading) (options : ReconcileOptions) :
    Nat → Option Cursor → Action (List Visit × Bool)
  | 0,_ => pure ([],false)
  | pages+1,after => do
    let runs ← readRepository env fun repository => repository.listRuns options.projectId none 100 after
    match runs.getLast? with
    | none => pure ([],true)
    | some last => do
      let visits ← visitRuns env reading options runs
      if runs.length < 100 then pure (visits,true)
      else do
        let (others,completed) ← visitPages env reading options pages (some (cursorOf last))
        pure (visits ++ others,completed)

def scanRuns (options : ReconcileOptions) : Action (List Visit) := do
  let after ← loadCursor env options
  let (visits,completed) ← visitPages env reading options 10000 after
  if completed then do
    saveCursor env options none
    pure visits
  else pure visits

def projectIds : Action (List String) := do
  match options.projectId with
  | some projectId => pure [projectId]
  | none => do
    let projects ← readRepository env fun repository => repository.listProjects 100
    pure (projects.map Project.id)

def advanceProjects : Action Tally := do
  match options.advanceBacklogs with
  | none => pure {}
  | some advanceBacklogs => do
    let listed ← projectIds env options
    deliverAll (listed.map advanceBacklogs)

structure Report where
  scannedRuns : Nat
  delivered : Nat
  failed : Nat

def report (visits : List Visit) (advanced : Tally) : Report where
  scannedRuns := visits.length
  delivered := (visits.map (·.tally.delivered)).sum
  failed := (visits.map (·.tally.failed)).sum + advanced.failed

def reconcileWorkflowOutbox (options : ReconcileOptions) : Action Report := do
  let visits ← scanRuns env reading options
  let advanced ← advanceProjects env options
  pure (report visits advanced)

end AgentOS.ControlPlane
