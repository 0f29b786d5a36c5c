import AgentOS.Outbox.DeliveryRules

/-! The start request: the source snapshot is ingested once for a run, then the
workflow is started under the request's key, and once more under its retry key
when the executor behind the first start is gone. -/
namespace AgentOS.Outbox
open Checkpoint AgentOS.Action

structure StartRequest extends Request where
  pipeline : Pipeline
  resumeGeneration : Option Nat := none

namespace StartRequest

section
variable (request : StartRequest)

/-- A feature's fingerprint is that of its key and run alone; a goal's binds the whole request. -/
def fingerprint : Fingerprint :=
  match request.pipeline with
  | .feature => request.toRequest.fingerprint
  | .goal => .obj ([("idempotencyKey",.str request.idempotencyKey),("pipeline",.str "goal")] ++
      (request.resumeGeneration.map fun generation => ("resumeGeneration",.num generation)).toList ++
      [("runId",.str request.runId)])

def keyed (idempotencyKey : String) : StartRequest :=
  {request with idempotencyKey := idempotencyKey}

def source : StartRequest := request.keyed ("source:" ++ request.runId)

def retry : StartRequest := request.keyed (request.idempotencyKey ++ ":retry:1")

end

end StartRequest

def SOURCE_SNAPSHOT_FAILURES : List String := [
  "source snapshot binding run mismatch",
  "source snapshot binding SHA is malformed",
  "source snapshot repository binding mismatch",
  "source snapshot base SHA is stale",
  "source snapshot commit binding mismatch",
  "source snapshot tree is truncated",
  "source snapshot tree exceeds entry limit",
  "source snapshot tree entry is malformed",
  "source snapshot contains an unsafe path",
  "source snapshot contains unsupported submodule configuration",
  "source snapshot contains a symlink or submodule",
  "source snapshot contains a symlink, submodule, or unsupported tree entry",
  "source snapshot contains an unsupported tree entry",
  "source snapshot exceeds file limit",
  "source snapshot contains duplicate paths",
  "source snapshot file exceeds size limit",
  "source snapshot exceeds total size limit",
  "source snapshot contains a binary file",
  "source snapshot bundle exceeds managed resource size limit",
  "source snapshot pinned SHA not found in repository",
  "source snapshot pinned SHA is not a commit",
  "source snapshot pinned SHA does not resolve to itself",
  "source snapshot could not resolve a tree SHA",
  "source snapshot batch blob size mismatch",
  "repository is outside the local workspaces root"]

def safeSourceSnapshotFailure (fault : Fault) : String :=
  match fault.message? with
  | some message => if message ∈ SOURCE_SNAPSHOT_FAILURES then message else "source snapshot ingestion failed"
  | none => "source snapshot ingestion failed"

section
variable (env : Environment)

def failEffect (lease : EffectLease) (error : String) (deadLetter : Bool) : Action Effect :=
  checkpoint env fun now store => store.failEffect lease error deadLetter now

def attachExternalRef (lease : EffectLease) (externalRef : String) : Action Effect :=
  checkpoint env fun now store => store.attachExternalRef lease externalRef now

def getEffect (key : String) : Action (Option Effect) :=
  readCheckpoints env fun store => store.getEffect key

def ingestSource (lease : EffectLease) : Action Unit := do
  let source ← ask env env.snapshot
  let _ ← attachExternalRef env lease source.key
  let _ ← completeEffect env lease
    (.obj [("artifactKey",.str source.key),("digest",.str source.digest),("sizeBytes",.num source.sizeBytes)])
  pure ()

def ensureSource (request : StartRequest) : Action Unit := do
  let (effect,lease) ← ownedClaim env request.source.toRequest request.source.fingerprint "source-snapshot-ingest"
  if effect.status = .succeeded then pure ()
  else do
    let _ ← markEffectStarted env lease
    match ← (ingestSource env lease).outcome with
    | .ok () => pure ()
    | .error fault => do
      let _ ← failEffect env lease (safeSourceSnapshotFailure fault) false
      throw fault

def retrieve (externalRef : String) : Action (Option TriggerRun) :=
  ask env fun tick => env.triggerRun tick externalRef

end

def isExecutorUnavailable (state : Option TriggerRun) : Bool :=
  state.any fun run => run.status = "SYSTEM_FAILURE" && run.error.any (includes · "COULD_NOT_FIND_EXECUTOR")

def requiredRun (env : Environment) (runId : String) : Action Run := do
  require env.composition.repository "repository is required before workflow dispatch"
  match ← readRepository env fun repository => repository.getRun runId with
  | none => throw (.error "workflow run not found")
  | some run => pure run

/-- Starts the workflow behind a claimed request. Trigger's own idempotency
makes a repetition after a lost answer safe. -/
def startWorkflow (env : Environment) (request : StartRequest) (lease : EffectLease) (attempt : Nat) :
    Action Unit := do
  let _ ← markEffectStarted env lease
  let run ← requiredRun env request.runId
  let externalRunRef ← ask env fun tick => env.triggerRef tick
    {pipeline := request.pipeline,runId := request.runId,projectId := run.projectId,attempt := attempt,
      resumeGeneration := request.resumeGeneration.getD 0}
  let _ ← attachExternalRef env lease externalRunRef
  let _ ← completeEffect env lease (.obj [("externalRunRef",.str externalRunRef)])
  pure ()

def failUndispatched (env : Environment) (runId : String) : Action Unit := do
  let run ← requiredRun env runId
  if run.status ∈ [RunStatus.pending,.running,.waiting] then do
    let _ ← repository env fun now repository =>
      repository.transitionRun run.id [.pending,.running,.waiting]
        {status := some .failed,error := some (.obj [("code",.str "dispatch_executor_unavailable")]),
          output := some (.obj [("reason",.str "dispatch_executor_unavailable"),("status",.str "failed")]),
          updatedAt := now,completedAt := some now}
        (some run.stateVersion)
    pure ()
  else pure ()

def startedRun (effect : Effect) : Option String := if effect.status = .succeeded then effect.externalRef else none

def requestStart (env : Environment) (request : StartRequest) : Action Unit := do
  require env.composition.sourceSnapshot "source snapshot ingestion is required before dispatch"
  ensureSource env request
  let retryEffect ← getEffect env request.retry.idempotencyKey
  match retryEffect.bind startedRun with
  | some externalRef => do
    let state ← retrieve env externalRef
    if isExecutorUnavailable state then failUndispatched env request.runId else pure ()
  | none => do
    let (effect,lease) ← ownedClaim env request.toRequest request.fingerprint "trigger-workflow-start"
    if effect.status = .succeeded then
      match effect.externalRef with
      | none => pure ()
      | some externalRef => do
        let state ← retrieve env externalRef
        if isExecutorUnavailable state then do
          let (retried,retryLease) ← ownedClaim env request.retry.toRequest request.retry.fingerprint
            "trigger-workflow-start"
          if retried.status = .succeeded then pure () else startWorkflow env request retryLease 1
        else pure ()
    else startWorkflow env request lease 0

end AgentOS.Outbox
