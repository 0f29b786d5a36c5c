import AgentOS.Outbox.Delivery
import AgentOS.Workflow.Run

/-! What an agent step works with: its roles, the execution it runs in, the
access its session is given, and the calls it makes for them. -/
namespace AgentOS.Workflow
open Library Checkpoint AgentOS.Action

/-! ### Roles and inputs -/

inductive FeatureRole where
  | specification
  | planning
  | implementation
  | review
  | verification
  deriving DecidableEq

def FeatureRole.text : FeatureRole → String
  | .specification => "specification"
  | .planning => "planning"
  | .implementation => "implementation"
  | .review => "review"
  | .verification => "verification"

structure RuntimeAgent where
  id : String
  model : String
  modelProvider : String
  instructions : Option String := none
  tools : List String := []
  mcps : List String := []

structure Networking where
  allowedHosts : List String := []
  allowMcpServers : Bool := false
  allowPackageManagers : Bool := false

structure RuntimeEnvironment where
  id : String
  runtime : String
  image : Option String := none
  environmentVariables : List (String × String) := []
  networking : Networking := {}
  packages : Option (List (String × List String)) := none

structure FeatureRoleDefinition where
  agent : RuntimeAgent
  environment : RuntimeEnvironment
  maxReservationMicrodollars : Option Int := none

structure FeatureWorkflowRoles where
  specification : FeatureRoleDefinition
  implementation : FeatureRoleDefinition
  verification : FeatureRoleDefinition
  planning : Option FeatureRoleDefinition := none
  review : Option FeatureRoleDefinition := none

def FeatureWorkflowRoles.role (roles : FeatureWorkflowRoles) : FeatureRole → Option FeatureRoleDefinition
  | .specification => some roles.specification
  | .implementation => some roles.implementation
  | .verification => some roles.verification
  | .planning => roles.planning
  | .review => roles.review

structure Digests where
  config : String
  model : String
  prompt : String
  environment : String
  policy : String

def Digests.json (digests : Digests) : Json :=
  .obj [("config",.str digests.config),("environment",.str digests.environment),("model",.str digests.model),
    ("policy",.str digests.policy),("prompt",.str digests.prompt)]

structure FeatureWorkflowInput where
  runId : String
  projectId : String
  repositorySha : String
  sourceSnapshotDigest : String
  digests : Digests

structure WorkflowExecutionContext where
  taskVersion : String
  deploymentVersion : String
  triggerRunId : Option String := none

def DEFAULT_EXECUTION : WorkflowExecutionContext where
  taskVersion := "agentos-feature-workflow-v1"
  deploymentVersion := "test-or-unknown"

def WorkflowExecutionContext.json (execution : WorkflowExecutionContext) : Json :=
  .obj ([("deploymentVersion",.str execution.deploymentVersion),("taskVersion",.str execution.taskVersion)] ++
    (execution.triggerRunId.map fun ref => ("triggerRunId",.str ref)).toList)

def executionOwner (workflow : FeatureWorkflowInput) (execution : Option WorkflowExecutionContext) : String :=
  "workflow:" ++ ((execution.bind WorkflowExecutionContext.triggerRunId).getD workflow.runId) ++ ":" ++
    ((execution.map WorkflowExecutionContext.taskVersion).getD "agentos-feature-workflow-v1")

def maxStepAttempts : Nat := 2

def sessionTimeoutMs : Int := 20 * 60 * 1000

def defaultSessionReservationMicrodollars : Int := 700000

def USAGE_PRICING_VERSION : String := "managed-agents-cache-pricing-v1"

/-! ### Effects -/

def effectDraft (runId key kind : String) (input : Json) (now : Instant) : EffectDraft :=
  {key := key,runId := runId,kind := kind,inputFingerprint := input,createdAt := now,updatedAt := now}

section
variable (env : Environment)

/-- Claims an effect for an execution. A succeeded one is answered whoever owns it. -/
def claimEffect (ownerId : String) (draft : EffectDraft) (leaseMs : Int) : Action (Effect × EffectLease) := do
  let effect ← checkpoint env fun now store =>
    store.claimEffect draft {ownerId := ownerId,now := now,leaseExpiresAt := now + leaseMs}
  if effect.status = .succeeded then
    pure (effect,{key := effect.key,ownerId := effect.ownerId.getD ownerId,leaseVersion := effect.leaseVersion})
  else if effect.ownerId ≠ some ownerId then throw (.transient "workflow effect is owned by another execution")
  else pure (effect,{key := effect.key,ownerId := ownerId,leaseVersion := effect.leaseVersion})

variable (lease : EffectLease)

def markEffectStarted : Action Effect :=
  checkpoint env fun now store => store.markEffectStarted lease now

def attachExternalRef (externalRef : String) : Action Effect :=
  checkpoint env fun now store => store.attachExternalRef lease externalRef now

def completeEffect (output : Json) : Action Effect :=
  checkpoint env fun now store => store.completeEffect lease output now

def failEffect (error : String) (deadLetter : Bool) : Action Effect :=
  checkpoint env fun now store => store.failEffect lease error deadLetter now

def renewEffect : Action Effect :=
  checkpoint env fun now store => store.renewEffect lease now now

end

/-! ### The activity feed -/

structure StepProgressContext where
  stepRunId : String
  stepKey : String
  attempt : Nat
  resumeGeneration : Int
  model : String

structure ProgressNote where
  eventKey : String
  phase : String
  message : String
  code : Option String := none
  occurredAt : Option Instant := none

def progressEventId (runId : String) (step : StepProgressContext) (eventKey : String) : String :=
  "step-progress:" ++ runId ++ ":" ++ step.stepKey ++ ":" ++ toString step.attempt ++ ":" ++
    (if step.resumeGeneration = 0 then "" else "resume:" ++ toString step.resumeGeneration ++ ":") ++ eventKey

def progressEvent (runId : String) (step : StepProgressContext) (note : ProgressNote) (at_ : Instant) : EventDraft :=
  let payload := Json.obj ([("attempt",.num step.attempt),("message",.str note.message),("phase",.str note.phase),
    ("stepKey",.str step.stepKey),("stepRunId",.str step.stepRunId)] ++ (note.code.map fun code => ("code",.str code)).toList)
  {runId := runId,eventId := progressEventId runId step note.eventKey,
    fingerprint := .obj [("payload",payload),("type",.str "step.progress")],type := "step.progress",payload := payload,
    occurredAt := note.occurredAt.getD at_}

def recordStepProgress (env : Environment) (runId : String) (step : StepProgressContext) (note : ProgressNote) :
    Action Unit := do
  let _ ← repository env fun now repository => repository.appendEvent (progressEvent runId step note now)
  pure ()

/-! ### Access to sources and artifacts -/

structure RuntimeAccess where
  resources : List FileResource
  credentialRefs : List String
  ephemeral : Bool := false

def FileResource.json (resource : FileResource) : Json :=
  .obj ([("fileId",.str resource.fileId)] ++ (resource.mountPath.map fun path => ("mountPath",.str path)).toList ++
    [("type",.str "file")])

def RuntimeAccess.json (access : RuntimeAccess) : Json :=
  .obj ([("credentialRefs",.arr (access.credentialRefs.map .str))] ++
    (if access.ephemeral then [("ephemeral",.bool true)] else []) ++
    [("resources",.arr (access.resources.map FileResource.json))])

def parseResource (value : Json) : Option FileResource :=
  match value.field? "type",value.field? "fileId" with
  | some (.str "file"),some (.str fileId) =>
    if units fileId < 1 ∨ units fileId > 256 then none
    else match value.field? "mountPath" with
      | none => some {fileId := fileId}
      | some (.str mountPath) =>
        if units mountPath > 1024 then none else some {fileId := fileId,mountPath := some mountPath}
      | some _ => none
  | _,_ => none

def parseCredential : Json → Option String
  | .str credential => if units credential < 1 ∨ units credential > 256 then none else some credential
  | _ => none

/-- The access an effect's output carries; the workflow refuses any other output. -/
def parseRuntimeAccess (value : Option Json) : Option RuntimeAccess :=
  match value.bind (Json.field? · "resources"),value.bind (Json.field? · "credentialRefs"),
      value.bind (Json.field? · "ephemeral") with
  | some (.arr resources),some (.arr credentials),ephemeral =>
    match resources.mapM parseResource,credentials.mapM parseCredential,ephemeral with
    | some parsedResources,some parsedCredentials,none =>
      if parsedResources.length > 32 ∨ parsedCredentials.length > 4 then none
      else some {resources := parsedResources,credentialRefs := parsedCredentials}
    | some parsedResources,some parsedCredentials,some (.bool flag) =>
      if parsedResources.length > 32 ∨ parsedCredentials.length > 4 then none
      else some {resources := parsedResources,credentialRefs := parsedCredentials,ephemeral := flag}
    | _,_,_ => none
  | _,_,_ => none

def requireRuntimeAccess (value : Option Json) : Action RuntimeAccess :=
  match parseRuntimeAccess value with
  | none => throw (.permanent "runtime access checkpoint is invalid")
  | some access => pure access

structure AccessRequest where
  workflow : FeatureWorkflowInput
  stepId : String
  logicalStepId : String
  role : FeatureRole
  stepInput : Json
  idempotencyKey : String

/-! ### The handle of a session -/

def handleAad (workflow : FeatureWorkflowInput) (stepId : String) (role : FeatureRole) (externalId : String) : Json :=
  .obj [("configDigest",.str workflow.digests.config),("externalId",.str externalId),
    ("repositorySha",.str workflow.repositorySha),("role",.str role.text),("runId",.str workflow.runId),
    ("sourceSnapshotDigest",.str workflow.sourceSnapshotDigest),("stepId",.str stepId),
    ("version",.str "runtime-handle-aad-v1")]

/-- Sealing binds a handle to its associated data; a sealed handle opens under that data only. -/
def sealHandle (env : Environment) (handle : String) (aad : Json) : Action Json := ask env fun _ => .arr [.str handle,aad]

def openHandle (env : Environment) (sealed aad : Json) : Action String := do
  let opened ← ask env fun _ => match sealed with
    | .arr [.str handle,bound] => if bound = aad then some handle else none
    | _ => none
  match opened with
  | none => throw (.error "sealed runtime handle cannot be opened")
  | some handle => pure handle

def externalSessionId (handle : String) : String := "runtime:" ++ handle

def SEALED_STATE_VERSION : String := "sealed-runtime-handle-state-v1"

def sealedState (sealed aad : Json) (role : FeatureRole) : Json :=
  .obj [("aad",aad),("role",.str role.text),("sealedHandle",sealed),("version",.str SEALED_STATE_VERSION)]

end AgentOS.Workflow

namespace AgentOS.Runtime
open AgentOS.Action

def start (env : Environment) (refusal : Nat → Option Fault) (request : RuntimeStartRequest) : Action String :=
  call env fun _ world =>
    let sent := world.log (.startSent request)
    match refusal world.tick with
    | some fault => (.error fault,sent)
    | none =>
      let externalRef := env.sessionId world.tick
      (.ok externalRef,sent.log (.sessionStarted request.idempotencyKey externalRef))

end AgentOS.Runtime
