import AgentOS.Workflow.Run

/-! One step of a goal: a feature run of its own, created once for the goal and
the step, given the goal's configuration and source bundle, claimed, and carried
out by the feature task. -/
namespace AgentOS.Goal
open Library AgentOS.Action Workflow

structure GoalStepRequest where
  parentRunId : String
  projectId : String
  childRunId : String
  step : Int
  criteria : List Json
  snapshot : ConfigSnapshot
  priorFailures : List (String × String) := []

structure EvidenceSubmission where
  id : String
  criterionId : String
  submittedByAgentId : String
  observedAt : Instant
  parentRunId : String
  projectId : String
  childRunId : String
  artifact : ArtifactMetadata
  deriving DecidableEq

structure GoalStepResult where
  childRunId : String
  status : ResultStatus
  evidence : List EvidenceSubmission
  draftPullRequestUrl : Option String := none
  reason : Option String := none
  deriving DecidableEq

structure ParentInput where
  title : String
  description : String
  provenance : Json
  criteria : List Json

def sha256Text (text : String) : Option String :=
  if text.length = 64 ∧ text.toList.all isHex then some text else none

def bounded (limit : Nat) : Json → Option Json := text fun value => (atLeastOne value).bind (atMost limit)

def provenanceSchema : List (Shape.Field Json) := [
  {name := "repositorySha",check := text commitSha},
  {name := "configDigest",check := text sha256Text},
  {name := "modelDigest",check := text sha256Text},
  {name := "promptDigest",check := text sha256Text},
  {name := "environmentDigest",check := text sha256Text},
  {name := "policyDigest",check := text sha256Text}]

def parentInputSchema : List (Shape.Field Json) := [
  {name := "idempotencyKey",check := bounded 256},
  {name := "title",check := bounded 200},
  {name := "description",check := bounded 20000},
  {name := "provenance",check := fun value => (strictObject provenanceSchema value).map .obj},
  {name := "criteria",check := fun value => match value with
    | .arr items => if 1 ≤ items.length ∧ items.length ≤ 20 then some value else none
    | _ => none}]

def parentInput (raw : Option Json) : Option ParentInput := do
  let fields ← raw.bind (strictObject parentInputSchema)
  let title ← (Shape.lookup fields "title").bind Json.string?
  let description ← (Shape.lookup fields "description").bind Json.string?
  let provenance ← Shape.lookup fields "provenance"
  match ← Shape.lookup fields "criteria" with
  | .arr criteria => some {title,description,provenance,criteria}
  | _ => none

def deterministicGoalChildRunId (env : Environment) (parentRunId : String) (step : Int) : Except Fault String :=
  if isSafeInteger step = false ∨ step < 1 ∨ step > 3 then .error (.error "goal child step must be between 1 and 3")
  else .ok ("goal-child-" ++ env.sha256 (parentRunId ++ "\x00" ++ toString step))

def runFingerprint (run : Run) : Fingerprint :=
  .obj [("configRevisionId",(run.configRevisionId.map Json.str).getD .null),("input",run.input.getD .null),
    ("pipeline",.str run.pipeline),("projectId",.str run.projectId)]

def snapshotMatches (child parent : ConfigSnapshot) (childRunId : String) : Bool :=
  child.runId = childRunId && child.configRevisionId = parent.configRevisionId &&
    child.provenance = parent.provenance && child.config = parent.config

def isPlain (char : Char) : Bool := char.isAlphanum || char ∈ ['.','_',':','-']

def plainText (text : String) : String :=
  Checkpoint.Store.slice (String.ofList (text.toList.flatMap fun char =>
    if isPlain char then [char] else if char.val < 65536 then ['_'] else ['_','_'])) 128

def safePriorFailureText (request : GoalStepRequest) : String :=
  let failures := (request.priorFailures.drop (request.priorFailures.length - 20)).map fun failure =>
    plainText failure.1 ++ ":" ++ plainText failure.2
  if failures = [] then "" else "\n\nPrior bounded failures:\n" ++ String.intercalate "\n" failures

def childInput (request : GoalStepRequest) (input : ParentInput) : Json :=
  let suffix := " (attempt " ++ toString request.step ++ ")"
  .obj [
    ("description",.str (Checkpoint.Store.slice (input.description ++ safePriorFailureText request) 20000)),
    ("idempotencyKey",.str ("goal:" ++ request.parentRunId ++ ":step:" ++ toString request.step)),
    ("provenance",input.provenance),
    ("title",.str (Checkpoint.Store.slice input.title (200 - units suffix) ++ suffix))]

def sourceScope (projectId runId : String) : ArtifactScope := {projectId,runId,stepId := "source"}

section
variable (env : Environment) (request : GoalStepRequest)

/-! ### The child's configuration and source -/

/-- The one source bundle of the goal. -/
def sourceBundle (listed : List ArtifactMetadata × Bool) : Except Fault ArtifactMetadata :=
  match listed with
  | ([metadata],false) =>
    if metadata.artifactId ≠ "bundle" ∨ metadata.version ≠ 1 ∨ metadata.mediaType ≠ "application/json" ∨
        metadata.retentionClass ≠ "source-bundle" then
      .error (.error "goal parent source bundle binding is invalid")
    else .ok metadata
  | _ => .error (.error "goal parent must have exactly one source bundle")

def availableBundle (metadata : ArtifactMetadata) (stored : Option Artifact) : Except Fault Artifact :=
  match stored with
  | none => .error (.error "goal parent source bundle is unavailable")
  | some value =>
    if value.digest ≠ metadata.digest ∨ value.sizeBytes ≠ metadata.sizeBytes then
      .error (.error "goal parent source bundle is unavailable")
    else .ok value

def bundleCopy (value : Artifact) : ArtifactPutRequest where
  slot := {sourceScope request.projectId request.childRunId with artifactId := "bundle",version := 1}
  digest := some value.digest
  bytes := value.bytes
  mediaType := value.mediaType
  retentionClass := "source-bundle"

def copySourceBundle : Action ArtifactMetadata := do
  let listed ← readArtifacts env fun store =>
    .ok (store.list (sourceScope request.projectId request.parentRunId) "bundle" 2)
  let metadata ← Routine.settle (sourceBundle listed)
  let stored ← readArtifacts env fun store => store.read env.sha256 metadata (some metadata.sizeBytes)
  let value ← Routine.settle (availableBundle metadata stored)
  storeArtifact env fun now store => store.put env.sha256 (bundleCopy request value) now

def childSnapshot (now : Instant) : ConfigSnapshot :=
  {request.snapshot with
    id := "goal-child:" ++ request.parentRunId ++ ":" ++ toString request.step ++ ":snapshot"
    runId := request.childRunId
    createdAt := now}

def ensureMatches (message : String) (snapshots : List ConfigSnapshot) : Except Fault Unit :=
  match snapshots with
  | [snapshot] => if snapshotMatches snapshot request.snapshot request.childRunId then .ok () else .error (.error message)
  | _ => .error (.error message)

def ensureChildSnapshot : Action Unit := do
  match ← readRepository env fun repository => repository.listConfigSnapshots request.childRunId 2 with
  | [] =>
    match ← (repository env fun now repository => repository.createConfigSnapshot (childSnapshot request now)).outcome with
    | .ok _ => pure ()
    | .error _ => do
      let concurrent ← readRepository env fun repository => repository.listConfigSnapshots request.childRunId 2
      Routine.settle (ensureMatches request "goal child config snapshot creation conflicted" concurrent)
  | snapshots => Routine.settle (ensureMatches request "goal child config snapshot conflicts with its parent" snapshots)

/-! ### Results -/

def terminalStatus : RunStatus → ResultStatus
  | .succeeded => .succeeded
  | .cancelled => .cancelled
  | _ => .failed

def terminalUrl (url : UrlFormat) (run : Run) : Option String :=
  if run.status = .succeeded then
    (((run.output.filter isObject).bind fun output => output.field? "draftPullRequestUrl").bind Json.string?).filter
      fun text => (url.atMost 2048 text).isSome
  else none

def verificationScope : ArtifactScope :=
  {projectId := request.projectId,runId := request.childRunId,stepId := "verification"}

def trustedReport (listed : List ArtifactMetadata × Bool) : Except Fault ArtifactMetadata :=
  match listed with
  | ([artifact],false) =>
    if artifact.artifactId ≠ "trusted-test-report" ∨ artifact.version ≠ 1 ∨ artifact.mediaType ≠ "application/json" then
      .error (.error "goal child trusted test report binding is invalid")
    else .ok artifact
  | _ => .error (.error "successful goal child must have one trusted test report")

def criterionId (criterion : Json) : String := ((criterion.field? "id").bind Json.string?).getD "undefined"

def evidenceFor (artifact : ArtifactMetadata) : List EvidenceSubmission :=
  request.criteria.map fun criterion => {
    id := "goal:" ++ request.parentRunId ++ ":step:" ++ toString request.step ++ ":evidence:" ++ criterionId criterion
    criterionId := criterionId criterion
    submittedByAgentId := "goal-feature-runner"
    observedAt := artifact.createdAt
    parentRunId := request.parentRunId
    projectId := request.projectId
    childRunId := request.childRunId
    artifact }

def stepResult (url : UrlFormat) (child : Run) (evidence : List EvidenceSubmission) : GoalStepResult where
  childRunId := request.childRunId
  status := terminalStatus child.status
  evidence := evidence
  draftPullRequestUrl := terminalUrl url child
  reason := if terminalStatus child.status = .failed then some "child_failed" else none

def terminalStepResult (url : UrlFormat) (child : Run) : Action GoalStepResult :=
  if terminalStatus child.status = .succeeded then do
    let listed ← readArtifacts env fun store => .ok (store.list (verificationScope request) "trusted-test-report" 2)
    let artifact ← Routine.settle (trustedReport listed)
    pure (stepResult request url child (evidenceFor request artifact))
  else pure (stepResult request url child [])

/-! ### The runner -/

def expectedChild : Except Fault Unit := do
  let expected ← deterministicGoalChildRunId env request.parentRunId request.step
  if request.childRunId ≠ expected then .error (.error "goal step must use its deterministic child run ID") else .ok ()

/-- The goal's run, its configuration and its input, as the request must have them. -/
def authoritativeParent (found : Option Run) : Except Fault (Run × String × ParentInput) :=
  match found with
  | none => .error (.error "authoritative goal parent is not runnable")
  | some parent => match parent.configRevisionId with
    | none => .error (.error "authoritative goal parent is not runnable")
    | some configRevisionId =>
      if parent.pipeline ≠ "goal" ∨ parent.projectId ≠ request.projectId ∨ parent.status ≠ .running then
        .error (.error "authoritative goal parent is not runnable")
      else if request.snapshot.runId ≠ parent.id ∨ request.snapshot.configRevisionId ≠ configRevisionId then
        .error (.error "goal step snapshot binding mismatch")
      else match parentInput parent.input with
        | none => .error (.thrown [{}])
        | some input =>
          if request.criteria ≠ input.criteria then .error (.error "goal step criterion binding mismatch")
          else .ok (parent,configRevisionId,input)

def authoritativeSnapshot (parent : Run) (snapshots : List ConfigSnapshot) : Except Fault Unit :=
  match snapshots with
  | [snapshot] =>
    if snapshotMatches snapshot request.snapshot parent.id then .ok ()
    else .error (.error "goal step snapshot is not the authoritative parent snapshot")
  | _ => .error (.error "goal step snapshot is not the authoritative parent snapshot")

def childRun (parent : Run) (configRevisionId : String) (input : ParentInput) (now : Instant) : Run where
  id := request.childRunId
  projectId := parent.projectId
  configRevisionId := some configRevisionId
  pipeline := "feature"
  status := .pending
  input := some (childInput request input)
  createdAt := now
  updatedAt := now

def boundChild (child : Run) : Except Fault Unit :=
  if child.id ≠ request.childRunId ∨ child.projectId ≠ request.projectId ∨ child.pipeline ≠ "feature" then
    .error (.error "goal child run binding mismatch")
  else .ok ()

def claimChild (child : Run) : Action (Option Run) :=
  if child.status = .pending then
    repository env fun now repository =>
      repository.transitionRun child.id [.pending] {status := some .running,updatedAt := now} (some child.stateVersion)
  else pure none

def concurrentResult (url : UrlFormat) (child : Run) : Action GoalStepResult := do
  match ← readRepository env fun repository => repository.getRun child.id with
  | none => throw (.goalTransient "goal feature child execution is already in progress")
  | some concurrent =>
    if isTerminalRun concurrent.status then terminalStepResult env request url concurrent
    else throw (.goalTransient "goal feature child execution is already in progress")

def releaseChild (child : Run) : Action Unit := do
  match ← readRepository env fun repository => repository.getRun child.id with
  | none => pure ()
  | some active =>
    if active.status = .running ∨ active.status = .waiting then do
      let _ ← repository env fun now repository =>
        repository.transitionRun active.id [.running,.waiting] {status := some .pending,updatedAt := now}
          (some active.stateVersion)
      pure ()
    else pure ()

def goalFault : Fault → Fault
  | .transient message => .goalTransient message
  | fault => fault

section
variable (url : UrlFormat) (featureTask : String → Action Unit)

def executeChild (child : Run) : Action GoalStepResult := do
  match ← (do
      let _ ← copySourceBundle env request
      featureTask request.childRunId : Action Unit).outcome with
  | .error fault => do
    releaseChild env child
    throw (goalFault fault)
  | .ok () =>
    match ← readRepository env fun repository => repository.getRun request.childRunId with
    | none => throw (.error "feature goal child did not reach a terminal state")
    | some completed =>
      if isTerminalRun completed.status then terminalStepResult env request url completed
      else throw (.error "feature goal child did not reach a terminal state")

def runChild (child : Run) : Action GoalStepResult := do
  Routine.settle (boundChild request child)
  ensureChildSnapshot env request
  if isTerminalRun child.status then terminalStepResult env request url child
  else
    match ← claimChild env child with
    | none => concurrentResult env request url child
    | some _ => executeChild env request url featureTask child

/-- One execution of a goal step; the feature task carries out a run by its id. -/
def run : Action GoalStepResult := do
  Routine.settle (expectedChild env request)
  let found ← readRepository env fun repository => repository.getRun request.parentRunId
  let authority ← Routine.settle (authoritativeParent request found)
  let snapshots ← readRepository env fun repository => repository.listConfigSnapshots authority.1.id 2
  Routine.settle (authoritativeSnapshot request authority.1 snapshots)
  let createdAt ← now env
  let prepared := childRun request authority.1 authority.2.1 authority.2.2 createdAt
  let child ← repository env fun _ repository => repository.createRunIdempotently prepared (runFingerprint prepared)
  runChild env request url featureTask child

end

end
end AgentOS.Goal
