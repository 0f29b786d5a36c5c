import AgentOS.ControlPlane.ReconcilePass
import AgentOS.ControlPlane.Resume
import AgentOS.Workflow.Run

/-! Creating a run: its configuration is looked up, a chained run's base is checked
and resolved, and the run is inserted once for its key. -/
namespace AgentOS.ControlPlane
open Library Workflow AgentOS.Action

structure CommandCriterion where
  id : String
  description : String
  required : Option Bool := none
  command : String
  cwd : Option String := none
  timeoutMs : Option Int := none

structure CreateRunInput where
  projectId : String
  title : String
  description : String
  provenance : Provenance := {}
  baseRunId : Option String := none
  /-- The criteria of a goal. -/
  criteria : Option (List CommandCriterion) := none

/-- Where a chained run reads its source. -/
structure RunChain where
  baseRunId : String
  baseBranch : String
  baseCommitSha : String
  deriving DecidableEq

def pipelineText : Pipeline → String
  | .feature => "feature"
  | .goal => "goal"

def outputText (run : Run) (name : String) : Option String := (run.output.bind (·.field? name)).bind Json.string?

def chainBase (run : Run) : Option Json := (run.input.bind (·.field? "chain")).bind (·.field? "baseRunId")

/-! ### The criteria of a goal -/

def CommandCriterion.definition (criterion : CommandCriterion) : Json :=
  .obj ([("command",.str criterion.command)] ++ (criterion.cwd.map fun cwd => ("cwd",.str cwd)).toList ++
    [("description",.str criterion.description),("id",.str criterion.id)] ++
    (criterion.required.map fun required => ("required",.bool required)).toList ++
    (criterion.timeoutMs.map fun timeoutMs => ("timeoutMs",.num timeoutMs)).toList ++ [("type",.str "command")])

def CommandCriterion.goalDefinitions (criteria : List CommandCriterion) : Except Fault (List Json) :=
  if criteria.length < 1 ∨ criteria.length > 20 then
    .error (.service "invalid_goal_criteria" "goal criteria must contain between 1 and 20 command checks" 422)
  else if criteria.any (fun criterion => trim criterion.id = "" || trim criterion.description = "" ||
      trim criterion.command = "") ∨ ¬ (criteria.map CommandCriterion.id).Nodup then
    .error (.service "invalid_goal_criteria" "goal command criteria must be complete and have unique IDs" 422)
  else .ok (criteria.map CommandCriterion.definition)

/-! ### The run -/

def chainJson (chain : RunChain) : Json :=
  .obj [("baseRunId",.str chain.baseRunId),("baseBranch",.str chain.baseBranch),("baseCommitSha",.str chain.baseCommitSha)]

def provenanceJson (provenance : Provenance) : Json :=
  .obj [("repositorySha",.str provenance.repositorySha),("configDigest",.str provenance.configDigest),
    ("modelDigest",.str provenance.modelDigest),("promptDigest",.str provenance.promptDigest),
    ("environmentDigest",.str provenance.environmentDigest),("policyDigest",.str provenance.policyDigest)]

/-- The input of a run holds the resolved chain, not the one that was asked for. -/
def inputJson (idempotencyKey : String) (input : CreateRunInput) (chain : Option RunChain) (criteria : Option (List Json)) :
    Json :=
  .obj ([("idempotencyKey",.str idempotencyKey),("title",.str input.title),("description",.str input.description)] ++
    (chain.map fun chain => ("chain",chainJson chain)).toList ++ [("provenance",provenanceJson input.provenance)] ++
    (criteria.map fun criteria => ("criteria",.arr criteria)).toList)

def inputForRun (idempotencyKey : String) (input : CreateRunInput) (chain : Option RunChain) : Except Fault Json := do
  let criteria ← input.criteria.mapM CommandCriterion.goalDefinitions
  .ok (inputJson idempotencyKey input chain criteria)

def runOf (id : String) (pipeline : Pipeline) (input : CreateRunInput) (revision : Option ConfigRevision) (runInput : Json)
    (now : Instant) : Run where
  id := id
  projectId := input.projectId
  pipeline := pipelineText pipeline
  configRevisionId := revision.map ConfigRevision.id
  status := .pending
  input := some runInput
  createdAt := now
  updatedAt := now

def runKey (pipeline : Pipeline) (input : CreateRunInput) (runInput : Json) : Fingerprint :=
  .obj [("pipeline",.str (pipelineText pipeline)),("projectId",.str input.projectId),("input",runInput)]

section
variable (env : Environment) (pages : Nat)

/-! ### The configuration -/

def requireProject (projectId : String) : Action Unit := do
  match ← readRepository env fun repository => repository.projects.get? projectId with
  | none => throw (.service "project_not_found" "project not found" 404)
  | some _ => pure ()

/-- The first revision with the provenance asked for, among so many pages of revisions. -/
def findRevision (input : CreateRunInput) : Nat → Option Nat → Action (Option ConfigRevision)
  | 0,_ => pure none
  | pages+1,after => do
    let revisions ← readRepository env fun repository => repository.listConfigRevisions input.projectId after 100
    match revisions.find? fun candidate => candidate.provenance = input.provenance with
    | some revision => pure (some revision)
    | none => match revisions.getLast? with
      | none => pure none
      | some last => findRevision input pages (some last.revision)

def appliedRevision (pipeline : Pipeline) (input : CreateRunInput) : Action (Option ConfigRevision) :=
  if pipeline = .goal ∨ env.composition.workflowDispatch then do
    match ← findRevision env input pages none with
    | none => throw (.service "config_snapshot_required"
        (pipelineText pipeline ++ " provenance does not match an applied configuration revision") 409)
    | some revision => pure (some revision)
  else pure none

/-! ### The chain -/

def DEFAULT_CHAIN_MAX_DEPTH : Nat := 3

def ACTIVE_RUN_PAGE : Nat := 100

def chainDepthLimit (revision : Option ConfigRevision) : Nat :=
  (revision.bind fun revision => env.chainMaxDepth revision.config).getD DEFAULT_CHAIN_MAX_DEPTH

def usableBase (input : CreateRunInput) (baseRunId : String) (found : Option Run) : Except Fault (Run × RunChain) :=
  match found.filter fun base => base.projectId = input.projectId && base.status = .succeeded with
  | none => .error (.service "base_run_unavailable" "the base run must be a succeeded run in this project" 422)
  | some base => match outputText base "publishedBranch",outputText base "publishedCommitSha" with
    | some baseBranch,some baseCommitSha => .ok (base,{baseRunId,baseBranch,baseCommitSha})
    | _,_ => .error (.service "base_run_unpublished"
        "the base run did not record a published branch and commit to build on" 422)

def boundTo (revision : ConfigRevision) (snapshots : List ConfigSnapshot) : Bool :=
  match snapshots with
  | [snapshot] => snapshot.configRevisionId = revision.id
  | _ => false

def sameConfiguration (base : Run) (revision : Option ConfigRevision) : Action Unit :=
  match revision with
  | none => pure ()
  | some revision => do
    let snapshots ← readRepository env fun repository => repository.listConfigSnapshots base.id 2
    if boundTo revision snapshots then pure ()
    else throw (.service "chain_configuration_changed" "the base run executed under a different configuration revision" 409)

def buildsOn (baseRunId : String) (run : Run) : Bool := chainBase run = some (.str baseRunId)

def untaken (projectId baseRunId : String) (status : RunStatus) : Action Unit := do
  let active ← readRepository env fun repository =>
    repository.listRuns (some projectId) (some status) ACTIVE_RUN_PAGE none
  if active.any (buildsOn baseRunId) then
    throw (.service "chained_base_taken" "another active run already builds on that base run" 409)
  else pure ()

def baseUntaken (projectId baseRunId : String) : Action Unit :=
  [RunStatus.pending,.running,.waiting].forM (untaken env projectId baseRunId)

def ancestorOf (run : Option Run) : Option String := (run.bind chainBase).bind Json.string?

def persistenceId (kind value : String) : Except Fault String :=
  if trim value = "" then .error (.error (kind ++ " identifier must not be empty")) else .ok value

/-- The runs of the chain, as far as the bound that is left lets them be counted. -/
def countChain : Nat → Nat → Option String → Action Nat
  | bound+1,existing,some ancestor => do
    let id ← Routine.settle (persistenceId "run" ancestor)
    let run ← readRepository env fun repository => repository.getRun id
    countChain bound (existing + 1) (ancestorOf run)
  | _,existing,_ => pure existing

def shallow (base : Run) (maxDepth : Nat) : Action Unit := do
  let existing ← countChain env maxDepth 1 (ancestorOf (some base))
  if existing + 1 > maxDepth then
    throw (.service "chain_too_deep" ("a chain may not exceed " ++ toString maxDepth ++ " runs") 422)
  else pure ()

def resolveChain (input : CreateRunInput) (revision : Option ConfigRevision) : Action (Option RunChain) :=
  match input.baseRunId with
  | none => pure none
  | some baseRunId => do
    let found ← readRepository env fun repository => repository.getRun baseRunId
    let (base,chain) ← Routine.settle (usableBase input baseRunId found)
    sameConfiguration env base revision
    baseUntaken env input.projectId baseRunId
    shallow env base (chainDepthLimit env revision)
    pure (some chain)

/-! ### What a new run is given -/

def snapshotFor (pipeline : Pipeline) (run : Run) (revision : ConfigRevision) (now : Instant) : ConfigSnapshot where
  id := env.generateId "configSnapshot" (pipelineText pipeline ++ ":" ++ run.id)
  runId := run.id
  configRevisionId := revision.id
  config := revision.config
  provenance := revision.provenance
  createdAt := now

def bindSnapshot (pipeline : Pipeline) (run : Run) (revision : Option ConfigRevision) (now : Instant) : Action Unit :=
  match revision with
  | none => pure ()
  | some revision => do
    let snapshots ← readRepository env fun repository => repository.listConfigSnapshots run.id 2
    if snapshots = [] then createSnapshot env (snapshotFor env pipeline run revision now)
    else if boundTo revision snapshots then pure ()
    else throw (.service "config_snapshot_conflict"
      (pipelineText pipeline ++ " run config snapshot conflicts with its provenance") 409)

def criterionOf (run : Run) (now : Instant) (ordinal : Nat) (criterion : CommandCriterion) : GoalCriterion :=
  {goalCriterion env run ordinal (criterion.description,criterion.definition) with createdAt := now}

def bindCriteria (run : Run) (criteria : Option (List CommandCriterion)) (now : Instant) : Action Unit :=
  match criteria with
  | none => pure ()
  | some criteria => do
    (criteria.zipIdx.forM fun (criterion,ordinal) => createCriterion env (criterionOf env run now ordinal criterion))
    let persisted ← readRepository env fun repository => repository.listGoalCriteria run.id 21
    if persisted.length ≠ criteria.length then
      throw (.service "goal_criteria_conflict" "goal run criteria conflict with its immutable definition" 409)
    else pure ()

def dispatchStart (runId : String) (pipeline : Pipeline) : Action Unit :=
  dispatchResumed env {idempotencyKey := "workflow-start:" ++ runId,runId,pipeline}

/-! ### The call -/

def insertRun (run : Run) (fingerprint : Fingerprint) : Action Run :=
  repository env fun _ repository => repository.createRunIdempotently run fingerprint

def finishRun (pipeline : Pipeline) (input : CreateRunInput) (revision : Option ConfigRevision) (created : Run)
    (now : Instant) : Action Run := do
  bindSnapshot env pipeline created revision now
  bindCriteria env created input.criteria now
  dispatchStart env created.id pipeline
  project env created

def startRun (pipeline : Pipeline) (input : CreateRunInput) (revision : Option ConfigRevision) (run : Run)
    (fingerprint : Fingerprint) : Action Run := do
  let created ← insertRun env run fingerprint
  finishRun env pipeline input revision created run.createdAt

def conflictOf : Fault → Fault
  | .idempotencyConflict message => .service "idempotency_conflict" message 409
  | fault => fault

section
variable (pipeline : Pipeline) (idempotencyKey : String)

def runId : String :=
  env.generateId "run" (pipelineText pipeline ++ ":" ++ idempotencyKey)

def prepareRun (input : CreateRunInput) : Action (Option ConfigRevision × Run × Fingerprint) := do
  let now ← Action.now env
  requireProject env input.projectId
  let revision ← appliedRevision env pages pipeline input
  let chain ← resolveChain env input revision
  let runInput ← Routine.settle (inputForRun idempotencyKey input chain)
  pure (revision,runOf (runId env pipeline idempotencyKey) pipeline input revision runInput now,
    runKey pipeline input runInput)

def createRun (input : CreateRunInput) : Action Run := do
  let (revision,run,fingerprint) ← prepareRun env pages pipeline idempotencyKey input
  match ← (startRun env pipeline input revision run fingerprint).outcome with
  | .ok created => pure created
  | .error fault => throw (conflictOf fault)

end

def createFeatureRun (idempotencyKey : String) (input : CreateRunInput) : Action Run :=
  createRun env pages .feature idempotencyKey input

end
end AgentOS.ControlPlane
