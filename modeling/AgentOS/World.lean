import AgentOS.Artifacts
import AgentOS.Checkpoint.Store
import AgentOS.Library.Routine
import AgentOS.Repository

/-! The world the services act on and the calls they make to it. A world holds
the two stores and a journal of what happened to remote sessions and to their
reservations; everything else a call depends on comes from the environment, by
the tick at which the call is made. -/
namespace AgentOS
open Library Checkpoint

structure FileResource where
  fileId : String
  mountPath : Option String := none
  deriving DecidableEq

structure RuntimeStartRequest where
  runId : String
  stepId : String
  agentId : String
  environmentId : String
  input : Json
  timeoutMs : Int
  idempotencyKey : String
  maxCostMicrodollars : Int
  resources : List FileResource := []
  credentialRefs : List String := []
  deriving DecidableEq

/-- What happened to a session, a reservation or an artifact capability, in order. -/
inductive Happening where
  | startSent (request : RuntimeStartRequest)
  | capabilityIssued (claims : ArtifactCapabilityClaims)
  | artifactCalled (claims : ArtifactCapabilityClaims) (bytes : Int) (at_ : Instant) (allowed : Bool)
  | sessionStarted (idempotencyKey externalRef : String)
  | startAbsent (idempotencyKey : String)
  | sessionCancelled (externalRef : String)
  | sessionCleaned (externalRef : String)
  | reservationSettled (reservationKey : String)
  deriving DecidableEq

structure World where
  checkpoints : Store := {}
  repository : Repository := {}
  journal : List Happening := []
  tick : Nat := 0
  artifacts : ArtifactStore := .empty
  /-- How far the reconciliation has come in its cycle over the runs. -/
  cursor : Option Cursor := none

instance : Inhabited World := ⟨{}⟩

/-- How a call can go wrong: refused before it is made, or made with its answer lost. -/
inductive Outage where
  | none
  | refused (causes : List Cause)
  | lost (causes : List Cause)

structure BudgetLimits where
  workflowLimitMicrodollars : Int
  dailyLimitMicrodollars : Int
  admissionNumerator : Int
  admissionDenominator : Int

structure RecoveryBinding where
  resources : List String
  credentialRefs : List String
  model : String
  pricingVersion : String
  priceUsage : RuntimeUsage → Int

structure SourceSnapshot where
  key : String
  digest : String
  sizeBytes : Int

inductive Pipeline where
  | feature
  | goal
  deriving DecidableEq

structure WorkflowStart where
  pipeline : Pipeline
  runId : String
  projectId : String
  attempt : Nat
  resumeGeneration : Nat

structure TriggerRun where
  status : String
  error : Option String

structure Composition where
  runtime : Bool := true
  runtimeHandles : Bool := true
  repository : Bool := true
  sourceSnapshot : Bool := true
  runtimeStartRecovery : Bool := true
  reconcileStart : Bool := true
  cleanupAccess : Bool := true
  runResumption : Bool := true
  workflowDispatch : Bool := true
  orphanReconciliation : Bool := true

structure Environment where
  collation : Collation
  composition : Composition := {}
  clock : Nat → Instant := fun _ => 0
  outage : Nat → Outage := fun _ => .none
  sessionId : Nat → String := fun tick => toString tick
  visible : Nat → String → Bool := fun _ _ => true
  usage : Nat → RuntimeUsage := fun _ => {}
  recovery : Nat → String → String → RecoveryBinding :=
    fun _ _ _ => {resources := [],credentialRefs := [],model := "",pricingVersion := "",priceUsage := fun _ => 0}
  budgetLimitsFromSnapshot : Json → Option BudgetLimits := fun _ => none
  goalTimeoutFromSnapshot : Json → Option Int := fun _ => none
  /-- How deep a configuration lets its chains get, when it parses and says so. -/
  chainMaxDepth : Json → Option Nat := fun _ => none
  sha256 : String → String := id
  generateId : String → String → String := fun _ seed => seed
  snapshot : Nat → SourceSnapshot := fun _ => {key := "",digest := "",sizeBytes := 0}
  triggerRef : Nat → WorkflowStart → String := fun tick _ => toString tick
  triggerRun : Nat → String → Option TriggerRun := fun _ _ => none

def Environment.steady : Environment := {collation := .codePoints,clock := fun tick => 60000 * tick}

abbrev Action := Routine World Fault

namespace World

section
variable (world : World)

def ticked : World := {world with tick := world.tick + 1}

variable (happening : Happening)

def log : World := {world with journal := world.journal ++ [happening]}

@[simp] theorem ticked_checkpoints : world.ticked.checkpoints = world.checkpoints := rfl
@[simp] theorem ticked_repository : world.ticked.repository = world.repository := rfl
@[simp] theorem ticked_artifacts : world.ticked.artifacts = world.artifacts := rfl
@[simp] theorem ticked_journal : world.ticked.journal = world.journal := rfl
@[simp] theorem log_checkpoints : (world.log happening).checkpoints = world.checkpoints := rfl
@[simp] theorem log_repository : (world.log happening).repository = world.repository := rfl
@[simp] theorem log_journal : (world.log happening).journal = world.journal ++ [happening] := rfl

end

end World

namespace Action
open Routine
variable {α : Type}

def require (condition : Prop) [Decidable condition] (message : String) : Action Unit :=
  if condition then pure () else throw (.error message)

section
variable (env : Environment)

def now : Action Instant :=
  atomic fun world => (.ok (env.clock world.tick),world.ticked)

/-- A call to something outside the process, given the instant at which it is made. -/
def call (step : Instant → World → Except Fault α × World) : Action α :=
  atomic fun world =>
    let answered := step (env.clock world.tick) world.ticked
    match env.outage world.tick with
    | .none => answered
    | .refused causes => (.error (.thrown causes),world.ticked)
    | .lost causes => (.error (.thrown causes),answered.2)

def checkpoint (operation : Instant → Store → Except Fault (α × Store)) : Action α :=
  call env fun at_ world => match operation at_ world.checkpoints with
    | .ok (value,store) => (.ok value,{world with checkpoints := store})
    | .error fault => (.error fault,world)

def readCheckpoints (read : Store → α) : Action α :=
  call env fun _ world => (.ok (read world.checkpoints),world)

def repository (operation : Instant → Repository → Except Fault (α × Repository)) : Action α :=
  call env fun at_ world => match operation at_ world.repository with
    | .ok (value,repository) => (.ok value,{world with repository := repository})
    | .error fault => (.error fault,world)

def readRepository (read : Repository → α) : Action α :=
  call env fun _ world => (.ok (read world.repository),world)

def storeArtifact (operation : Instant → ArtifactStore → Except Fault (α × ArtifactStore)) : Action α :=
  call env fun at_ world => match operation at_ world.artifacts with
    | .ok (value,artifacts) => (.ok value,{world with artifacts})
    | .error fault => (.error fault,world)

def readArtifacts (read : ArtifactStore → Except Fault α) : Action α :=
  call env fun _ world => (read world.artifacts,world)

/-- A call whose answer the environment decides and that changes neither store. -/
def ask (answer : Nat → α) : Action α :=
  call env fun _ world => (.ok (answer world.tick),world)

def happen (happening : Happening) : Action Unit :=
  call env fun _ world => (.ok (),world.log happening)

/-- Settles a reservation; the journal records it when there was one to settle. -/
def settleSession (request : Instant → SessionSettlement) : Action Settlement :=
  call env fun at_ world => match world.checkpoints.settleSession (request at_) with
    | .error fault => (.error fault,world)
    | .ok (settlement,store) =>
      let settled := {world with checkpoints := store}
      (.ok settlement,match world.checkpoints.reservations.get? (request at_).reservationKey with
        | none => settled
        | some _ => settled.log (.reservationSettled (request at_).reservationKey))

end

end Action

namespace Runtime
open AgentOS.Action

section
variable (env : Environment)

def listed (world : World) (idempotencyKey : String) : List String :=
  world.journal.filterMap fun happening => match happening with
    | .sessionStarted key externalRef =>
      if key = idempotencyKey ∧ env.visible world.tick externalRef ∧ .sessionCleaned externalRef ∉ world.journal then
        some externalRef
      else none
    | _ => none

def reconcileStart (idempotencyKey : String) : Action (Option String) :=
  call env fun _ world => match listed env world idempotencyKey with
    | [] => (.ok none,world.log (.startAbsent idempotencyKey))
    | [externalRef] => (.ok (some externalRef),world)
    | _ => (.error (.error "Multiple sessions match one idempotent runtime start"),world)

def cancel (externalRef : String) : Action Unit :=
  happen env (.sessionCancelled externalRef)

def cleanup (externalRef : String) : Action Unit :=
  happen env (.sessionCleaned externalRef)

def usage : Action RuntimeUsage := ask env env.usage

def cleanupAccess : Action Unit :=
  if env.composition.cleanupAccess then ask env fun _ => () else pure ()

end

end Runtime

/-- The vault of sealed handles: it answers the handle of the very reference it
was asked for, stores and marks it, or throws. -/
def vault (env : Environment) (externalRef : String) : Action String := Action.ask env fun _ => externalRef

end AgentOS
