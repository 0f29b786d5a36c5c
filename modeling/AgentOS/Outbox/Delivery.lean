import AgentOS.World

/-! How the outbox delivers: every request is an effect of its own, claimed by
the delivery's key, and the remote session behind a runtime effect is found
again through the start recovery resolver. -/
namespace AgentOS.Outbox
open Checkpoint AgentOS.Action

def RUNTIME_START_VISIBILITY_DELAY_MS : Int := 30000

def runtimeEffectKey (runId stepKey : String) (attempt : Nat) : String :=
  "runtime:" ++ runId ++ ":" ++ stepKey ++ ":" ++ toString attempt

def reservationKey (effectKey : String) : String := "reservation:" ++ effectKey

structure Request where
  idempotencyKey : String
  runId : String
  deriving DecidableEq

namespace Request

def fingerprint (request : Request) : Fingerprint :=
  .obj [("idempotencyKey",.str request.idempotencyKey),("runId",.str request.runId)]

def extended (request : Request) (suffix : String) : Request :=
  {request with idempotencyKey := request.idempotencyKey ++ suffix}

end Request

def draft (request : Request) (fingerprint : Fingerprint) (kind : String) (now : Instant) : EffectDraft :=
  {key := request.idempotencyKey,runId := request.runId,kind := kind,inputFingerprint := fingerprint,
    createdAt := now,updatedAt := now}

section
variable (env : Environment)

/-- Claims the request's effect as the delivery `outbox:<key>`, which stays the
same across restarts. A succeeded effect is answered whoever owns it. -/
def ownedClaim (request : Request) (fingerprint : Fingerprint) (kind : String) : Action (Effect × EffectLease) := do
  let ownerId := "outbox:" ++ request.idempotencyKey
  let effect ← checkpoint env fun now store =>
    store.claimEffect (draft request fingerprint kind now)
      {ownerId := ownerId,now := now,leaseExpiresAt := now + 2 * 60000}
  if effect.status = .succeeded then
    pure (effect,{key := effect.key,ownerId := effect.ownerId.getD ownerId,leaseVersion := effect.leaseVersion})
  else if effect.ownerId ≠ some ownerId then throw (.error "workflow outbox effect is owned by another delivery")
  else pure (effect,{key := effect.key,ownerId := ownerId,leaseVersion := effect.leaseVersion})

def markEffectStarted (lease : EffectLease) : Action Effect :=
  checkpoint env fun now store => store.markEffectStarted lease now

def completeEffect (lease : EffectLease) (output : Json) : Action Effect :=
  checkpoint env fun now store => store.completeEffect lease output now

def listEffects (runId : String) : Action (List Effect) :=
  readCheckpoints env fun store => store.listEffects env.collation runId

def resolve (runId effectKey : String) : Action RecoveryBinding :=
  ask env fun tick => env.recovery tick runId effectKey

/-- The session a start may have left behind, if the provider shows one, with
what the resolver knows of its step. -/
def recoverRuntimeStart (runId : String) (effect : Effect) : Action (RecoveryBinding × Option String) := do
  require (env.composition.runtime ∧ env.composition.runtimeHandles ∧ env.composition.runtimeStartRecovery ∧
    env.composition.reconcileStart) "runtime start recovery is not configured"
  let recovery ← resolve env runId effect.key
  match ← Runtime.reconcileStart env effect.key with
  | none => pure (recovery,none)
  | some handle =>
    let _ ← vault env handle
    pure (recovery,some handle)

end

def includes (text part : String) : Bool := text.toList.tails.any fun rest => part.toList.isPrefixOf rest

def runtimeIntent (effects : List Effect) (stepKey : String) : Option Effect :=
  effects.find? fun candidate =>
    candidate.kind = "runtime-session" && includes candidate.key (":" ++ stepKey ++ ":")

/-! ### Budgets -/

def DEFAULT_WORKFLOW_BUDGET_LIMITS : BudgetLimits where
  workflowLimitMicrodollars := 2000000
  dailyLimitMicrodollars := 5000000
  admissionNumerator := 80
  admissionDenominator := 100

def budgetLimitsForRun (env : Environment) (runId : String) : Action BudgetLimits := do
  match ← readRepository env fun repository => repository.listConfigSnapshots runId 2 with
  | [snapshot] => pure ((env.budgetLimitsFromSnapshot snapshot.config).getD DEFAULT_WORKFLOW_BUDGET_LIMITS)
  | _ => pure DEFAULT_WORKFLOW_BUDGET_LIMITS

def totalMicrodollars (usage : List UsageRecord) : Int := (usage.map UsageRecord.microdollars).sum

def usageOfRuns (env : Environment) (since until_ : Instant) : List Run → Action Int
  | [] => pure 0
  | run::runs => do
    let usage ← readRepository env fun repository => repository.listUsage run.id 1000
    let rest ← usageOfRuns env since until_ runs
    pure (totalMicrodollars (usage.filter fun record => since ≤ record.recordedAt && record.recordedAt ≤ until_) + rest)

def projectDailyUsageMicrodollars (env : Environment) (at_ : Instant) (projectId : String) : Action Int := do
  let runs ← readRepository env fun repository => repository.listRuns (some projectId) none 1000 none
  usageOfRuns env (at_ - 24 * 60 * 60 * 1000) at_ runs

end AgentOS.Outbox
