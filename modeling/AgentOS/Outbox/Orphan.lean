import AgentOS.Outbox.Delivery

/-! Orphan reconciliation: for each expired reservation of a run the remote
session is stopped, or seen to be absent, before the reservation is settled and
the project's session lease goes. -/
namespace AgentOS.Outbox
open Checkpoint AgentOS.Action

def sessionTimeoutMs : Int := 20 * 60 * 1000

variable (env : Environment)

section
variable (guard : Request) (now : Instant) (runtimeEffect : Effect)

def observeAbsence : Action Unit := do
  let absenceRequest := guard.extended ":absence-observed"
  let (absence,lease) ← ownedClaim env absenceRequest absenceRequest.fingerprint "runtime-session-start-absence"
  if absence.status ≠ .succeeded then do
    let _ ← markEffectStarted env lease
    let _ ← completeEffect env lease
      (.obj [("firstObservedAt",.timestamp now),("runtimeEffectKey",.str runtimeEffect.key)])
    throw (.error "ambiguous runtime start absence requires independent reconciliation")
  else match (absence.output.bind (·.field? "firstObservedAt")).bind Json.instant? with
    | some firstObservedAt =>
      if now - firstObservedAt < RUNTIME_START_VISIBILITY_DELAY_MS then
        throw (.error "ambiguous runtime start absence is inside the provider visibility delay")
      else pure ()
    | none => throw (.error "ambiguous runtime start absence is inside the provider visibility delay")

/-- The session behind the runtime effect: recovered and attached, loaded by the
effect's own reference, or absent. -/
def locateSession : Action (RecoveryBinding × Option String) := do
  match runtimeEffect.externalRef with
  | some externalRef =>
    require env.composition.runtimeStartRecovery "runtime start recovery binding is unavailable"
    let recovery ← resolve env guard.runId runtimeEffect.key
    let handle ← vault env externalRef
    pure (recovery,some handle)
  | none =>
    match ← recoverRuntimeStart env guard.runId runtimeEffect with
    | (recovery,some handle) =>
      let ownerId := "orphan-recovery:" ++ runtimeEffect.key
      let recovered ← checkpoint env fun _ store =>
        store.claimEffect {runtimeEffect.toEffectDraft with externalRef := none,output := none,error := none}
          {ownerId := ownerId,now := now,leaseExpiresAt := now + 2 * 60000}
      require (recovered.ownerId = some ownerId) "runtime recovery effect is still fenced"
      let _ ← checkpoint env fun _ store => store.attachExternalRef
        {key := recovered.key,ownerId := ownerId,leaseVersion := recovered.leaseVersion} handle now
      pure (recovery,some handle)
    | (recovery,none) => do
      observeAbsence env guard now runtimeEffect
      pure (recovery,none)

end

structure Charge where
  usage : RuntimeUsage
  microdollars : Int
  usageModel : String

variable (reservation : BudgetReservation)

def conservativeCharge (usage : RuntimeUsage) : Charge :=
  {usage := usage,microdollars := reservation.estimatedMicrodollars,usageModel := "conservative-orphan-reservation"}

def unreportedUsage : RuntimeUsage :=
  {cacheReadInputTokens := some 0,cacheCreation5mInputTokens := some 0,cacheCreation1hInputTokens := some 0,
    runtimeMs := sessionTimeoutMs}

variable (recovery : RecoveryBinding)

/-- What a stopped session costs. A price that is no amount leaves the reported usage behind. -/
def priced (reservation : BudgetReservation) : Except Fault RuntimeUsage → Charge
  | .error _ => conservativeCharge reservation unreportedUsage
  | .ok usage =>
    let microdollars := recovery.priceUsage usage
    if isNonNegativeSafeInteger microdollars then
      {usage := usage,microdollars := microdollars,usageModel := recovery.model ++ "@" ++ recovery.pricingVersion}
    else conservativeCharge reservation usage

def stopSession : Option String → Action Charge
  | some handle => do
    let _ ← (Runtime.cancel env handle).outcome
    let usage ← (Runtime.usage env).outcome
    Runtime.cleanup env handle
    let _ ← vault env handle
    let _ ← vault env handle
    pure (priced recovery reservation usage)
  | none => do
    require (env.composition.cleanupAccess ∨ recovery.resources = [] ∧ recovery.credentialRefs = [])
      "runtime access cleanup is required before releasing the session fence"
    Runtime.cleanupAccess env
    pure (conservativeCharge reservation unreportedUsage)

def orphanUsage (charge : Charge) (now : Instant) : UsageRecord where
  idempotencyId := "usage:orphan-reconcile:" ++ reservation.reservationKey
  runId := reservation.runId
  model := charge.usageModel
  pricingVersion := recovery.pricingVersion
  inputTokens := charge.usage.inputTokens
  outputTokens := charge.usage.outputTokens
  cacheReadInputTokens := charge.usage.cacheReadInputTokens.getD 0
  cacheCreation5mInputTokens := charge.usage.cacheCreation5mInputTokens.getD 0
  cacheCreation1hInputTokens := charge.usage.cacheCreation1hInputTokens.getD 0
  runtimeMs := charge.usage.runtimeMs
  microdollars := charge.microdollars
  recordedAt := now

def settleReservation (charge : Charge) (now : Instant) : Action Unit := do
  let _ ← repository env fun _ repository => repository.appendUsage (orphanUsage reservation recovery charge now)
  let usage ← readRepository env fun repository => repository.listUsage reservation.runId 1000
  let limits ← budgetLimitsForRun env reservation.runId
  let dailySpent ← projectDailyUsageMicrodollars env now reservation.projectId
  let _ ← settleSession env fun _ =>
    {reservationKey := reservation.reservationKey,runId := reservation.runId,stepKey := reservation.stepKey,
      actualMicrodollars := charge.microdollars,workflowSpentMicrodollars := totalMicrodollars usage,
      dailySpentMicrodollars := dailySpent,workflowLimitMicrodollars := limits.workflowLimitMicrodollars,
      dailyLimitMicrodollars := limits.dailyLimitMicrodollars,now := now}
  checkpoint env fun _ store =>
    .ok ((),store.releaseSession reservation.projectId reservation.runId reservation.stepKey)

def failOrphanedRun (runId : String) (now : Instant) : Action Unit := do
  match ← readRepository env fun repository => repository.getRun runId with
  | none => pure ()
  | some run =>
    if run.status ∈ [RunStatus.pending,.running,.waiting] then
      let _ ← repository env fun _ repository =>
        repository.transitionRun run.id [.pending,.running,.waiting]
          {status := some .failed,error := some (.obj [("code",.str "orphaned_runtime_session")]),
            output := some (.obj [("reason",.str "orphaned_runtime_session"),("status",.str "failed")]),
            updatedAt := now,completedAt := some now}
          (some run.stateVersion)
      pure ()
    else pure ()

def orphanOutput (externalRef : Option String) (microdollars : Int) : Json :=
  match externalRef with
  | none => .obj [("settledMicrodollars",.num microdollars)]
  | some externalRef => .obj [("externalRef",.str externalRef),("settledMicrodollars",.num microdollars)]

def reconcileGuard (request : Request) (reservation : BudgetReservation) : Request :=
  request.extended (":" ++ reservation.reservationKey)

def reconcileReservation (request : Request) (now : Instant) (effects : List Effect)
    (reservation : BudgetReservation) : Action Unit := do
  match runtimeIntent effects reservation.stepKey with
  | none => throw (.error "expired reservation runtime intent is unavailable")
  | some runtimeEffect =>
    let guard := reconcileGuard request reservation
    let (effect,lease) ← ownedClaim env guard guard.fingerprint "runtime-session-orphan-reconcile"
    if effect.status = .succeeded then pure ()
    else do
      let _ ← markEffectStarted env lease
      let (recovery,handle) ← locateSession env guard now runtimeEffect
      let charge ← stopSession env reservation recovery handle
      settleReservation env reservation recovery charge now
      failOrphanedRun env request.runId now
      let _ ← completeEffect env lease (orphanOutput handle charge.microdollars)
      pure ()

def requestOrphanReconciliation (request : Request) : Action Unit := do
  require (env.composition.runtime ∧ env.composition.runtimeHandles ∧ env.composition.repository)
    "orphan reconciliation requires trusted runtime composition"
  let now ← Action.now env
  let expired ← readCheckpoints env fun store => store.listExpiredReservations env.collation request.runId now
  if expired = [] then pure ()
  else do
    let effects ← listEffects env request.runId
    expired.forM (reconcileReservation env request now effects)

end AgentOS.Outbox
