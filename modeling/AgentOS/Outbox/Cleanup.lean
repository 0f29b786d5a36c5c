import AgentOS.Outbox.Orphan

/-! The cleanup request: the remote session behind every reference that the
run's effects still hold is cleaned up, then the expired reservations of steps
that never reached a runtime session are charged in full and settled. -/
namespace AgentOS.Outbox
open Checkpoint AgentOS.Action

def cleanupExternalReference (effect : Effect) : Option String :=
  if effect.kind = "runtime-session" then effect.externalRef
  else if (effect.kind = "runtime-session-cancel" ∨ effect.kind = "runtime-session-orphan-reconcile") ∧
      effect.status = .succeeded then
    (effect.output.bind (·.field? "externalRef")).bind Json.string?
  else none

def cleanupReferences (effects : List Effect) : List String := (effects.filterMap cleanupExternalReference).eraseDups

def cleanupSession (env : Environment) (request : Request) (externalRef : String) : Action Unit := do
  let cleaning := request.extended (":" ++ externalRef)
  let (effect,lease) ← ownedClaim env cleaning cleaning.fingerprint "runtime-session-cleanup"
  if effect.status = .succeeded then pure ()
  else do
    let _ ← markEffectStarted env lease
    let handle ← vault env externalRef
    Runtime.cleanup env handle
    let _ ← vault env externalRef
    let _ ← completeEffect env lease (.obj [("cleaned",.bool true),("externalRef",.str externalRef)])
    pure ()

def reservationUsage (reservation : BudgetReservation) (now : Instant) : UsageRecord where
  idempotencyId := "usage:reservation-reconcile:" ++ reservation.reservationKey
  runId := reservation.runId
  model := "conservative-reservation"
  pricingVersion := "conservative-reservation-v1"
  inputTokens := 0
  outputTokens := 0
  cacheReadInputTokens := 0
  cacheCreation5mInputTokens := 0
  cacheCreation1hInputTokens := 0
  runtimeMs := 20 * 60000
  microdollars := reservation.estimatedMicrodollars
  recordedAt := now

/-- Settles an expired reservation. One with a runtime intent is left to orphan
reconciliation, which alone proves the session gone. -/
def settleExpired (env : Environment) (now : Instant) (effects : List Effect) (reservation : BudgetReservation) :
    Action Unit := do
  match runtimeIntent effects reservation.stepKey with
  | some _ => pure ()
  | none => do
    let _ ← repository env fun _ repository => repository.appendUsage (reservationUsage reservation now)
    let usage ← readRepository env fun repository => repository.listUsage reservation.runId 1000
    let limits ← budgetLimitsForRun env reservation.runId
    let dailySpent ← projectDailyUsageMicrodollars env now reservation.projectId
    let _ ← settleSession env fun _ =>
      {reservationKey := reservation.reservationKey,runId := reservation.runId,stepKey := reservation.stepKey,
        actualMicrodollars := reservation.estimatedMicrodollars,workflowSpentMicrodollars := totalMicrodollars usage,
        dailySpentMicrodollars := dailySpent,workflowLimitMicrodollars := limits.workflowLimitMicrodollars,
        dailyLimitMicrodollars := limits.dailyLimitMicrodollars,now := now}
    checkpoint env fun _ store =>
      .ok ((),store.releaseSession reservation.projectId reservation.runId reservation.stepKey)

def requestCleanup (env : Environment) (request : Request) : Action Unit := do
  require (env.composition.runtime ∧ env.composition.runtimeHandles)
    "runtime cleanup requires trusted runtime composition"
  let effects ← listEffects env request.runId
  (cleanupReferences effects).forM (cleanupSession env request)
  let now ← Action.now env
  let expired ← readCheckpoints env fun store => store.listExpiredReservations env.collation request.runId now
  require (expired = [] ∨ env.composition.repository) "expired budget reconciliation requires the domain repository"
  expired.forM (settleExpired env now effects)

end AgentOS.Outbox
