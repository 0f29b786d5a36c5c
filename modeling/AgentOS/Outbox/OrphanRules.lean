import AgentOS.Outbox.OrphanSettles
import AgentOS.Outbox.StartRules

/-! Which steps orphan reconciliation takes: it moves checkpoints and the
journal, charges usage and fails the run that lost its session. -/
namespace AgentOS.Outbox
open Library Checkpoint Routine AgentOS.Action
variable {env : Environment} {step : World → World → Prop}

def orphanedUpdate (now : Instant) : RunUpdate where
  status := some .failed
  error := some (.obj [("code",.str "orphaned_runtime_session")])
  output := some (.obj [("reason",.str "orphaned_runtime_session"),("status",.str "failed")])
  updatedAt := now
  completedAt := some now

def reclaimDraft (effect : Effect) : EffectDraft :=
  {effect.toEffectDraft with externalRef := none,output := none,error := none}

/-- The steps of reconciling reservations under a request, given which effects listings show. -/
structure Reconciles (request : Request) (listed : Effect → Prop) (step : World → World → Prop) : Prop where
  delivers : Delivers request.Drafts request.Keys step
  happened : ∀ world happening, Stops happening → step world (world.ticked.log happening)
  reclaimed : ∀ (world : World) effect claim answer store, listed effect →
    world.checkpoints.claimEffect (reclaimDraft effect) claim = .ok (answer,store) →
    step world {world.ticked with checkpoints := store}
  attached : ∀ (world : World) lease externalRef now answer store,
    world.checkpoints.attachExternalRef lease externalRef now = .ok (answer,store) →
    step world {world.ticked with checkpoints := store}
  settled : ∀ (world : World) settlement answer store, world.checkpoints.settleSession settlement = .ok (answer,store) →
    step world {world.ticked with
      checkpoints := store,journal := world.journal ++ settlementLog world.checkpoints settlement.reservationKey}
  released : ∀ (world : World) projectId runId stepKey,
    step world {world.ticked with checkpoints := world.checkpoints.releaseSession projectId runId stepKey}
  charged : ∀ (world : World) usage record next, world.repository.appendUsage usage = .ok (record,next) →
    step world {world.ticked with repository := next}
  failed : ∀ (world : World) id statuses now version answer next,
    world.repository.transitionRun id statuses (orphanedUpdate now) version = .ok (answer,next) →
    step world {world.ticked with repository := next}

namespace Reconciles
variable {request : Request} {listed : Effect → Prop} (reconciles : Reconciles request listed step)
include reconciles

theorem passed (world : World) : step world world.ticked := reconciles.delivers.passed world

theorem settleReservation (reservation : BudgetReservation) (recovery : RecoveryBinding) (charge : Charge)
    (now : Instant) : (settleReservation env reservation recovery charge now).Takes step := by
  have passed := reconciles.passed
  refine .bind (takes_repository passed fun _ world record next ok => reconciles.charged world _ record next ok) fun _ =>
    .bind (takes_readRepository passed) fun _ => .bind (budgetLimitsForRun_takes _ passed) fun _ =>
      .bind (projectDailyUsage_takes _ _ passed) fun _ => .bind (takes_settleSession passed
        fun _ world answer store ok => reconciles.settled world _ answer store ok) fun _ => ?_
  refine takes_checkpoint passed fun _ world _ store ok => ?_
  cases ok
  exact reconciles.released world _ _ _

theorem failOrphanedRun (target : String) (now : Instant) : (failOrphanedRun env target now).Takes step := by
  refine .bind (takes_readRepository reconciles.passed) fun found => ?_
  cases found with
  | none => exact takes_pure _
  | some run =>
    dsimp only
    split
    · exact .bind (takes_repository reconciles.passed fun _ world answer next ok =>
        reconciles.failed world _ _ now _ answer next ok) fun _ => takes_pure _
    · exact takes_pure _

theorem observeAbsence (suffix : String) (now : Instant) (runtimeEffect : Effect) :
    (observeAbsence env (request.extended suffix) now runtimeEffect).Takes step := by
  have claiming : (ownedClaim env ((request.extended suffix).extended ":absence-observed")
      ((request.extended suffix).extended ":absence-observed").fingerprint "runtime-session-start-absence").Gives step
      fun answer => request.Keys answer.2.key := by
    have both : (request.extended suffix).extended ":absence-observed" = request.extended (suffix ++ ":absence-observed") := by
      simp only [Request.extended,String.append_assoc]
    rw [both]
    exact reconciles.delivers.extendedClaim _ _ _
  refine claiming.then fun answer mine => ?_
  obtain ⟨absence,lease⟩ := answer
  dsimp only at mine ⊢
  split
  · exact .bind (reconciles.delivers.markEffectStarted mine) fun _ =>
      .bind (reconciles.delivers.completeEffect mine) fun _ => takes_throw _
  · split
    · split
      · exact takes_throw _
      · exact takes_pure _
    · exact takes_throw _

theorem locateSession (suffix : String) (now : Instant) {runtimeEffect : Effect} (shown : listed runtimeEffect) :
    (locateSession env (request.extended suffix) now runtimeEffect).Takes step := by
  have passed := reconciles.passed
  unfold Outbox.locateSession
  split
  · exact .bind (takes_require _ _) fun _ => .bind (takes_ask passed) fun _ => .bind (takes_ask passed) fun _ =>
      takes_pure _
  · refine .bind (recoverRuntimeStart_takes _ _ passed fun world => reconciles.happened world _ (.absent _)) fun found => ?_
    obtain ⟨recovery,handle⟩ := found
    cases handle with
    | some handle =>
      exact .bind (takes_checkpoint passed fun _ world answer store ok =>
        reconciles.reclaimed world runtimeEffect _ answer store shown ok) fun _ => .bind (takes_require _ _) fun _ =>
          .bind (takes_checkpoint passed fun _ world answer store ok => reconciles.attached world _ _ _ answer store ok)
            fun _ => takes_pure _
    | none => exact .bind (reconciles.observeAbsence suffix now runtimeEffect) fun _ => takes_pure _

theorem reconcileReservation (now : Instant) {effects : List Effect} (shown : ∀ effect ∈ effects, listed effect)
    (reservation : BudgetReservation) : (reconcileReservation env request now effects reservation).Takes step := by
  unfold Outbox.reconcileReservation
  split
  · exact takes_throw _
  rename_i runtimeEffect intent
  have mine : listed runtimeEffect := shown _ (List.mem_of_find?_eq_some intent)
  refine (reconciles.delivers.extendedClaim _ _ _).then fun claimed own => ?_
  obtain ⟨effect,lease⟩ := claimed
  dsimp only at own ⊢
  split
  · exact takes_pure _
  refine .bind (reconciles.delivers.markEffectStarted own) fun _ => .bind (reconciles.locateSession _ now mine)
    fun located => ?_
  obtain ⟨recovery,handle⟩ := located
  exact .bind (stopSession_takes _ _ _ reconciles.passed (fun world ref => reconciles.happened world _ (.cancelled ref))
      fun world ref => reconciles.happened world _ (.cleaned ref)) fun _ =>
    .bind (reconciles.settleReservation _ _ _ _) fun _ => .bind (reconciles.failOrphanedRun _ _) fun _ =>
      .bind (reconciles.delivers.completeEffect own) fun _ => takes_pure _

theorem requestOrphanReconciliation (everything : ∀ effect, listed effect) : (requestOrphanReconciliation env request).Takes step := by
  refine .bind (takes_require _ _) fun _ => .bind (takes_now reconciles.passed) fun now =>
    .bind (takes_readCheckpoints reconciles.passed) fun expired => ?_
  split
  · exact takes_pure _
  · exact .bind (takes_readCheckpoints reconciles.passed) fun effects =>
      takes_forM fun reservation _ => reconciles.reconcileReservation now (fun effect _ => everything effect) reservation

end Reconciles

/-- As `Reconciles`, where nothing depends on what becomes of the checkpoints. -/
structure Orphans (step : World → World → Prop) : Prop where
  passed : ∀ world, step world world.ticked
  kept : ∀ (world : World) store added, (∀ happening ∈ added, Stops happening) →
    step world {world.ticked with checkpoints := store,journal := world.journal ++ added}
  charged : ∀ (world : World) usage record next, world.repository.appendUsage usage = .ok (record,next) →
    step world {world.ticked with repository := next}
  failed : ∀ (world : World) id statuses now version answer next,
    world.repository.transitionRun id statuses (orphanedUpdate now) version = .ok (answer,next) →
    step world {world.ticked with repository := next}

namespace Orphans
variable (orphans : Orphans step)
include orphans

theorem stored (world : World) (store : Store) : step world {world.ticked with checkpoints := store} := by
  have kept := orphans.kept world store [] (by simp)
  rwa [List.append_nil] at kept

theorem reconciles (request : Request) : Reconciles request (fun _ => True) step where
  delivers := ⟨orphans.passed,fun world store _ => orphans.stored world store⟩
  happened world happening stops := orphans.kept world world.checkpoints [happening] (by simpa using stops)
  reclaimed world _ _ _ store _ _ := orphans.stored world store
  attached world _ _ _ _ store _ := orphans.stored world store
  settled world _ _ store _ := orphans.kept world store _ fun _ => settlementLog_stops
  released world _ _ _ := orphans.stored world _
  charged := orphans.charged
  failed := orphans.failed

theorem requestOrphanReconciliation (request : Request) : (requestOrphanReconciliation env request).Takes step :=
  (orphans.reconciles request).requestOrphanReconciliation fun _ => trivial

end Orphans
end AgentOS.Outbox
