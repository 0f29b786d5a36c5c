import AgentOS.Outbox.DeliveryRules
import AgentOS.Outbox.Orphan

/-! Which expired reservations a finished orphan reconciliation has settled. -/
namespace AgentOS.Outbox
open Library Checkpoint Routine AgentOS.Action
variable {env : Environment} {world after : World}

/-- Reservations, leases and the effects that have succeeded stay as they are. -/
structure Quiet (before after : Store) : Prop where
  reservations : after.reservations = before.reservations
  sessions : after.sessions = before.sessions
  result : ∀ key, after.result key = before.result key
  persists : Store.Persists before after

namespace Quiet

theorem refl (store : Store) : Quiet store store := ⟨rfl,rfl,fun _ => rfl,.refl store⟩

theorem trans {first second third : Store} (left : Quiet first second) (right : Quiet second third) : Quiet first third :=
  ⟨right.reservations.trans left.reservations,right.sessions.trans left.sessions,
    fun key => (right.result key).trans (left.result key),left.persists.trans right.persists⟩

variable {store next : Store} {effect : Effect} {lease : EffectLease}

theorem claim {draft : EffectDraft} {claim : EffectClaim}
    (ok : store.claimEffect draft claim = .ok (effect,next)) : Quiet store next :=
  have replaced := (Store.claimEffect_ok ok).1
  ⟨replaced.reservations,replaced.sessions,Store.result_claim ok,Store.persists_claim ok⟩

theorem start {now : Instant} (ok : store.markEffectStarted lease now = .ok (effect,next)) : Quiet store next := by
  have changes := Store.markEffectStarted_ok ok
  obtain ⟨_,_,_,replaced⟩ := changes.found
  exact ⟨replaced.reservations,replaced.sessions,Store.result_change changes (Store.success_startedBy now),
    Store.persists_change changes (Store.startedBy_identity now)⟩

theorem attach {externalRef : String} {now : Instant}
    (ok : store.attachExternalRef lease externalRef now = .ok (effect,next)) : Quiet store next := by
  obtain ⟨_,_,_,replaced⟩ := (Store.attachExternalRef_ok ok).1.found
  exact ⟨replaced.reservations,replaced.sessions,Store.result_attach ok,
    Store.persists_change (Store.attachExternalRef_ok ok).1 fun _ => ⟨rfl,rfl⟩⟩

end Quiet

variable {step : World → World → Prop} {reservation : BudgetReservation} {request : Request} {now : Instant}
  {effects : List Effect}

theorem Claimed.quiet {kind : String} {effect : Effect} {lease : EffectLease}
    (claimed : Claimed request kind effect lease world after) : Quiet world.checkpoints after.checkpoints :=
  ⟨claimed.replaced.reservations,claimed.replaced.sessions,claimed.result,claimed.persists⟩

variable {runtimeEffect : Effect}

theorem observeAbsence_quiet {guard : Request} (ok : (observeAbsence env guard now runtimeEffect).exec world = (.ok (),after)) :
    Quiet world.checkpoints after.checkpoints := by
  simp only [observeAbsence,exec_bind_ok] at ok
  obtain ⟨⟨absence,lease⟩,middle,claimed,rest⟩ := ok
  have quiet := (ownedClaim_ok claimed).quiet
  split at rest
  · simp only [exec_bind_ok,exec_throw,Prod.mk.injEq,reduceCtorEq,false_and,and_false,exists_false] at rest
  · split at rest
    · split at rest
      · cases rest
      · cases rest
        exact quiet
    · cases rest

theorem locateSession_quiet {guard : Request} {answer : RecoveryBinding × Option String}
    (ok : (locateSession env guard now runtimeEffect).exec world = (.ok answer,after)) :
    Quiet world.checkpoints after.checkpoints := by
  unfold locateSession at ok
  split at ok
  · simp only [exec_bind_ok,exec_require_ok,resolve,vault,exec_ask_ok] at ok
    obtain ⟨_,_,⟨_,rfl⟩,_,_,⟨_,_,rfl⟩,_,_,⟨_,_,rfl⟩,done⟩ := ok
    cases done
    exact .refl _
  · rw [exec_bind_ok] at ok
    obtain ⟨⟨recovery,handle⟩,recovered,located,rest⟩ := ok
    have kept : (recoverRuntimeStart env guard.runId runtimeEffect).Keeps World.checkpoints :=
      recoverRuntimeStart_takes _ _ (fun _ => rfl) fun _ => rfl
    have same := Keeps.of_exec kept located
    cases handle with
    | none =>
      simp only [exec_bind_ok] at rest
      obtain ⟨_,_,observed,done⟩ := rest
      cases done
      exact same ▸ observeAbsence_quiet observed
    | some handle =>
      simp only [exec_bind_ok,exec_checkpoint_ok,exec_require_ok] at rest
      obtain ⟨_,_,⟨_,claimed,_⟩,_,_,⟨_,rfl⟩,_,_,⟨_,attached,_⟩,done⟩ := rest
      cases done
      have first := Quiet.claim claimed
      rw [same] at first
      exact first.trans (.attach attached)

theorem stopSession_takes (reservation : BudgetReservation) (recovery : RecoveryBinding)
    (handle : Option String) (passed : ∀ world, step world world.ticked)
    (cancelled : ∀ world externalRef, step world (world.ticked.log (.sessionCancelled externalRef)))
    (cleaned : ∀ world externalRef, step world (world.ticked.log (.sessionCleaned externalRef))) :
    (stopSession env reservation recovery handle).Takes step := by
  cases handle with
  | none => exact .bind (takes_require _ _) fun _ => .bind (cleanupAccess_takes passed) fun _ => takes_pure _
  | some handle =>
    exact .bind (.outcome (takes_happen passed (cancelled · handle))) fun _ => .bind (.outcome (takes_ask passed)) fun _ =>
      .bind (takes_happen passed (cleaned · handle)) fun _ => .bind (takes_ask passed) fun _ =>
        .bind (takes_ask passed) fun _ => takes_pure _

theorem observeAbsence_takes (guard : Request) (now : Instant) (runtimeEffect : Effect) (passed : ∀ world, step world world.ticked)
    (stored : ∀ (world : World) store, step world {world.ticked with checkpoints := store}) :
    (observeAbsence env guard now runtimeEffect).Takes step := by
  refine .bind (ownedClaim_takes _ _ _ passed fun world _ _ store _ => stored world store) fun answer => ?_
  obtain ⟨absence,lease⟩ := answer
  dsimp only
  split
  · exact .bind (takes_checkpoint passed fun _ world _ store _ => stored world store) fun _ =>
      .bind (takes_checkpoint passed fun _ world _ store _ => stored world store) fun _ => takes_throw _
  · split
    · split
      · exact takes_throw _
      · exact takes_pure _
    · exact takes_throw _

theorem locateSession_takes (guard : Request) (now : Instant) (runtimeEffect : Effect) (passed : ∀ world, step world world.ticked)
    (stored : ∀ (world : World) store, step world {world.ticked with checkpoints := store})
    (absent : ∀ world, step world (world.ticked.log (.startAbsent runtimeEffect.key))) :
    (locateSession env guard now runtimeEffect).Takes step := by
  unfold locateSession
  split
  · exact .bind (takes_require _ _) fun _ => .bind (takes_ask passed) fun _ => .bind (takes_ask passed) fun _ =>
      takes_pure _
  · refine .bind (recoverRuntimeStart_takes _ _ passed absent) fun found => ?_
    obtain ⟨recovery,handle⟩ := found
    cases handle with
    | some handle =>
      exact .bind (takes_checkpoint passed fun _ world _ store _ => stored world store) fun _ =>
        .bind (takes_require _ _) fun _ =>
          .bind (takes_checkpoint passed fun _ world _ store _ => stored world store) fun _ => takes_pure _
    | none => exact .bind (observeAbsence_takes _ _ _ passed stored) fun _ => takes_pure _

theorem failOrphanedRun_takes (runId : String) (now : Instant) (passed : ∀ world, step world world.ticked)
    (recorded : ∀ (world : World) repository, step world {world.ticked with repository := repository}) :
    (failOrphanedRun env runId now).Takes step := by
  refine .bind (takes_readRepository passed) fun run => ?_
  cases run with
  | none => exact takes_pure _
  | some run =>
    dsimp only
    split
    · exact .bind (takes_repository passed fun _ world _ next _ => recorded world next) fun _ => takes_pure _
    · exact takes_pure _

/-! ### One reservation -/

structure Settles (reservation : BudgetReservation) (before after : Store) : Prop where
  reservations : after.reservations = before.reservations.erase reservation.reservationKey
  sessions : ∀ projectId lease, after.sessions.get? projectId = some lease ↔
    before.sessions.get? projectId = some lease ∧ ¬ (projectId = reservation.projectId ∧
      lease.runId = reservation.runId ∧ lease.stepKey = reservation.stepKey)

theorem settleReservation_settles {recovery : RecoveryBinding} {charge : Charge}
    (ok : (settleReservation env reservation recovery charge now).exec world = (.ok (),after)) :
    Settles reservation world.checkpoints after.checkpoints ∧ after.checkpoints.effects = world.checkpoints.effects := by
  simp only [settleReservation,exec_bind_ok,exec_repository_ok,exec_readRepository_ok] at ok
  obtain ⟨_,charged,⟨_,_,charging⟩,_,_,⟨_,_,rfl⟩,_,limited,limits,_,spent,daily,_,settled,settling,released⟩ := ok
  have limitsKeep : (budgetLimitsForRun env reservation.runId).Keeps World.checkpoints :=
    budgetLimitsForRun_takes _ fun _ => rfl
  have dailyKeep : (projectDailyUsageMicrodollars env now reservation.projectId).Keeps World.checkpoints :=
    projectDailyUsage_takes _ _ fun _ => rfl
  have same : spent.checkpoints = world.checkpoints :=
    ((dailyKeep.of_exec daily).trans (limitsKeep.of_exec limits)).trans charging.1
  obtain ⟨_,settledStore,_⟩ := exec_settleSession_ok settling
  rw [same] at settledStore
  obtain ⟨effects,sessions,reservations⟩ := Store.settleSession_ok settledStore
  simp only [exec_checkpoint_ok,Except.ok.injEq,Prod.mk.injEq,true_and] at released
  rw [← released.2.1]
  refine ⟨⟨(Store.releaseSession_reservations _ _ _ _).trans reservations,fun projectId lease => ?_⟩,
    (Store.releaseSession_effects _ _ _ _).trans effects⟩
  rw [← sessions]
  exact Store.releaseSession_sessions _ _ _ _ _ _

theorem reconcileReservation_ok (ok : (reconcileReservation env request now effects reservation).exec world = (.ok (),after)) :
    (∀ key, key ≠ (reconcileGuard request reservation).idempotencyKey → after.checkpoints.result key = world.checkpoints.result key) ∧
    (∃ success, after.checkpoints.result (reconcileGuard request reservation).idempotencyKey = some success ∧
      success.kind = "runtime-session-orphan-reconcile") ∧
    if world.checkpoints.succeeded (reconcileGuard request reservation).idempotencyKey then
      after.checkpoints.reservations = world.checkpoints.reservations ∧ after.checkpoints.sessions = world.checkpoints.sessions
    else Settles reservation world.checkpoints after.checkpoints := by
  unfold reconcileReservation at ok
  split at ok
  · cases ok
  rename_i runtimeEffect _
  simp only [exec_bind_ok] at ok
  obtain ⟨⟨effect,lease⟩,guarded,claiming,ok⟩ := ok
  have claimed := ownedClaim_ok claiming
  have claimQuiet := claimed.quiet
  rw [if_congr claimed.succeeded.symm rfl rfl]
  simp only at ok
  split at ok <;> rename_i done
  · cases ok
    rw [if_pos done]
    exact ⟨fun key _ => claimQuiet.result key,⟨_,Store.result_succeeded claimed.replaced.stored done,claimed.kind⟩,
      claimQuiet.reservations,claimQuiet.sessions⟩
  · rw [if_neg done]
    simp only [exec_bind_ok,markEffectStarted,completeEffect,exec_checkpoint_ok] at ok
    obtain ⟨_,_,⟨_,started,_⟩,⟨recovery,handle⟩,located,locating,charge,stopped,stopping,_,settled,settling,_,
      failed,failing,_,_,⟨_,completed,_⟩,done⟩ := ok
    cases done
    have working := (Quiet.start started).trans (locateSession_quiet locating)
    have before := claimQuiet.trans working
    have stopKeeps : (stopSession env reservation recovery handle).Keeps World.checkpoints :=
      stopSession_takes _ _ _ (fun _ => rfl) (fun _ _ => rfl) fun _ _ => rfl
    have failKeeps : (failOrphanedRun env request.runId now).Keeps World.checkpoints :=
      failOrphanedRun_takes _ _ (fun _ => rfl) fun _ _ => rfl
    obtain ⟨settles,same⟩ := settleReservation_settles settling
    rw [stopKeeps.of_exec stopping] at settles same
    rw [failKeeps.of_exec failing] at completed
    obtain ⟨changes,succeeded,_⟩ := Store.completeEffect_ok completed
    obtain ⟨existing,held,answer,replaced⟩ := changes.found
    rw [claimed.lease] at replaced held
    refine ⟨fun key other => ?_,?_,?_,fun projectId held => ?_⟩
    · rw [← before.result key,Store.result,replaced.others key other,same,Store.result]
    · refine ⟨_,Store.result_succeeded replaced.stored succeeded,?_⟩
      obtain ⟨next,found,_,kind⟩ := working.persists _ _ claimed.replaced.stored
      rw [same,found] at held
      cases held
      rw [answer]
      exact (Store.completedBy_identity _ _ existing).2.trans (kind.trans claimed.kind)
    · rw [← before.reservations,← settles.reservations]
      exact replaced.reservations
    · rw [← before.sessions,← settles.sessions]
      rw [replaced.sessions]

/-! ### All expired reservations -/

def Unguarded (request : Request) (store : Store) (reservation : BudgetReservation) : Prop :=
  store.succeeded (reconcileGuard request reservation).idempotencyKey = false

instance (request : Request) (store : Store) (reservation : BudgetReservation) :
    Decidable (Unguarded request store reservation) := inferInstanceAs (Decidable (_ = _))

theorem reconcileGuard_injective {first second : BudgetReservation}
    (same : (reconcileGuard request first).idempotencyKey = (reconcileGuard request second).idempotencyKey) :
    first.reservationKey = second.reservationKey := by
  simpa [reconcileGuard,Request.extended,String.append_right_inj] using same

section
variable (ok : (reconcileReservation env request now effects reservation).exec world = (.ok (),after))
include ok

private theorem reservation_after (key : String) : after.checkpoints.reservations.get? key =
      if key = reservation.reservationKey ∧ Unguarded request world.checkpoints reservation then none
      else world.checkpoints.reservations.get? key := by
  have one := (reconcileReservation_ok ok).2.2
  split at one <;> rename_i guarded
  · simp [Unguarded,guarded,one.1]
  · simp [Unguarded,guarded,one.reservations,OrderedMap.get?_erase]

private theorem session_after {projectId : String}
    {lease : SessionLease} (held : after.checkpoints.sessions.get? projectId = some lease) :
    world.checkpoints.sessions.get? projectId = some lease ∧ (Unguarded request world.checkpoints reservation →
      ¬ (projectId = reservation.projectId ∧ lease.runId = reservation.runId ∧ lease.stepKey = reservation.stepKey)) := by
  have one := (reconcileReservation_ok ok).2.2
  split at one <;> rename_i guarded
  · exact ⟨one.2 ▸ held,by simp [Unguarded,guarded]⟩
  · obtain ⟨before,other⟩ := (one.sessions projectId lease).mp held
    exact ⟨before,fun _ => other⟩

end

theorem reconcileReservations_ok
    {reservations : List BudgetReservation} (distinct : (reservations.map BudgetReservation.reservationKey).Nodup)
    (ok : (reservations.forM (reconcileReservation env request now effects)).exec world = (.ok (),after)) :
    (∀ key, after.checkpoints.reservations.get? key =
      if ∃ reservation ∈ reservations, key = reservation.reservationKey ∧ Unguarded request world.checkpoints reservation
      then none else world.checkpoints.reservations.get? key) ∧
    ∀ projectId lease, after.checkpoints.sessions.get? projectId = some lease →
      world.checkpoints.sessions.get? projectId = some lease ∧
      ∀ reservation ∈ reservations, Unguarded request world.checkpoints reservation →
        ¬ (projectId = reservation.projectId ∧ lease.runId = reservation.runId ∧ lease.stepKey = reservation.stepKey) := by
  induction reservations generalizing world with
  | nil =>
    cases ok
    simp
  | cons head rest ih =>
    change (reconcileReservation env request now effects head >>= fun _ =>
      rest.forM (reconcileReservation env request now effects)).exec world = _ at ok
    rw [exec_bind_ok] at ok
    obtain ⟨_,middle,first,others⟩ := ok
    obtain ⟨fresh,restDistinct⟩ := List.nodup_cons.mp distinct
    obtain ⟨reservationsAfter,sessionsAfter⟩ := ih restDistinct others
    have guards : ∀ reservation ∈ rest,
        Unguarded request middle.checkpoints reservation ↔ Unguarded request world.checkpoints reservation := by
      intro reservation inside
      unfold Unguarded Store.succeeded
      rw [(reconcileReservation_ok first).1]
      intro same
      exact fresh (reconcileGuard_injective same ▸ List.mem_map_of_mem inside)
    constructor
    · intro key
      rw [reservationsAfter key,reservation_after first key]
      have later : (∃ reservation ∈ rest, key = reservation.reservationKey ∧
            Unguarded request middle.checkpoints reservation) ↔
          ∃ reservation ∈ rest, key = reservation.reservationKey ∧
            Unguarded request world.checkpoints reservation :=
        exists_congr fun reservation => and_congr_right fun inside => and_congr_right fun _ => guards reservation inside
      simp only [later,List.exists_mem_cons_iff]
      by_cases now : key = head.reservationKey ∧ Unguarded request world.checkpoints head
      · simp [now]
      · simp only [now,false_or,if_false]
    · intro projectId lease held
      obtain ⟨between,laterFree⟩ := sessionsAfter projectId lease held
      obtain ⟨before,headFree⟩ := session_after first between
      refine ⟨before,fun reservation inside unguarded => ?_⟩
      rcases List.mem_cons.mp inside with rfl | inside
      · exact headFree unguarded
      · exact laterFree reservation inside ((guards reservation inside).mpr unguarded)

/-- The reservation is settled and no session lease of the project is held for its run and step. -/
def Reconciled (store : Store) (reservation : BudgetReservation) : Prop :=
  store.reservations.get? reservation.reservationKey = none ∧
    ∀ lease ∈ store.sessions.get? reservation.projectId,
      ¬ (lease.runId = reservation.runId ∧ lease.stepKey = reservation.stepKey)

instance (store : Store) (reservation : BudgetReservation) : Decidable (Reconciled store reservation) :=
  inferInstanceAs (Decidable (_ ∧ _))

/-- The reservations a call that starts at `world` finds expired. -/
def expiredAt (env : Environment) (world : World) (runId : String) : List BudgetReservation :=
  world.checkpoints.listExpiredReservations env.collation runId (env.clock world.tick)

/-- A finished orphan reconciliation has reconciled every reservation it found
expired exactly when none of them had been reconciled before under the same key. -/
theorem requestOrphanReconciliation_reconciles_iff (env : Environment) (request : Request) (world after : World)
    (ok : (requestOrphanReconciliation env request).exec world = (.ok (),after)) :
    (∀ reservation ∈ expiredAt env world request.runId, Reconciled after.checkpoints reservation) ↔
      ∀ reservation ∈ expiredAt env world request.runId, Unguarded request world.checkpoints reservation := by
  simp only [requestOrphanReconciliation,exec_bind_ok,exec_require_ok,exec_now_ok,exec_readCheckpoints_ok] at ok
  obtain ⟨_,_,⟨_,rfl⟩,_,_,⟨rfl,rfl⟩,expired,_,⟨_,found,rfl⟩,rest⟩ := ok
  have listed : expired = expiredAt env world request.runId := found
  rw [← listed]
  split at rest
  · rename_i none
    simp [none]
  · simp only [exec_bind_ok,listEffects,exec_readCheckpoints_ok] at rest
    obtain ⟨effects,_,⟨_,_,rfl⟩,loop⟩ := rest
    have distinct : (expired.map BudgetReservation.reservationKey).Nodup :=
      found ▸ Store.listExpiredReservations_distinct _ _ _ _
    obtain ⟨reservationsAfter,sessionsAfter⟩ := reconcileReservations_ok distinct loop
    constructor
    · intro reconciled reservation inside
      by_contra guarded
      have gone := (reconciled reservation inside).1
      have held : world.checkpoints.reservations.get? reservation.reservationKey = some reservation.toReservation :=
        ((Store.mem_listExpiredReservations _ _ _ _ _).mp (listed ▸ inside)).1
      rw [reservationsAfter] at gone
      split at gone
      · rename_i settled
        obtain ⟨other,_,same,unguarded⟩ := settled
        apply guarded
        rwa [Unguarded,reconcileGuard,same]
      · exact absurd (held.symm.trans gone) (by simp)
    · intro unguarded reservation inside
      refine ⟨?_,fun lease held mine => ?_⟩
      · rw [reservationsAfter,if_pos ⟨reservation,inside,rfl,unguarded reservation inside⟩]
      · exact (sessionsAfter _ _ held).2 reservation inside (unguarded reservation inside) ⟨rfl,mine⟩

/-! ### A reservation admitted again -/

def attemptAdmission (attempt : Nat) (now : Instant) : SessionAdmission where
  reservationKey := reservationKey (runtimeEffectKey "run-1" "implementation" attempt)
  projectId := "project-1"
  runId := "run-1"
  stepKey := "implementation"
  workflowSpentMicrodollars := 0
  dailySpentMicrodollars := 0
  workflowLimitMicrodollars := 2000000
  dailyLimitMicrodollars := 5000000
  admissionNumerator := 80
  admissionDenominator := 100
  now := now
  leaseExpiresAt := now + sessionTimeoutMs + 60000
  estimatedMicrodollars := 700000

def attempted (world : World) (attempt : Nat) (externalRef : String) (now : Instant) : World :=
  let key := runtimeEffectKey "run-1" "implementation" attempt
  let effect := {
    key := key
    runId := "run-1"
    kind := "runtime-session"
    inputFingerprint := .null
    externalRef := some externalRef
    createdAt := now
    updatedAt := now
    status := .started
    ownerId := some "worker"
    leaseVersion := 1
    leaseExpiresAt := some (now + sessionTimeoutMs + 60000)}
  let admission := attemptAdmission attempt now
  let admitted := (world.checkpoints.reserve admission).takeLease admission
  {(world.log (.sessionStarted key externalRef)) with checkpoints := admitted.setEffect effect}

def orphaned : World :=
  let run := {id := "run-1",projectId := "project-1",pipeline := "feature",status := .running,createdAt := 0,updatedAt := 0}
  attempted {repository := Repository.setRun {} run,tick := 30} 1 "session-1" 0

def orphanRequest : Request := {idempotencyKey := "workflow-orphan-reconcile:run-1",runId := "run-1"}

def attemptReservation (attempt : Nat) (now : Instant) : BudgetReservation where
  reservationKey := reservationKey (runtimeEffectKey "run-1" "implementation" attempt)
  runId := "run-1"
  projectId := "project-1"
  stepKey := "implementation"
  estimatedMicrodollars := 700000
  expiresAt := now + sessionTimeoutMs + 60000

/-- The orphaned run is reconciled, resumed and orphaned again in the same attempt. -/
def orphanedAgain : World :=
  let reconciled := ((requestOrphanReconciliation .steady orphanRequest).exec orphaned).2
  let resumed := {reconciled with checkpoints := (reconciled.checkpoints.releaseRunForResume "run-1").2}
  {attempted resumed 1 "session-2" 3600000 with tick := 120}

theorem requestOrphanReconciliation_reconciles_iff_orphaned : (∀ reservation ∈ expiredAt .steady orphaned "run-1",
      Reconciled ((requestOrphanReconciliation .steady orphanRequest).exec orphaned).2.checkpoints reservation) ↔
      ∀ reservation ∈ expiredAt .steady orphaned "run-1", Unguarded orphanRequest orphaned.checkpoints reservation :=
  requestOrphanReconciliation_reconciles_iff .steady orphanRequest orphaned _ rfl

/-- The second reservation keeps the reservation and the lease, and the call says nothing. -/
theorem orphanedAgain_not_reconciled :
    ((requestOrphanReconciliation .steady orphanRequest).exec orphanedAgain).1 = .ok () ∧
      ¬ ∀ reservation ∈ expiredAt .steady orphanedAgain "run-1",
        Reconciled ((requestOrphanReconciliation .steady orphanRequest).exec orphanedAgain).2.checkpoints
          reservation := ⟨rfl,by decide⟩

end AgentOS.Outbox
