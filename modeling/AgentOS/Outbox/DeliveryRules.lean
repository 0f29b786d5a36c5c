import AgentOS.Calls
import AgentOS.Outbox.Delivery

/-! What the outbox's deliveries do when they answer, and what they leave alone. -/
namespace AgentOS.Outbox
open Library Checkpoint Routine AgentOS.Action
variable {env : Environment} {world after : World}

structure Claimed (request : Request) (kind : String) (effect : Effect) (lease : EffectLease) (before after : World) :
    Prop where
  replaced : Replaces before.checkpoints request.idempotencyKey effect after.checkpoints
  run : effect.runId = request.runId
  kind : effect.kind = kind
  succeeded : effect.status = .succeeded ↔ before.checkpoints.succeeded request.idempotencyKey = true
  result : ∀ key, after.checkpoints.result key = before.checkpoints.result key
  persists : Store.Persists before.checkpoints after.checkpoints
  repository : after.repository = before.repository
  journal : after.journal = before.journal
  lease : lease.key = request.idempotencyKey

theorem ownedClaim_ok {request : Request} {fingerprint : Fingerprint} {kind : String} {effect : Effect}
    {lease : EffectLease} (ok : (ownedClaim env request fingerprint kind).exec world = (.ok (effect,lease),after)) :
    Claimed request kind effect lease world after := by
  simp only [ownedClaim,exec_bind_ok,exec_checkpoint_ok] at ok
  obtain ⟨found,middle,⟨_,claimed,stored,journal,_⟩,rest⟩ := ok
  obtain ⟨key,run,sameKind⟩ := Store.claimEffect_draft claimed
  have of_answer : ∀ lease : EffectLease, lease.key = found.key → Claimed request kind found lease world middle :=
    fun _ leaseKey => ⟨(Store.claimEffect_ok claimed).1,run,sameKind,Store.claimed_succeeded claimed,
      Store.result_claim claimed,Store.persists_claim claimed,stored,journal,leaseKey.trans key⟩
  split at rest
  · cases rest
    exact of_answer _ rfl
  · split at rest
    · cases rest
    · cases rest
      exact of_answer _ rfl

/-! ### The steps of what surrounds a delivery -/

inductive Stops : Happening → Prop
  | absent (key : String) : Stops (.startAbsent key)
  | cancelled (externalRef : String) : Stops (.sessionCancelled externalRef)
  | cleaned (externalRef : String) : Stops (.sessionCleaned externalRef)
  | settled (reservationKey : String) : Stops (.reservationSettled reservationKey)

theorem settlementLog_stops {store : Store} {key : String} {happening : Happening}
    (inside : happening ∈ settlementLog store key) : Stops happening := by
  unfold settlementLog at inside
  split at inside
  · cases inside
  · rw [List.mem_singleton] at inside
    exact inside ▸ .settled key

section
variable {step : World → World → Prop}

theorem ownedClaim_takes (request : Request) (fingerprint : Fingerprint) (kind : String)
    (passed : ∀ world, step world world.ticked)
    (claimed : ∀ (world : World) now effect store, world.checkpoints.claimEffect (draft request fingerprint kind now)
        {ownerId := "outbox:" ++ request.idempotencyKey,now := now,leaseExpiresAt := now + 2 * 60000} =
          .ok (effect,store) → step world {world.ticked with checkpoints := store}) :
    (ownedClaim env request fingerprint kind).Takes step := by
  refine .bind (takes_checkpoint passed fun now world effect store ok => claimed world now effect store ok)
    fun effect => ?_
  split
  · exact takes_pure _
  · split
    · exact takes_throw _
    · exact takes_pure _

theorem reconcileStart_takes (idempotencyKey : String) (passed : ∀ world, step world world.ticked)
    (absent : ∀ world, step world (world.ticked.log (.startAbsent idempotencyKey))) :
    (Runtime.reconcileStart env idempotencyKey).Takes step := by
  apply takes_call
  intro _ world
  refine ⟨passed world,?_⟩
  split
  · exact absent world
  · exact passed world
  · exact passed world

theorem recoverRuntimeStart_takes (runId : String) (effect : Effect) (passed : ∀ world, step world world.ticked)
    (absent : ∀ world, step world (world.ticked.log (.startAbsent effect.key))) :
    (recoverRuntimeStart env runId effect).Takes step := by
  refine .bind (takes_require _ _) fun _ => .bind (takes_ask passed) fun _ =>
    .bind (reconcileStart_takes _ passed absent) fun handle => ?_
  cases handle with
  | none => exact takes_pure _
  | some handle => exact .bind (takes_ask passed) fun _ => takes_pure _

theorem cleanupAccess_takes (passed : ∀ world, step world world.ticked) : (Runtime.cleanupAccess env).Takes step := by
  unfold Runtime.cleanupAccess
  split
  · exact takes_ask passed
  · exact takes_pure _

theorem budgetLimitsForRun_takes (runId : String) (passed : ∀ world, step world world.ticked) :
    (budgetLimitsForRun env runId).Takes step := by
  refine .bind (takes_readRepository passed) fun snapshots => ?_
  split <;> exact takes_pure _

theorem usageOfRuns_takes (since until_ : Instant) (runs : List Run) (passed : ∀ world, step world world.ticked) :
    (usageOfRuns env since until_ runs).Takes step := by
  induction runs with
  | nil => exact takes_pure _
  | cons run runs ih => exact .bind (takes_readRepository passed) fun _ => .bind ih fun _ => takes_pure _

theorem projectDailyUsage_takes (at_ : Instant) (projectId : String) (passed : ∀ world, step world world.ticked) :
    (projectDailyUsageMicrodollars env at_ projectId).Takes step :=
  .bind (takes_readRepository passed) fun _ => usageOfRuns_takes _ _ _ passed

end

end AgentOS.Outbox
