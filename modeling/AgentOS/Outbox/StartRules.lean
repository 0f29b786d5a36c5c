import AgentOS.Checkpoint.Steps
import AgentOS.Outbox.Start

/-! Rules for deliveries and for the start request: which effects their steps
are about, whatever others do in between. -/
namespace AgentOS.Outbox
open Library Checkpoint Routine AgentOS.Action
variable {env : Environment} {step : World → World → Prop} {drafts : EffectDraft → Prop} {keys : String → Prop}

structure Delivers (drafts : EffectDraft → Prop) (keys : String → Prop) (step : World → World → Prop) : Prop where
  passed : ∀ world, step world world.ticked
  stepped : ∀ (world : World) store, EffectStep drafts keys world.checkpoints store →
    step world {world.ticked with checkpoints := store}

namespace Delivers

theorem ownedClaim (delivers : Delivers drafts keys step) {request : Request} {fingerprint : Fingerprint} {kind : String}
    (mine : ∀ now, drafts (draft request fingerprint kind now)) :
    (ownedClaim env request fingerprint kind).Gives step fun answer => answer.2.key = request.idempotencyKey := by
  have claimed : (checkpoint env fun now store => store.claimEffect (draft request fingerprint kind now)
      {ownerId := "outbox:" ++ request.idempotencyKey,now := now,leaseExpiresAt := now + 2 * 60000}).Gives step
        fun effect => effect.key = request.idempotencyKey := by
    apply gives_checkpoint delivers.passed
    · intro now world effect store ok
      exact delivers.stepped world store (.claimed (mine now) ok)
    · intro now store effect next ok
      exact (Store.claimEffect_draft ok).1
  apply claimed.bind
  intro effect key
  split
  · exact gives_pure key
  · split
    · exact gives_throw _
    · exact gives_pure key

variable {lease : EffectLease}

theorem markEffectStarted (delivers : Delivers drafts keys step) (mine : keys lease.key) : (markEffectStarted env lease).Takes step :=
  takes_checkpoint delivers.passed fun _ world _ store ok => delivers.stepped world store (.started mine ok)

theorem attachExternalRef (delivers : Delivers drafts keys step) {externalRef : String}
    (mine : keys lease.key) : (attachExternalRef env lease externalRef).Takes step :=
  takes_checkpoint delivers.passed fun _ world _ store ok => delivers.stepped world store (.attached mine ok)

theorem completeEffect (delivers : Delivers drafts keys step) {output : Json}
    (mine : keys lease.key) : (completeEffect env lease output).Takes step :=
  takes_checkpoint delivers.passed fun _ world _ store ok => delivers.stepped world store (.completed mine ok)

theorem failEffect (delivers : Delivers drafts keys step) {error : String} {deadLetter : Bool}
    (mine : keys lease.key) : (failEffect env lease error deadLetter).Takes step :=
  takes_checkpoint delivers.passed fun _ world _ store ok => delivers.stepped world store (.failed mine ok)

end Delivers

def Request.Keys (request : Request) (key : String) : Prop := ∃ suffix, key = request.idempotencyKey ++ suffix

def Request.Drafts (request : Request) (draft : EffectDraft) : Prop :=
  draft.runId = request.runId ∧ request.Keys draft.key

theorem Request.keys_self (request : Request) : request.Keys request.idempotencyKey := ⟨"",String.append_empty.symm⟩

theorem Delivers.extendedClaim {request : Request} (delivers : Delivers request.Drafts request.Keys step) (suffix : String)
    (fingerprint : Fingerprint) (kind : String) : (Outbox.ownedClaim env (request.extended suffix) fingerprint kind).Gives step
      fun answer => request.Keys answer.2.key := by
  have mine : ∀ now, request.Drafts (draft (request.extended suffix) fingerprint kind now) := fun _ => ⟨rfl,suffix,rfl⟩
  exact (delivers.ownedClaim mine).mono fun _ key => ⟨suffix,key⟩

/-! ### The start request -/

namespace StartRequest

def effectKeys (request : StartRequest) : List String :=
  [request.source.idempotencyKey,request.idempotencyKey,request.retry.idempotencyKey]

def Drafts (request : StartRequest) (draft : EffectDraft) : Prop :=
  draft.runId = request.runId ∧ draft.key ∈ request.effectKeys ∧
    (draft.kind = "source-snapshot-ingest" ∨ draft.kind = "trigger-workflow-start")

end StartRequest

theorem requiredRun_takes (runId : String) (passed : ∀ world, step world world.ticked) : (requiredRun env runId).Takes step := by
  refine .bind (takes_require _ _) fun _ => .bind (takes_readRepository passed) fun run => ?_
  cases run with
  | none => exact takes_throw _
  | some run => exact takes_pure run

def undispatched (now : Instant) : RunUpdate where
  status := some .failed
  error := some (.obj [("code",.str "dispatch_executor_unavailable")])
  output := some (.obj [("reason",.str "dispatch_executor_unavailable"),("status",.str "failed")])
  updatedAt := now
  completedAt := some now

theorem requiredRun_gives (runId : String) (passed : ∀ world, step world world.ticked) :
    (requiredRun env runId).Gives step fun run => run.id = runId := by
  have reading : (readRepository env fun repository => repository.getRun runId).Gives step
      fun found => ∀ run ∈ found, run.id = runId :=
    gives_readRepository passed fun repository run found => repository.keyed runId run found
  refine Gives.bind (takes_require _ _).gives fun _ _ => reading.bind fun run keyed => ?_
  cases run with
  | none => exact gives_throw _
  | some run => exact gives_pure (keyed run rfl)

/-- A run failed as undispatched, if it was still there to fail, and nothing else. -/
def Undispatched (before after : World) : Prop :=
  ∃ id statuses now version answer repository,
    before.repository.transitionRun id statuses (undispatched now) version = .ok (answer,repository) ∧
      after = {before.ticked with repository := repository}

/-- The run failed as undispatched, if it was still there to fail, and nothing else. -/
def UndispatchedRun (runId : String) (before after : World) : Prop :=
  ∃ statuses now version answer repository,
    before.repository.transitionRun runId statuses (undispatched now) version = .ok (answer,repository) ∧
      after = {before.ticked with repository := repository}

def Moved (before after : World) : Prop :=
  ∃ id statuses update version answer repository,
    before.repository.transitionRun id statuses update version = .ok (answer,repository) ∧
      after = {before.ticked with repository := repository}

section
variable {request : StartRequest} (delivers : Delivers request.Drafts (· ∈ request.effectKeys) step)
include delivers

theorem ensureSource_takes : (ensureSource env request).Takes step := by
  have claiming : (ownedClaim env request.source.toRequest request.source.fingerprint "source-snapshot-ingest").Gives
      step fun answer => answer.2.key = request.source.idempotencyKey :=
    delivers.ownedClaim fun _ => ⟨rfl,List.mem_cons_self,.inl rfl⟩
  refine claiming.then fun answer key => ?_
  obtain ⟨effect,lease⟩ := answer
  have mine : lease.key ∈ request.effectKeys := key ▸ List.mem_cons_self
  dsimp only
  split
  · exact takes_pure _
  · have ingesting : (ingestSource env lease).Takes step :=
      .bind (takes_ask delivers.passed) fun _ => .bind (delivers.attachExternalRef mine) fun _ =>
        .bind (delivers.completeEffect mine) fun _ => takes_pure _
    refine .bind (delivers.markEffectStarted mine) fun _ => .bind (.outcome ingesting) fun ended => ?_
    cases ended with
    | ok done => exact takes_pure _
    | error fault => exact .bind (delivers.failEffect mine) fun _ => takes_throw _

theorem startWorkflow_takes {lease : EffectLease} (mine : lease.key ∈ request.effectKeys) (attempt : Nat) :
    (startWorkflow env request lease attempt).Takes step :=
  .bind (delivers.markEffectStarted mine) fun _ => .bind (requiredRun_takes _ delivers.passed) fun _ =>
    .bind (takes_ask delivers.passed) fun _ => .bind (delivers.attachExternalRef mine) fun _ =>
      .bind (delivers.completeEffect mine) fun _ => takes_pure _

theorem requestStart_takes_own (failed : ∀ before after, UndispatchedRun request.runId before after → step before after) :
    (requestStart env request).Takes step := by
  refine .bind (takes_require _ _) fun _ => .bind (ensureSource_takes delivers) fun _ =>
    .bind (takes_readCheckpoints delivers.passed) fun retryEffect => ?_
  split
  · refine .bind (takes_ask delivers.passed) fun state => ?_
    split
    · refine (requiredRun_gives _ delivers.passed).then fun run mine => ?_
      have key : run.id = request.runId := mine
      split
      · rw [key]
        refine .bind (takes_repository delivers.passed fun now world answer next ok => ?_) fun _ => takes_pure _
        exact failed _ _ ⟨_,_,_,_,_,ok,rfl⟩
      · exact takes_pure _
    · exact takes_pure _
  · have claiming : (ownedClaim env request.toRequest request.fingerprint "trigger-workflow-start").Gives step
        fun answer => answer.2.key = request.idempotencyKey :=
      delivers.ownedClaim fun _ => ⟨rfl,by simp [StartRequest.effectKeys,draft],.inr rfl⟩
    refine claiming.then fun answer key => ?_
    obtain ⟨effect,lease⟩ := answer
    have same : lease.key = request.idempotencyKey := key
    have mine : lease.key ∈ request.effectKeys := by simp [StartRequest.effectKeys,same]
    dsimp only
    split
    · split
      · exact takes_pure _
      · refine .bind (takes_ask delivers.passed) fun state => ?_
        split
        · have retrying : (ownedClaim env request.retry.toRequest request.retry.fingerprint
              "trigger-workflow-start").Gives step fun answer => answer.2.key = request.retry.idempotencyKey :=
            delivers.ownedClaim fun _ => ⟨rfl,by simp [StartRequest.effectKeys,draft],.inr rfl⟩
          refine retrying.then fun answer key => ?_
          obtain ⟨retried,retryLease⟩ := answer
          have retrySame : retryLease.key = request.retry.idempotencyKey := key
          have retryMine : retryLease.key ∈ request.effectKeys := by simp [StartRequest.effectKeys,retrySame]
          dsimp only
          split
          · exact takes_pure _
          · exact startWorkflow_takes delivers retryMine 1
        · exact takes_pure _
    · exact startWorkflow_takes delivers mine 0

theorem requestStart_takes_undispatched (failed : ∀ before after, Undispatched before after → step before after) :
    (requestStart env request).Takes step := by
  apply requestStart_takes_own delivers
  rintro before after ⟨_,_,_,_,_,ok,same⟩
  exact failed before after ⟨_,_,_,_,_,_,ok,same⟩

theorem requestStart_takes (moved : ∀ before after, Moved before after → step before after) :
    (requestStart env request).Takes step := by
  apply requestStart_takes_undispatched delivers
  rintro before after ⟨_,_,_,_,_,_,ok,same⟩
  exact moved before after ⟨_,_,_,_,_,_,ok,same⟩

end
end AgentOS.Outbox
