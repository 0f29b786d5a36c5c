import AgentOS.ControlPlane.Cancel
import AgentOS.LocalDirect.RecoveryRules
import AgentOS.System.Deadlines

/-! What runs beside the steps of a workflow: starts, resumes, recovery sweeps,
cancellations, orphan reconciliations and reconciliation passes. They move runs
and checkpoints and stop sessions. They start none, and leave steps, snapshots
and quotas alone. -/
namespace AgentOS.System
open Library Checkpoint Outbox ControlPlane LocalDirect AgentOS.Action
variable {env : Environment} {before after : Repository}

/-! ### Writes -/

structure SparesSteps (before after : Repository) : Prop where
  stepRuns : after.stepRuns = before.stepRuns
  configSnapshots : after.configSnapshots = before.configSnapshots
  quotas : after.artifactCapabilityQuotas = before.artifactCapabilityQuotas

namespace SparesSteps

theorem refl (repository : Repository) : SparesSteps repository repository := ⟨rfl,rfl,rfl⟩

variable {id : String} {update : RunUpdate} {draft : EventDraft}

theorem transitionRun {statuses : List RunStatus} {version : Option Nat} {run : Option Run}
    (ok : before.transitionRun id statuses update version = .ok (run,after)) : SparesSteps before after := by
  rcases Repository.transitionRun_ok ok with ⟨_,rfl⟩ | ⟨_,_,_,_,_,_,rfl⟩
  · exact refl _
  · exact ⟨rfl,rfl,rfl⟩

theorem commitStagedEvent (repository : Repository) (staged : Repository.Staged repository) :
    SparesSteps repository (repository.commitStagedEvent staged) := by
  obtain ⟨_,_,steps,snapshots,quotas⟩ := repository.commitStagedEvent_eq staged
  exact ⟨steps,snapshots,quotas⟩

theorem appendEvent {event : Event} (ok : before.appendEvent draft = .ok (event,after)) : SparesSteps before after := by
  obtain ⟨staged,_,_,rfl⟩ := Repository.appendEvent_ok ok
  exact commitStagedEvent before staged

theorem appendUsage {usage record : UsageRecord} (ok : before.appendUsage usage = .ok (record,after)) : SparesSteps before after := by
  rcases Repository.appendUsage_ok ok with rfl | rfl <;> exact ⟨rfl,rfl,rfl⟩

theorem expireApproval {id target scope fingerprint : String} {at_ : Instant} {answer : Option Approval}
    (ok : (.ok (before.expireApproval id target scope fingerprint at_) : Except Fault _) = .ok (answer,after)) :
    SparesSteps before after := by
  unfold Repository.expireApproval at ok
  split at ok
  · cases ok
    exact refl _
  · split at ok <;> cases ok
    · exact refl _
    · exact ⟨rfl,rfl,rfl⟩

theorem cancelRunWithEvent {run : Run}
    (ok : before.cancelRunWithEvent id update draft = .ok (run,after)) : SparesSteps before after := by
  obtain ⟨_,_,⟨_,rfl⟩ | ⟨_,_,staged,_,rfl⟩⟩ := Repository.cancelRunWithEvent_ok ok
  · exact refl _
  · have committed := commitStagedEvent before staged
    exact ⟨committed.stepRuns,committed.configSnapshots,committed.quotas⟩

theorem createExternalSession {session stored : ExternalSession}
    (ok : before.createExternalSession session = .ok (stored,after)) : SparesSteps before after := by
  unfold Repository.createExternalSession at ok
  cases required : before.requireRun session.runId with
  | error fault => simp [required,bind,Except.bind] at ok
  | ok run =>
    simp only [required,bind,Except.bind] at ok
    split at ok
    · cases ok
    split at ok
    · cases ok
    split at ok <;> cases ok
    exact ⟨rfl,rfl,rfl⟩

theorem updateExternalSession {update : ExternalSessionUpdate} {stored : ExternalSession}
    (ok : before.updateExternalSession id update = .ok (stored,after)) : SparesSteps before after := by
  unfold Repository.updateExternalSession at ok
  split at ok <;> cases ok
  exact ⟨rfl,rfl,rfl⟩

end SparesSteps

/-! ### Steps -/

/-- A step that spares the records of steps, and has no more happen than sessions being stopped. -/
structure Beside (before after : World) : Prop where
  spares : SparesSteps before.repository after.repository
  stops : Logs Stops before after

theorem passed_beside (world : World) : Beside world world.ticked := ⟨.refl _,.same rfl⟩

theorem stored_beside (world : World) (store : Store) : Beside world {world.ticked with checkpoints := store} :=
  ⟨.refl _,.same rfl⟩

theorem stopped_beside (world : World) (happening : Happening) (stops : Stops happening) :
    Beside world (world.ticked.log happening) := ⟨.refl _,.log happening stops⟩

theorem written_beside {world : World} {next : Repository} (spares : SparesSteps world.repository next) :
    Beside world {world.ticked with repository := next} := ⟨spares,.same rfl⟩

theorem requestStart_beside (request : StartRequest) : (requestStart env request).Takes Beside := by
  apply requestStart_takes_undispatched ⟨passed_beside,fun world store _ => stored_beside world store⟩
  rintro before _ ⟨_,_,_,_,_,_,ok,rfl⟩
  exact written_beside (.transitionRun ok)

theorem resumes_beside : Resumes env Beside where
  passed := passed_beside
  released world _ := stored_beside world _
  start _ _ _ := requestStart_beside _
  reopen _ _ _ := takes_repository passed_beside fun _ _ _ _ ok => written_beside (.transitionRun ok)
  record _ _ _ := takes_repository passed_beside fun _ _ _ _ ok => written_beside (.appendEvent ok)

theorem orphans_beside : Orphans Beside where
  passed := passed_beside
  kept _ _ added stops := ⟨.refl _,added,rfl,stops⟩
  charged _ _ _ _ ok := written_beside (.appendUsage ok)
  failed _ _ _ _ _ _ _ ok := written_beside (.transitionRun ok)

theorem cancelRun_beside (id idempotencyKey : String) : (cancelRun env id idempotencyKey).Takes Beside :=
  cancelRun_takes id idempotencyKey ⟨passed_beside,fun world store _ => stored_beside world store⟩ stopped_beside
    fun _ _ _ _ _ ok => written_beside (.cancelRunWithEvent ok)

theorem reconcileRun_beside (run : Run) : (reconcileRun env run).Takes Beside :=
  reconcileRun_takes passed_beside (fun _ _ _ _ _ _ _ _ ok => written_beside (.expireApproval ok)) orphans_beside
    (fun _ _ _ _ _ _ _ _ ok => written_beside (.transitionRun ok)) run

inductive Bystander : Thread World → Prop
  | start (env : Environment) (request : StartRequest) : Bystander (requestStart env request).thread
  | resume (env : Environment) (target : String) (options : ResumeOptions) : Bystander (resumeRun env target options).thread
  | sweep (env : Environment) (options : RecoveryOptions) : Bystander (recoverLocalDirectRuns env options).thread
  | cancel (env : Environment) (id idempotencyKey : String) : Bystander (cancelRun env id idempotencyKey).thread
  | orphans (env : Environment) (request : Request) : Bystander (requestOrphanReconciliation env request).thread
  | visit (env : Environment) (run : Run) : Bystander (reconcileRun env run).thread

theorem Bystander.takes {thread : Thread World} (bystander : Bystander thread) : thread.Takes Beside := by
  cases bystander with
  | start env request => exact (requestStart_beside request).thread
  | resume env target options => exact (resumes_beside.resumeRun target options).thread
  | sweep env options => exact (resumes_beside.recoverLocalDirectRuns options).thread
  | cancel env id idempotencyKey => exact (cancelRun_beside id idempotencyKey).thread
  | orphans env request => exact (orphans_beside.requestOrphanReconciliation request).thread
  | visit env run => exact (reconcileRun_beside run).thread

theorem Beside.trans {first second third : World} (early : Beside first second) (late : Beside second third) : Beside first third where
  spares := ⟨late.spares.stepRuns.trans early.spares.stepRuns,late.spares.configSnapshots.trans early.spares.configSnapshots,
    late.spares.quotas.trans early.spares.quotas⟩
  stops := early.stops.trans late.stops

/-- However many of them run at once, in whatever order, they leave the records of steps as they are and no session starts. -/
theorem bystanders_spare_steps {ι : Type} [DecidableEq ι] {pool later : ι → Thread World} {world after : World}
    {trace : List (Moment ι World)} (bystanders : ∀ who, Bystander (pool who)) (ran : Interleaved pool world trace later after) :
    Beside world after := by
  have moments := ran.moments fun who => (bystanders who).takes
  have started : Beside world world := ⟨.refl _,.same rfl⟩
  exact ran.preserved (Beside world) (fun moment inside earlier => earlier.trans (moments moment inside)) started

def sweepers : Fin 2 → Thread World
  | 0 => (recoverLocalDirectRuns .steady {}).thread
  | 1 => (reconcileRun .steady lateRun).thread

theorem sweepers_spare_steps : Beside resumedLate (play [0,1,0,1,1,0] sweepers resumedLate).2.2 :=
  bystanders_spare_steps (fun who => match who with
    | 0 => .sweep _ _
    | 1 => .visit _ _) (interleaved_play [0,1,0,1,1,0] sweepers resumedLate)

end AgentOS.System
