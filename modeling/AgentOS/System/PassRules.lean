import AgentOS.ControlPlane.ReconcilePass
import AgentOS.System.Deadlines

/-! Rules for a reconciliation pass: the steps it can take, part by part. -/
namespace AgentOS.System
open Library Checkpoint Outbox ControlPlane Routine AgentOS.Action
variable {env : Environment} {step : World → World → Prop}

structure PassSteps (step : World → World → Prop) : Prop extends Orphans step where
  expired : ∀ (world : World) id target scope fingerprint at_ answer next,
    (.ok (world.repository.expireApproval id target scope fingerprint at_) : Except Fault _) = .ok (answer,next) →
    step world {world.ticked with repository := next}
  moved : ∀ (world : World) id statuses update version answer next,
    world.repository.transitionRun id statuses update version = .ok (answer,next) →
    step world {world.ticked with repository := next}
  snapshot : ∀ (world : World) snapshot answer next, world.repository.createConfigSnapshot snapshot = .ok (answer,next) →
    step world {world.ticked with repository := next}
  criterion : ∀ (world : World) criterion answer next,
    world.repository.createGoalCriterionIdempotently criterion = .ok (answer,next) →
    step world {world.ticked with repository := next}
  cursor : ∀ (world : World) cursor, step world {world.ticked with cursor := cursor}

namespace PassSteps
variable (steps : PassSteps step)
include steps

theorem delivers (drafts : EffectDraft → Prop) (keys : String → Prop) : Delivers drafts keys step :=
  ⟨steps.passed,fun world store _ => steps.stored world store⟩

theorem stops (world : World) (happening : Happening) (stops : Stops happening) : step world (world.ticked.log happening) :=
  steps.kept world world.checkpoints [happening] (by simpa using stops)

theorem requestStart (request : StartRequest) : (requestStart env request).Takes step := by
  apply requestStart_takes (steps.delivers _ _)
  rintro before _ ⟨_,_,_,_,_,_,ok,rfl⟩
  exact steps.moved _ _ _ _ _ _ _ ok

theorem requestCancel (request : Request) : (requestCancel env request).Takes step :=
  requestCancel_takes request (steps.delivers _ _) steps.stops

theorem requestCleanup (request : Request) : (requestCleanup env request).Takes step := by
  have passed := steps.passed
  have session : ∀ externalRef, (cleanupSession env request externalRef).Takes step := by
    intro externalRef
    refine .bind (ownedClaim_takes _ _ _ passed fun world _ _ store _ => steps.stored world store) fun (effect,lease) => ?_
    dsimp only
    split
    · exact takes_pure _
    · exact .bind (takes_checkpoint passed fun _ world _ store _ => steps.stored world store) fun _ =>
        .bind (takes_ask passed) fun _ =>
          .bind (takes_happen passed fun world => steps.stops world _ (.cleaned _)) fun _ =>
            .bind (takes_ask passed) fun _ =>
              .bind (takes_checkpoint passed fun _ world _ store _ => steps.stored world store) fun _ => takes_pure _
  have expired : ∀ now effects reservation, (settleExpired env now effects reservation).Takes step := by
    intro now effects reservation
    unfold settleExpired
    split
    · exact takes_pure _
    · refine .bind (takes_repository passed fun _ world record next ok => steps.charged world _ record next ok) fun _ =>
        .bind (takes_readRepository passed) fun _ => .bind (budgetLimitsForRun_takes _ passed) fun _ =>
          .bind (projectDailyUsage_takes _ _ passed) fun _ => .bind (takes_settleSession passed ?_) fun _ =>
            takes_checkpoint passed fun _ world _ store _ => steps.stored world store
      intro _ world _ store _
      exact steps.kept world store _ fun _ => settlementLog_stops
  exact .bind (takes_require _ _) fun _ => .bind (takes_readCheckpoints passed) fun _ =>
    .bind (takes_forM fun externalRef _ => session externalRef) fun _ => .bind (takes_now passed) fun now =>
      .bind (takes_readCheckpoints passed) fun _ => .bind (takes_require _ _) fun _ =>
        takes_forM fun reservation _ => expired now _ reservation

omit steps in
theorem deliver {operation : Action Unit} (taken : operation.Takes step) : (deliver operation).Takes step := by
  refine .bind taken.outcome fun answer => ?_
  cases answer <;> exact takes_pure _

omit steps in
theorem deliverAll {requests : List (Action Unit)} (taken : ∀ request ∈ requests, request.Takes step) :
    (deliverAll requests).Takes step := by
  induction requests with
  | nil => exact takes_pure _
  | cons request requests ih =>
    have rest := ih fun other inside => taken other (List.mem_cons_of_mem _ inside)
    exact .bind (PassSteps.deliver (taken request List.mem_cons_self)) fun _ => .bind rest fun _ => takes_pure _

theorem cancelGoalChildren (run : Run) (now : Instant) : (cancelGoalChildren env run now).Takes step := by
  have child : ∀ childRunId, (cancelGoalChild env run now childRunId).Takes step := by
    intro childRunId
    refine .bind (takes_readRepository steps.passed) fun found => ?_
    cases found with
    | none => exact takes_pure _
    | some child =>
      dsimp only
      split
      · exact takes_pure _
      · exact .bind (takes_repository steps.passed fun _ world answer next ok =>
          steps.moved world _ _ _ _ answer next ok) fun _ => takes_pure _
  refine .bind (takes_readRepository steps.passed) fun progress => ?_
  generalize progress.filterMap (pendingChildRunId env run) = listed
  induction listed with
  | nil => exact takes_pure _
  | cons childRunId rest ih => exact .bind (child childRunId) fun _ => .bind ih fun _ => takes_pure _

theorem deliverCancels (options : ReconcileOptions) (run : Run) (now : Instant) : (deliverCancels env options run now).Takes step := by
  have children : (cancelledChildren env run now).Takes step := by
    unfold cancelledChildren
    split
    · exact steps.cancelGoalChildren run now
    · exact takes_pure _
  refine .bind children fun childRunIds => PassSteps.deliverAll ?_
  intro request inside
  obtain ⟨runId,_,rfl⟩ := List.mem_map.mp inside
  exact steps.requestCancel _

theorem deliverCleanup (options : ReconcileOptions) (run : Run) : (deliverCleanup env options run).Takes step := by
  unfold ControlPlane.deliverCleanup
  split
  · exact PassSteps.deliver (steps.requestCleanup _)
  · exact takes_pure _

theorem deliverDecisions (run : Run) : (deliverDecisions env run).Takes step := by
  refine .bind (takes_readRepository steps.passed) fun _ => .bind (PassSteps.deliverAll ?_) fun _ => takes_pure _
  intro operation inside
  obtain ⟨request,_,rfl⟩ := List.mem_map.mp inside
  exact requestApprovalResume_takes request steps.passed steps.stored

theorem isGoalOwnedFeatureChild (run : Run) : (isGoalOwnedFeatureChild env run).Takes step := by
  unfold ControlPlane.isGoalOwnedFeatureChild
  split
  · exact takes_pure _
  split
  · exact takes_pure _
  split
  · exact takes_pure _
  · refine .bind (takes_readRepository steps.passed) fun found => ?_
    cases found with
    | none => exact takes_pure _
    | some parent =>
      dsimp only
      split
      · exact takes_pure _
      · exact .bind (takes_readRepository steps.passed) fun _ => takes_pure _

theorem repairSnapshot (run : Run) (snapshots : List ConfigSnapshot) : (repairSnapshot env run snapshots).Takes step := by
  unfold ControlPlane.repairSnapshot
  split
  · refine .bind (takes_readRepository steps.passed) fun found => ?_
    cases found with
    | none => exact takes_pure _
    | some revision =>
      refine .bind (PassSteps.deliver (.bind (takes_repository steps.passed fun _ world answer next ok =>
        steps.snapshot world _ answer next ok) fun _ => takes_pure _)) fun _ =>
          .bind (takes_readRepository steps.passed) fun _ => takes_pure _
  · exact takes_pure _

theorem repairCriteria (run : Run) (criteria : List GoalCriterion) (ordinal : Nat) (definitions : List (String × Json)) :
    (repairCriteria env run criteria ordinal definitions).Takes step := by
  induction definitions generalizing ordinal with
  | nil => exact takes_pure _
  | cons definition rest ih =>
    have one : (repairCriterion env run criteria ordinal definition).Takes step := by
      unfold repairCriterion
      split
      · exact takes_pure _
      · exact .bind (PassSteps.deliver (.bind (takes_repository steps.passed fun _ world answer next ok =>
          steps.criterion world _ answer next ok) fun _ => takes_pure _)) fun _ => takes_pure _
    exact .bind one fun _ => .bind (ih _) fun _ => takes_pure _

theorem startPending (reading : GoalReading) (run : Run) : (startPending env reading run).Takes step := by
  have goal : ∀ snapshots definitions, (goalReady env reading run snapshots definitions).Takes step := by
    intro snapshots definitions
    unfold goalReady
    split
    · exact takes_pure _
    · exact .bind (takes_readRepository steps.passed) fun _ => .bind (steps.repairCriteria _ _ _ _) fun _ =>
        .bind (takes_readRepository steps.passed) fun _ => takes_pure _
  have ready : ∀ definitions, (startReady env reading run definitions).Takes step := by
    intro definitions
    refine .bind (takes_readRepository steps.passed) fun _ => .bind (steps.repairSnapshot _ _) fun (repaired,snapshots) => ?_
    dsimp only
    split
    · exact takes_pure _
    · refine .bind (goal _ _) fun (criteria,ready) => ?_
      dsimp only
      split
      · exact .bind (PassSteps.deliver (steps.requestStart _)) fun _ => takes_pure _
      · exact takes_pure _
  unfold ControlPlane.startPending
  split
  · exact takes_pure _
  · refine .bind (steps.isGoalOwnedFeatureChild run) fun owned => ?_
    split
    · exact takes_pure _
    split
    · exact takes_pure _
    · exact ready _

theorem visitWorkflow (reading : GoalReading) (options : ReconcileOptions) (run : Run) (now : Instant) :
    (visitWorkflow env reading options run now).Takes step := by
  have cancels : (cancelsOf env options run now).Takes step := by
    unfold cancelsOf
    split
    · exact steps.deliverCancels _ _ _
    · exact takes_pure _
  have cleanup : (cleanupOf env options run).Takes step := by
    unfold cleanupOf
    split
    · exact steps.deliverCleanup _ _
    · exact takes_pure _
  unfold ControlPlane.visitWorkflow
  split
  · exact .bind (steps.deliverCancels _ _ _) fun _ => .bind (steps.deliverCleanup _ _) fun _ => takes_pure _
  · refine .bind (steps.startPending reading run) fun (started,goesOn) => ?_
    dsimp only
    split
    · exact .bind cancels fun _ => .bind cleanup fun _ => .bind (steps.deliverDecisions run) fun _ => takes_pure _
    · exact takes_pure _

theorem timeOut (run : Run) (now : Instant) : (timeOut env run now).Takes step := by
  refine .bind (failCode_takes steps.passed steps.expired run now) fun code => ?_
  cases code with
  | none => exact takes_pure _
  | some code =>
    refine .bind (takes_repository steps.passed fun _ world answer next ok => steps.moved world _ _ _ _ answer next ok)
      fun moved => ?_
    cases moved with
    | none => exact takes_pure _
    | some failed => exact .bind (expirePending_takes steps.passed steps.expired _ _ _ _) fun _ => takes_pure _

theorem refreshed (listed : Run) : (refreshed env listed).Takes step := by
  unfold ControlPlane.refreshed
  split
  · refine .bind (steps.requestOrphanReconciliation _).outcome fun answer => ?_
    cases answer with
    | error fault => exact takes_pure _
    | ok _ => exact .bind (takes_readRepository steps.passed) fun _ => takes_pure _
  · exact takes_pure _

theorem visitRun (reading : GoalReading) (options : ReconcileOptions) (listed : Run) :
    (visitRun env reading options listed).Takes step := by
  refine .bind (takes_now steps.passed) fun now => .bind (steps.refreshed listed) fun found => ?_
  cases found with
  | none => exact takes_pure _
  | some current => exact .bind (steps.timeOut _ _) fun _ => .bind (steps.visitWorkflow _ _ _ _) fun _ => takes_pure _

theorem saveCursor (options : ReconcileOptions) (cursor : Option Cursor) : (saveCursor env options cursor).Takes step := by
  unfold ControlPlane.saveCursor
  split
  · exact takes_call fun _ world => ⟨steps.passed world,steps.cursor world _⟩
  · exact takes_pure _

theorem visitRuns (reading : GoalReading) (options : ReconcileOptions) (runs : List Run) :
    (visitRuns env reading options runs).Takes step := by
  induction runs with
  | nil => exact takes_pure _
  | cons run rest ih =>
    exact .bind (steps.visitRun _ _ _) fun _ => .bind (steps.saveCursor _ _) fun _ => .bind ih fun _ => takes_pure _

end PassSteps
end AgentOS.System
