import AgentOS.Outbox.StartRules
import AgentOS.Workflow.AgentStep

/-! Which steps an agent's step takes: what it can write to the repository, do to
the checkpoints and have happen to its session. -/
namespace AgentOS.Workflow
open Library Checkpoint Outbox Routine AgentOS.Action
open Local (takes_get takes_modify)

/-! ### The steps -/

inductive StepWrite (deps : StepDependencies) (request : StepRequest) (before : Repository) : Repository → Prop
  | told {after : Repository} {draft : EventDraft} {event : Event} (ok : before.appendEvent draft = .ok (event,after)) :
      StepWrite deps request before after
  | charged {after : Repository} {entry stored : UsageRecord} (ok : before.appendUsage entry = .ok (stored,after)) :
      StepWrite deps request before after
  | row {after : Repository} {step stored : StepRun} (mine : step.stepKey = request.stepKey)
      (ok : before.upsertStepRun step = .ok (stored,after)) : StepWrite deps request before after
  | opened {after : Repository} {session stored : ExternalSession}
      (ok : before.createExternalSession session = .ok (stored,after)) : StepWrite deps request before after
  | updated {after : Repository} {id : String} {update : ExternalSessionUpdate} {stored : ExternalSession}
      (ok : before.updateExternalSession id update = .ok (stored,after)) : StepWrite deps request before after

def AccessKey (deps : StepDependencies) (request : StepRequest) (key : String) : Prop :=
  ∃ number, key = runtimeAccessKey deps.workflow.runId request.stepKey number

def AccessDraft (deps : StepDependencies) (request : StepRequest) (draft : EffectDraft) : Prop :=
  draft.runId = deps.workflow.runId ∧ AccessKey deps request draft.key

structure PreparingSteps (deps : StepDependencies) (request : StepRequest) (step : World → World → Prop) : Prop where
  access : Delivers (AccessDraft deps request) (AccessKey deps request) step
  written : ∀ (world : World) next, StepWrite deps request world.repository next →
    step world {world.ticked with repository := next}
  admitted : ∀ (world : World) admission answer store, world.checkpoints.admitSession admission = .ok (answer,store) →
    step world {world.ticked with checkpoints := store}
  issued : ∀ (world : World) number at_, invalidClaim (artifactCapability (accessRequest deps request number) at_) at_ = none →
    step world (world.log (.capabilityIssued (artifactCapability (accessRequest deps request number) at_)))

def SessionKey (deps : StepDependencies) (request : StepRequest) (key : String) : Prop :=
  ∃ number, key = runtimeEffectKey deps.workflow.runId request.stepKey number

def SessionDraft (deps : StepDependencies) (request : StepRequest) (draft : EffectDraft) : Prop :=
  ∃ number definition now, deps.roles.role request.role = some definition ∧
    draft = effectDraft deps.workflow.runId (runtimeEffectKey deps.workflow.runId request.stepKey number) "runtime-session"
      (sessionFingerprint deps request definition number) now

inductive SessionStep (deps : StepDependencies) (request : StepRequest) (before : Store) : Store → Prop
  | claimed {after : Store} {draft : EffectDraft} {claim : EffectClaim} {effect : Effect}
      (mine : SessionDraft deps request draft) (ok : before.claimEffect draft claim = .ok (effect,after)) :
      SessionStep deps request before after
  | started {after : Store} {lease : EffectLease} {now : Instant} {effect : Effect} (mine : SessionKey deps request lease.key)
      (ok : before.markEffectStarted lease now = .ok (effect,after)) : SessionStep deps request before after
  | attached {after : Store} {lease : EffectLease} {externalRef : String} {now : Instant} {effect : Effect}
      (mine : SessionKey deps request lease.key)
      (ok : before.attachExternalRef lease externalRef now = .ok (effect,after)) : SessionStep deps request before after
  | completed {after : Store} {lease : EffectLease} {candidate output : Json} {now : Instant} {effect : Effect}
      (mine : SessionKey deps request lease.key) (valid : request.schema.parse candidate = some output)
      (ok : before.completeEffect lease output now = .ok (effect,after)) : SessionStep deps request before after
  | failed {after : Store} {lease : EffectLease} {error : String} {deadLetter : Bool} {now : Instant} {effect : Effect}
      (mine : SessionKey deps request lease.key)
      (ok : before.failEffect lease error deadLetter now = .ok (effect,after)) : SessionStep deps request before after
  | renewed {after : Store} {lease : EffectLease} {now expires : Instant} {effect : Effect}
      (mine : SessionKey deps request lease.key) (ok : before.renewEffect lease now expires = .ok (effect,after)) :
      SessionStep deps request before after

/-- Every step that a step of the workflow takes, short of starting a session. -/
structure SessionSteps (deps : StepDependencies) (request : StepRequest) (step : World → World → Prop) : Prop
    extends PreparingSteps deps request step where
  stepped : ∀ (world : World) store, SessionStep deps request world.checkpoints store →
    step world {world.ticked with checkpoints := store}
  settled : ∀ (world : World) settlement answer store, world.checkpoints.settleSession settlement = .ok (answer,store) →
    step world {world.ticked with
      checkpoints := store,journal := world.journal ++ settlementLog world.checkpoints settlement.reservationKey}
  released : ∀ (world : World), step world {world.ticked with
    checkpoints := world.checkpoints.releaseSession deps.workflow.projectId deps.workflow.runId request.stepKey}
  happened : ∀ world happening, Stops happening → step world (world.ticked.log happening)

variable {env : Environment} {deps : StepDependencies} {request : StepRequest} {step : World → World → Prop}
  {scope : AttemptScope}

structure AttemptScope.Of (deps : StepDependencies) (request : StepRequest) (scope : AttemptScope) : Prop where
  row : scope.step.stepKey = request.stepKey
  key : scope.effectKey = runtimeEffectKey deps.workflow.runId request.stepKey scope.number
  lease : scope.lease.key = scope.effectKey
  role : deps.roles.role request.role = some scope.definition

theorem claims {ownerId : String} {draft : EffectDraft} {leaseMs : Int} (passed : ∀ world, step world world.ticked)
    (claimed : ∀ (world : World) claim effect store, world.checkpoints.claimEffect draft claim = .ok (effect,store) →
      step world {world.ticked with checkpoints := store}) :
    (claimEffect env ownerId draft leaseMs).Gives step fun answer => answer.2.key = draft.key := by
  have claiming : (checkpoint env fun now store => store.claimEffect draft
      {ownerId := ownerId,now := now,leaseExpiresAt := now + leaseMs}).Gives step fun effect => effect.key = draft.key :=
    gives_checkpoint passed (fun _ world effect store ok => claimed world _ effect store ok)
      fun _ _ _ _ ok => (Store.claimEffect_draft ok).1
  apply claiming.bind
  intro effect key
  split
  · exact gives_pure key
  · split
    · exact gives_throw _
    · exact gives_pure key

theorem requiresAccess (value : Option Json) : (requireRuntimeAccess value).Takes step := by
  unfold requireRuntimeAccess
  split
  · exact takes_throw _
  · exact takes_pure _

theorem assertContinuable_takes (runId projectId : String) (deadlineMs : Instant) (passed : ∀ world, step world world.ticked) :
    (assertContinuable env runId projectId deadlineMs).Takes step := by
  refine .bind (takes_readRepository passed) fun found => ?_
  cases found with
  | none => exact takes_throw _
  | some run =>
    dsimp only
    split
    · exact takes_throw _
    split
    · exact takes_throw _
    split
    · exact takes_throw _
    · refine .bind (takes_now passed) fun _ => ?_
      split
      · exact takes_throw _
      · exact takes_pure _

/-! ### Around a session -/

namespace PreparingSteps
variable (steps : PreparingSteps deps request step)
include steps

theorem passed (world : World) : step world world.ticked := steps.access.passed world

theorem tells (runId : String) (progress : StepProgressContext) (note : ProgressNote) :
    (recordStepProgress env runId progress note).Takes step :=
  .bind (takes_repository steps.passed fun _ world _ next ok => steps.written world next (.told ok)) fun _ => takes_pure _

theorem upserts (row : Instant → StepRun) (mine : ∀ now, (row now).stepKey = request.stepKey) :
    (repository env fun now repository => repository.upsertStepRun (row now)).Takes step :=
  takes_repository steps.passed fun now world _ next ok => steps.written world next (.row (mine now) ok)

theorem prepares (preparation : AccessPreparation) (number : Nat) :
    (prepareRuntimeAccess env preparation (accessRequest deps request number)).Takes step := by
  have provisions : (stageOrUpload env preparation (accessRequest deps request number)).Takes step :=
    .bind (takes_ask steps.passed) fun _ => takes_pure _
  refine .bind (takes_ask steps.passed) fun refused => ?_
  cases refused with
  | some fault => exact takes_throw _
  | none =>
    dsimp only
    split
    · exact provisions
    · refine .bind (takes_now steps.passed) fun at_ => .bind ?_ fun _ => provisions
      unfold issueCapability
      split
      · exact takes_throw _
      · rename_i valid
        exact takes_atomic fun world => steps.issued world number at_ valid

theorem prepareAccess (preparation : AccessPreparation) (number : Nat) :
    (prepareAccess env deps request number preparation).Takes step := by
  refine .bind (takes_now steps.passed) fun now => ?_
  have claiming : (claimEffect env (executionOwner deps.workflow deps.execution)
      (effectDraft deps.workflow.runId (accessRequest deps request number).idempotencyKey "runtime-session-access"
        (.obj [("attempt",.num number),("inputFingerprint",request.input),("stepKey",.str request.stepKey)]) now)
      (2 * 60000)).Gives step fun answer => answer.2.key = (accessRequest deps request number).idempotencyKey :=
    claims steps.passed fun world _ _ store ok => steps.access.stepped world store (.claimed ⟨rfl,number,rfl⟩ ok)
  refine claiming.then fun answer key => ?_
  obtain ⟨effect,lease⟩ := answer
  have mine : AccessKey deps request lease.key := ⟨number,key⟩
  dsimp only
  split
  · refine .bind (requiresAccess _) fun stored => ?_
    split
    · exact takes_pure _
    · exact .bind (steps.prepares preparation number) fun _ => requiresAccess _
  · exact .bind (steps.access.markEffectStarted mine) fun _ => .bind (steps.prepares preparation number) fun _ =>
      .bind (requiresAccess _) fun _ => .bind (steps.access.completeEffect mine) fun _ => takes_pure _

theorem admitAttempt (definition : FeatureRoleDefinition) (effectKey : String) (now : Instant) :
    (admitAttempt env deps request definition effectKey now).Takes step := by
  have limits : (budgetLimitsWithOverrides env deps).Takes step :=
    .bind (scanRunEvents_takes _ _ _ _ _ steps.passed) fun _ => takes_pure _
  refine .bind limits fun _ => .bind (takes_readRepository steps.passed) fun _ => .bind (takes_now steps.passed) fun _ => ?_
  refine .bind (projectDailyUsage_takes _ _ steps.passed) fun _ => .bind (takes_ask steps.passed) fun _ => ?_
  dsimp only
  split
  · exact takes_throw _
  · refine .bind (takes_checkpoint steps.passed fun _ world _ store ok =>
      steps.admitted world _ _ store ok) fun admission => ?_
    split
    · exact takes_throw _
    · exact takes_throw _
    · exact takes_throw _
    · exact takes_pure _

theorem replayOutput {row : StepRun} (mine : row.stepKey = request.stepKey) (claimed : Effect) (now : Instant) :
    (replayOutput env request row claimed now).Takes step := by
  unfold Workflow.replayOutput
  split
  · exact takes_throw _
  · exact .bind (steps.upserts _ fun _ => mine) fun _ => takes_pure _

end PreparingSteps

/-! ### The session -/

namespace SessionSteps
variable (steps : SessionSteps deps request step)
include steps

variable {lease : EffectLease}

theorem marks (mine : SessionKey deps request lease.key) : (Workflow.markEffectStarted env lease).Takes step :=
  takes_checkpoint steps.passed fun _ world _ store ok => steps.stepped world store (.started mine ok)

theorem attaches (externalRef : String) (mine : SessionKey deps request lease.key) :
    (Workflow.attachExternalRef env lease externalRef).Takes step :=
  takes_checkpoint steps.passed fun _ world _ store ok => steps.stepped world store (.attached mine ok)

theorem completes {candidate output : Json} (mine : SessionKey deps request lease.key)
    (valid : request.schema.parse candidate = some output) : (Workflow.completeEffect env lease output).Takes step :=
  takes_checkpoint steps.passed fun _ world _ store ok => steps.stepped world store (.completed mine valid ok)

theorem reports (handle : Option String) (attempted : Bool) : (reportedUsage env deps scope handle attempted).Takes step := by
  unfold reportedUsage
  cases handle with
  | none => exact takes_pure _
  | some handle =>
    refine .bind (.outcome (takes_ask steps.passed)) fun reported => ?_
    cases reported with
    | error fault => exact takes_pure _
    | ok usage =>
      dsimp only
      split <;> exact takes_pure _

theorem charges (entry : UsageRecord) : (appendUsageTwice env entry).Takes step := by
  have appending : (appendUsage env entry).Takes step :=
    takes_repository steps.passed fun _ world _ next ok => steps.written world next (.charged ok)
  refine .bind appending.outcome fun ended => ?_
  cases ended with
  | ok stored => exact takes_pure _
  | error fault =>
    dsimp only
    split
    · exact appending
    · exact takes_throw _

theorem recordUsage : (recordUsage env deps scope).Takes step := by
  refine .bind takes_get fun state => ?_
  split
  · exact Local.takes_pure _
  split
  · exact Local.takes_throw _
  rcases state.usageDraft with _ | entry
  on_goal 1 =>
    refine .bind (Local.takes_call (steps.reports _ _)) fun _ => .bind (Local.takes_call (takes_now steps.passed)) fun _ =>
      .bind (takes_modify _) fun _ => ?_
  -- the entry is appended in either case
  all_goals
    refine .bind (Local.takes_pure _) fun entry => .bind (.outcome (Local.takes_call (steps.charges entry))) fun ended => ?_
    cases ended with
    | ok stored => exact takes_modify _
    | error fault => exact .bind (takes_modify _) fun _ => Local.takes_throw _

theorem reconciles (key : String) : (Runtime.reconcileStart env key).Takes step :=
  reconcileStart_takes _ steps.passed fun world => steps.happened world _ (.absent key)

theorem reconcileStart (unsupported : String) (sent : RuntimeStartRequest) : (reconcileStart env unsupported sent).Takes step := by
  unfold Workflow.reconcileStart
  split
  · exact steps.reconciles _
  · exact takes_throw _

theorem recoverStart (sent : RuntimeStartRequest) (fault : Fault) : (recoverStart env sent fault).Takes step := by
  unfold Workflow.recoverStart
  dsimp only
  split
  · exact .bind (takes_modify _) fun _ => Local.takes_throw _
  split
  · split
    · exact .bind (takes_modify _) fun _ => Local.takes_throw _
    · exact .bind (Local.takes_pure _) fun _ => Local.takes_throw _
  split
  · exact .bind (takes_modify _) fun _ => Local.takes_throw _
  · refine .bind (Local.takes_call (steps.reconcileStart _ _)) fun found => ?_
    cases found with
    | none => exact Local.takes_throw _
    | some handle => exact Local.takes_pure _

variable (handle : String)

theorem sealSession : (sealSession env deps request scope handle).Takes step :=
  .bind (takes_ask steps.passed) fun _ => .bind (takes_repository steps.passed fun _ world _ next ok =>
    steps.written world next (.opened ok)) fun _ => takes_pure _

theorem takeUp (sent : RuntimeStartRequest) (externalRef : String) : (takeUp env deps request scope sent externalRef).Takes step := by
  refine .bind (takes_modify _) fun _ => .bind (Local.takes_call (takes_readRepository steps.passed)) fun known => ?_
  split
  · have opening : ∀ sealed_ aad, (openHandle env sealed_ aad).Takes step := by
      intro sealed_ aad
      refine .bind (takes_ask steps.passed) fun opened => ?_
      cases opened with
      | none => exact takes_throw _
      | some handle => exact takes_pure _
    refine .bind (Local.takes_call (opening _ _)) fun handle => .bind (takes_modify _) fun _ => ?_
    split
    · exact Local.takes_throw _
    · exact Local.takes_pure _
  · refine .once (Local.takes_throw _) (.bind (takes_modify _) fun _ =>
      .bind (Local.takes_call (steps.reconciles _)) fun found => ?_)
    cases found with
    | none => exact Local.takes_throw _
    | some repaired =>
      exact .once (Local.takes_throw _) (.bind (takes_modify _) fun _ => Local.takes_call (steps.sealSession repaired))

theorem findStarted (sent : RuntimeStartRequest) : (findStarted env sent).Takes step := by
  refine .once (Local.takes_throw _) (.bind (takes_modify _) fun _ =>
    .bind (Local.takes_call (steps.reconciles _)) fun found => ?_)
  cases found with
  | none => exact Local.takes_throw _
  | some handle => exact .bind (takes_modify _) fun _ => Local.takes_pure _

theorem cancels : (Runtime.cancel env handle).Takes step :=
  takes_happen steps.passed fun world => steps.happened world _ (.cancelled handle)

theorem cleansUp (handle : Option String) : (cleanUp env handle).Takes step := by
  cases handle with
  | none => exact takes_pure _
  | some handle =>
    refine .bind (.outcome (takes_happen steps.passed fun world => steps.happened world _ (.cleaned handle))) fun ended => ?_
    cases ended <;> exact takes_pure _

theorem consumeEvents (count : Nat) (events : List StreamedEvent) : (consumeEvents env deps scope handle count events).Takes step := by
  induction events generalizing count with
  | nil => exact takes_pure _
  | cons event events ih =>
    refine .bind (takes_readRepository steps.passed) fun status => ?_
    split
    · exact .bind (steps.cancels handle) fun _ => takes_throw _
    split
    · exact takes_throw _
    split
    · exact takes_throw _
    · refine .bind (takes_forM fun note _ => steps.tells _ _ note) fun _ => ?_
      split
      · exact takes_pure _
      · exact ih _

theorem sessionOutput : (sessionOutput env deps scope handle).Takes step := by
  refine .bind (steps.tells _ _ _) fun _ => .bind (takes_ask steps.passed) fun streamed => ?_
  refine .bind (steps.consumeEvents handle 0 _) fun _ => ?_
  split
  · exact takes_throw _
  · refine .bind (steps.tells _ _ _) fun _ => .bind (takes_ask steps.passed) fun output => ?_
    cases output with
    | none => exact takes_throw _
    | some output => exact takes_pure _

theorem validOutput (output : RuntimeOutput) (sessionStarted : Instant) :
    (validOutput env request handle output sessionStarted).Gives step fun parsed =>
      ∃ candidate, request.schema.parse candidate = some parsed := by
  have finalizing : (finalized env request handle output).Takes step := by
    unfold finalized
    split
    · exact takes_pure _
    · exact .bind (takes_ask steps.passed) fun _ => takes_settle _
  refine finalizing.gives.bind fun candidate _ => ?_
  cases candidate with
  | none => exact (takes_now steps.passed).gives.bind fun _ _ => gives_throw _
  | some candidate =>
    dsimp only
    split
    · exact gives_throw _
    · rename_i parsed valid
      exact gives_pure ⟨candidate,valid⟩

theorem updates (externalSessionId : Option String) (update : Instant → ExternalSessionUpdate) :
    (updateSession env externalSessionId update).Takes step := by
  cases externalSessionId with
  | none => exact takes_pure _
  | some id =>
    exact .bind (takes_repository steps.passed fun _ world _ next ok => steps.written world next (.updated ok)) fun _ =>
      takes_pure _

theorem finishAttempt : (finishAttempt env deps request scope).Takes step := by
  refine .bind takes_get fun state => .bind (Local.takes_call (steps.cleansUp state.handle)) fun cleaned =>
    .once (Local.takes_call (steps.updates _ _)) ?_
  dsimp only
  split
  · refine .bind steps.recordUsage fun _ => .bind takes_get fun state => ?_
    refine .bind (Local.takes_call (takes_settleSession steps.passed fun _ world settlement store ok =>
      steps.settled world _ settlement store ok)) fun answer => ?_
    refine .bind (Local.takes_call (takes_checkpoint steps.passed fun _ world _ store ok => ?_)) fun _ => ?_
    · cases ok
      exact steps.released world
    · cases answer <;> exact Local.takes_pure _
  · exact Local.takes_pure _

section
variable (mine : scope.Of deps request)
include mine

omit steps in
theorem leased : SessionKey deps request scope.lease.key := ⟨scope.number,mine.lease.trans mine.key⟩

theorem recordSession (handle : String) : (recordSession env deps request scope handle).Takes step := by
  refine .bind (takes_modify _) fun _ => .bind (Local.takes_call (takes_readRepository steps.passed)) fun known => ?_
  exact .once (Local.takes_call (steps.sealSession handle))
    (.bind (Local.takes_call (steps.attaches handle (leased mine))) fun _ => Local.takes_pure _)

theorem startAnew {sent : RuntimeStartRequest} (found : Option String)
    (starting : found = none → (Runtime.start env deps.answers.startRefusal sent).Takes step) :
    (startAnew env deps request scope sent found).Takes step := by
  refine .bind (Local.takes_call (steps.upserts _ fun _ => mine.row)) fun _ => .bind (takes_modify _) fun _ => ?_
  cases found with
  | some handle => exact steps.recordSession mine handle
  | none =>
    refine .bind (.outcome (Local.takes_call (starting rfl))) fun ended => ?_
    cases ended with
    | ok handle => exact steps.recordSession mine handle
    | error fault => exact .bind (steps.recoverStart sent fault) fun handle => steps.recordSession mine handle

theorem startSession (starting : ∀ access,
      (Runtime.start env deps.answers.startRefusal (startRequest deps request scope access)).Takes step) :
    (startSession env deps request scope).Takes step := by
  refine .bind (Local.takes_call (takes_ask steps.passed)) fun _ => .bind (Local.takes_call (takes_ask steps.passed))
    fun _ => ?_
  refine .bind (Local.takes_call (steps.marks (leased mine))) fun started => .bind takes_get fun state => ?_
  refine .bind (Local.takes_call (steps.tells _ _ _)) fun _ => ?_
  split
  · exact steps.takeUp _ _
  · split
    · exact .bind (steps.findStarted _) fun handle => steps.startAnew mine (some handle) nofun
    · exact steps.startAnew mine none fun _ => starting _

theorem completeStep {handle : String} {output candidate : Json} (valid : request.schema.parse candidate = some output) :
    (completeStep env deps scope handle output).Takes step := by
  refine .bind (Local.takes_call (steps.completes (leased mine) valid)) fun _ => .bind (Local.takes_call (steps.upserts _ fun _ => mine.row))
    fun _ => .bind takes_get fun state => ?_
  exact .bind (Local.takes_call (steps.updates _ _)) fun _ => .bind (Local.takes_call (steps.tells _ _ _)) fun _ =>
    takes_modify _

theorem attemptSession (starting : ∀ access,
      (Runtime.start env deps.answers.startRefusal (startRequest deps request scope access)).Takes step) :
    (attemptSession env deps request scope).Takes step := by
  refine .bind (Local.takes_call (steps.tells _ _ _)) fun _ => ?_
  rcases deps.runtimeAccess with _ | preparation
  on_goal 2 =>
    refine .bind (Local.takes_call (steps.prepareAccess preparation scope.number)) fun _ => .bind (takes_modify _) fun _ => ?_
  all_goals
    refine .bind (steps.startSession mine starting) fun _ => ?_
    refine .bind takes_get fun state => .bind (Local.takes_call (takes_now steps.passed)) fun _ => ?_
    refine .bind (Local.takes_call (steps.sessionOutput _)) fun _ => .bind steps.recordUsage fun _ =>
      .bind (Local.takes_call (steps.tells _ _ _)) fun _ => ?_
    refine Local.takes_call_then (steps.validOutput _ _ _) fun parsed valid => ?_
    obtain ⟨candidate,valid⟩ := valid
    exact steps.completeStep mine valid

theorem recoverAttempt (fault : Fault) : (recoverAttempt env deps scope fault).Takes step := by
  unfold Workflow.recoverAttempt
  split
  · exact .bind (Local.takes_call (steps.tells _ _ _)) fun _ => .bind (Local.takes_call (takes_checkpoint steps.passed
      fun _ world _ store ok => steps.stepped world store (.renewed (leased mine) ok))) fun _ => Local.takes_throw _
  · refine .bind (.outcome steps.recordUsage) fun recorded => .bind (Local.takes_call (steps.tells _ _ _)) fun _ =>
      .bind takes_get fun state => ?_
    generalize classifiedRuntimeError _ = error
    rcases state.handle with _ | handle
    on_goal 2 => refine .bind (.outcome (Local.takes_call (steps.cancels handle))) fun _ => ?_
    -- the failure is recorded in either case
    all_goals
      refine .bind (Local.takes_call (takes_checkpoint steps.passed fun _ world _ store ok =>
        steps.stepped world store (.failed (leased mine) ok))) fun _ => ?_
      refine .bind (Local.takes_call (steps.upserts _ fun _ => mine.row)) fun _ =>
        .bind (Local.takes_call (steps.updates _ _)) fun _ => ?_
      split
      · exact Local.takes_pure _
      · exact Local.takes_throw _

theorem runSession (starting : ∀ access,
      (Runtime.start env deps.answers.startRefusal (startRequest deps request scope access)).Takes step) :
    (runSession env deps request scope).Takes step := by
  refine .bind (steps.attemptSession mine starting {}) fun ended => ?_
  rcases ended with ⟨fault | _,state⟩
  on_goal 1 => refine .bind (steps.recoverAttempt mine fault state) fun recovered => ?_
  on_goal 2 => refine .bind (takes_pure _) fun recovered => ?_
  all_goals
    refine .bind (steps.finishAttempt _) fun _ => .bind (takes_settle _) fun failed => .bind (takes_settle _)
      fun _ => ?_
    cases failed with
    | some fault => exact takes_throw _
    | none =>
      dsimp only
      split <;> exact takes_pure _

end

/-! ### Attempts -/

section
variable {definition : FeatureRoleDefinition} {row : StepRun} {number : Nat}
  (role : deps.roles.role request.role = some definition)
include role

omit steps in
theorem scope_of (mine : row.stepKey = request.stepKey)
    (leased : lease.key = runtimeEffectKey deps.workflow.runId request.stepKey number) (progress : StepProgressContext)
    (claimed : Effect) (limits : BudgetLimits) (workflowSpent dailySpent estimated : Int) : AttemptScope.Of deps request {
      number := number,step := row,progress := progress
      effectKey := runtimeEffectKey deps.workflow.runId request.stepKey number
      definition := definition,claimed := claimed,lease := lease,limits := limits
      workflowSpent := workflowSpent,dailySpent := dailySpent,estimatedMicrodollars := estimated} :=
  ⟨mine,rfl,leased,role⟩

theorem attemptClaimed (mine : row.stepKey = request.stepKey)
    (leased : lease.key = runtimeEffectKey deps.workflow.runId request.stepKey number) (progress : StepProgressContext)
    (now : Instant) (claimed : Effect) (starting : ∀ scope, AttemptScope.Of deps request scope → ∀ access,
      (Runtime.start env deps.answers.startRefusal (startRequest deps request scope access)).Takes step) :
    (attemptClaimed env deps request definition row progress number now claimed lease).Takes step := by
  unfold Workflow.attemptClaimed
  split
  · exact steps.replayOutput mine claimed now
  · exact takes_throw _
  · exact takes_pure _
  all_goals
    refine .bind (steps.admitAttempt definition _ now) fun budget => ?_
    have mine := scope_of role mine leased progress claimed budget.1 budget.2.1 budget.2.2.1 budget.2.2.2
    exact steps.runSession mine (starting _ mine)

end

section
variable (deadlineMs : Instant) (generation : Int) (existing : List StepRun)

theorem attempt (number : Nat) (starting : ∀ scope, AttemptScope.Of deps request scope → ∀ access,
      (Runtime.start env deps.answers.startRefusal (startRequest deps request scope access)).Takes step) :
    (attempt env deps deadlineMs request generation existing number).Takes step := by
  refine .bind (assertContinuable_takes _ _ _ steps.passed) fun _ => .bind (takes_now steps.passed) fun now => ?_
  cases role : deps.roles.role request.role with
  | none => exact takes_throw _
  | some definition =>
    have row : ((existing.find? fun row => row.stepKey = request.stepKey && row.attempt = number).getD
        (pendingStep deps request definition number now)).stepKey = request.stepKey := by
      cases found : existing.find? fun row => row.stepKey = request.stepKey && row.attempt = number with
      | none => rfl
      | some row =>
        have matching := List.find?_some found
        rw [Bool.and_eq_true,decide_eq_true_eq] at matching
        exact matching.1
    have claimed : (claimSession env deps request definition number now).Gives step fun answer =>
        answer.2.key = runtimeEffectKey deps.workflow.runId request.stepKey number :=
      claims steps.passed fun world _ _ store ok =>
        steps.stepped world store (.claimed ⟨number,definition,now,role,rfl⟩ ok)
    have claiming := claimed.then fun answer leased =>
        steps.attemptClaimed role row leased (progressContext deps request definition number generation) now answer.1 starting
    dsimp only
    split
    · exact .bind (steps.upserts _ fun _ => row) fun _ => claiming
    · exact claiming

theorem attempts (numbers : List Nat) (lastError : Option Fault) (starting : ∀ scope, AttemptScope.Of deps request scope → ∀ access,
      (Runtime.start env deps.answers.startRefusal (startRequest deps request scope access)).Takes step) :
    (attempts env deps deadlineMs request generation existing numbers lastError).Takes step := by
  induction numbers generalizing lastError with
  | nil => exact takes_throw _
  | cons number later ih =>
    refine .bind (steps.attempt deadlineMs generation existing number starting) fun ended => ?_
    cases ended with
    | completed output => exact takes_pure _
    | retry lastError => exact ih _

end

theorem runAgentStep (deadlineMs : Instant) (starting : ∀ scope, AttemptScope.Of deps request scope → ∀ access,
      (Runtime.start env deps.answers.startRefusal (startRequest deps request scope access)).Takes step) :
    (runAgentStep env deps deadlineMs request).Takes step := by
  refine .bind (scanRunEvents_takes _ _ _ _ _ steps.passed) fun generation =>
    .bind (takes_readRepository steps.passed) fun existing => .bind (takes_settle _) fun replayed => ?_
  cases replayed with
  | some output => exact takes_pure _
  | none => exact steps.attempts deadlineMs generation existing _ none starting

end SessionSteps
end AgentOS.Workflow
