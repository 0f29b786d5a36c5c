import AgentOS.Outbox.Cancel
import AgentOS.Outbox.StartRules

/-! Cancelling a run: the run and its event move in one step, and the request to
stop its sessions follows. That request is owed by the event once it is there. -/
namespace AgentOS.ControlPlane
open Library Outbox Routine AgentOS.Action

def eventDraft (env : Environment) (runId idempotencyKey type : String) (payload : Json) (occurredAt : Instant) :
    EventDraft where
  runId := runId
  eventId := env.generateId "event" ("event:" ++ runId ++ ":" ++ idempotencyKey)
  fingerprint := .obj [("payload",payload),("type",.str type)]
  type := type
  payload := payload
  occurredAt := occurredAt

def rethrowEventConflict (draft : EventDraft) (fault : Fault) : Fault :=
  if fault = .error ("Event " ++ draft.eventId ++ " for run " ++ draft.runId ++ " already has a different fingerprint") then
    .service "idempotency_conflict" "idempotency key was already used with another payload" 409
  else fault

def getRun (env : Environment) (id : String) : Action Run := do
  match ← readRepository env fun repository => repository.getRun id with
  | none => throw (.service "not_found" "run not found" 404)
  | some run => pure run

def cancelRequestOf (runId : String) : Request where
  idempotencyKey := "workflow-cancel:" ++ runId
  runId := runId

def cancelRun (env : Environment) (id idempotencyKey : String) : Action Run := do
  let run ← getRun env id
  if run.status = .succeeded ∨ run.status = .failed then
    throw (.service "invalid_state" "completed run cannot be cancelled" 409)
  else if run.status = .cancelled then getRun env id
  else do
    let now ← Action.now env
    let draft := eventDraft env id idempotencyKey "run.cancelled" (.obj []) now
    let cancelled ← (repository env fun _ repository => repository.cancelRunWithEvent id
      {status := some .cancelled,updatedAt := now,completedAt := some now} draft).outcome
    match cancelled with
    | .error fault => throw (rethrowEventConflict draft fault)
    | .ok _ => do
      let _ ← (if env.composition.workflowDispatch then requestCancel env (cancelRequestOf id) else pure ()).outcome
      getRun env id

/-! ### The parts of the world a cancellation leaves alone -/

section
variable {env : Environment} {step : World → World → Prop}

theorem collect_takes {α : Type} {body : α → Action Unit} (taken : ∀ item, (body item).Takes step) (items : List α) :
    (collect body items).Takes step := by
  induction items with
  | nil => exact takes_pure _
  | cons item items ih =>
    refine .bind (.outcome (taken item)) fun ended => .bind ih fun faults => ?_
    cases ended with
    | ok done => exact takes_pure _
    | error fault => exact takes_pure _

theorem requestCancel_takes (request : Request) (delivers : Delivers request.Drafts request.Keys step)
    (happened : ∀ world happening, Stops happening → step world (world.ticked.log happening)) :
    (requestCancel env request).Takes step := by
  have passed := delivers.passed
  have session : ∀ runtimeEffectKey externalRef recovered,
      (cancelSession env request runtimeEffectKey externalRef recovered).Takes step := by
    intro runtimeEffectKey externalRef recovered
    refine .bind (takes_require _ _) fun _ => (delivers.extendedClaim _ _ _).then fun claimed mine => ?_
    obtain ⟨effect,lease⟩ := claimed
    dsimp only at mine ⊢
    split
    · exact takes_pure _
    · have stopping : ∀ handle, (Runtime.cancel env handle).Takes step := fun handle =>
        takes_happen passed fun world => happened world _ (.cancelled handle)
      refine .bind (delivers.markEffectStarted mine) fun _ => ?_
      split
      · exact .bind (takes_pure externalRef) fun _ => .bind (stopping _) fun _ => .bind (takes_ask passed) fun _ =>
          .bind (delivers.completeEffect mine) fun _ => takes_pure _
      · exact .bind (takes_ask passed) fun _ => .bind (stopping _) fun _ => .bind (takes_ask passed) fun _ =>
          .bind (delivers.completeEffect mine) fun _ => takes_pure _
  have runtime : ∀ effects runtimeEffect, (cancelRuntimeEffect env request effects runtimeEffect).Takes step := by
    intro effects runtimeEffect
    unfold cancelRuntimeEffect
    split
    · exact session _ _ _
    · split
      · exact takes_pure _
      · refine .bind (recoverRuntimeStart_takes _ _ passed fun world => happened world _ (.absent _)) fun found => ?_
        obtain ⟨recovery,handle⟩ := found
        cases handle with
        | none => exact takes_throw _
        | some externalRef => exact session _ _ _
  have trigger : ∀ start, (cancelTriggerRun env request start).Takes step := by
    intro start
    refine (delivers.extendedClaim _ _ _).then fun claimed mine => ?_
    obtain ⟨effect,lease⟩ := claimed
    dsimp only at mine ⊢
    split
    · exact takes_pure _
    · exact .bind (delivers.markEffectStarted mine) fun _ => .bind (takes_ask passed) fun _ =>
        .bind (delivers.completeEffect mine) fun _ => takes_pure _
  have own : (ownedClaim env request request.fingerprint "trigger-workflow-cancel").Gives step
      fun answer => answer.2.key = request.idempotencyKey := delivers.ownedClaim fun _ => ⟨rfl,request.keys_self⟩
  refine own.then fun claimed key => ?_
  obtain ⟨effect,lease⟩ := claimed
  have mine : request.Keys lease.key := key ▸ request.keys_self
  dsimp only
  split
  · exact takes_pure _
  · refine .bind (delivers.markEffectStarted mine) fun _ => .bind (takes_readCheckpoints passed) fun effects =>
      .bind (collect_takes (runtime effects) _) fun sessions => .bind (collect_takes trigger _) fun runs => ?_
    split
    · exact takes_throw _
    · exact .bind (delivers.completeEffect mine) fun _ => takes_pure _

theorem cancelRun_takes (id idempotencyKey : String) (delivers : Delivers (cancelRequestOf id).Drafts (cancelRequestOf id).Keys step)
    (happened : ∀ world happening, Stops happening → step world (world.ticked.log happening))
    (moved : ∀ (world : World) update draft run next, world.repository.cancelRunWithEvent id update draft = .ok (run,next) →
      step world {world.ticked with repository := next}) : (cancelRun env id idempotencyKey).Takes step := by
  have passed := delivers.passed
  have reading : ∀ id, (getRun env id).Takes step := by
    intro id
    refine .bind (takes_readRepository passed) fun found => ?_
    cases found with
    | none => exact takes_throw _
    | some run => exact takes_pure _
  have cancelling : (if env.composition.workflowDispatch then requestCancel env (cancelRequestOf id) else pure ()).Takes
      step := by
    split
    · exact requestCancel_takes _ delivers happened
    · exact takes_pure _
  refine .bind (reading id) fun run => ?_
  split
  · exact takes_throw _
  split
  · exact reading id
  refine .bind (takes_now passed) fun now => .bind (.outcome (takes_repository passed
    fun _ world run next ok => moved world _ _ run next ok)) fun answer => ?_
  cases answer with
  | error fault => exact takes_throw _
  | ok _ => exact .bind cancelling.outcome fun _ => reading id

end
end AgentOS.ControlPlane
