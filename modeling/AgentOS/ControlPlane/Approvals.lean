import AgentOS.ControlPlane.Cancel
import AgentOS.Outbox.ApprovalResume

/-! Deciding an approval: the approval is consumed and the decision recorded in one
step, and the workflow that waits for it is woken. -/
namespace AgentOS.ControlPlane
open Library Outbox AgentOS.Action

def decisionType : Decision → String
  | .approve => "approval.approved"
  | .reject => "approval.rejected"

def decisionPayload (approvalId scopeHash : String) : Json :=
  .obj [("approvalId",.str approvalId),("scopeHash",.str scopeHash)]

def decisionEvent (env : Environment) (id : String) (approval : Approval) (decision : Decision) (idempotencyKey : String)
    (at_ : Instant) : EventDraft :=
  eventDraft env approval.runId ("approval:" ++ idempotencyKey) (decisionType decision)
    (decisionPayload id approval.fingerprint) at_

def consumption (approval : Approval) (at_ : Instant) : Repository.ConsumeApprovalRequest where
  approvalId := approval.id
  runId := approval.runId
  scope := approval.scope
  fingerprint := approval.fingerprint
  consumedAt := at_

variable (approval : Approval)

def decisionRequest (decision : Decision) : ApprovalResumeRequest where
  idempotencyKey := "workflow-resume:" ++ approval.id ++ ":" ++ decision.text
  runId := approval.runId
  approvalId := approval.id
  decision := decision
  scopeHash := approval.fingerprint

def dispatchDecision (env : Environment) (approval : Approval) (decision : Decision) : Action Unit := do
  let _ ← (if env.composition.workflowDispatch then requestApprovalResume env (decisionRequest approval decision)
    else pure ()).outcome
  pure ()

def ofScope (expectedScopeHash : Option String) : Except Fault Unit :=
  if expectedScopeHash.any (· ≠ approval.fingerprint) then
    .error (.service "approval_scope_mismatch" "approval scope hash does not match" 409)
  else .ok ()

/-- The stored status is half the test: an approval may have run out without being swept. -/
def inTime (at_ : Instant) : Except Fault Unit :=
  if approval.status = .expired ∨ approval.expiresAt ≤ at_ then
    .error (.service "approval_expired" "approval expired before a decision was recorded" 409)
  else .ok ()

def undecided : Fault :=
  if approval.status = .consumed then .service "approval_already_decided" "approval was already decided" 409
  else .service "approval_invalid" "approval is invalid" 409

/-- The answer is the approval that the projection for the caller is made of. -/
def consumeApproval (env : Environment) (id : String) (decision : Decision) (idempotencyKey : String)
    (expectedScopeHash : Option String) : Action Approval := do
  match ← readRepository env fun repository => repository.getApproval id with
  | none => throw (.service "not_found" "approval not found" 404)
  | some approval => do
    Routine.settle (ofScope approval expectedScopeHash)
    let consumedAt ← Action.now env
    Routine.settle (inTime approval consumedAt)
    let draft := decisionEvent env id approval decision idempotencyKey consumedAt
    match ← (repository env fun _ repository =>
        repository.consumeApprovalWithEvent (consumption approval consumedAt) draft).outcome with
    | .error fault => throw (rethrowEventConflict draft fault)
    | .ok none => throw (undecided approval)
    | .ok (some consumed) => do
      dispatchDecision env consumed decision
      pure consumed

end AgentOS.ControlPlane

namespace AgentOS.Repository
open Library

def createApproval (repository : Repository) (approval : Approval) : Except Fault (Approval × Repository) := do
  let _ ← repository.requireRun approval.runId
  if (repository.approvals.get? approval.id).isSome then .error (.error ("Approval " ++ approval.id ++ " already exists"))
  else .ok (approval,{repository with approvals := repository.approvals.set approval.id approval})

variable {before after : Repository}

def ApprovalsFiled (repository : Repository) : Prop :=
  ∀ id approval, repository.approvals.get? id = some approval → approval.id = id

variable {repository : Repository} {draft : EventDraft}

theorem requireRun_ok {id : String} {run : Run} (ok : repository.requireRun id = .ok run) : repository.getRun id = some run := by
  unfold requireRun at ok
  split at ok
  · cases ok
  · rename_i found
    cases ok
    exact found

variable {staged : Staged repository}

theorem stageEvent_ok (ok : repository.stageEvent draft = .ok staged) : (repository.getRun draft.runId).isSome ∧
      staged.event.runId = draft.runId ∧ staged.event.eventId = draft.eventId ∧ staged.event.fingerprint = draft.fingerprint ∧
      staged.event.type = draft.type ∧ staged.event.payload = draft.payload ∧
      repository.events.get? (draft.runId,draft.eventId) = if staged.replay then some staged.event else none := by
  unfold stageEvent at ok
  cases required : repository.requireRun draft.runId with
  | error fault => simp [required,bind,Except.bind] at ok
  | ok run =>
    have found : (repository.getRun draft.runId).isSome := by
      rw [requireRun_ok required]
      rfl
    simp only [required,bind,Except.bind] at ok
    split at ok
    · rename_i existing held
      split at ok
      · cases ok
      · rename_i same
        simp only [ne_eq,not_or,not_not] at same
        cases ok
        obtain ⟨sameRun,sameEvent⟩ := Prod.mk.inj (repository.filed _ _ held)
        exact ⟨found,sameRun,sameEvent,same.1,same.2.1,same.2.2,held⟩
    · rename_i absent
      cases ok
      exact ⟨found,rfl,rfl,rfl,rfl,rfl,absent⟩

theorem stageEvent_held {event : Event}
    (found : (repository.getRun draft.runId).isSome) (held : repository.events.get? (draft.runId,draft.eventId) = some event)
    (fingerprint : event.fingerprint = draft.fingerprint) (type : event.type = draft.type)
    (payload : event.payload = draft.payload) : ∃ staged, repository.stageEvent draft = .ok staged ∧ staged.replay = true := by
  obtain ⟨run,found⟩ := Option.isSome_iff_exists.mp found
  have required : repository.requireRun draft.runId = .ok run := by
    unfold getRun at found
    unfold requireRun
    rw [found]
  unfold stageEvent
  simp only [required,bind,Except.bind]
  split
  · rename_i existing same
    cases held.symm.trans same
    rw [if_neg (by simp [fingerprint,type,payload])]
    exact ⟨_,rfl,rfl⟩
  · rename_i absent
    cases held.symm.trans absent

theorem commitStagedEvent_get? (ok : repository.stageEvent draft = .ok staged) (key : String × String) :
    (repository.commitStagedEvent staged).events.get? key =
      if key = (draft.runId,draft.eventId) then some staged.event else repository.events.get? key := by
  obtain ⟨_,sameRun,sameEvent,_,_,_,held⟩ := stageEvent_ok ok
  unfold commitStagedEvent
  split
  · rename_i replay
    rw [replay,if_pos rfl] at held
    split
    · rename_i here
      rw [here,held]
    · rfl
  · change (repository.events.set (staged.event.runId,staged.event.eventId) staged.event).get? key = _
    rw [OrderedMap.get?_set,sameRun,sameEvent]

theorem consumeApprovalWithEvent_ok {request : ConsumeApprovalRequest} {answer : Option Approval}
    (ok : before.consumeApprovalWithEvent request draft = .ok (answer,after)) : draft.runId = request.runId ∧
      ∃ staged, before.stageEvent draft = .ok staged ∧ ((staged.replay = true ∧ answer = before.approvals.get? request.approvalId ∧
            answer.map Approval.status = some .consumed ∧ after = before) ∨ staged.replay = false ∧ ((answer = none ∧ after = before) ∨
            ∃ pending, before.approvals.get? request.approvalId = some pending ∧ consumable pending request = true ∧
              answer = some (Repository.consumed pending request) ∧ after = {before.commitStagedEvent staged with
                approvals := before.approvals.set pending.id (Repository.consumed pending request)})) := by
  unfold consumeApprovalWithEvent at ok
  split at ok
  · cases ok
  rename_i sameRun
  refine ⟨not_not.mp sameRun,?_⟩
  cases staging : before.stageEvent draft with
  | error fault => simp [staging,bind,Except.bind] at ok
  | ok staged =>
    simp only [staging,bind,Except.bind] at ok
    refine ⟨staged,rfl,?_⟩
    split at ok
    · rename_i replay
      split at ok
      · cases ok
      · rename_i status
        cases ok
        exact .inl ⟨replay,rfl,not_not.mp status,rfl⟩
    · rename_i fresh
      refine .inr ⟨by simpa using fresh,?_⟩
      split at ok
      · cases ok
        exact .inl ⟨rfl,rfl⟩
      · rename_i pending found
        cases ok
        obtain ⟨held,consumable⟩ := Option.filter_eq_some_iff.mp found
        refine .inr ⟨pending,held,consumable,rfl,?_⟩
        have table : (before.commitStagedEvent staged).approvals = before.approvals := (before.commitStagedEvent_eq staged).2.1
        rw [table]

end AgentOS.Repository
