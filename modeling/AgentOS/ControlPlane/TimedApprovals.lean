import AgentOS.ControlPlane.Approvals
import AgentOS.IsoTimestamp

/-! Approvals with their times as they are written. Consumption compares the instants,
expiry the texts, and the service's own check compares dates. -/
namespace AgentOS.ControlPlane
open Library Outbox

structure TimedApproval where
  id : String
  runId : String
  scope : String
  fingerprint : String
  status : ApprovalStatus
  createdAt : IsoTimestamp
  expiresAt : IsoTimestamp
  consumedAt : Option IsoTimestamp := none

/-- The approvals as they are written; the runs and their logs are the repository's. -/
structure ApprovalStore where
  repository : Repository := {}
  approvals : OrderedMap String TimedApproval := .empty

structure ApprovalBinding where
  runId : String
  scope : String
  fingerprint : String
  at_ : IsoTimestamp

namespace TimedApproval

variable (approval : TimedApproval)

def bound (binding : ApprovalBinding) : Bool :=
  approval.runId = binding.runId && approval.scope = binding.scope && approval.fingerprint = binding.fingerprint

def pendingFor (binding : ApprovalBinding) : Bool :=
  approval.status = .pending && approval.bound binding

def binding (approval : TimedApproval) (at_ : IsoTimestamp) : ApprovalBinding where
  runId := approval.runId
  scope := approval.scope
  fingerprint := approval.fingerprint
  at_ := at_

def expired : TimedApproval := {approval with status := .expired}

def consumed (at_ : IsoTimestamp) : TimedApproval :=
  {approval with status := .consumed,consumedAt := some at_}

end TimedApproval

namespace ApprovalStore

def createApproval (store : ApprovalStore) (approval : TimedApproval) : Except Fault (TimedApproval × ApprovalStore) := do
  let _ ← store.repository.requireRun approval.runId
  if (store.approvals.get? approval.id).isSome then .error (.error ("Approval " ++ approval.id ++ " already exists"))
  else .ok (approval,{store with approvals := store.approvals.set approval.id approval})

section
variable (store : ApprovalStore) (id : String) (binding : ApprovalBinding)

def expireApproval : Option TimedApproval × ApprovalStore :=
  match store.approvals.get? id with
  | none => (none,store)
  | some approval =>
    if approval.pendingFor binding = false ∨ binding.at_.text < approval.expiresAt.text then (none,store)
    else (some approval.expired,{store with approvals := store.approvals.set id approval.expired})

def consumeApprovalWithEvent (draft : EventDraft) : Except Fault (Option TimedApproval × ApprovalStore) := do
  if draft.runId ≠ binding.runId then .error (.error "event run does not match mutation")
  else
    let staged ← store.repository.stageEvent draft
    match store.approvals.get? id with
    | none => if staged.replay then .error (.error "event replay does not match approval state") else .ok (none,store)
    | some approval =>
      if staged.replay then
        if approval.status ≠ .consumed then .error (.error "event replay does not match approval state")
        else .ok (some approval,store)
      else if approval.pendingFor binding = false ∨
          approval.expiresAt.epochMicroseconds ≤ binding.at_.epochMicroseconds then .ok (none,store)
      else
        let stored := approval.consumed binding.at_
        .ok (some stored,{store with
          repository := store.repository.commitStagedEvent staged
          approvals := store.approvals.set approval.id stored})

end

end ApprovalStore

/-! ### The service's calls -/

structure NewApproval where
  id : String
  runId : String
  scope : String
  fingerprint : String
  createdAt : IsoTimestamp
  expiresAt : IsoTimestamp

def NewApproval.pending (input : NewApproval) : TimedApproval where
  id := input.id
  runId := input.runId
  scope := input.scope
  fingerprint := input.fingerprint
  status := .pending
  createdAt := input.createdAt
  expiresAt := input.expiresAt

def approvalExpired : Fault := .service "approval_expired" "approval expired before a decision was recorded" 409

namespace TimedApproval

def inScope (approval : TimedApproval) (expectedScopeHash : Option String) : Bool :=
  expectedScopeHash.all (· = approval.fingerprint)

def runOut (approval : TimedApproval) (at_ : IsoTimestamp) : Bool :=
  approval.status = .expired || approval.expiresAt.dateParse ≤ at_.dateParse

def decisionEvent (env : Environment) (approval : TimedApproval) (decision : Decision) (idempotencyKey : String)
    (at_ : IsoTimestamp) : EventDraft :=
  eventDraft env approval.runId ("approval:" ++ idempotencyKey) (decisionType decision)
    (decisionPayload approval.id approval.fingerprint) at_.dateParse

def undecided (approval : TimedApproval) : Fault :=
  if approval.status = .consumed then .service "approval_already_decided" "approval was already decided" 409
  else .service "approval_invalid" "approval is invalid" 409

end TimedApproval

def ApprovalStore.decide (env : Environment) (store : ApprovalStore) (approval : TimedApproval) (decision : Decision)
    (idempotencyKey : String) (expectedScopeHash : Option String) (consumedAt : IsoTimestamp) :
    Except Fault (TimedApproval × ApprovalStore) :=
  if approval.inScope expectedScopeHash = false then
    .error (.service "approval_scope_mismatch" "approval scope hash does not match" 409)
  else if approval.runOut consumedAt = true then .error approvalExpired
  else
    let draft := approval.decisionEvent env decision idempotencyKey consumedAt
    match store.consumeApprovalWithEvent approval.id (approval.binding consumedAt) draft with
    | .error fault => .error (rethrowEventConflict draft fault)
    | .ok (none,_) => .error approval.undecided
    | .ok (some consumed,next) => .ok (consumed,next)

def ApprovalStore.cancel (env : Environment) (store : ApprovalStore) (runId idempotencyKey : String) (at_ : IsoTimestamp) :
    Except Fault (Run × ApprovalStore) := do
  let (run,repository) ← store.repository.cancelRunWithEvent runId
    {status := some .cancelled,updatedAt := at_.dateParse,completedAt := some at_.dateParse}
    (eventDraft env runId idempotencyKey "run.cancelled" (.obj []) at_.dateParse)
  .ok (run,{store with repository := repository})

/-- What is done to approvals. A decider may have read its approval at any time. -/
inductive ApprovalOperation where
  | create (input : NewApproval)
  | decide (approval : TimedApproval) (decision : Decision) (idempotencyKey : String) (expectedScopeHash : Option String)
      (at_ : IsoTimestamp)
  | expire (id : String) (binding : ApprovalBinding)
  | cancel (runId idempotencyKey : String) (at_ : IsoTimestamp)

namespace ApprovalStore

def perform (env : Environment) (store : ApprovalStore) : ApprovalOperation → ApprovalStore
  | .create input => ((store.createApproval input.pending).map Prod.snd).toOption.getD store
  | .decide approval decision key hash at_ => ((store.decide env approval decision key hash at_).map Prod.snd).toOption.getD store
  | .expire id binding => (store.expireApproval id binding).2
  | .cancel runId key at_ => ((store.cancel env runId key at_).map Prod.snd).toOption.getD store

def performAll (env : Environment) (store : ApprovalStore) (operations : List ApprovalOperation) : ApprovalStore :=
  operations.foldl (perform env) store

end ApprovalStore
end AgentOS.ControlPlane
