import AgentOS.Resumption

/-! The clock of a feature workflow's own execution. It starts when an operator
last decided: at the run's creation, at its latest resume, and again when its
specification is approved, and never goes back. -/
namespace AgentOS.Workflow
open Library AgentOS.Action

/-- The workflow's `workflowTimeoutMs`. -/
def workflowTimeoutMs : Int := 60 * 60 * 1000

inductive Decision where
  | approve
  | reject
  | expired
  deriving DecidableEq

def visitDecision (approvalId scopeHash : String) (decided : Option Event) (event : Event) : Option Event :=
  let field := fun name => (event.payload.field? name).bind Json.string?
  if (event.type = "approval.approved" ∨ event.type = "approval.rejected") ∧
      field "approvalId" = some approvalId ∧ field "scopeHash" = some scopeHash then decided.or (some event)
  else decided

def decides (approvalId scopeHash : String) (event : Event) : Bool := (visitDecision approvalId scopeHash none event).isSome

theorem foldl_visitDecision {approvalId scopeHash : String} (decided : Option Event) (events : List Event) :
    events.foldl (visitDecision approvalId scopeHash) decided = decided.or (events.find? (decides approvalId scopeHash)) := by
  induction events generalizing decided with
  | nil => cases decided <;> rfl
  | cons event events ih =>
    have first : visitDecision approvalId scopeHash decided event = decided.or (visitDecision approvalId scopeHash none event) := by
      simp only [visitDecision]
      split <;> cases decided <;> rfl
    rw [List.foldl_cons,ih,first,Option.or_assoc,List.find?_cons,decides]
    cases visited : visitDecision approvalId scopeHash none event with
    | none => rfl
    | some found =>
      simp only [visitDecision] at visited
      split at visited <;> cases visited
      rfl

def getAuthoritativeApproval (env : Environment) (runId approvalId scopeHash : String) : Action Decision := do
  match ← readRepository env fun repository => repository.getApproval approvalId with
  | none => throw (.permanent "approval binding mismatch")
  | some approval =>
    if approval.runId ≠ runId ∨ approval.scope ≠ SPEC_DOD_SCOPE ∨ approval.fingerprint ≠ scopeHash then
      throw (.permanent "approval binding mismatch")
    else if approval.status = .expired then pure .expired
    else if approval.status ≠ .consumed then
      throw (.permanent "waitpoint woke without an authoritative approval")
    else match ← scanRunEvents env runId (visitDecision approvalId scopeHash) 1000 none none with
      | none => throw (.permanent "approval decision event is missing")
      | some event => pure (if event.type = "approval.approved" then .approve else .reject)

def startDeadlineMs (env : Environment) (run : Run) : Action Instant := do
  let resumedMs ← latestResumeMs env run.id
  pure (max run.createdAt resumedMs + workflowTimeoutMs)

def approvedDeadlineMs (env : Environment) (deadlineMs : Instant) (approvalId : String) : Action Instant := do
  match (← readRepository env fun repository => repository.getApproval approvalId).bind Approval.consumedAt with
  | none => throw (.permanent "approval_consumed_at_missing")
  | some consumedAt => pure (max deadlineMs (consumedAt + workflowTimeoutMs))

def assertContinuable (env : Environment) (runId projectId : String) (deadlineMs : Instant) : Action Unit := do
  match ← readRepository env fun repository => repository.getRun runId with
  | none => throw (.permanent "workflow run does not exist")
  | some run =>
    if run.projectId ≠ projectId then throw (.permanent "workflow project binding mismatch")
    else if run.status = .cancelled then throw (.permanent "run_cancelled")
    else if run.status = .failed then throw (.permanent "run_failed")
    else do
      let now ← Action.now env
      if now ≥ deadlineMs then throw (.permanent "workflow_deadline_exceeded") else pure ()

inductive Computes (repository : Repository) (run : Run) : Instant → Prop where
  | started : Computes repository run (max run.createdAt (latestResume (repository.eventsOf run.id)) + workflowTimeoutMs)
  | approved {approval : Approval} {consumedAt deadlineMs : Instant}
      (bound : repository.getApproval approval.id = some approval) (mine : approval.runId = run.id)
      (scope : approval.scope = SPEC_DOD_SCOPE) (status : approval.status = .consumed)
      (consumed : approval.consumedAt = some consumedAt) (before : Computes repository run deadlineMs) :
      Computes repository run (max deadlineMs (consumedAt + workflowTimeoutMs))

end AgentOS.Workflow
