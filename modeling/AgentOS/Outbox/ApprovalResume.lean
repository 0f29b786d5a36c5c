import AgentOS.Outbox.Start

/-! The request that wakes a workflow which waits for an approval. Its payload
only wakes; the decision is read back from the repository. -/
namespace AgentOS.Outbox
open Library Routine AgentOS.Action

inductive Decision where
  | approve
  | reject
  deriving DecidableEq

def Decision.text : Decision → String
  | .approve => "approve"
  | .reject => "reject"

structure ApprovalResumeRequest extends Request where
  approvalId : String
  decision : Decision
  scopeHash : String
  deriving DecidableEq

namespace ApprovalResumeRequest

def fingerprint (request : ApprovalResumeRequest) : Fingerprint :=
  .obj [("approvalId",.str request.approvalId),("decision",.str request.decision.text),
    ("idempotencyKey",.str request.idempotencyKey),("runId",.str request.runId),("scopeHash",.str request.scopeHash)]

end ApprovalResumeRequest

def wake (env : Environment) (_waitpointRef : String) : Action Unit := ask env fun _ => ()

def requestApprovalResume (env : Environment) (request : ApprovalResumeRequest) : Action Unit := do
  let waitpoint ← getEffect env ("waitpoint:" ++ request.runId ++ ":" ++ request.approvalId)
  match waitpoint.bind (·.externalRef) with
  | none => throw (.error "approval waitpoint has no persisted Trigger reference")
  | some waitpointRef => do
    let (effect,lease) ← ownedClaim env request.toRequest request.fingerprint "trigger-approval-resume"
    if effect.status = .succeeded then pure ()
    else do
      let _ ← markEffectStarted env lease
      wake env waitpointRef
      let _ ← completeEffect env lease (.obj [("waitpointRef",.str waitpointRef)])
      pure ()

theorem requestApprovalResume_takes {env : Environment} {step : World → World → Prop} (request : ApprovalResumeRequest)
    (passed : ∀ world, step world world.ticked)
    (stored : ∀ (world : World) store, step world {world.ticked with checkpoints := store}) :
    (requestApprovalResume env request).Takes step := by
  unfold requestApprovalResume
  refine .bind (takes_readCheckpoints passed) fun waitpoint => ?_
  split
  · exact takes_throw _
  · refine .bind (ownedClaim_takes _ _ _ passed fun world _ _ store _ => stored world store) fun (effect,lease) => ?_
    dsimp only
    split
    · exact takes_pure _
    · exact .bind (takes_checkpoint passed fun _ world _ store _ => stored world store) fun _ =>
        .bind (takes_ask passed) fun _ => .bind (takes_checkpoint passed fun _ world _ store _ => stored world store)
          fun _ => takes_pure _

end AgentOS.Outbox
