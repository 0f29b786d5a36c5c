import AgentOS.Outbox.Start
import AgentOS.Resumption

/-! Resuming a finished run: its unfinished checkpoints are released, the run is
reopened if nobody moved it meanwhile, and the next generation is recorded and
dispatched. -/
namespace AgentOS.ControlPlane
open Outbox AgentOS.Action

structure ResumeOptions where
  lostExecution : Bool := false

def notResumable (message : String) : Fault := .service "run_not_resumable" message 409

def changedWhileResumed : Fault := notResumable "this run changed while it was being resumed; try again"

def pipelineOf : String → Option Pipeline
  | "feature" => some .feature
  | "goal" => some .goal
  | _ => none

variable (env : Environment)
variable (runId : String)

def resumableRun (options : ResumeOptions) : Action (Run × Pipeline) := do
  match ← readRepository env fun repository => repository.getRun runId with
  | none => throw (.service "not_found" "run not found" 404)
  | some run =>
    match pipelineOf run.pipeline with
    | none => throw (notResumable "only feature and goal runs can be resumed")
    | some pipeline =>
      if run.status ≠ .failed ∧ run.status ≠ .cancelled ∧ ¬ (run.status = .pending ∧ options.lostExecution) then
        throw (notResumable (if run.status = .succeeded then "this run already finished"
          else "this run has not finished; cancel it first, then resume it"))
      else pure (run,pipeline)

def releaseRunForResume : Action Nat :=
  checkpoint env fun _ store => .ok (store.releaseRunForResume runId)

def reopen (run : Run) (statuses : List RunStatus) (at_ : Instant) : Action (Option Run) :=
  repository env fun _ repository => repository.transitionRun run.id statuses
    {status := some .pending,error := some .null,output := some .null,updatedAt := at_} (some run.stateVersion)

def recordResume (draft : EventDraft) : Action Event :=
  repository env fun _ repository => repository.appendEvent draft

def resumedStart (pipeline : Pipeline) (generation : Nat) : StartRequest where
  idempotencyKey := "workflow-start:" ++ runId ++ ":resume:" ++ toString generation
  runId := runId
  pipeline := pipeline
  resumeGeneration := some generation

def dispatchResumed (request : StartRequest) : Action Unit :=
  if env.composition.workflowDispatch then do
    let _ ← (requestStart env request).outcome
    pure ()
  else pure ()

def project (run : Run) : Action Run := ask env fun _ => run

/-- Reopens the released run, then records and dispatches its next generation. -/
def reopenRun (run : Run) (pipeline : Pipeline) (generation : Nat) : Action Run := do
  let at_ ← Action.now env
  match ← reopen env run [.failed,.cancelled,.pending] at_ with
  | none => throw changedWhileResumed
  | some reopened => do
    let _ ← recordResume env {resumedEvent runId generation at_ with runId := run.id}
    dispatchResumed env (resumedStart runId pipeline generation)
    project env reopened

def resumeRun (options : ResumeOptions) : Action Run :=
  if ¬ env.composition.runResumption then
    throw (.service "run_not_resumable" "resuming runs is not configured" 503)
  else do
    let (run,pipeline) ← resumableRun env runId options
    let effects ← listEffects env runId
    let _ ← releaseRunForResume env runId
    reopenRun env runId run pipeline (nextResumeGeneration effects)

end AgentOS.ControlPlane
