import AgentOS.LocalDirect.Recovery
import AgentOS.Outbox.StartRules

/-! Which steps resumes and recovery sweeps take, given those of their parts. -/
namespace AgentOS.LocalDirect
open Library Checkpoint Outbox ControlPlane Routine AgentOS.Action
variable {env : Environment} {step : World → World → Prop}

theorem resumableRun_gives (target : String) (options : ResumeOptions) (passed : ∀ world, step world world.ticked) :
    (resumableRun env target options).Gives step fun found => found.1.id = target := by
  have reading : (readRepository env fun repository => repository.getRun target).Gives step
      fun found => ∀ run ∈ found, run.id = target :=
    gives_readRepository passed fun repository run found => repository.keyed target run found
  apply reading.bind
  intro found keyed
  cases found with
  | none => exact gives_throw _
  | some run =>
    dsimp only
    split
    · exact gives_throw _
    · split
      · exact gives_throw _
      · exact gives_pure (keyed run rfl)

structure RecoversRun (env : Environment) (run : Run) (step : World → World → Prop) : Prop where
  passed : ∀ world, step world world.ticked
  released : ∀ world : World,
    step world {world.ticked with checkpoints := (world.checkpoints.releaseRunForResume run.id).2}
  start : ∀ pipeline generation, (requestStart env (resumedStart run.id pipeline generation)).Takes step
  reopen : ∀ statuses at_, (reopen env run statuses at_).Takes step
  record : ∀ effects at_, (recordResume env (resumedEvent run.id (nextResumeGeneration effects) at_)).Takes step

namespace RecoversRun
variable {run : Run}

theorem dispatched (recovers : RecoversRun env run step) (effects : List Effect) (at_ : Instant) :
    (recordResume env (resumedEvent run.id (nextResumeGeneration effects) at_) >>= fun _ =>
      dispatchRecovered env run (nextResumeGeneration effects) >>= fun _ => pure Recovery.recovered).Takes step := by
  have dispatch : (dispatchRecovered env run (nextResumeGeneration effects)).Takes step := by
    unfold dispatchRecovered
    split
    · exact takes_throw _
    · exact recovers.start _ _
  exact .bind (recovers.record effects at_) fun _ => .bind dispatch fun _ => takes_pure _

theorem recoverRun (recovers : RecoversRun env run step) (options : RecoveryOptions) : (recoverRun env options run).Takes step := by
  have released : (releaseRunForResume env run.id).Takes step := by
    refine takes_checkpoint recovers.passed fun _ world _ _ ok => ?_
    cases ok
    exact recovers.released world
  refine .bind (takes_ask recovers.passed) fun active => ?_
  split
  · exact takes_pure _
  refine .bind (takes_readCheckpoints recovers.passed) fun effects => ?_
  split
  · exact takes_pure _
  refine .bind released fun _ => .bind (takes_now recovers.passed) fun at_ => .bind (recovers.reopen _ _) fun reopened => ?_
  cases reopened with
  | none => exact takes_pure _
  | some reopened => exact recovers.dispatched effects at_

end RecoversRun

structure Resumes (env : Environment) (step : World → World → Prop) : Prop where
  passed : ∀ world, step world world.ticked
  released : ∀ (world : World) target,
    step world {world.ticked with checkpoints := (world.checkpoints.releaseRunForResume target).2}
  start : ∀ target pipeline generation, (requestStart env (resumedStart target pipeline generation)).Takes step
  reopen : ∀ run statuses at_, (reopen env run statuses at_).Takes step
  record : ∀ target effects at_, (recordResume env (resumedEvent target (nextResumeGeneration effects) at_)).Takes step

namespace Resumes
variable (resumes : Resumes env step)
include resumes

theorem releases (target : String) : (releaseRunForResume env target).Takes step := by
  refine takes_checkpoint resumes.passed fun _ world _ _ ok => ?_
  cases ok
  exact resumes.released world target

theorem resumeRun (target : String) (options : ResumeOptions) : (resumeRun env target options).Takes step := by
  unfold ControlPlane.resumeRun
  split
  · exact takes_throw _
  refine (resumableRun_gives target options resumes.passed).then fun found keyed => ?_
  obtain ⟨run,pipeline⟩ := found
  have mine : run.id = target := keyed
  refine .bind (takes_readCheckpoints resumes.passed) fun effects => .bind (resumes.releases _) fun _ => ?_
  refine .bind (takes_now resumes.passed) fun at_ => .bind (resumes.reopen _ _ _) fun reopened => ?_
  cases reopened with
  | none => exact takes_throw _
  | some reopened =>
    have recorded : (recordResume env {resumedEvent target (nextResumeGeneration effects) at_ with
        runId := run.id}).Takes step := by
      rw [mine]
      exact resumes.record target effects at_
    have dispatched : (dispatchResumed env (resumedStart target pipeline (nextResumeGeneration effects))).Takes step := by
      unfold dispatchResumed
      split
      · exact .bind (.outcome (resumes.start _ _ _)) fun _ => takes_pure _
      · exact takes_pure _
    exact .bind recorded fun _ => .bind dispatched fun _ => takes_ask resumes.passed

theorem only (run : Run) : RecoversRun env run step where
  passed := resumes.passed
  released world := resumes.released world run.id
  start := resumes.start run.id
  reopen := resumes.reopen run
  record := resumes.record run.id

theorem recoverRun (options : RecoveryOptions) (run : Run) : (recoverRun env options run).Takes step :=
  (resumes.only run).recoverRun options

theorem recoverLocalDirectRuns (options : RecoveryOptions) : (recoverLocalDirectRuns env options).Takes step := by
  have swept : ∀ runs, (sweep env options runs).Takes step := by
    intro runs
    induction runs with
    | nil => exact takes_pure _
    | cons run runs ih =>
      exact .bind (.outcome (resumes.recoverRun options run)) fun _ => .bind ih fun _ => takes_pure _
  exact .bind (takes_readRepository resumes.passed) fun _ => .bind (takes_readRepository resumes.passed) fun _ =>
    .bind (swept _) fun _ => takes_pure _

end Resumes
end AgentOS.LocalDirect
