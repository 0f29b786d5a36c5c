import AgentOS.ControlPlane.Reconciliation
import AgentOS.Outbox.OrphanRules
import AgentOS.System.RefusedResume
import AgentOS.Workflow.Deadline

/-! The two clocks of a feature run. A reconciliation pass reads the run's
deadline off its approval or its creation, the workflow off everything an
operator decided on it: they agree exactly where nothing was decided later than
the instant the pass goes by. -/
namespace AgentOS.System
open Library Outbox ControlPlane Routine AgentOS.Action
variable {env : Environment} {runId : String}

/-! ### What a pass can do to the run -/

def LeavesRun (runId : String) (errors : Json → Prop) (before after : Repository) : Prop :=
  ∀ earlier, before.getRun runId = some earlier → ∃ later, after.getRun runId = some later ∧
    (later = earlier ∨ later.status = .failed ∧ ∃ error, later.error = some error ∧ errors error)

namespace LeavesRun
variable {errors : Json → Prop} {first second third : Repository}

theorem same (kept : second.runs = first.runs) : LeavesRun runId errors first second := by
  intro earlier found
  refine ⟨earlier,?_,.inl rfl⟩
  rw [Repository.getRun,kept]
  exact found

theorem trans (left : LeavesRun runId errors first second) (right : LeavesRun runId errors second third) :
    LeavesRun runId errors first third := by
  intro earlier found
  obtain ⟨middle,middleFound,reached⟩ := left earlier found
  obtain ⟨later,laterFound,ended⟩ := right middle middleFound
  refine ⟨later,laterFound,?_⟩
  rcases ended with rfl | failed
  · exact reached
  · exact .inr failed

theorem transition {id : String} {statuses : List RunStatus} {update : RunUpdate} {version : Option Nat}
    {answer : Option Run} {error : Json} (ok : first.transitionRun id statuses update version = .ok (answer,second))
    (fails : update.status = some .failed) (named : update.error = some error) (listed : errors error) :
    LeavesRun runId errors first second := by
  intro earlier found
  rcases Repository.transitionRun_ok ok with ⟨_,rfl⟩ | ⟨current,moved,currentFound,_,rfl,_,rfl⟩
  · exact ⟨earlier,found,.inl rfl⟩
  · rw [Repository.getRun_setRun]
    split
    · refine ⟨_,rfl,.inr ⟨?_,error,?_,listed⟩⟩
      · simp [Repository.updated,fails]
      · simp [Repository.updated,named]
    · exact ⟨earlier,found,.inl rfl⟩

end LeavesRun

structure Spares (runId : String) (errors : Json → Prop) (before after : World) : Prop where
  run : LeavesRun runId errors before.repository after.repository
  approvals : after.repository.approvals = before.repository.approvals

namespace Spares
variable {errors : Json → Prop} {first second : World}

theorem same (kept : second.repository = first.repository) : Spares runId errors first second :=
  ⟨.same (congrArg _ kept),congrArg _ kept⟩

theorem steps (taken : Relation.ReflTransGen (Spares runId errors) first second) : Spares runId errors first second := by
  induction taken with
  | refl => exact .same rfl
  | tail _ last ih => exact ⟨ih.run.trans last.run,last.approvals.trans ih.approvals⟩

end Spares

def orphanedError : Json := .obj [("code",.str "orphaned_runtime_session")]

variable {before after : Repository} {run : Run}

theorem appendUsage_spares {usage record : UsageRecord} (ok : before.appendUsage usage = .ok (record,after)) :
    after.runs = before.runs ∧ after.approvals = before.approvals := by
  rcases Repository.appendUsage_ok ok with rfl | rfl <;> exact ⟨rfl,rfl⟩

theorem transitionRun_spares {id : String} {statuses : List RunStatus} {update : RunUpdate}
    {version : Option Nat} {answer : Option Run} (ok : before.transitionRun id statuses update version = .ok (answer,after)) :
    after.approvals = before.approvals := by
  rcases Repository.transitionRun_ok ok with ⟨_,rfl⟩ | ⟨_,_,_,_,_,_,rfl⟩ <;> rfl

theorem orphans_spare : Orphans (Spares runId (· = orphanedError)) where
  passed _ := .same rfl
  kept _ _ _ _ := .same rfl
  charged _ _ _ _ ok := ⟨.same (appendUsage_spares ok).1,(appendUsage_spares ok).2⟩
  failed _ _ _ _ _ _ _ ok := ⟨.transition ok rfl rfl rfl,transitionRun_spares ok⟩

theorem refreshed_spares (listed : Run) : (refreshed env listed).Takes (Spares runId (· = orphanedError)) := by
  unfold refreshed
  split
  · refine .bind (orphans_spare.requestOrphanReconciliation _).outcome fun answer => ?_
    cases answer with
    | error fault => exact takes_pure _
    | ok _ => exact .bind (takes_readRepository fun _ => .same rfl) fun _ => takes_pure _
  · exact takes_pure _

theorem refreshed_ok {run answer : Run} {world after : World} (found : world.repository.getRun run.id = some run)
    (ok : (refreshed env run).exec world = (.ok (some answer),after)) : after.repository.getRun run.id = some answer := by
  unfold refreshed at ok
  split at ok
  · rw [exec_bind_ok] at ok
    obtain ⟨reconciled,middle,reconciling,ok⟩ := ok
    cases reconciled with
    | error fault => cases ok
    | ok _ =>
      rw [exec_bind_ok] at ok
      obtain ⟨read,_,reading,ok⟩ := ok
      obtain ⟨_,rfl,rfl⟩ := exec_readRepository_ok.mp reading
      cases ok
      have spares : (requestOrphanReconciliation env (orphanReconcileRequest run.id)).Takes
          (Spares run.id (· = orphanedError)) := orphans_spare.requestOrphanReconciliation _
      have taken := spares.outcome.exec world
      rw [reconciling] at taken
      obtain ⟨later,laterFound,_⟩ := (Spares.steps taken).run run found
      rw [World.ticked_repository,laterFound]
      rfl
  · cases ok
    exact found

/-! ### When the clock fails the run -/

def approvalOf (repository : Repository) (runId : String) : Option Approval :=
  (repository.listApprovals runId (some .pending) 100 none ++ repository.listApprovals runId (some .consumed) 100 none).find?
    fun approval => approval.scope = SPEC_DOD_SCOPE

def passAnchor (repository : Repository) (run : Run) : Instant := anchored run (approvalOf repository run.id)

def TimesOut (runId : String) (before after : Repository) : Prop :=
  ∃ earlier later, before.getRun runId = some earlier ∧ earlier.status ∈ ACTIVE_RUN_STATUSES ∧
    after.getRun runId = some later ∧ later.status = .failed ∧ later.error = some FailCode.workflowDeadlineExceeded.error

theorem LeavesRun.not_timesOut {errors : Json → Prop} (leaves : LeavesRun runId errors before after)
    (others : ¬ errors FailCode.workflowDeadlineExceeded.error) : ¬ TimesOut runId before after := by
  rintro ⟨earlier,later,found,active,laterFound,failed,deadline⟩
  obtain ⟨left,leftFound,same | ⟨_,error,named,listed⟩⟩ := leaves earlier found
  · rw [leftFound] at laterFound
    cases laterFound
    rw [← same,failed] at active
    simp [ACTIVE_RUN_STATUSES] at active
  · rw [leftFound] at laterFound
    cases laterFound
    rw [deadline] at named
    cases named
    exact others listed

theorem orphaned_no_deadline : ¬ FailCode.workflowDeadlineExceeded.error = orphanedError := by decide

theorem exec_specDodApproval_ok {target : String} {answer : Option Approval} {world after : World}
    (ok : (specDodApproval env target).exec world = (.ok answer,after)) : answer = approvalOf world.repository target := by
  unfold specDodApproval at ok
  simp only [exec_bind_ok,exec_readRepository_ok] at ok
  obtain ⟨pending,_,⟨_,rfl,rfl⟩,consumed,_,⟨_,rfl,rfl⟩,answered⟩ := ok
  cases answered
  rfl

theorem specDodApproval_takes {step : World → World → Prop} (target : String)
    (passed : ∀ world, step world world.ticked) : (specDodApproval env target).Takes step :=
  .bind (takes_readRepository passed) fun _ => .bind (takes_readRepository passed) fun _ => takes_pure _

section
variable {step : World → World → Prop} (passed : ∀ world, step world world.ticked)
  (expired : ∀ (world : World) id target scope fingerprint at_ answer next,
    (.ok (world.repository.expireApproval id target scope fingerprint at_) : Except Fault _) = .ok (answer,next) →
    step world {world.ticked with repository := next})
include passed expired

theorem failCode_takes (run : Run) (now : Instant) : (failCode env run now).Takes step := by
  have childRuns : ∀ progress, (goalChildren env run progress).Takes step := by
    intro progress
    induction progress with
    | nil => exact takes_pure _
    | cons progress rest ih =>
      unfold goalChildren
      split
      · exact ih
      · exact .bind (takes_readRepository passed) fun _ => .bind ih fun _ => takes_pure _
  have timeout : (ControlPlane.workflowTimeoutMs env run).Takes step := by
    unfold ControlPlane.workflowTimeoutMs
    split
    · exact takes_pure _
    · refine .bind (takes_readRepository passed) fun snapshots => ?_
      split <;> exact takes_pure _
  unfold failCode
  split
  · exact takes_pure _
  split
  · refine .bind (specDodApproval_takes _ passed) fun found => ?_
    cases found with
    | none => exact takes_pure _
    | some approval =>
      dsimp only
      split
      · exact .bind (takes_repository passed fun _ world answer next ok =>
          expired world _ _ _ _ _ answer next ok) fun _ => takes_pure _
      · exact takes_pure _
  split
  · refine .bind (specDodApproval_takes _ passed) fun _ => ?_
    split <;> exact takes_pure _
  · refine .bind (.bind (takes_readRepository passed) fun progress => childRuns progress) fun children => ?_
    split
    · exact takes_pure _
    · refine .bind timeout fun cap => ?_
      split <;> exact takes_pure _

theorem expirePending_takes (target : String) (now : Instant) (pages : Nat) (after : Option Cursor) :
    (expirePending env target now pages after).Takes step := by
  induction pages generalizing after with
  | zero => exact takes_pure _
  | succ pages ih =>
    refine .bind (takes_readRepository passed) fun approvals => .bind ?_ fun _ => ?_
    · exact takes_forM fun approval _ => .bind (takes_repository passed fun _ world answer next ok =>
        expired world _ _ _ _ _ answer next ok) fun _ => takes_pure _
    · split
      · split
        · exact takes_pure _
        · exact ih _
      · exact takes_pure _

theorem reconcileRun_takes (orphans : Orphans step) (failed : ∀ (world : World) id statuses code now version answer next,
      world.repository.transitionRun id statuses (failure code now) version = .ok (answer,next) →
      step world {world.ticked with repository := next}) (run : Run) : (reconcileRun env run).Takes step := by
  have failing : ∀ run code now, (failRun env run code now).Takes step := by
    intro run code now
    refine .bind (takes_repository passed fun _ world answer next ok =>
      failed world _ _ code now _ answer next ok) fun moved => ?_
    cases moved with
    | none => exact takes_pure _
    | some failed => exact .bind (expirePending_takes passed expired _ _ _ _) fun _ => takes_pure _
  have refreshing : (refreshed env run).Takes step := by
    unfold refreshed
    split
    · refine .bind (orphans.requestOrphanReconciliation _).outcome fun answer => ?_
      cases answer with
      | error fault => exact takes_pure _
      | ok _ => exact .bind (takes_readRepository passed) fun _ => takes_pure _
    · exact takes_pure _
  refine .bind (takes_now passed) fun now => .bind refreshing fun found => ?_
  cases found with
  | none => exact takes_pure _
  | some run =>
    refine .bind (.bind (failCode_takes passed expired run now) fun code => ?_) fun _ => takes_pure _
    cases code with
    | none => exact takes_pure _
    | some code => exact failing run code now

end

theorem failCode_runs (run : Run) (now : Instant) : (failCode env run now).Keeps fun world => world.repository.runs := by
  apply failCode_takes
  · exact fun _ => rfl
  · exact fun _ _ _ _ _ _ _ _ ok => Repository.expireApproval_runs ok

theorem expirePending_runs (target : String) (now : Instant) (pages : Nat) (after : Option Cursor) :
    (expirePending env target now pages after).Keeps fun world => world.repository.runs := by
  apply expirePending_takes
  · exact fun _ => rfl
  · exact fun _ _ _ _ _ _ _ _ ok => Repository.expireApproval_runs ok

variable {world : World} {now : Instant}

theorem failCode_deadline {world after : World} (feature : run.pipeline = "feature")
    (ok : (failCode env run now).exec world = (.ok (some .workflowDeadlineExceeded),after)) :
    run.status ≠ .waiting ∧ passAnchor world.repository run + MAX_WORKFLOW_TIMEOUT_MS ≤ now := by
  unfold failCode at ok
  split at ok
  · cases ok
  split at ok
  · unfold waitingFailCode at ok
    rw [exec_bind_ok] at ok
    obtain ⟨found,_,_,ok⟩ := ok
    cases found with
    | none => cases ok
    | some approval =>
      dsimp only at ok
      split at ok
      · rw [exec_bind_ok] at ok
        obtain ⟨_,_,_,ok⟩ := ok
        cases ok
      · cases ok
  · rename_i waiting
    rw [featureFailCode,exec_bind_ok] at ok
    obtain ⟨found,_,reading,ok⟩ := ok
    have same := exec_specDodApproval_ok reading
    split at ok
    · rename_i late
      rw [same] at late
      exact ⟨waiting,late⟩
    · cases ok

theorem leavesRun_steps {errors : Json → Prop} {before after : World}
    (taken : Relation.ReflTransGen (fun before after : World => LeavesRun runId errors before.repository after.repository)
      before after) : LeavesRun runId errors before.repository after.repository := by
  induction taken with
  | refl => exact .same rfl
  | tail _ last ih => exact ih.trans last

theorem failRun_leaves (run : Run) (code : FailCode) (now : Instant) :
    (failRun env run code now).Takes fun before after =>
      LeavesRun runId (· = code.error) before.repository after.repository := by
  refine .bind (takes_repository (fun _ => .same rfl) fun _ _ _ _ ok => .transition ok rfl rfl rfl) fun moved => ?_
  cases moved with
  | none => exact takes_pure _
  | some failed => exact .bind ((expirePending_runs _ _ _ _).mono fun _ _ kept => .same kept) fun _ => takes_pure _

theorem timeOut_timesOut {steps : Nat} (feature : run.pipeline = "feature")
    (timed : TimesOut runId world.repository ((timeOut env run now).cut steps world).repository) :
    run.status ≠ .waiting ∧ passAnchor world.repository run + MAX_WORKFLOW_TIMEOUT_MS ≤ now := by
  have unmoved : ∀ after : World, after.repository.runs = world.repository.runs →
      ¬ TimesOut runId world.repository after.repository := by
    intro after kept
    have same : LeavesRun runId (fun _ => False) world.repository after.repository := .same kept
    exact same.not_timesOut id
  unfold timeOut at timed
  rcases cut_bind (failCode env run now) _ steps world with early | ⟨answer,middle,later,decided,late⟩
  · rw [early] at timed
    exact absurd timed (unmoved _ (Keeps.cut (failCode_runs run now) steps world))
  · rw [late] at timed
    have kept := (failCode_runs run now).of_exec decided
    cases answer with
    | none =>
      rw [cut_pure] at timed
      exact absurd timed (unmoved _ kept)
    | some code =>
      have failing : (failRun env run code now).Takes fun before after =>
          LeavesRun runId (· = code.error) before.repository after.repository := failRun_leaves run code now
      have leaves := LeavesRun.trans (LeavesRun.same kept) (leavesRun_steps (failing.cut later middle))
      have deadline : code = .workflowDeadlineExceeded := by
        by_contra other
        exact leaves.not_timesOut (fun same => other (FailCode.error_injective same).symm) timed
      rw [deadline] at decided
      exact failCode_deadline feature decided

theorem cut_timeOut (run : Run) (now : Instant) (steps : Nat) (world : World) :
    ∃ cutOff, (do let run ← timeOut env run now; pure (some run)).cut steps world =
      (timeOut env run now).cut cutOff world := by
  rcases cut_bind (timeOut env run now) (fun run => pure (some run)) steps world with early | ⟨_,ended,_,ending,late⟩
  · exact ⟨steps,early⟩
  · obtain ⟨all,same⟩ := exists_cut (timeOut env run now) world
    rw [cut_pure] at late
    rw [ending] at same
    exact ⟨all,late.trans same.symm⟩

theorem approvalOf_congr {target : String} (same : after.approvals = before.approvals) :
    approvalOf after target = approvalOf before target := by
  unfold approvalOf Repository.listApprovals
  rw [same]

theorem reconcileRun_timesOut {steps : Nat} (found : world.repository.getRun run.id = some run) (feature : run.pipeline = "feature")
    (timed : TimesOut run.id world.repository ((reconcileRun env run).cut steps world).repository) :
    run.status ≠ .waiting ∧ passAnchor world.repository run + MAX_WORKFLOW_TIMEOUT_MS ≤ env.clock world.tick := by
  have orphans : ∀ after : World, Spares run.id (· = orphanedError) world after →
      ¬ TimesOut run.id world.repository after.repository :=
    fun after spared => spared.run.not_timesOut orphaned_no_deadline
  unfold reconcileRun at timed
  rcases cut_bind (now env) _ steps world with early | ⟨at_,started,later,clock,late⟩
  · rw [early] at timed
    exact absurd timed (orphans _ (.steps ((takes_now fun _ => .same rfl).cut steps world)))
  obtain ⟨rfl,rfl⟩ := exec_now_ok.mp clock
  rw [late] at timed
  have passed : Spares run.id (· = orphanedError) world world.ticked := .same rfl
  have spares : (refreshed env run).Takes (Spares run.id (· = orphanedError)) := refreshed_spares run
  rcases cut_bind (refreshed env run) _ later world.ticked with early | ⟨answer,middle,rest,refreshing,late⟩
  · rw [early] at timed
    exact absurd timed (orphans _ (.steps (.head passed (spares.cut later world.ticked))))
  rw [late] at timed
  have taken := spares.exec world.ticked
  rw [refreshing] at taken
  have spared : Spares run.id (· = orphanedError) world middle := .steps (.head passed taken)
  cases answer with
  | none =>
    rw [cut_pure] at timed
    exact absurd timed (orphans _ spared)
  | some read =>
    have same : world.ticked.repository.getRun run.id = some run := found
    have readFound := refreshed_ok same refreshing
    obtain ⟨stored,storedFound,reached⟩ := spared.run run found
    rw [readFound] at storedFound
    cases storedFound
    obtain ⟨cutOff,same⟩ := cut_timeOut read (env.clock world.tick) rest middle
    dsimp only at timed
    rw [same] at timed
    rcases reached with rfl | ⟨failed,_⟩
    · obtain ⟨earlier,later,_,active,laterFound,ended⟩ := timed
      have again : TimesOut read.id middle.repository ((timeOut env read (env.clock world.tick)).cut cutOff middle).repository :=
        ⟨read,later,readFound,by simp_all,laterFound,ended⟩
      have ran := timeOut_timesOut feature again
      rwa [passAnchor,approvalOf_congr spared.approvals] at ran
    · have idle : timeOut env read (env.clock world.tick) = pure read := by
        rw [timeOut,failCode,if_pos (.inl (by simp [ACTIVE_RUN_STATUSES,failed]))]
        rfl
      rw [idle,cut_pure] at timed
      exact absurd timed (orphans _ spared)

theorem exec_featureFailCode (answers : ∀ tick, env.outage tick = .none)
    (late : passAnchor world.repository run + MAX_WORKFLOW_TIMEOUT_MS ≤ now) :
    (featureFailCode env run now).exec world = (.ok (some .workflowDeadlineExceeded),world.ticked.ticked) := by
  have pending : (specDodApproval env run.id).exec world =
      (.ok (approvalOf world.repository run.id),world.ticked.ticked) := by
    unfold specDodApproval
    rw [exec_bind_ok]
    refine ⟨_,world.ticked,exec_readRepository_ok.mpr ⟨answers _,rfl,rfl⟩,?_⟩
    rw [exec_bind_ok]
    exact ⟨_,world.ticked.ticked,exec_readRepository_ok.mpr ⟨answers _,rfl,rfl⟩,rfl⟩
  rw [featureFailCode,exec_bind_ok]
  refine ⟨_,_,pending,?_⟩
  rw [if_pos (show now ≥ anchored run (approvalOf world.repository run.id) + MAX_WORKFLOW_TIMEOUT_MS from late)]
  rfl

theorem exec_failRun (code : FailCode) (now : Instant)
    (answers : ∀ tick, env.outage tick = .none) (found : world.repository.getRun run.id = some run)
    (active : run.status ∈ ACTIVE_RUN_STATUSES) :
    ∃ later, ((failRun env run code now).exec world).2.repository.getRun run.id = some later ∧
      later.status = .failed ∧ later.error = some code.error := by
  let moved : Run := {Repository.updated run (failure code now) with stateVersion := run.stateVersion + 1}
  let failing : World := {world.ticked with repository := world.repository.setRun moved}
  have transition : world.repository.transitionRun run.id ACTIVE_RUN_STATUSES (failure code now) (some run.stateVersion) =
      .ok (some moved,world.repository.setRun moved) := by
    have stored : world.repository.runs.get? run.id = some run := found
    simp [Repository.transitionRun,Repository.requireRun,stored,active,bind,Except.bind,moved]
  have called : (repository env fun _ repository => repository.transitionRun run.id ACTIVE_RUN_STATUSES
      (failure code now) (some run.stateVersion)).exec world = (.ok (some moved),failing) :=
    exec_repository_ok.mpr ⟨answers _,transition,rfl,rfl,rfl,rfl,rfl⟩
  have rest : (do expirePending env moved.id now 10 none; pure moved : Action Run).Keeps fun world => world.repository.runs :=
    .bind (expirePending_runs _ _ _ _) fun _ => takes_pure _
  have kept := Keeps.exec rest failing
  refine ⟨moved,?_,rfl,rfl⟩
  rw [failRun,exec_bind,called]
  change (Routine.exec _ failing).2.repository.runs.get? run.id = some moved
  rw [kept]
  exact (Repository.getRun_setRun world.repository moved run.id).trans (if_pos rfl)

theorem exists_timesOut {repository : Repository} (found : repository.getRun run.id = some run)
    (feature : run.pipeline = "feature") (running : run.status ∈ [RunStatus.pending,.running]) :
    ∃ env world steps, world.repository = repository ∧ env.clock world.tick = passAnchor repository run + MAX_WORKFLOW_TIMEOUT_MS ∧
      TimesOut run.id repository ((reconcileRun env run).cut steps world).repository := by
  let now := passAnchor repository run + MAX_WORKFLOW_TIMEOUT_MS
  let env : Environment := {Environment.steady with clock := fun _ => now}
  let world : World := {repository := repository}
  let reread : World := world.ticked.ticked.ticked.ticked
  have answers : ∀ tick, env.outage tick = .none := fun _ => rfl
  have active : run.status ∈ ACTIVE_RUN_STATUSES ∧ run.status ≠ .waiting := by
    simp only [List.mem_cons,List.not_mem_nil,or_false] at running
    rcases running with status | status <;> simp [ACTIVE_RUN_STATUSES,status]
  have read : (refreshed env run).exec world.ticked = (.ok (some run),reread) := by
    rw [refreshed,if_pos ⟨feature,rfl⟩]
    change (Except.ok (some ((repository.getRun run.id).getD run)),_) = _
    rw [found]
    rfl
  have late : (failCode env run now).exec reread = (.ok (some .workflowDeadlineExceeded),reread.ticked.ticked) := by
    have open_ : ¬ (run.status ∉ ACTIVE_RUN_STATUSES ∨ run.pipeline ≠ "feature" ∧ run.pipeline ≠ "goal") := by
      simp [active.1,feature]
    rw [failCode,if_neg open_,if_neg active.2,if_pos feature]
    exact exec_featureFailCode answers (le_refl now)
  have stored : reread.ticked.ticked.repository.getRun run.id = some run := found
  obtain ⟨later,laterFound,failed,deadline⟩ := exec_failRun .workflowDeadlineExceeded now answers stored active.1
  have ends : ((reconcileRun env run).exec world).2 =
      ((failRun env run .workflowDeadlineExceeded now).exec reread.ticked.ticked).2 := by
    have clock : (Action.now env).exec world = (.ok now,world.ticked) := rfl
    rw [reconcileRun,exec_bind,clock]
    dsimp only
    rw [exec_bind,read]
    dsimp only
    rw [exec_bind,timeOut,exec_bind,late]
    dsimp only
    rcases (failRun env run .workflowDeadlineExceeded now).exec reread.ticked.ticked with ⟨answer,after⟩
    cases answer <;> rfl
  obtain ⟨steps,same⟩ := exists_cut (reconcileRun env run) world
  refine ⟨env,world,steps,rfl,rfl,run,later,found,active.1,?_,failed,deadline⟩
  rw [same,ends]
  exact laterFound

/-! ### The two deadlines -/

/-- What was decided on a run, and when. A run never resumed reads as resumed at
the epoch. -/
inductive Decided (repository : Repository) (run : Run) : Instant → Prop where
  | created : Decided repository run run.createdAt
  | unresumed : Decided repository run 0
  | resumed {event : Event} (recorded : event ∈ repository.eventsOf run.id) (resume : event.type = RUN_RESUMED_EVENT) :
      Decided repository run event.occurredAt
  | approved {approval : Approval} {consumedAt : Instant} (bound : repository.getApproval approval.id = some approval)
      (mine : approval.runId = run.id) (scope : approval.scope = SPEC_DOD_SCOPE) (status : approval.status = .consumed)
      (consumed : approval.consumedAt = some consumedAt) : Decided repository run consumedAt

theorem computes_le_iff (repository : Repository) (run : Run) (start : Instant) :
    (∀ deadlineMs, Workflow.Computes repository run deadlineMs → deadlineMs ≤ start + Workflow.workflowTimeoutMs) ↔
      ∀ at_, Decided repository run at_ → at_ ≤ start := by
  constructor
  · intro computed
    have started := computed _ .started
    have anchors : max run.createdAt (latestResume (repository.eventsOf run.id)) ≤ start :=
      (Int.add_le_add_iff_right _).mp started
    obtain ⟨fromEpoch,resumes⟩ := (latestResume_le_iff _ _).mp ((le_max_right _ _).trans anchors)
    rintro at_ (_ | _ | ⟨recorded,resume⟩ | ⟨bound,mine,scope,status,consumed⟩)
    · exact (le_max_left _ _).trans anchors
    · exact fromEpoch
    · exact resumes _ recorded resume
    · have approved := computed _ (.approved bound mine scope status consumed .started)
      exact (Int.add_le_add_iff_right _).mp ((le_max_right _ _).trans approved)
  · intro decided deadlineMs computes
    induction computes with
    | started =>
      apply (Int.add_le_add_iff_right _).mpr
      apply max_le (decided _ .created)
      exact (latestResume_le_iff _ _).mpr ⟨decided _ .unresumed,fun event recorded resume =>
        decided _ (.resumed recorded resume)⟩
    | approved bound mine scope status consumed before ih =>
      apply max_le ih
      exact (Int.add_le_add_iff_right _).mpr (decided _ (.approved bound mine scope status consumed))

/-- A pass that fails a feature run on its deadline finds the workflow's own
deadline past, exactly when nothing was decided on the run later than what the
pass goes by. -/
theorem pass_deadline_agrees_iff (repository : Repository) (run : Run) (found : repository.getRun run.id = some run)
    (feature : run.pipeline = "feature") : (∀ env world steps, world.repository = repository →
      TimesOut run.id repository ((reconcileRun env run).cut steps world).repository →
      ∀ deadlineMs, Workflow.Computes repository run deadlineMs → deadlineMs ≤ env.clock world.tick) ↔
    (run.status ∈ [RunStatus.pending,.running] → ∀ at_, Decided repository run at_ → at_ ≤ passAnchor repository run) := by
  constructor
  · intro agrees running
    obtain ⟨env,world,steps,same,clock,timed⟩ := exists_timesOut found feature running
    apply (computes_le_iff repository run _).mp
    intro deadlineMs computes
    have past := agrees env world steps same timed deadlineMs computes
    rwa [clock] at past
  · rintro latest env world steps rfl timed deadlineMs computes
    obtain ⟨awake,ran⟩ := reconcileRun_timesOut found feature timed
    obtain ⟨earlier,_,earlierFound,active,_⟩ := timed
    rw [found] at earlierFound
    cases earlierFound
    have running : run.status ∈ [RunStatus.pending,.running] := by
      simp only [ACTIVE_RUN_STATUSES,List.mem_cons,List.not_mem_nil,or_false] at active ⊢
      tauto
    exact ((computes_le_iff _ _ _).mpr (latest running) deadlineMs computes).trans ran

def resumedLate : World :=
  ((resumeRun {Environment.steady with clock := fun _ => 7200000} "run-1" {}).exec failedRun).2

def lateRun : Run where
  id := "run-1"
  projectId := "project-1"
  pipeline := "feature"
  status := .pending
  output := some .null
  error := some .null
  createdAt := 0
  updatedAt := 7200000
  stateVersion := 1

theorem pass_deadline_agrees_iff_late : (∀ env world steps, world.repository = resumedLate.repository →
      TimesOut "run-1" resumedLate.repository ((reconcileRun env lateRun).cut steps world).repository →
      ∀ deadlineMs, Workflow.Computes resumedLate.repository lateRun deadlineMs → deadlineMs ≤ env.clock world.tick) ↔
    (lateRun.status ∈ [RunStatus.pending,.running] →
      ∀ at_, Decided resumedLate.repository lateRun at_ → at_ ≤ passAnchor resumedLate.repository lateRun) :=
  pass_deadline_agrees_iff resumedLate.repository lateRun (by decide) rfl

/-- The pass of the very minute in which the run was resumed fails it, while its
execution has an hour. -/
theorem resumedLate_times_out :
    let env : Environment := {Environment.steady with clock := fun _ => 7260000}
    TimesOut "run-1" resumedLate.repository ((reconcileRun env lateRun).exec resumedLate).2.repository ∧
      Workflow.Computes resumedLate.repository lateRun 10800000 ∧ env.clock resumedLate.tick < 10800000 := by
  let failed : Run :=
    {Repository.updated lateRun (failure .workflowDeadlineExceeded 7260000) with stateVersion := lateRun.stateVersion + 1}
  refine ⟨⟨lateRun,failed,by decide,by decide,by decide,rfl,rfl⟩,?_,by decide⟩
  have deadline : max lateRun.createdAt (latestResume (resumedLate.repository.eventsOf "run-1")) +
      Workflow.workflowTimeoutMs = 10800000 := by decide
  rw [← deadline]
  exact .started

end AgentOS.System
