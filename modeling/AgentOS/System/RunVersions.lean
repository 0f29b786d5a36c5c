import AgentOS.System.Bystanders

/-! Compare-and-set on a run. A transition advances the version that others
compare, a cancellation does not: a transition based on an older read gets
through where a cancellation came between, if it accepts cancelled runs. -/
namespace AgentOS.System
open Library Outbox ControlPlane LocalDirect AgentOS.Action
variable {env : Environment} {runId : String} {before after : Repository}

/-! ### What an operation does to the run -/

def Cancels (runId : String) (before after : Repository) : Prop :=
  ∃ update draft run, before.cancelRunWithEvent runId update draft = .ok (run,after) ∧ before.getRun runId ≠ some run

/-- Everything an operation can do to a run: leave it, move it on by a version, or cancel it as it is. -/
inductive RunStep (runId : String) (before after : Repository) : Prop
  | kept (same : after.getRun runId = before.getRun runId) : RunStep runId before after
  | moved {run next : Run} (found : before.getRun runId = some run) (now : after.getRun runId = some next)
      (version : next.stateVersion = run.stateVersion + 1) : RunStep runId before after
  | cancelled {run next : Run} (found : before.getRun runId = some run) (now : after.getRun runId = some next)
      (version : next.stateVersion = run.stateVersion) (live : run.status ∉ TERMINAL) (status : next.status = .cancelled)
      (cancels : Cancels runId before after) : RunStep runId before after

namespace RunStep

variable {target : String} {answer : Option Approval} {draft : EventDraft}

variable {request : Repository.ConsumeApprovalRequest} {repository : Repository} {run : Run} {update : RunUpdate}

theorem stored_here (key : run.id = target) (same : runId = target) : (repository.setRun run).getRun runId = some run := by
  rw [Repository.getRun_setRun,if_pos (same.trans key.symm)]

theorem stored_elsewhere (key : run.id = target)
    (different : runId ≠ target) : (repository.setRun run).getRun runId = repository.getRun runId := by
  rw [Repository.getRun_setRun,if_neg fun same => different (same.trans key)]

theorem of_runs (same : after.runs = before.runs) : RunStep runId before after :=
  .kept (congrArg (fun runs : OrderedMap String Run => runs.get? runId) same)

theorem transition {statuses : List RunStatus} {version : Option Nat}
    {answer : Option Run} (ok : before.transitionRun target statuses update version = .ok (answer,after)) :
    RunStep runId before after := by
  rcases Repository.transitionRun_ok ok with ⟨_,rfl⟩ | ⟨current,moved,found,_,rfl,_,rfl⟩
  · exact .of_runs rfl
  · have key : current.id = target := before.keyed _ _ found
    by_cases same : runId = target
    · exact .moved (same ▸ found) (stored_here key same) rfl
    · exact .kept (stored_elsewhere key same)

theorem cancel (ok : before.cancelRunWithEvent target update draft = .ok (run,after)) : RunStep runId before after := by
  obtain ⟨current,found,⟨_,rfl⟩ | ⟨live,rfl,staged,_,rfl⟩⟩ := Repository.cancelRunWithEvent_ok ok
  · exact .of_runs rfl
  have named : current.id = target := before.keyed _ _ found
  have key : ({Repository.updated current update with status := .cancelled} : Run).id = target := named
  by_cases same : runId = target
  · subst same
    refine .cancelled found (stored_here key rfl) rfl live rfl ⟨_,_,_,ok,fun unchanged => ?_⟩
    have status := congrArg (Option.map Run.status) (found.symm.trans unchanged)
    simp only [Option.map_some,Option.some.injEq] at status
    exact live (by simp [status])
  · have elsewhere : (before.commitStagedEvent staged).getRun runId = before.getRun runId := by
      rw [Repository.getRun,(before.commitStagedEvent_eq staged).1]
      rfl
    exact .kept ((stored_elsewhere key same).trans elsewhere)

theorem expire {approvalId runId scope fingerprint : String} {at_ : Instant}
    (ok : (.ok (before.expireApproval approvalId target scope fingerprint at_) : Except Fault _) = .ok (answer,after)) :
    RunStep runId before after := .of_runs (Repository.expireApproval_runs ok)

theorem consume (ok : (.ok (before.consumeApproval request) : Except Fault _) = .ok (answer,after)) : RunStep runId before after := by
  unfold Repository.consumeApproval at ok
  split at ok <;> cases ok <;> exact .of_runs rfl

theorem consumeWithEvent (ok : before.consumeApprovalWithEvent request draft = .ok (answer,after)) : RunStep runId before after := by
  unfold Repository.consumeApprovalWithEvent at ok
  split at ok
  · cases ok
  cases staging : before.stageEvent draft with
  | error fault => simp [staging,bind,Except.bind] at ok
  | ok staged =>
    simp only [staging,bind,Except.bind] at ok
    split at ok
    · split at ok <;> cases ok
      exact .of_runs rfl
    · split at ok <;> cases ok
      · exact .of_runs rfl
      · exact .of_runs (before.commitStagedEvent_eq staged).1

theorem append {event : Event} (ok : before.appendEvent draft = .ok (event,after)) : RunStep runId before after := by
  obtain ⟨staged,_,_,rfl⟩ := Repository.appendEvent_ok ok
  exact .of_runs (before.commitStagedEvent_eq staged).1

end RunStep

/-! ### Histories -/

inductive RunWriter : Thread World → Prop
  | transition (env : Environment) (id : String) (statuses : List RunStatus) (update : Instant → RunUpdate)
      (version : Option Nat) : RunWriter (repository env fun at_ repository =>
        repository.transitionRun id statuses (update at_) version).thread
  | cancellation (env : Environment) (id : String) (update : Instant → RunUpdate) (draft : Instant → EventDraft) :
      RunWriter (repository env fun at_ repository => repository.cancelRunWithEvent id (update at_) (draft at_)).thread
  | consumption (env : Environment) (request : Instant → Repository.ConsumeApprovalRequest) :
      RunWriter (repository env fun at_ repository => .ok (repository.consumeApproval (request at_))).thread
  | recordedConsumption (env : Environment) (request : Instant → Repository.ConsumeApprovalRequest)
      (draft : Instant → EventDraft) : RunWriter (repository env fun at_ repository =>
        repository.consumeApprovalWithEvent (request at_) (draft at_)).thread
  | expiry (env : Environment) (id target scope fingerprint : String) : RunWriter (repository env fun at_ repository =>
        .ok (repository.expireApproval id target scope fingerprint at_)).thread
  | cancel (env : Environment) (id idempotencyKey : String) : RunWriter (cancelRun env id idempotencyKey).thread
  | resume (env : Environment) (target : String) (options : ResumeOptions) : RunWriter (resumeRun env target options).thread

def RunSteps (runId : String) (before after : World) : Prop := RunStep runId before.repository after.repository

theorem passed_runSteps (world : World) : RunSteps runId world world.ticked := .of_runs rfl

theorem requestStart_runSteps (request : StartRequest) : (requestStart env request).Takes (RunSteps runId) := by
  apply requestStart_takes_undispatched ⟨passed_runSteps,fun _ _ _ => .of_runs rfl⟩
  rintro before _ ⟨_,_,_,_,_,_,ok,rfl⟩
  exact .transition ok

theorem resumes_runSteps : Resumes env (RunSteps runId) where
  passed := passed_runSteps
  released _ _ := .of_runs rfl
  start _ _ _ := requestStart_runSteps _
  reopen _ _ _ := takes_repository passed_runSteps fun _ _ _ _ ok => .transition ok
  record _ _ _ := takes_repository passed_runSteps fun _ _ _ _ ok => .append ok

theorem RunWriter.takes {thread : Thread World} (writer : RunWriter thread) : thread.Takes (RunSteps runId) := by
  cases writer with
  | transition => exact (takes_repository passed_runSteps fun _ _ _ _ ok => .transition ok).thread
  | cancellation => exact (takes_repository passed_runSteps fun _ _ _ _ ok => .cancel ok).thread
  | consumption => exact (takes_repository passed_runSteps fun _ _ _ _ ok => .consume ok).thread
  | recordedConsumption => exact (takes_repository passed_runSteps fun _ _ _ _ ok => .consumeWithEvent ok).thread
  | expiry => exact (takes_repository passed_runSteps fun _ _ _ _ ok => .expire ok).thread
  | cancel env id idempotencyKey =>
    exact (cancelRun_takes id idempotencyKey ⟨passed_runSteps,fun _ _ _ => .of_runs rfl⟩ (fun _ _ _ => .of_runs rfl)
      fun _ _ _ _ _ ok => .cancel ok).thread
  | resume env target options => exact (resumes_runSteps.resumeRun target options).thread

def Unchanged {ι : Type} (runId : String) (trace : List (Moment ι World)) : Prop :=
  ∀ moment ∈ trace, moment.after.repository.getRun runId = moment.before.repository.getRun runId

def Cancelled {ι : Type} (runId : String) (trace : List (Moment ι World)) : Prop :=
  ∃ moment ∈ trace, Cancels runId moment.before.repository moment.after.repository

theorem Unchanged.not_cancelled {ι : Type} {trace : List (Moment ι World)} (unchanged : Unchanged runId trace) :
    ¬ Cancelled runId trace := by
  rintro ⟨moment,inside,update,draft,run,ok,changed⟩
  have same := unchanged moment inside
  obtain ⟨current,found,⟨rfl,_⟩ | ⟨_,mine,staged,_,stored⟩⟩ := Repository.cancelRunWithEvent_ok ok
  · exact changed found
  · have named : current.id = runId := moment.before.repository.keyed _ _ found
    have key : run.id = runId := mine ▸ named
    rw [stored,RunStep.stored_here key rfl] at same
    exact changed same.symm

theorem transitionRun_found {statuses : List RunStatus} {update : RunUpdate} {version : Nat} {run moved : Run}
    (ok : before.transitionRun runId statuses update (some version) = .ok (some moved,after))
    (found : before.getRun runId = some run) : run.status ∈ statuses ∧ run.stateVersion = version := by
  unfold Repository.transitionRun Repository.requireRun at ok
  rw [Repository.getRun] at found
  simp only [found,bind,Except.bind] at ok
  split at ok
  · cases ok
  · rename_i expected
    simp only [Option.any_some,decide_eq_true_eq,not_or,not_not] at expected
    exact expected

theorem RunSteps.history {ι : Type} [DecidableEq ι] {pool later : ι → Thread World} {world last : World}
    {trace : List (Moment ι World)} (ran : Interleaved pool world trace later last)
    (steps : ∀ moment ∈ trace, RunSteps runId moment.before moment.after) {run : Run}
    (found : world.repository.getRun runId = some run) :
    ∃ next, last.repository.getRun runId = some next ∧ run.stateVersion ≤ next.stateVersion ∧
      (next.stateVersion = run.stateVersion → Unchanged runId trace ∧ next = run ∨
        run.status ∉ TERMINAL ∧ next.status = .cancelled ∧ Cancelled runId trace) := by
  induction ran generalizing run with
  | done => exact ⟨run,found,Nat.le_refl _,fun _ => .inl ⟨by simp [Unchanged],rfl⟩⟩
  | @step pool _ state _ trace who Answer effect next ready rest ih =>
    have later := fun moment inside => steps moment (List.mem_cons_of_mem _ inside)
    have here : RunStep runId state.repository (effect state).repository := steps ⟨who,state,effect state⟩ List.mem_cons_self
    cases here with
    | kept same =>
      obtain ⟨ended,endFound,grown,cases_⟩ := ih later (same.trans found)
      refine ⟨ended,endFound,grown,fun version => ?_⟩
      rcases cases_ version with ⟨unchanged,same'⟩ | ⟨live,status,moment,inside,cancels⟩
      · refine .inl ⟨fun moment inside => ?_,same'⟩
        rcases List.mem_cons.mp inside with rfl | inside
        · exact same
        · exact unchanged moment inside
      · exact .inr ⟨live,status,moment,List.mem_cons_of_mem _ inside,cancels⟩
    | @moved held next heldFound now version =>
      cases heldFound.symm.trans found
      obtain ⟨ended,endFound,grown,_⟩ := ih later now
      exact ⟨ended,endFound,by omega,fun same => by omega⟩
    | @cancelled held next heldFound now version live status cancels =>
      cases heldFound.symm.trans found
      obtain ⟨ended,endFound,grown,cases_⟩ := ih later now
      refine ⟨ended,endFound,by omega,fun same => .inr ⟨live,?_,_,List.mem_cons_self,cancels⟩⟩
      rcases cases_ (by omega) with ⟨_,same'⟩ | ⟨reopened,_⟩
      · rw [same']
        exact status
      · exact absurd (by simp [status,TERMINAL]) reopened

/-- In every history, a transition that gets through with the version that was
read finds the run as it was read, and no moment since then has changed it,
exactly where it refuses cancelled runs or none of those moments cancelled the run. -/
theorem transition_sees_read_iff {ι : Type} [DecidableEq ι] {pool later : ι → Thread World} {world last : World}
    {early between late : List (Moment ι World)} {read write : Moment ι World} (writers : ∀ who, RunWriter (pool who))
    (ran : Interleaved pool world (early ++ (read::between ++ write::late)) later last) {run : Run}
    (found : read.before.repository.getRun runId = some run) {statuses : List RunStatus} {update : RunUpdate} {moved : Run}
    {next : Repository}
    (ok : write.before.repository.transitionRun runId statuses update (some run.stateVersion) = .ok (some moved,next)) :
    Unchanged runId (read::between) ∧ write.before.repository.getRun runId = some run ↔
      .cancelled ∉ statuses ∨ ¬ Cancelled runId (read::between) := by
  have steps : ∀ moment ∈ early ++ (read::between ++ write::late), RunSteps runId moment.before moment.after :=
    ran.moments fun who => (writers who).takes
  obtain ⟨_,_,_,after⟩ := ran.split
  obtain ⟨_,_,reading,writing⟩ := after.split
  obtain ⟨started,_⟩ := reading.head
  obtain ⟨reached,_⟩ := writing.head
  subst started reached
  have inside : ∀ moment ∈ read::between, RunSteps runId moment.before moment.after := by
    intro moment inside
    exact steps moment (List.mem_append_right _ (List.mem_append_left _ inside))
  constructor
  · rintro ⟨unchanged,_⟩
    exact .inr unchanged.not_cancelled
  · intro condition
    obtain ⟨ended,endFound,_,outcome⟩ := RunSteps.history reading inside found
    obtain ⟨status,version⟩ := transitionRun_found ok endFound
    rcases outcome version with ⟨unchanged,same⟩ | ⟨_,cancelled,cancels⟩
    · exact ⟨unchanged,same ▸ endFound⟩
    · rw [cancelled] at status
      rcases condition with refused | never
      · exact absurd status refused
      · exact absurd cancels never

def queuedRun : Run where
  id := "run-1"
  projectId := "project-1"
  pipeline := "feature"
  status := .pending
  createdAt := 0
  updatedAt := 0

def queuedWorld : World := {repository := Repository.setRun {} queuedRun}

def operators : Fin 2 → Thread World
  | 0 => (resumeRun .steady "run-1" {lostExecution := true}).thread
  | 1 => (cancelRun .steady "run-1" "cancel-1").thread

theorem operators_write (who : Fin 2) : RunWriter (operators who) := by
  match who with
  | 0 => exact .resume _ _ _
  | 1 => exact .cancel _ _ _

def reopening : RunUpdate := {status := some .pending,error := some .null,output := some .null,updatedAt := 0}

def overlapping : List (Moment (Fin 2) World) := (play [0,1,1,1,0,0,0,0] operators queuedWorld).1

theorem overlapping_length : overlapping.length = 8 := by decide +kernel

def overlap (position : Fin 8) : Moment (Fin 2) World :=
  overlapping.get (position.cast overlapping_length.symm)

theorem overlapping_eq : overlapping =
    [] ++ (overlap 0::[overlap 1,overlap 2,overlap 3,overlap 4,overlap 5,overlap 6] ++ overlap 7::[]) := by
  apply List.ext_getElem
  · exact overlapping_length
  · intro position _ inside
    simp only [List.nil_append,List.length_append,List.length_cons,List.length_nil] at inside
    match position with
    | 0 | 1 | 2 | 3 | 4 | 5 | 6 | 7 => rfl

theorem transition_sees_read_iff_resumed :
    let between := [overlap 1,overlap 2,overlap 3,overlap 4,overlap 5,overlap 6]
    Unchanged "run-1" (overlap 0::between) ∧ (overlap 7).before.repository.getRun "run-1" = some queuedRun ↔
      .cancelled ∉ [RunStatus.failed,.cancelled,.pending] ∨ ¬ Cancelled "run-1" (overlap 0::between) := by
  have ran : Interleaved operators queuedWorld overlapping _ _ :=
    interleaved_play [0,1,1,1,0,0,0,0] operators queuedWorld
  rw [overlapping_eq] at ran
  have found : (overlap 0).before.repository.getRun "run-1" = some queuedRun := by decide +kernel
  have gets : ((overlap 7).before.repository.transitionRun "run-1" [.failed,.cancelled,.pending] reopening
      (some queuedRun.stateVersion)).toOption.bind Prod.fst ≠ none := by decide +kernel
  cases done : (overlap 7).before.repository.transitionRun "run-1" [.failed,.cancelled,.pending] reopening
      (some queuedRun.stateVersion) with
  | error fault => simp [done,Except.toOption] at gets
  | ok answer =>
    obtain ⟨answer,next⟩ := answer
    cases answer with
    | none => simp [done,Except.toOption] at gets
    | some moved => exact transition_sees_read_iff operators_write ran found done

/-- The operator's cancellation is committed and the run reopened at the version read before it. -/
theorem resume_undoes_cancellation : (overlap 0).before.repository.getRun "run-1" = some queuedRun ∧
    ((overlap 3).after.repository.getRun "run-1").map Run.status = some .cancelled ∧
    ((overlap 7).before.repository.getRun "run-1").map Run.stateVersion = some queuedRun.stateVersion ∧
    ((overlap 7).before.repository.getRun "run-1").map Run.status = some .cancelled ∧
    ((overlap 7).after.repository.getRun "run-1").map Run.status = some .pending := by
  decide +kernel

/-- Of two transitions that rest on one version of a run, the second does not get through once the first has,
whatever happens in between: no update is lost to another. -/
theorem transitions_exclude {ι : Type} [DecidableEq ι] {pool later : ι → Thread World} {world last : World}
    {early between late : List (Moment ι World)} {first second : Moment ι World} (writers : ∀ who, RunWriter (pool who))
    (ran : Interleaved pool world (early ++ first::(between ++ second::late)) later last) {version : Nat} {moved : Run}
    {firstStatuses secondStatuses : List RunStatus} {firstUpdate secondUpdate : RunUpdate}
    (ok : first.before.repository.transitionRun runId firstStatuses firstUpdate (some version) =
      .ok (some moved,first.after.repository)) (again : Run) (next : Repository) :
    second.before.repository.transitionRun runId secondStatuses secondUpdate (some version) ≠ .ok (some again,next) := by
  intro okAgain
  have steps : ∀ moment ∈ between, RunSteps runId moment.before moment.after := by
    intro moment inside
    exact ran.moments (fun who => (writers who).takes) moment (by simp [inside])
  obtain ⟨_,_,meanwhile⟩ := ran.between
  rcases Repository.transitionRun_ok ok with ⟨none_,_⟩ | ⟨current,moved,found,_,made,_,stored⟩
  · cases none_
  rcases Repository.transitionRun_ok okAgain with ⟨none_,_⟩ | ⟨held,_,heldFound,_,_,_,_⟩
  · cases none_
  have named : current.id = runId := first.before.repository.keyed _ _ found
  have key : moved.id = runId := made ▸ named
  have stepped : first.after.repository.getRun runId = some moved := stored ▸ RunStep.stored_here key rfl
  obtain ⟨_,grownFound,further,_⟩ := RunSteps.history meanwhile steps stepped
  have read := (transitionRun_found ok found).2
  have readAgain := (transitionRun_found okAgain heldFound).2
  cases grownFound.symm.trans heldFound
  rw [made,readAgain,← read] at further
  exact Nat.not_succ_le_self _ further

def racing (_ : Fin 2) : Thread World :=
  (repository .steady fun _ repository => repository.transitionRun "run-1" [.pending] reopening (some 0)).thread

theorem racing_excludes : (play [0] racing queuedWorld).2.2.repository.transitionRun "run-1" [.pending] reopening (some 0) ≠
    queuedWorld.repository.transitionRun "run-1" [.pending] reopening (some 0) :=
  @transitions_exclude "run-1" (Fin 2) _ racing _ queuedWorld _ [] [] [] ⟨0,queuedWorld,(play [0] racing queuedWorld).2.2⟩
    ⟨1,(play [0] racing queuedWorld).2.2,_⟩ (fun _ => .transition _ _ _ (fun _ => reopening) _)
    (interleaved_play [0,1] racing queuedWorld) 0 {Repository.updated queuedRun reopening with stateVersion := 1}
    [.pending] [.pending] reopening reopening rfl {Repository.updated queuedRun reopening with stateVersion := 1} _

end AgentOS.System
