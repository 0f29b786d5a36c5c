import AgentOS.System.PassRules
import AgentOS.System.ResumeGenerations

/-! Decisions in a reconciliation pass. The visit of a run looks for its decisions in the
first page of its events; what lies beyond is not resumed. -/
namespace AgentOS.System
open Library Outbox ControlPlane Routine AgentOS.Action
variable {env : Environment} {reading : GoalReading} {options : ReconcileOptions} {world after : World}

/-! ### A pass writes no events -/

theorem expireApproval_events {before after : Repository} {id runId scope fingerprint : String} {at_ : Instant}
    {answer : Option Approval}
    (ok : (.ok (before.expireApproval id runId scope fingerprint at_) : Except Fault _) = .ok (answer,after)) :
    after.events = before.events := by
  unfold Repository.expireApproval at ok
  split at ok
  · cases ok
    rfl
  · split at ok <;> cases ok <;> rfl

theorem createConfigSnapshot_events {before after : Repository} {snapshot answer : ConfigSnapshot}
    (ok : before.createConfigSnapshot snapshot = .ok (answer,after)) : after.events = before.events := by
  unfold Repository.createConfigSnapshot at ok
  split at ok
  · cases ok
  split at ok
  · cases ok
  split at ok <;> cases ok
  rfl

theorem createGoalCriterion_events {before after : Repository} {criterion answer : GoalCriterion}
    (ok : before.createGoalCriterionIdempotently criterion = .ok (answer,after)) : after.events = before.events := by
  unfold Repository.createGoalCriterionIdempotently at ok
  cases required : before.requireRun criterion.runId with
  | error fault => simp [required,bind,Except.bind] at ok
  | ok run =>
    simp only [required,bind,Except.bind] at ok
    split at ok
    · split at ok <;> cases ok
      rfl
    · split at ok <;> cases ok
      rfl

def SameEvents (before after : World) : Prop := after.repository.events = before.repository.events

theorem sameEvents_passSteps : PassSteps SameEvents where
  passed _ := rfl
  kept _ _ _ _ := rfl
  charged _ _ _ _ ok := by
    rcases Repository.appendUsage_ok ok with same | same <;> rw [same] <;> rfl
  failed _ _ _ _ _ _ _ ok := transitionRun_events ok
  expired _ _ _ _ _ _ _ _ ok := expireApproval_events ok
  moved _ _ _ _ _ _ _ ok := transitionRun_events ok
  snapshot _ _ _ _ ok := createConfigSnapshot_events ok
  criterion _ _ _ _ ok := createGoalCriterion_events ok
  cursor _ _ := rfl

theorem events_kept {α : Type} {routine : Action α} {answer : Except Fault α} (taken : routine.Takes SameEvents)
    (done : routine.exec world = (answer,after)) : after.repository.events = world.repository.events :=
  @Keeps.of_exec _ _ _ _ (fun world : World => world.repository.events) _ _ _ _ taken done

theorem eventsOf_congr {first second : Repository} (same : second.events = first.events) (runId : String) :
    second.eventsOf runId = first.eventsOf runId := by
  unfold Repository.eventsOf
  rw [same]

/-! ### What a visit calls for -/

def pageResumes (repository : Repository) (runId : String) : List ApprovalResumeRequest :=
  ((repository.eventsOf runId).take 100).filterMap (resumeRequest runId)

theorem listEvents_page (repository : Repository) (runId : String) :
    repository.listEvents runId none 1000 = (repository.eventsOf runId).take 100 := by
  rw [Repository.listEvents_eq]
  have everything : ((repository.eventsOf runId).filter fun event => (none : Option Nat).all (· < event.sequence)) =
      repository.eventsOf runId := List.filter_eq_self.mpr fun _ _ => rfl
  rw [everything]
  rfl

variable {resumes : List ApprovalResumeRequest} {request : ApprovalResumeRequest} {listed run : Run}

theorem deliverDecisions_ok {run : Run} {tally : Tally} (ok : (deliverDecisions env run).exec world = (.ok (tally,resumes),after)) :
    resumes = pageResumes world.repository run.id := by
  unfold deliverDecisions at ok
  simp only [exec_bind_ok,exec_readRepository_ok] at ok
  obtain ⟨events,_,⟨_,rfl,rfl⟩,delivered,_,_,answered⟩ := ok
  cases answered
  rw [listEvents_page]
  rfl

theorem visitWorkflow_ok {run : Run} {now : Instant} {tally : Tally}
    (ok : (visitWorkflow env reading options run now).exec world = (.ok (tally,resumes),after)) :
    resumes = pageResumes world.repository run.id ∨ resumes = [] ∧ (timedOut run = true ∨ run.status = .pending) := by
  unfold visitWorkflow at ok
  split at ok
  · rename_i late
    simp only [exec_bind_ok] at ok
    obtain ⟨cancels,_,_,cleanup,_,_,answered⟩ := ok
    cases answered
    exact .inr ⟨rfl,.inl late⟩
  · rw [exec_bind_ok] at ok
    obtain ⟨⟨started,goesOn⟩,ready,starting,rest⟩ := ok
    dsimp only at rest
    split at rest
    · simp only [exec_bind_ok] at rest
      obtain ⟨cancels,cancelled,cancelling,cleanup,cleaned,cleaning,⟨decisions,resumes⟩,_,delivering,answered⟩ := rest
      cases answered
      left
      rw [deliverDecisions_ok delivering]
      have cancel : (cancelsOf env options run now).Takes SameEvents := by
        unfold cancelsOf
        split
        · exact sameEvents_passSteps.deliverCancels _ _ _
        · exact takes_pure _
      have clean : (cleanupOf env options run).Takes SameEvents := by
        unfold cleanupOf
        split
        · exact sameEvents_passSteps.deliverCleanup _ _
        · exact takes_pure _
      unfold pageResumes
      rw [eventsOf_congr (events_kept clean cleaning),eventsOf_congr (events_kept cancel cancelling),
        eventsOf_congr (events_kept (sameEvents_passSteps.startPending reading run) starting)]
    · rename_i stops
      cases rest
      refine .inr ⟨rfl,.inr ?_⟩
      unfold startPending at starting
      split at starting
      · cases starting
        exact absurd rfl stops
      · rename_i pending
        exact not_not.mp fun other => pending (.inr other)

variable {visits : List Visit} {visit : Visit}

theorem visitRun_ok (ok : (visitRun env reading options listed).exec world = (.ok visit,after))
    (found : visit.found = some run) : visit.resumes = pageResumes world.repository run.id ∨
      visit.resumes = [] ∧ (timedOut run = true ∨ run.status = .pending) := by
  unfold visitRun at ok
  simp only [exec_bind_ok,exec_now_ok] at ok
  obtain ⟨now,_,⟨rfl,rfl⟩,current,refreshedWorld,refreshing,rest⟩ := ok
  cases current with
  | none =>
    cases rest
    cases found
  | some current =>
    simp only [exec_bind_ok] at rest
    obtain ⟨timed,timedWorld,timing,⟨rest,resumes⟩,_,visiting,answered⟩ := rest
    cases answered
    cases found
    rcases visitWorkflow_ok visiting with same | stopped
    · left
      rw [same]
      unfold pageResumes
      rw [eventsOf_congr (events_kept (sameEvents_passSteps.timeOut _ _) timing),
        eventsOf_congr (events_kept (sameEvents_passSteps.refreshed _) refreshing)]
      rfl
    · exact .inr stopped

/-! ### The visits of a pass -/

def Made (env : Environment) (reading : GoalReading) (options : ReconcileOptions) (world : World) (visit : Visit) : Prop :=
  ∃ listed before after, before.repository.events = world.repository.events ∧
    (visitRun env reading options listed).exec before = (.ok visit,after)

theorem visitRuns_made {runs : List Run} {start : World} (ok : (visitRuns env reading options runs).exec world = (.ok visits,after))
    (same : world.repository.events = start.repository.events) : ∀ visit ∈ visits, Made env reading options start visit := by
  induction runs generalizing world visits with
  | nil =>
    cases ok
    simp
  | cons run rest ih =>
    unfold visitRuns at ok
    simp only [exec_bind_ok] at ok
    obtain ⟨visit,visited,visiting,_,saved,saving,visits,_,others,answered⟩ := ok
    cases answered
    intro other inside
    rcases List.mem_cons.mp inside with rfl | inside
    · exact ⟨run,world,visited,same,visiting⟩
    · refine ih others ?_ other inside
      rw [events_kept (sameEvents_passSteps.saveCursor _ _) saving,
        events_kept (sameEvents_passSteps.visitRun _ _ _) visiting,same]

theorem visitPages_made {pages : Nat} {cursor : Option Cursor} {completed : Bool} {start : World}
    (ok : (visitPages env reading options pages cursor).exec world = (.ok (visits,completed),after))
    (same : world.repository.events = start.repository.events) : ∀ visit ∈ visits, Made env reading options start visit := by
  induction pages generalizing world cursor visits completed with
  | zero =>
    cases ok
    simp
  | succ pages ih =>
    unfold visitPages at ok
    simp only [exec_bind_ok,exec_readRepository_ok] at ok
    obtain ⟨runs,_,⟨_,rfl,rfl⟩,rest⟩ := ok
    split at rest
    · cases rest
      simp
    · rw [exec_bind_ok] at rest
      obtain ⟨page,visited,visiting,rest⟩ := rest
      have made : ∀ visit ∈ page, Made env reading options start visit := visitRuns_made visiting same
      split at rest
      · cases rest
        exact made
      · rw [exec_bind_ok] at rest
        obtain ⟨⟨others,ended⟩,_,paging,answered⟩ := rest
        cases answered
        have kept := events_kept (sameEvents_passSteps.visitRuns reading options _) visiting
        intro visit inside
        rcases List.mem_append.mp inside with inside | inside
        · exact made visit inside
        · exact ih paging (kept.trans same) visit inside

theorem scanRuns_made (ok : (scanRuns env reading options).exec world = (.ok visits,after)) :
    ∀ visit ∈ visits, Made env reading options world visit := by
  unfold scanRuns at ok
  rw [exec_bind_ok] at ok
  obtain ⟨cursor,loaded,loading,rest⟩ := ok
  rw [exec_bind_ok] at rest
  obtain ⟨⟨all,completed⟩,scanned,scanning,rest⟩ := rest
  have same : loaded.repository.events = world.repository.events := by
    unfold loadCursor at loading
    split at loading
    · rw [exec_call_ok] at loading
      obtain ⟨_,answered⟩ := loading
      cases answered
      rfl
    · cases loading
      rfl
  have made := visitPages_made scanning same
  dsimp only at rest
  split at rest
  · rw [exec_bind_ok] at rest
    obtain ⟨_,_,_,answered⟩ := rest
    cases answered
    exact made
  · cases rest
    exact made

theorem refreshed_id (ok : (refreshed env listed).exec world = (.ok (some run),after)) : run.id = listed.id := by
  unfold refreshed at ok
  split at ok
  · rw [exec_bind_ok] at ok
    obtain ⟨answer,middle,_,rest⟩ := ok
    cases answer with
    | error fault => cases rest
    | ok _ =>
      simp only [exec_bind_ok,exec_readRepository_ok] at rest
      obtain ⟨stored,_,⟨_,rfl,_⟩,answered⟩ := rest
      cases answered
      cases found : middle.repository.getRun listed.id with
      | none => rfl
      | some stored => exact middle.repository.keyed _ _ found
  · cases ok
    rfl

theorem timeOut_id {current run : Run} {now : Instant} (ok : (timeOut env current now).exec world = (.ok run,after)) :
    run.id = current.id := by
  unfold timeOut at ok
  rw [exec_bind_ok] at ok
  obtain ⟨code,_,_,rest⟩ := ok
  cases code with
  | none =>
    cases rest
    rfl
  | some code =>
    unfold failRun at rest
    simp only [exec_bind_ok,exec_repository_ok] at rest
    obtain ⟨answer,_,⟨_,moving,_⟩,rest⟩ := rest
    rcases Repository.transitionRun_ok moving with ⟨rfl,_⟩ | ⟨stored,moved,found,_,same,rfl,_⟩
    · cases rest
      rfl
    · simp only [exec_bind_ok] at rest
      obtain ⟨_,_,_,answered⟩ := rest
      cases answered
      rw [same]
      exact Repository.keyed _ current.id stored found

theorem visitRun_found {listed : Run} (ok : (visitRun env reading options listed).exec world = (.ok visit,after))
    (clean : visit.tally.failed = 0) : ∃ run, visit.found = some run ∧ run.id = visit.listed.id := by
  unfold visitRun at ok
  simp only [exec_bind_ok,exec_now_ok] at ok
  obtain ⟨now,_,⟨rfl,rfl⟩,current,_,refreshing,rest⟩ := ok
  cases current with
  | none =>
    cases rest
    cases clean
  | some current =>
    simp only [exec_bind_ok] at rest
    obtain ⟨timed,_,timing,_,_,_,answered⟩ := rest
    cases answered
    exact ⟨timed,rfl,(timeOut_id timing).trans (refreshed_id refreshing)⟩

def passVisits (env : Environment) (reading : GoalReading) (options : ReconcileOptions) (world : World) : List Visit :=
  match ((scanRuns env reading options).exec world).1 with
  | .ok visits => visits
  | .error _ => []

theorem passVisits_found {summary : Report}
    (passed : (reconcileWorkflowOutbox env reading options).exec world = (.ok summary,after)) (clean : summary.failed = 0)
    (visited : visit ∈ passVisits env reading options world) :
    Made env reading options world visit ∧ ∃ run, visit.found = some run ∧ run.id = visit.listed.id := by
  unfold reconcileWorkflowOutbox at passed
  simp only [exec_bind_ok] at passed
  obtain ⟨visits,_,scanning,advanced,_,_,answered⟩ := passed
  cases answered
  have same : passVisits env reading options world = visits := by
    unfold passVisits
    rw [scanning]
  rw [same] at visited
  have made := scanRuns_made scanning visit visited
  have ⟨_,_,_,_,visiting⟩ := made
  have none : visit.tally.failed = 0 := by
    have both : (visits.map (·.tally.failed)).sum + advanced.failed = 0 := clean
    have all : (visits.map (·.tally.failed)).sum = 0 := by omega
    exact List.sum_eq_zero_iff_forall_eq_nat.mp all _ (List.mem_map_of_mem visited)
  exact ⟨made,visitRun_found visiting none⟩

def waitingResumes (world : World) (runId : String) : List ApprovalResumeRequest :=
  ((world.repository.eventsOf runId).filterMap (resumeRequest runId)).filter
    fun request => world.checkpoints.succeeded request.idempotencyKey = false

theorem resumeRequest_runId {runId : String} {event : Event}
    (asked : resumeRequest runId event = some request) : request.runId = runId := by
  unfold resumeRequest at asked
  simp only [bind,Option.bind_eq_some_iff] at asked
  obtain ⟨decision,_,approvalId,_,scopeHash,_,same⟩ := asked
  cases same
  rfl

theorem pageResumes_runId {repository : Repository} {runId : String}
    (asked : request ∈ pageResumes repository runId) : request.runId = runId := by
  obtain ⟨event,_,same⟩ := List.mem_filterMap.mp asked
  exact resumeRequest_runId same

/-- A pass without failure calls for the resume of every waiting decision of a run exactly
if the run's first hundred events ask for them all. A run that its clock has failed waits
for nothing, and one that is pending waits for its start. -/
theorem decisions_delivered_iff {summary : Report} {visit : Visit}
    (passed : (reconcileWorkflowOutbox env reading options).exec world = (.ok summary,after)) (clean : summary.failed = 0)
    (visited : visit ∈ passVisits env reading options world) :
    ∃ run, visit.found = some run ∧ run.id = visit.listed.id ∧ (timedOut run = false → run.status ≠ .pending →
      ((∀ request ∈ waitingResumes world run.id, ∃ other ∈ passVisits env reading options world, request ∈ other.resumes) ↔
        ∀ request ∈ waitingResumes world run.id, request ∈ pageResumes world.repository run.id)) := by
  have page : ∀ {other found}, Made env reading options world other → other.found = some found →
      other.resumes = pageResumes world.repository found.id ∨
        other.resumes = [] ∧ (timedOut found = true ∨ found.status = .pending) := by
    rintro other found ⟨listed,before,visitedWorld,same,made⟩ here
    have resumes := visitRun_ok made here
    unfold pageResumes at resumes ⊢
    rwa [eventsOf_congr same] at resumes
  obtain ⟨made,run,found,named⟩ := passVisits_found passed clean visited
  refine ⟨run,found,named,fun live begun => ?_⟩
  constructor
  · intro asked request waits
    obtain ⟨other,otherVisited,inside⟩ := asked request waits
    obtain ⟨otherMade,otherRun,otherFound,_⟩ := passVisits_found passed clean otherVisited
    rcases page otherMade otherFound with same | ⟨none,_⟩
    · rw [same] at inside
      obtain ⟨event,_,mine⟩ := List.mem_filterMap.mp (List.mem_filter.mp waits).1
      have target : otherRun.id = run.id := (pageResumes_runId inside).symm.trans (resumeRequest_runId mine)
      rwa [target] at inside
    · rw [none] at inside
      cases inside
  · intro early request waits
    refine ⟨visit,visited,?_⟩
    rcases page made found with same | ⟨_,late | pending⟩
    · rw [same]
      exact early request waits
    · rw [live] at late
      cases late
    · exact absurd pending begun

/-! ### A decision behind a run's notes -/

def decidedRun : Run where
  id := "run-1"
  projectId := "project-1"
  pipeline := "feature"
  status := .waiting
  createdAt := 0
  updatedAt := 0

def noteDraft (eventId type : String) (payload : Json) : EventDraft where
  runId := "run-1"
  eventId := eventId
  fingerprint := .null
  type := type
  payload := payload
  occurredAt := 0

def noted (repository : Repository) (draft : EventDraft) : Repository :=
  match repository.appendEvent draft with
  | .ok (_,next) => next
  | .error _ => repository

def decidedLog (count : Nat) : Repository :=
  noted (((List.range count).map fun number => noteDraft (toString number) "step.noted" .null).foldl noted
      (Repository.setRun {} decidedRun))
    (noteDraft "decision" "approval.approved" (.obj [("approvalId",.str "approval-1"),("scopeHash",.str "hash-1")]))

def openWaitpoint : Action Unit := do
  let effect ← checkpoint .steady fun now store => store.claimEffect
    {key := "waitpoint:run-1:approval-1",runId := "run-1",kind := "trigger-waitpoint",inputFingerprint := .null,
      createdAt := now,updatedAt := now}
    {ownerId := "workflow:run-1",now := now,leaseExpiresAt := now + 60000}
  let lease := {key := effect.key,ownerId := "workflow:run-1",leaseVersion := effect.leaseVersion}
  let _ ← markEffectStarted .steady lease
  let _ ← attachExternalRef .steady lease "waitpoint-1"
  pure ()

def decidedWorld (count : Nat) : World := (openWaitpoint.exec {repository := decidedLog count}).2

def noGoals : GoalReading where
  goalDefinitionsFromInput _ := none
  validateDurableGoalInputs _ _ _ := true

def approvalResume : ApprovalResumeRequest where
  idempotencyKey := "workflow-resume:approval-1:approve"
  runId := "run-1"
  approvalId := "approval-1"
  decision := .approve
  scopeHash := "hash-1"

def visitOf (delivered : Nat) (resumes : List ApprovalResumeRequest) : Visit where
  listed := decidedRun
  found := some decidedRun
  tally := {delivered := delivered}
  resumes := resumes

theorem pass_of_visits (alone : options.advanceBacklogs = none) (same : passVisits env reading options world = visit::visits) :
    ∃ after, (reconcileWorkflowOutbox env reading options).exec world = (.ok (report (visit::visits) {}),after) := by
  unfold passVisits at same
  split at same
  · rename_i made done
    have scanned : (scanRuns env reading options).exec world =
        (.ok (visit::visits),((scanRuns env reading options).exec world).2) := Prod.ext (done.trans (congrArg _ same)) rfl
    refine ⟨((scanRuns env reading options).exec world).2,?_⟩
    unfold reconcileWorkflowOutbox advanceProjects
    rw [alone,exec_bind,scanned]
    rfl
  · cases same

theorem early_decision_asked : ∃ visit ∈ passVisits .steady noGoals {} (decidedWorld 1), approvalResume ∈ visit.resumes := by
  have visits : passVisits .steady noGoals {} (decidedWorld 1) = [visitOf 2 [approvalResume]] := by
    decide +kernel
  have visited : visitOf 2 [approvalResume] ∈ passVisits .steady noGoals {} (decidedWorld 1) := by
    simp [visits]
  obtain ⟨after,passed⟩ := pass_of_visits rfl visits
  obtain ⟨run,found,_,asked⟩ := decisions_delivered_iff passed rfl visited
  cases found
  exact (asked (by decide) (by decide)).mpr (by decide +kernel) approvalResume (by decide +kernel)

/-- The decision after a hundred notes is not asked for. -/
theorem late_decision_not_asked : ¬ ∀ (env : Environment) (reading : GoalReading) (options : ReconcileOptions)
    (world after : World) (summary : Report) (visit : Visit) (run : Run),
    (reconcileWorkflowOutbox env reading options).exec world = (.ok summary,after) → summary.failed = 0 →
    visit ∈ passVisits env reading options world → visit.found = some run → timedOut run = false → run.status ≠ .pending →
    ∀ request ∈ waitingResumes world run.id, ∃ other ∈ passVisits env reading options world, request ∈ other.resumes := by
  intro claimed
  have evaluated : passVisits .steady noGoals {} (decidedWorld 100) = [visitOf 1 []] ∧
      approvalResume ∈ waitingResumes (decidedWorld 100) decidedRun.id := by
    decide +kernel
  obtain ⟨visits,waits⟩ := evaluated
  obtain ⟨after,passed⟩ := pass_of_visits rfl visits
  have visited : visitOf 1 [] ∈ passVisits .steady noGoals {} (decidedWorld 100) := by
    rw [visits]
    exact List.mem_singleton_self _
  obtain ⟨other,otherVisited,inside⟩ := claimed _ _ _ _ _ _ _ decidedRun passed rfl visited rfl (by decide) (by decide)
    approvalResume waits
  rw [visits,List.mem_singleton] at otherVisited
  rw [otherVisited] at inside
  cases inside

end AgentOS.System
