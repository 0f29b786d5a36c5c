import AgentOS.ControlPlane.Approvals
import AgentOS.Workflow.Deadline

/-! Deciding an approval again. A decision stays as it was recorded, whatever is
written later, and a repetition of its call finds it as long as the approval's time
has not run out. -/
namespace AgentOS.System
open Library Outbox ControlPlane Routine AgentOS.Action
variable {env : Environment} {before after : Repository}

/-! ### What stays -/

structure Endures (before after : Repository) : Prop where
  runs : ∀ id, (before.getRun id).isSome → (after.getRun id).isSome
  events : ∀ key event, before.events.get? key = some event → after.events.get? key = some event
  decided : ∀ id approval, before.approvals.get? id = some approval → approval.status = .consumed →
    after.approvals.get? id = some approval
  filed : before.ApprovalsFiled → after.ApprovalsFiled

namespace Endures

theorem refl (repository : Repository) : Endures repository repository :=
  ⟨fun _ held => held,fun _ _ held => held,fun _ _ held _ => held,fun filed => filed⟩

theorem trans {first second third : Repository} (early : Endures first second) (late : Endures second third) :
    Endures first third where
  runs id held := late.runs id (early.runs id held)
  events key event held := late.events key event (early.events key event held)
  decided id approval held consumed := late.decided id approval (early.decided id approval held consumed) consumed
  filed filed := late.filed (early.filed filed)

theorem of_runs (runs : ∀ id, (before.getRun id).isSome → (after.getRun id).isSome) (events : after.events = before.events)
    (approvals : after.approvals = before.approvals) : Endures before after where
  runs := runs
  events key event held := by rw [events]; exact held
  decided id approval held _ := by rw [approvals]; exact held
  filed filed id approval held := filed id approval (by rw [← approvals]; exact held)

theorem of_approval {id : String} {approval : Approval} (runs : after.runs = before.runs) (events : after.events = before.events)
    (stored : after.approvals = before.approvals.set id approval) (named : approval.id = id)
    (open_ : ∀ held, before.approvals.get? id = some held → held.status ≠ .consumed) : Endures before after where
  runs other held := by rw [Repository.getRun,runs]; exact held
  events key event held := by rw [events]; exact held
  decided other earlier held consumed := by
    rw [stored,OrderedMap.get?_set]
    split
    · rename_i same
      exact absurd consumed (open_ earlier (same ▸ held))
    · exact held
  filed filed other earlier held := by
    rw [stored,OrderedMap.get?_set] at held
    split at held
    · rename_i same
      cases held
      exact named.trans same.symm
    · exact filed other earlier held

theorem commit {draft : EventDraft} {staged : Repository.Staged before} (ok : before.stageEvent draft = .ok staged) :
    Endures before (before.commitStagedEvent staged) where
  runs id held := by
    rw [Repository.getRun,(before.commitStagedEvent_eq staged).1]
    exact held
  events key event held := by
    obtain ⟨_,_,_,_,_,_,present⟩ := Repository.stageEvent_ok ok
    rw [Repository.commitStagedEvent_get? ok]
    split
    · rename_i here
      rw [here] at held
      rw [held] at present
      split at present
      · exact present.symm
      · cases present
    · exact held
  decided id approval held _ := by
    rw [(before.commitStagedEvent_eq staged).2.1]
    exact held
  filed filed id approval held := by
    rw [(before.commitStagedEvent_eq staged).2.1] at held
    exact filed id approval held

theorem setRun (repository : Repository) (run : Run) : Endures repository (repository.setRun run) := by
  refine of_runs (fun id held => ?_) rfl rfl
  rw [Repository.getRun_setRun]
  split
  · rfl
  · exact held

end Endures

inductive DecisionWrite (before after : Repository) : Prop where
  | createApproval {approval stored : Approval} (ok : before.createApproval approval = .ok (stored,after))
  | expireApproval {id runId scope fingerprint : String} {at_ : Instant} {answer : Option Approval}
      (done : before.expireApproval id runId scope fingerprint at_ = (answer,after))
  | consumeApproval {request : Repository.ConsumeApprovalRequest} {answer : Option Approval}
      (done : before.consumeApproval request = (answer,after))
  | decide {request : Repository.ConsumeApprovalRequest} {draft : EventDraft} {answer : Option Approval}
      (ok : before.consumeApprovalWithEvent request draft = .ok (answer,after))
  | cancel {id : String} {update : RunUpdate} {draft : EventDraft} {run : Run}
      (ok : before.cancelRunWithEvent id update draft = .ok (run,after))
  | append {draft : EventDraft} {event : Event} (ok : before.appendEvent draft = .ok (event,after))
  | transition {id : String} {statuses : List RunStatus} {update : RunUpdate} {version : Option Nat} {answer : Option Run}
      (ok : before.transitionRun id statuses update version = .ok (answer,after))
  | createRun {run created : Run} {fingerprint : Fingerprint}
      (ok : before.createRunIdempotently run fingerprint = .ok (created,after))
  | run {run : Run} (stored : after = before.setRun run)
  | elsewhere (runs : after.runs = before.runs) (events : after.events = before.events)
      (approvals : after.approvals = before.approvals)

theorem createApproval_endures {approval stored : Approval} (ok : before.createApproval approval = .ok (stored,after)) :
    Endures before after := by
  unfold Repository.createApproval at ok
  cases required : before.requireRun approval.runId with
  | error fault => simp [required,bind,Except.bind] at ok
  | ok run =>
    simp only [required,bind,Except.bind] at ok
    split at ok
    · cases ok
    · rename_i absent
      cases ok
      refine .of_approval rfl rfl rfl rfl fun held found => ?_
      rw [found] at absent
      simp at absent

variable {request : Repository.ConsumeApprovalRequest} {answer : Option Approval}

theorem expireApproval_endures {id runId scope fingerprint : String} {at_ : Instant}
    (filed : before.ApprovalsFiled) (done : before.expireApproval id runId scope fingerprint at_ = (answer,after)) :
    Endures before after := by
  unfold Repository.expireApproval at done
  split at done
  · cases done
    exact .refl _
  · rename_i approval found
    split at done
    · cases done
      exact .refl _
    · rename_i expires
      simp only [ne_eq,not_or,not_not] at expires
      cases done
      refine .of_approval rfl rfl rfl (filed id approval found) fun held same => ?_
      rw [found] at same
      cases same
      rw [expires.1]
      simp

theorem consumable_pending {approval : Approval}
    (consumable : Repository.consumable approval request = true) : approval.status = .pending := by
  simp only [Repository.consumable,Bool.and_eq_true,decide_eq_true_eq] at consumable
  exact consumable.1.2

theorem consumeApproval_endures
    (filed : before.ApprovalsFiled) (done : before.consumeApproval request = (answer,after)) : Endures before after := by
  unfold Repository.consumeApproval at done
  split at done
  · cases done
    exact .refl _
  · rename_i approval found
    cases done
    obtain ⟨held,consumable⟩ := Option.filter_eq_some_iff.mp found
    have named : approval.id = request.approvalId := filed _ _ held
    refine .of_approval rfl rfl rfl rfl fun other same => ?_
    rw [named,held] at same
    cases same
    rw [consumable_pending consumable]
    simp

variable {draft : EventDraft} {update : RunUpdate}

theorem decide_endures (filed : before.ApprovalsFiled) (ok : before.consumeApprovalWithEvent request draft = .ok (answer,after)) :
    Endures before after := by
  obtain ⟨_,staged,staging,⟨_,_,_,rfl⟩ | ⟨_,⟨_,rfl⟩ | ⟨pending,held,consumable,_,rfl⟩⟩⟩ :=
    Repository.consumeApprovalWithEvent_ok ok
  · exact .refl _
  · exact .refl _
  · have named : pending.id = request.approvalId := filed _ _ held
    have committed := before.commitStagedEvent_eq staged
    have stored : before.approvals.set pending.id (Repository.consumed pending request) =
        (before.commitStagedEvent staged).approvals.set pending.id (Repository.consumed pending request) := by
      rw [committed.2.1]
    refine (Endures.commit staging).trans (.of_approval rfl rfl stored rfl fun other same => ?_)
    rw [committed.2.1,named,held] at same
    cases same
    rw [consumable_pending consumable]
    simp

theorem transition_endures {id : String} {statuses : List RunStatus} {version : Option Nat}
    {answer : Option Run} (ok : before.transitionRun id statuses update version = .ok (answer,after)) : Endures before after := by
  rcases Repository.transitionRun_ok ok with ⟨_,rfl⟩ | ⟨_,_,_,_,_,_,rfl⟩
  · exact .refl _
  · exact .setRun before _

theorem cancel_endures {id : String} {run : Run}
    (ok : before.cancelRunWithEvent id update draft = .ok (run,after)) : Endures before after := by
  obtain ⟨_,_,⟨_,rfl⟩ | ⟨_,_,staged,staging,rfl⟩⟩ := Repository.cancelRunWithEvent_ok ok
  · exact .refl _
  · exact (Endures.commit staging).trans (.setRun _ _)

theorem createRun_endures {run created : Run} {fingerprint : Fingerprint}
    (ok : before.createRunIdempotently run fingerprint = .ok (created,after)) : Endures before after := by
  unfold Repository.createRunIdempotently at ok
  split at ok
  · split at ok <;> cases ok
    exact .refl _
  split at ok
  · cases ok
  split at ok
  · cases ok
  · cases ok
    exact (Endures.setRun before run).trans (.of_runs (fun _ held => held) rfl rfl)

theorem DecisionWrite.endures (filed : before.ApprovalsFiled) (write : DecisionWrite before after) : Endures before after := by
  cases write with
  | createApproval ok => exact createApproval_endures ok
  | expireApproval done => exact expireApproval_endures filed done
  | consumeApproval done => exact consumeApproval_endures filed done
  | decide ok => exact decide_endures filed ok
  | cancel ok => exact cancel_endures ok
  | append ok =>
    obtain ⟨staged,staging,_,rfl⟩ := Repository.appendEvent_ok ok
    exact .commit staging
  | transition ok => exact transition_endures ok
  | createRun ok => exact createRun_endures ok
  | run stored =>
    rw [stored]
    exact .setRun before _
  | elsewhere runs events approvals =>
    exact .of_runs (fun id held => by rw [Repository.getRun,runs]; exact held) events approvals

theorem endures_steps (filed : before.ApprovalsFiled) (written : Relation.ReflTransGen DecisionWrite before after) :
    Endures before after := by
  induction written with
  | refl => exact .refl _
  | tail _ last ih => exact ih.trans (last.endures (ih.filed filed))

def Reached (repository : Repository) : Prop :=
  ∃ origin : Repository, origin.approvals = .empty ∧ Relation.ReflTransGen DecisionWrite origin repository

theorem Reached.filed {repository : Repository} (reached : Reached repository) : repository.ApprovalsFiled := by
  obtain ⟨origin,none,written⟩ := reached
  apply (endures_steps _ written).filed <;>
  · intro id approval held
    rw [none] at held
    cases held

/-! ### A decision and its repetition -/

/-- The decision is recorded: the approval is consumed and its event is in the log. -/
structure RecordedDecision (env : Environment) (id : String) (decision : Decision) (idempotencyKey : String) (approval : Approval)
    (repository : Repository) : Prop where
  run : (repository.getRun approval.runId).isSome
  event : ∃ event, repository.events.get? (approval.runId,(decisionEvent env id approval decision idempotencyKey 0).eventId) =
    some event ∧ event.fingerprint = (decisionEvent env id approval decision idempotencyKey 0).fingerprint ∧
      event.type = decisionType decision ∧ event.payload = decisionPayload id approval.fingerprint
  held : repository.approvals.get? id = some approval
  consumed : approval.status = .consumed

section
variable {id idempotencyKey : String} {decision : Decision} {approval first : Approval} {repository : Repository}
  {expectedScopeHash : Option String} {start middle later world : World}

theorem RecordedDecision.endures (decided : RecordedDecision env id decision idempotencyKey approval before) (stays : Endures before after) :
    RecordedDecision env id decision idempotencyKey approval after where
  run := stays.runs _ decided.run
  event :=
    have ⟨event,held,same⟩ := decided.event
    ⟨event,stays.events _ _ held,same⟩
  held := stays.decided _ _ decided.held decided.consumed
  consumed := decided.consumed

theorem RecordedDecision.again (decided : RecordedDecision env id decision idempotencyKey approval repository) (at_ : Instant)
    (named : approval.id = id) : repository.consumeApprovalWithEvent (consumption approval at_)
      (decisionEvent env id approval decision idempotencyKey at_) = .ok (some approval,repository) := by
  obtain ⟨event,held,fingerprint,type,payload⟩ := decided.event
  obtain ⟨staged,staging,replay⟩ : ∃ staged, repository.stageEvent (decisionEvent env id approval decision idempotencyKey at_) =
      .ok staged ∧ staged.replay = true := Repository.stageEvent_held decided.run held fingerprint type payload
  have stored : repository.approvals.get? (consumption approval at_).approvalId = some approval := by
    rw [← decided.held,← named]
    rfl
  have status : approval.status = .consumed := decided.consumed
  unfold Repository.consumeApprovalWithEvent
  rw [if_neg (fun other => other rfl)]
  simp only [staging,bind,Except.bind]
  rw [if_pos replay,stored,if_neg (by simp [status])]

theorem dispatchDecision_keeps : (dispatchDecision env approval decision).Keeps World.repository := by
  refine .bind (Takes.outcome ?_) fun _ => takes_pure _
  split
  · exact requestApprovalResume_takes _ (fun _ => rfl) fun _ _ => rfl
  · exact takes_pure _

theorem dispatchDecision_answers (world : World) : ((dispatchDecision env approval decision).exec world).1 = .ok () := by
  unfold dispatchDecision
  rw [exec_bind,exec_outcome]
  rfl

theorem consumeApproval_ok (ok : (consumeApproval env id decision idempotencyKey expectedScopeHash).exec start = (.ok first,middle)) :
    ∃ held, start.repository.approvals.get? id = some held ∧ ofScope held expectedScopeHash = .ok () ∧
      inTime held (env.clock (start.tick + 1)) = .ok () ∧
      start.repository.consumeApprovalWithEvent (consumption held (env.clock (start.tick + 1)))
        (decisionEvent env id held decision idempotencyKey (env.clock (start.tick + 1))) = .ok (some first,middle.repository) := by
  unfold consumeApproval at ok
  rw [exec_bind_ok] at ok
  obtain ⟨found,world,read,rest⟩ := ok
  obtain ⟨_,rfl,rfl⟩ := exec_readRepository_ok.mp read
  split at rest
  · cases rest
  · rename_i held stored
    simp only [exec_bind_ok,exec_settle,exec_now_ok,exec_outcome] at rest
    obtain ⟨_,_,checked,at_,_,⟨rfl,rfl⟩,_,_,timed,answer,_,written,rest⟩ := rest
    obtain ⟨inScope,rfl⟩ := Prod.mk.inj checked
    obtain ⟨timely,rfl⟩ := Prod.mk.inj timed
    obtain ⟨answered,rfl⟩ := Prod.mk.inj written
    refine ⟨held,stored,inScope,timely,?_⟩
    split at rest
    · cases rest
    · cases rest
    · rename_i consumed
      obtain ⟨_,dispatched,done,same⟩ := (exec_bind_ok _ _ _ _ _).mp rest
      have kept := dispatchDecision_keeps.of_exec done
      cases same
      have ok := exec_repository_ok.mp (Prod.ext (Except.ok.inj answered) rfl)
      rw [kept]
      exact ok.2.1

theorem consumeApproval_decides (filed : start.repository.ApprovalsFiled)
    (ok : (consumeApproval env id decision idempotencyKey expectedScopeHash).exec start = (.ok first,middle)) :
    RecordedDecision env id decision idempotencyKey first middle.repository ∧ first.id = id ∧ ofScope first expectedScopeHash = .ok () ∧
      middle.repository.ApprovalsFiled := by
  obtain ⟨held,stored,inScope,_,written⟩ := consumeApproval_ok ok
  have named : held.id = id := filed _ _ stored
  have nextFiled : middle.repository.ApprovalsFiled := (decide_endures filed written).filed filed
  obtain ⟨_,staged,staging,outcome⟩ := Repository.consumeApprovalWithEvent_ok written
  obtain ⟨run,_,_,fingerprint,type,payload,present⟩ := Repository.stageEvent_ok staging
  have asked : (consumption held (env.clock (start.tick + 1))).approvalId = id := named
  rcases outcome with ⟨replay,answer,status,same⟩ | ⟨_,⟨none,_⟩ | ⟨pending,found,_,answer,same⟩⟩
  · rw [asked,stored] at answer
    cases answer
    rw [same]
    rw [if_pos replay] at present
    exact ⟨⟨run,⟨staged.event,present,fingerprint,type,payload⟩,stored,Option.some.inj status⟩,named,inScope,
      filed⟩
  · cases none
  · rw [asked,stored] at found
    cases found
    cases answer
    have committed : (start.repository.commitStagedEvent staged).events.get?
        (held.runId,(decisionEvent env id held decision idempotencyKey 0).eventId) = some staged.event := by
      rw [Repository.commitStagedEvent_get? staging]
      exact if_pos rfl
    have table : middle.repository.approvals.get? id =
        some (Repository.consumed held (consumption held (env.clock (start.tick + 1)))) := by
      rw [same,named]
      exact (OrderedMap.get?_set _ _ _ _).trans (if_pos rfl)
    refine ⟨⟨?_,⟨staged.event,?_,fingerprint,type,payload⟩,table,rfl⟩,named,inScope,nextFiled⟩
    · rw [same]
      exact (Endures.commit staging).runs _ run
    · rw [same]
      exact committed

/-- The call again: it answers the same approval, writes nothing to the repository
and asks for the same resume. -/
def Replays (env : Environment) (id : String) (decision : Decision) (idempotencyKey : String) (expectedScopeHash : Option String)
    (first : Approval) (later : World) : Prop :=
  ∃ after, (consumeApproval env id decision idempotencyKey expectedScopeHash).exec later = (.ok first,after) ∧
    after.repository = later.repository ∧ after = ((dispatchDecision env first decision).exec later.ticked.ticked.ticked).2

theorem RecordedDecision.replays (reads : env.outage later.tick = .none) (writes : env.outage (later.tick + 2) = .none)
    (decided : RecordedDecision env id decision idempotencyKey first later.repository)
    (named : first.id = id) (inScope : ofScope first expectedScopeHash = .ok ()) (timely : env.clock (later.tick + 1) < first.expiresAt) :
    Replays env id decision idempotencyKey expectedScopeHash first later := by
  have unexpired : inTime first (env.clock (later.tick + 1)) = .ok () := by
    unfold inTime
    rw [if_neg]
    rintro (expired | late)
    · rw [decided.consumed] at expired
      cases expired
    · exact absurd timely (not_lt.mpr late)
  have read : (readRepository env fun repository => repository.getApproval id).exec later = (.ok (some first),later.ticked) :=
    exec_readRepository_ok.mpr ⟨reads,decided.held.symm,rfl⟩
  have written : (repository env fun _ repository => repository.consumeApprovalWithEvent
      (consumption first (env.clock (later.tick + 1)))
      (decisionEvent env id first decision idempotencyKey (env.clock (later.tick + 1)))).exec later.ticked.ticked =
        (.ok (some first),later.ticked.ticked.ticked) :=
    exec_repository_ok.mpr ⟨writes,decided.again _ named,rfl,rfl,rfl,rfl,rfl⟩
  have dispatched : (dispatchDecision env first decision).exec later.ticked.ticked.ticked =
      (.ok (),((dispatchDecision env first decision).exec later.ticked.ticked.ticked).2) :=
    Prod.ext (dispatchDecision_answers _) rfl
  refine ⟨_,?_,(dispatchDecision_keeps.of_exec dispatched).trans rfl,rfl⟩
  unfold consumeApproval
  rw [exec_bind_ok]
  refine ⟨_,_,read,?_⟩
  simp only [exec_bind_ok,exec_settle,inScope,exec_now_ok,exec_outcome]
  refine ⟨(),_,rfl,_,_,⟨rfl,rfl⟩,(),_,Prod.ext unexpired rfl,.ok (some first),_,Prod.ext ?_ rfl,?_⟩
  · exact congrArg (Except.ok ∘ Prod.fst) written
  · rw [show World.tick _ = later.tick + 1 from rfl,written]
    exact (exec_bind_ok _ _ _ _ _).mpr ⟨_,_,dispatched,rfl⟩

/-- Every repetition of an answered call, whatever was written in between, is a replay
exactly when it reads the clock before the approval runs out. -/
theorem decision_replays_iff (reached : Reached start.repository)
    (decided : (consumeApproval env id decision idempotencyKey expectedScopeHash).exec start = (.ok first,middle))
    (meanwhile : Relation.ReflTransGen DecisionWrite middle.repository later.repository)
    (reads : env.outage later.tick = .none) (writes : env.outage (later.tick + 2) = .none) :
    Replays env id decision idempotencyKey expectedScopeHash first later ↔ env.clock (later.tick + 1) < first.expiresAt := by
  obtain ⟨recorded,named,inScope,stays⟩ := consumeApproval_decides reached.filed decided
  have kept := recorded.endures (endures_steps stays meanwhile)
  constructor
  · rintro ⟨after,ok,_,_⟩
    obtain ⟨held,stored,_,timely,_⟩ := consumeApproval_ok ok
    cases stored.symm.trans kept.held
    unfold inTime at timely
    split at timely
    · cases timely
    · rename_i unexpired
      exact not_le.mp fun late => unexpired (.inr late)
  · exact kept.replays reads writes named inScope

end

def waitingRun : Run where
  id := "run-1"
  projectId := "project-1"
  pipeline := "feature"
  status := .waiting
  createdAt := 0
  updatedAt := 0

def openApproval : Approval where
  id := "approval-1"
  runId := "run-1"
  scope := "merge"
  fingerprint := "hash-1"
  status := .pending
  createdAt := 0
  expiresAt := 600000

def askedRepository : Repository := {Repository.setRun {} waitingRun with approvals := OrderedMap.empty.set "approval-1" openApproval}

theorem askedRepository_reached : Reached askedRepository :=
  have asked : (Repository.setRun {} waitingRun).createApproval openApproval = .ok (openApproval,askedRepository) := rfl
  ⟨Repository.setRun {} waitingRun,rfl,.single (.createApproval asked)⟩

def approving : Action Approval := consumeApproval .steady "approval-1" .approve "key-1" (some "hash-1")

def approvedApproval : Approval := {openApproval with status := .consumed,consumedAt := some 60000}

def approvedWorld : World := (approving.exec {repository := askedRepository}).2

theorem approving_ok : approving.exec {repository := askedRepository} = (.ok approvedApproval,approvedWorld) :=
  Prod.ext (by rfl) rfl

theorem approval_replayed_in_time : Replays .steady "approval-1" .approve "key-1" (some "hash-1") approvedApproval approvedWorld :=
  (decision_replays_iff askedRepository_reached approving_ok .refl rfl rfl).mpr (by decide +kernel)

/-- The call that was answered, repeated after the approval's time. -/
theorem approval_replay_expired : ¬ ∀ (env : Environment) (id idempotencyKey : String) (decision : Decision)
    (expectedScopeHash : Option String) (first : Approval) (start middle later : World), Reached start.repository →
    (consumeApproval env id decision idempotencyKey expectedScopeHash).exec start = (.ok first,middle) →
    Relation.ReflTransGen DecisionWrite middle.repository later.repository →
    env.outage later.tick = .none → env.outage (later.tick + 2) = .none →
    Replays env id decision idempotencyKey expectedScopeHash first later := by
  intro claimed
  obtain ⟨after,answered,_⟩ := claimed _ _ _ _ _ _ _ _ {approvedWorld with tick := 20} askedRepository_reached approving_ok
    .refl rfl rfl
  have expired : (approving.exec {approvedWorld with tick := 20}).1 =
      .error (.service "approval_expired" "approval expired before a decision was recorded" 409) := by rfl
  have replayed := congrArg Prod.fst answered
  cases expired.symm.trans replayed

/-! ### What the workflow reads back -/

/-- What the workflow goes on with is what the first event of its run says that decides the approval of what it put up:
later ones change nothing. Without one it goes on only where the approval ran out. -/
theorem first_decision_read {runId approvalId scopeHash : String} {world after : World} {decision : Workflow.Decision}
    (ok : (Workflow.getAuthoritativeApproval env runId approvalId scopeHash).exec world = (.ok decision,after)) :
    after.repository = world.repository ∧ ∃ approval, world.repository.getApproval approvalId = some approval ∧
      (approval.runId = runId ∧ approval.scope = SPEC_DOD_SCOPE ∧ approval.fingerprint = scopeHash) ∧
      (decision = .expired ∧ approval.status = .expired ∨ approval.status = .consumed ∧
        ∃ event, (world.repository.eventsOf runId).find? (Workflow.decides approvalId scopeHash) = some event ∧
          decision = if event.type = "approval.approved" then .approve else .reject) := by
  unfold Workflow.getAuthoritativeApproval at ok
  rw [exec_bind_ok] at ok
  obtain ⟨found,_,reading,ok⟩ := ok
  obtain ⟨_,stored,rfl⟩ := exec_readRepository_ok.mp reading
  cases found with
  | none => cases ok
  | some approval =>
    dsimp only at ok
    split at ok
    · cases ok
    rename_i bound
    simp only [not_or,not_not] at bound
    split at ok
    · rename_i expired
      cases ok
      exact ⟨rfl,approval,stored.symm,bound,.inl ⟨rfl,expired⟩⟩
    split at ok
    · cases ok
    rename_i consumed
    rw [exec_bind_ok] at ok
    obtain ⟨read,_,scanned,ok⟩ := ok
    obtain ⟨folded,kept⟩ := @exec_scanRunEvents_ok _ _ _ _ _ [] _ _ _ world.ticked _ rfl scanned
    rw [Workflow.foldl_visitDecision,Option.none_or] at folded
    cases read with
    | none => cases ok
    | some event =>
      cases ok
      exact ⟨kept,approval,stored.symm,bound,.inr ⟨not_not.mp consumed,event,folded.symm,rfl⟩⟩

def specifiedWorld : World := (approving.exec {repository := {askedRepository with
  approvals := OrderedMap.empty.set "approval-1" {openApproval with scope := SPEC_DOD_SCOPE}}}).2

theorem approval_read : ∃ event ∈ specifiedWorld.repository.eventsOf "run-1", Workflow.decides "approval-1" "hash-1" event = true := by
  have ok : (Workflow.getAuthoritativeApproval .steady "run-1" "approval-1" "hash-1").exec specifiedWorld = (.ok .approve,_) := rfl
  obtain ⟨_,_,_,_,⟨impossible,_⟩ | ⟨_,event,first,_⟩⟩ := first_decision_read ok
  · cases impossible
  · exact ⟨event,List.mem_of_find?_eq_some first,List.find?_some first⟩

end AgentOS.System
