import AgentOS.ControlPlane.TimedApprovals

/-! Approvals in every history. Whoever decides, expires or cancels, an approval has one
decision at most, made before its time ran out; only expiry can go by something else than
the instants, since it compares the texts. -/
namespace AgentOS.System
open Library Outbox ControlPlane
open OrderedMap (get?_set_some get?_set)
variable {env : Environment}

/-! ### Decisions in the log -/

def isDecision (id : String) (event : EventDraft) : Prop :=
  (event.type = decisionType .approve ∨ event.type = decisionType .reject) ∧
    event.payload.field? "approvalId" = some (.str id)

def Decides (repository : Repository) (id : String) (event : Event) : Prop :=
  (∃ key, repository.events.get? key = some event) ∧ isDecision id event.toEventDraft

theorem decides_commit {repository : Repository} {draft : EventDraft} {staged : repository.Staged}
    (ok : repository.stageEvent draft = .ok staged) {id : String} {event : Event} :
    Decides (repository.commitStagedEvent staged) id event ↔
      Decides repository id event ∨ event = staged.event ∧ isDecision id event.toEventDraft := by
  obtain ⟨_,_,_,_,_,_,present⟩ := Repository.stageEvent_ok ok
  constructor
  · rintro ⟨⟨key,held⟩,decision⟩
    rw [Repository.commitStagedEvent_get? ok] at held
    split at held
    · exact .inr ⟨(Option.some.inj held).symm,decision⟩
    · exact .inl ⟨⟨key,held⟩,decision⟩
  · rintro (⟨⟨key,held⟩,decision⟩ | ⟨rfl,decision⟩)
    · refine ⟨⟨key,?_⟩,decision⟩
      rw [Repository.commitStagedEvent_get? ok]
      split
      · rename_i here
        rw [here] at held
        rw [held] at present
        split at present
        · exact present.symm
        · cases present
      · exact held
    · refine ⟨⟨(draft.runId,draft.eventId),?_⟩,decision⟩
      rw [Repository.commitStagedEvent_get? ok,if_pos rfl]

theorem isDecision_decisionEvent (approval : TimedApproval) (decision : Decision) (key : String) (at_ : IsoTimestamp)
    (id : String) : isDecision id (approval.decisionEvent env decision key at_) ↔ approval.id = id := by
  unfold isDecision TimedApproval.decisionEvent eventDraft decisionPayload
  cases decision <;> simp [decisionType,Json.field?]

/-! ### What one operation does -/

inductive ApprovalMove (env : Environment) (before after : ApprovalStore) : Prop where
  | unchanged (same : after = before)
  | created (approval : TimedApproval) (absent : before.approvals.get? approval.id = none) (pending : approval.status = .pending)
      (stored : after = {before with approvals := before.approvals.set approval.id approval})
  | expired (id : String) (approval : TimedApproval) (held : before.approvals.get? id = some approval)
      (pending : approval.status = .pending)
      (stored : after = {before with approvals := before.approvals.set id approval.expired})
  | decided (asked approval : TimedApproval) (decision : Decision) (key : String) (at_ : IsoTimestamp)
      (staged : before.repository.Staged) (held : before.approvals.get? asked.id = some approval)
      (pending : approval.pendingFor (asked.binding at_) = true)
      (inTime : at_.epochMicroseconds < approval.expiresAt.epochMicroseconds)
      (staging : before.repository.stageEvent (asked.decisionEvent env decision key at_) = .ok staged)
      (stored : after = ⟨before.repository.commitStagedEvent staged,before.approvals.set approval.id (approval.consumed at_)⟩)
  | cancelled (runId key : String) (at_ : IsoTimestamp) (staged : before.repository.Staged)
      (staging : before.repository.stageEvent (eventDraft env runId key "run.cancelled" (.obj []) at_.dateParse) = .ok staged)
      (log : after.repository.events = (before.repository.commitStagedEvent staged).events)
      (approvals : after.approvals = before.approvals)

theorem pendingFor_iff {approval : TimedApproval} {binding : ApprovalBinding} : approval.pendingFor binding = true ↔
    approval.status = .pending ∧ approval.runId = binding.runId ∧ approval.scope = binding.scope ∧
      approval.fingerprint = binding.fingerprint := by
  simp [TimedApproval.pendingFor,TimedApproval.bound,and_assoc]

theorem create_move (store : ApprovalStore) (input : NewApproval) : ApprovalMove env store (store.perform env (.create input)) := by
  cases done : store.createApproval input.pending with
  | error fault => exact .unchanged (by simp [ApprovalStore.perform,done,Except.map,Except.toOption])
  | ok answer =>
    have stored : store.perform env (.create input) = answer.2 := by
      simp [ApprovalStore.perform,done,Except.map,Except.toOption]
    unfold ApprovalStore.createApproval at done
    cases required : store.repository.requireRun input.pending.runId with
    | error fault => simp [required,bind,Except.bind] at done
    | ok run =>
      simp only [required,bind,Except.bind] at done
      split at done
      · cases done
      · rename_i absent
        cases done
        exact .created input.pending (by simpa using absent) rfl stored

theorem expire_move (store : ApprovalStore) (id : String) (binding : ApprovalBinding) :
    ApprovalMove env store (store.perform env (.expire id binding)) := by
  have stored : store.perform env (.expire id binding) = (store.expireApproval id binding).2 := rfl
  rw [stored]
  unfold ApprovalStore.expireApproval
  split
  · exact .unchanged rfl
  · rename_i approval held
    split
    · exact .unchanged rfl
    · rename_i expires
      simp only [not_or,Bool.not_eq_false] at expires
      exact .expired id approval held (pendingFor_iff.mp expires.1).1 rfl

theorem cancel_move (store : ApprovalStore) (runId key : String) (at_ : IsoTimestamp) :
    ApprovalMove env store (store.perform env (.cancel runId key at_)) := by
  cases cancelling : store.repository.cancelRunWithEvent runId
      {status := some .cancelled,updatedAt := at_.dateParse,completedAt := some at_.dateParse}
      (eventDraft env runId key "run.cancelled" (.obj []) at_.dateParse) with
  | error fault =>
    exact .unchanged (by simp [ApprovalStore.perform,ApprovalStore.cancel,cancelling,Except.map,Except.toOption,bind,Except.bind])
  | ok answer =>
    obtain ⟨run,repository⟩ := answer
    have stored : store.perform env (.cancel runId key at_) = {store with repository := repository} := by
      simp [ApprovalStore.perform,ApprovalStore.cancel,cancelling,Except.map,Except.toOption,bind,Except.bind]
    rw [stored]
    obtain ⟨_,_,⟨_,rfl⟩ | ⟨_,_,staged,staging,rfl⟩⟩ := Repository.cancelRunWithEvent_ok cancelling
    · exact .unchanged rfl
    · exact .cancelled runId key at_ staged staging rfl rfl

theorem consumeApprovalWithEvent_move {before after : ApprovalStore} {asked : TimedApproval} {decision : Decision} {key : String}
    {at_ : IsoTimestamp} {answer : Option TimedApproval} (ok : before.consumeApprovalWithEvent asked.id (asked.binding at_)
      (asked.decisionEvent env decision key at_) = .ok (answer,after)) : ApprovalMove env before after := by
  unfold ApprovalStore.consumeApprovalWithEvent at ok
  split at ok
  · cases ok
  cases staging : before.repository.stageEvent (asked.decisionEvent env decision key at_) with
  | error fault => simp [staging,bind,Except.bind] at ok
  | ok staged =>
    simp only [staging,bind,Except.bind] at ok
    split at ok
    · split at ok <;> cases ok
      exact .unchanged rfl
    · rename_i approval held
      split at ok
      · split at ok <;> cases ok
        exact .unchanged rfl
      · split at ok
        · cases ok
          exact .unchanged rfl
        · rename_i consumable
          simp only [not_or,Bool.not_eq_false,not_le] at consumable
          cases ok
          exact .decided asked approval decision key at_ staged held consumable.1 consumable.2 staging rfl

theorem decide_move (store : ApprovalStore) (approval : TimedApproval) (decision : Decision) (key : String)
    (hash : Option String) (at_ : IsoTimestamp) :
    ApprovalMove env store (store.perform env (.decide approval decision key hash at_)) := by
  cases done : store.decide env approval decision key hash at_ with
  | error fault => exact .unchanged (by simp [ApprovalStore.perform,done,Except.map,Except.toOption])
  | ok answer =>
    have stored : store.perform env (.decide approval decision key hash at_) = answer.2 := by
      simp [ApprovalStore.perform,done,Except.map,Except.toOption]
    rw [stored]
    unfold ApprovalStore.decide at done
    split at done
    · cases done
    split at done
    · cases done
    dsimp only at done
    split at done
    · cases done
    · cases done
    · rename_i consuming
      cases done
      exact consumeApprovalWithEvent_move consuming

theorem perform_move (store : ApprovalStore) (operation : ApprovalOperation) :
    ApprovalMove env store (store.perform env operation) := by
  cases operation with
  | create input => exact create_move store input
  | decide approval decision key hash at_ => exact decide_move store approval decision key hash at_
  | expire id binding => exact expire_move store id binding
  | cancel runId key at_ => exact cancel_move store runId key at_

/-! ### What holds of every store that is reached -/

structure Sound (store : ApprovalStore) : Prop where
  filed : ∀ id approval, store.approvals.get? id = some approval → approval.id = id
  known : ∀ id event, Decides store.repository id event → ∃ approval, store.approvals.get? id = some approval
  recorded : ∀ id approval, store.approvals.get? id = some approval →
    (approval.status = .consumed ↔ ∃ event, Decides store.repository id event ∧ event.runId = approval.runId)
  once : ∀ id first second, Decides store.repository id first → Decides store.repository id second → first = second
  inRun : ∀ id approval event, store.approvals.get? id = some approval → Decides store.repository id event →
    event.runId = approval.runId
  inTime : ∀ id approval, store.approvals.get? id = some approval → approval.status = .consumed →
    ∃ at_, approval.consumedAt = some at_ ∧ at_.epochMicroseconds < approval.expiresAt.epochMicroseconds

structure Blank (store : ApprovalStore) : Prop where
  approvals : store.approvals = .empty
  decisions : ∀ id event, ¬ Decides store.repository id event

theorem Blank.sound {store : ApprovalStore} (blank : Blank store) : Sound store := by
  have nothing : ∀ id, store.approvals.get? id = none := by simp [blank.approvals]
  constructor
  · exact fun id approval held => by simp [nothing] at held
  · exact fun id event decides => absurd decides (blank.decisions id event)
  · exact fun id approval held => by simp [nothing] at held
  · exact fun id first _ decides => absurd decides (blank.decisions id first)
  · exact fun id approval _ held => by simp [nothing] at held
  · exact fun id approval held => by simp [nothing] at held

section
variable {before after : ApprovalStore}

section
variable (sound : Sound before)
include sound

variable {id : String}

theorem Sound.no_decision {approval : TimedApproval}
    (held : before.approvals.get? id = some approval) (open_ : approval.status ≠ .consumed) (event : Event) :
    ¬ Decides before.repository id event := by
  intro decides
  exact open_ ((sound.recorded id approval held).mpr ⟨event,decides,sound.inRun id approval event held decides⟩)

theorem Sound.stored {approval : TimedApproval} (named : approval.id = id)
    (open_ : approval.status ≠ .consumed) (undecided : ∀ event, ¬ Decides before.repository id event) :
    Sound {before with approvals := before.approvals.set id approval} := by
  constructor
  · intro other held stored
    rcases get?_set_some stored with ⟨rfl,rfl⟩ | ⟨_,held⟩
    · exact named
    · exact sound.filed _ _ held
  · intro other event decides
    obtain ⟨held,stored⟩ := sound.known other event decides
    simp only [get?_set]
    split
    · exact ⟨_,rfl⟩
    · exact ⟨held,stored⟩
  · intro other held stored
    rcases get?_set_some stored with ⟨rfl,rfl⟩ | ⟨_,held⟩
    · refine ⟨fun consumed => absurd consumed open_,?_⟩
      rintro ⟨event,decides,_⟩
      exact absurd decides (undecided event)
    · exact sound.recorded _ _ held
  · exact sound.once
  · intro other held event stored decides
    rcases get?_set_some stored with ⟨rfl,rfl⟩ | ⟨_,held⟩
    · exact absurd decides (undecided event)
    · exact sound.inRun _ _ _ held decides
  · intro other held stored consumed
    rcases get?_set_some stored with ⟨rfl,rfl⟩ | ⟨_,held⟩
    · exact absurd consumed open_
    · exact sound.inTime _ _ held consumed

theorem Sound.of_log (approvals : after.approvals = before.approvals)
    (log : ∀ id event, Decides after.repository id event ↔ Decides before.repository id event) : Sound after := by
  constructor
  · rw [approvals]
    exact sound.filed
  · intro id event decides
    rw [approvals]
    exact sound.known id event ((log id event).mp decides)
  · intro id approval held
    simp only [log]
    exact sound.recorded id approval (approvals ▸ held)
  · intro id first second left right
    exact sound.once id first second ((log _ _).mp left) ((log _ _).mp right)
  · intro id approval event held decides
    exact sound.inRun id approval event (approvals ▸ held) ((log _ _).mp decides)
  · rw [approvals]
    exact sound.inTime

theorem Sound.decided {asked approval : TimedApproval} {decision : Decision} {key : String} {at_ : IsoTimestamp}
    {staged : before.repository.Staged} (held : before.approvals.get? asked.id = some approval)
    (pending : approval.pendingFor (asked.binding at_) = true) (inTime : at_.epochMicroseconds < approval.expiresAt.epochMicroseconds)
    (staging : before.repository.stageEvent (asked.decisionEvent env decision key at_) = .ok staged) :
    Sound ⟨before.repository.commitStagedEvent staged,before.approvals.set approval.id (approval.consumed at_)⟩ := by
  obtain ⟨status,sameRun,_,_⟩ := pendingFor_iff.mp pending
  obtain ⟨_,inRun,_,_,type,payload,_⟩ := Repository.stageEvent_ok staging
  have named : approval.id = asked.id := sound.filed _ _ held
  have undecided := sound.no_decision held (by rw [status]; simp)
  have mine : ∀ id, isDecision id staged.event.toEventDraft ↔ asked.id = id := by
    intro id
    rw [← @isDecision_decisionEvent env asked decision key at_ id]
    unfold isDecision
    rw [type,payload]
  have log : ∀ {id event}, Decides (before.repository.commitStagedEvent staged) id event ↔
      Decides before.repository id event ∨ event = staged.event ∧ asked.id = id := by
    intro id event
    rw [decides_commit staging]
    refine or_congr_right ⟨?_,?_⟩
    · rintro ⟨rfl,decision⟩
      exact ⟨rfl,(mine id).mp decision⟩
    · rintro ⟨rfl,same⟩
      exact ⟨rfl,(mine id).mpr same⟩
  constructor
  · intro other stored present
    rw [named] at present
    rcases get?_set_some present with ⟨rfl,rfl⟩ | ⟨_,present⟩
    · exact named
    · exact sound.filed _ _ present
  · intro other event decides
    simp only [get?_set]
    split
    · exact ⟨_,rfl⟩
    · rename_i different
      rcases log.mp decides with decides | ⟨_,rfl⟩
      · exact sound.known _ _ decides
      · exact absurd named.symm different
  · intro other stored present
    rw [named] at present
    rcases get?_set_some present with ⟨rfl,rfl⟩ | ⟨different,present⟩
    · exact ⟨fun _ => ⟨staged.event,log.mpr (.inr ⟨rfl,rfl⟩),inRun.trans sameRun.symm⟩,fun _ => rfl⟩
    · rw [sound.recorded _ _ present]
      refine ⟨fun ⟨event,decides,run⟩ => ⟨event,log.mpr (.inl decides),run⟩,?_⟩
      rintro ⟨event,decides,run⟩
      rcases log.mp decides with decides | ⟨_,same⟩
      · exact ⟨event,decides,run⟩
      · exact absurd same.symm different
  · intro id first second left right
    rcases log.mp left with left | ⟨rfl,rfl⟩ <;> rcases log.mp right with right | ⟨rfl,same⟩
    · exact sound.once id first second left right
    · exact absurd left (same ▸ undecided first)
    · exact absurd right (undecided second)
    · rfl
  · intro other stored event present decides
    rw [named] at present
    rcases get?_set_some present with ⟨rfl,rfl⟩ | ⟨different,present⟩
    · rcases log.mp decides with decides | ⟨rfl,_⟩
      · exact absurd decides (undecided event)
      · exact inRun.trans sameRun.symm
    · rcases log.mp decides with decides | ⟨_,same⟩
      · exact sound.inRun _ _ _ present decides
      · exact absurd same.symm different
  · intro other stored present consumed
    rw [named] at present
    rcases get?_set_some present with ⟨rfl,rfl⟩ | ⟨_,present⟩
    · exact ⟨at_,rfl,inTime⟩
    · exact sound.inTime _ _ present consumed

theorem Sound.move (move : ApprovalMove env before after) : Sound after := by
  cases move with
  | unchanged same =>
    rw [same]
    exact sound
  | created approval absent pending stored =>
    rw [stored]
    refine sound.stored rfl (by rw [pending]; simp) fun event decides => ?_
    obtain ⟨held,found⟩ := sound.known _ _ decides
    rw [absent] at found
    cases found
  | expired id approval held pending stored =>
    rw [stored]
    have named : approval.id = id := sound.filed _ _ held
    exact sound.stored named (by simp [TimedApproval.expired])
      (sound.no_decision held (by rw [pending]; simp))
  | decided asked approval decision key at_ staged held pending inTime staging stored =>
    rw [stored]
    exact sound.decided held pending inTime staging
  | cancelled runId key at_ staged staging log approvals =>
    refine sound.of_log approvals fun id event => ?_
    have same : Decides after.repository id event ↔ Decides (before.repository.commitStagedEvent staged) id event := by
      unfold Decides
      rw [log]
    rw [same,decides_commit staging]
    refine ⟨?_,.inl⟩
    rintro (decides | ⟨rfl,decision,_⟩)
    · exact decides
    · obtain ⟨_,_,_,_,type,_⟩ := Repository.stageEvent_ok staging
      rw [type] at decision
      simp [eventDraft,decisionType] at decision

theorem ApprovalMove.expired_stays (move : ApprovalMove env before after) {approval : TimedApproval}
    (held : before.approvals.get? id = some approval) (expired : approval.status = .expired) :
    after.approvals.get? id = some approval := by
  have other : ∀ (key : String) (stored : TimedApproval), (∀ moved, before.approvals.get? key = some moved →
      moved.status = .pending) → (before.approvals.set key stored).get? id = some approval := by
    intro key stored pending
    rw [get?_set,if_neg]
    · exact held
    · rintro rfl
      cases (pending approval held).symm.trans expired
  cases move with
  | unchanged same =>
    rw [same]
    exact held
  | created created absent pending stored =>
    rw [stored]
    refine other _ _ fun moved present => ?_
    cases absent.symm.trans present
  | expired key expiring present pending stored =>
    rw [stored]
    refine other _ _ fun moved found => ?_
    cases present.symm.trans found
    exact pending
  | decided asked deciding decision key at_ staged present pending inTime staging stored =>
    have named : deciding.id = asked.id := sound.filed _ _ present
    rw [stored]
    refine other _ _ fun moved found => ?_
    rw [named,present] at found
    cases found
    exact (pendingFor_iff.mp pending).1
  | cancelled runId key at_ staged staging log approvals =>
    rw [approvals]
    exact held

end

end

/-! ### Whole histories -/

section
variable {start : ApprovalStore}

theorem performAll_sound (sound : Sound start) (operations : List ApprovalOperation) : Sound (start.performAll env operations) := by
  induction operations generalizing start with
  | nil => exact sound
  | cons operation operations ih => exact ih (sound.move (perform_move start operation))

theorem performAll_expired (sound : Sound start) (operations : List ApprovalOperation) {id : String} {approval : TimedApproval}
    (held : start.approvals.get? id = some approval) (expired : approval.status = .expired) :
    (start.performAll env operations).approvals.get? id = some approval := by
  induction operations generalizing start with
  | nil => exact held
  | cons operation operations ih =>
    have move : ApprovalMove env start (start.perform env operation) := perform_move start operation
    exact ih (sound.move move) (move.expired_stays sound held expired)

def Along (env : Environment) (holds : ApprovalStore → ApprovalOperation → Prop) : ApprovalStore → List ApprovalOperation → Prop
  | _,[] => True
  | store,operation::operations => holds store operation ∧ Along env holds (store.perform env operation) operations

theorem along_congr {first second : ApprovalStore → ApprovalOperation → Prop}
    (same : ∀ store operation, first store operation ↔ second store operation) (operations : List ApprovalOperation) :
    Along env first start operations ↔ Along env second start operations := by
  induction operations generalizing start with
  | nil => exact Iff.rfl
  | cons operation operations ih => exact and_congr (same _ _) ih

def Judged (env : Environment) (store : ApprovalStore) : ApprovalOperation → Prop
  | .decide approval decision key hash at_ => store.decide env approval decision key hash at_ = .error approvalExpired ↔
      approval.inScope hash = true ∧
        (approval.status = .expired ∨ approval.expiresAt.epochMicroseconds ≤ at_.epochMicroseconds)
  | .expire id binding => (store.expireApproval id binding).1.isSome ↔ ∃ approval, store.approvals.get? id = some approval ∧
      approval.pendingFor binding = true ∧ approval.expiresAt.epochMicroseconds ≤ binding.at_.epochMicroseconds
  | .create _ => True
  | .cancel _ _ _ => True

/-- The texts compare as the instants do where an approval is expired, and the instants
differ by a whole millisecond where one is decided. -/
def WrittenInOrder (store : ApprovalStore) : ApprovalOperation → Prop
  | .decide approval _ _ hash at_ => approval.inScope hash = true → approval.status ≠ .expired →
      approval.expiresAt.dateParse ≤ at_.dateParse → approval.expiresAt.epochMicroseconds ≤ at_.epochMicroseconds
  | .expire id binding => ∀ approval, store.approvals.get? id = some approval → approval.pendingFor binding = true →
      (binding.at_.text < approval.expiresAt.text ↔ binding.at_.epochMicroseconds < approval.expiresAt.epochMicroseconds)
  | .create _ => True
  | .cancel _ _ _ => True

theorem expireApproval_some_iff (store : ApprovalStore) (id : String) (binding : ApprovalBinding) :
    (store.expireApproval id binding).1.isSome ↔ ∃ approval, store.approvals.get? id = some approval ∧
      approval.pendingFor binding = true ∧ ¬ binding.at_.text < approval.expiresAt.text := by
  unfold ApprovalStore.expireApproval
  split
  · rename_i absent
    simp [absent]
  · rename_i approval held
    split
    · rename_i refused
      simp only [Option.isSome_none,Bool.false_eq_true,false_iff]
      rintro ⟨other,found,pending,late⟩
      cases held.symm.trans found
      rcases refused with other | early
      · rw [pending] at other
        cases other
      · exact late early
    · rename_i expires
      simp only [not_or,Bool.not_eq_false] at expires
      exact ⟨fun _ => ⟨approval,held,expires⟩,fun _ => rfl⟩

theorem expire_judged_iff (store : ApprovalStore) (id : String) (binding : ApprovalBinding) :
    Judged env store (.expire id binding) ↔ WrittenInOrder store (.expire id binding) := by
  have answered := expireApproval_some_iff store id binding
  constructor
  · intro judged approval held pending
    have instants := answered.symm.trans judged
    constructor
    · intro early
      apply not_le.mp
      intro late
      obtain ⟨other,found,_,notEarly⟩ := instants.mpr ⟨approval,held,pending,late⟩
      cases held.symm.trans found
      exact notEarly early
    · intro early
      apply not_not.mp
      intro late
      obtain ⟨other,found,_,reached⟩ := instants.mp ⟨approval,held,pending,late⟩
      cases held.symm.trans found
      exact absurd early (not_lt.mpr reached)
  · intro ordered
    refine answered.trans (exists_congr fun approval => and_congr_right fun held => and_congr_right fun pending => ?_)
    rw [ordered approval held pending]
    exact not_lt

variable {draft : EventDraft}

theorem stageEvent_fault {repository : Repository} {fault : Fault}
    (failed : repository.stageEvent draft = .error fault) : ∃ message, fault = .error message := by
  unfold Repository.stageEvent at failed
  cases required : repository.requireRun draft.runId with
  | error other =>
    simp only [required,bind,Except.bind] at failed
    cases failed
    unfold Repository.requireRun at required
    split at required <;> cases required
    exact ⟨_,rfl⟩
  | ok run =>
    simp only [required,bind,Except.bind] at failed
    split at failed
    · split at failed <;> cases failed
      exact ⟨_,rfl⟩
    · cases failed

theorem consumeApprovalWithEvent_fault {store : ApprovalStore} {id : String} {binding : ApprovalBinding}
    {fault : Fault} (failed : store.consumeApprovalWithEvent id binding draft = .error fault) : ∃ message, fault = .error message := by
  unfold ApprovalStore.consumeApprovalWithEvent at failed
  split at failed
  · cases failed
    exact ⟨_,rfl⟩
  cases staging : store.repository.stageEvent draft with
  | error other =>
    simp only [staging,bind,Except.bind] at failed
    cases failed
    exact stageEvent_fault staging
  | ok staged =>
    simp only [staging,bind,Except.bind] at failed
    split at failed
    · split at failed <;> cases failed
      exact ⟨_,rfl⟩
    · split at failed
      · split at failed <;> cases failed
        exact ⟨_,rfl⟩
      · split at failed <;> cases failed

section
variable (store : ApprovalStore) (approval : TimedApproval) (decision : Decision) (key : String) (hash : Option String)
  (at_ : IsoTimestamp)

theorem decide_expired_iff : store.decide env approval decision key hash at_ = .error approvalExpired ↔
      approval.inScope hash = true ∧ approval.runOut at_ = true := by
  unfold ApprovalStore.decide
  split
  · rename_i outside
    simp [outside,approvalExpired]
  · rename_i inside
    simp only [Bool.not_eq_false] at inside
    split
    · rename_i late
      simp [inside,late]
    · rename_i early
      refine iff_of_false (fun failed => ?_) fun late => early late.2
      dsimp only at failed
      split at failed
      · rename_i fault consuming
        obtain ⟨message,rfl⟩ := consumeApprovalWithEvent_fault consuming
        unfold rethrowEventConflict approvalExpired at failed
        split at failed <;> simp at failed
      · unfold TimedApproval.undecided approvalExpired at failed
        split at failed <;> simp at failed
      · cases failed

theorem decide_judged_iff :
    Judged env store (.decide approval decision key hash at_) ↔ WrittenInOrder store (.decide approval decision key hash at_) := by
  have answered := @decide_expired_iff env store approval decision key hash at_
  have early : approval.expiresAt.epochMicroseconds ≤ at_.epochMicroseconds → approval.expiresAt.dateParse ≤ at_.dateParse :=
    fun late => by
      unfold IsoTimestamp.dateParse
      rw [Int.fdiv_eq_ediv_of_nonneg _ (by decide),Int.fdiv_eq_ediv_of_nonneg _ (by decide)]
      exact Int.ediv_le_ediv (by decide) late
  have dates : approval.runOut at_ = true ↔ approval.status = .expired ∨ approval.expiresAt.dateParse ≤ at_.dateParse := by
    simp [TimedApproval.runOut]
  rw [dates] at answered
  constructor
  · intro judged inScope open_ late
    exact ((answered.symm.trans judged).mp ⟨inScope,.inr late⟩).2.resolve_left open_
  · intro ordered
    refine answered.trans (and_congr_right fun inScope => ?_)
    by_cases expired : approval.status = .expired
    · simp [expired]
    · simp only [expired,false_or]
      exact ⟨ordered inScope expired,early⟩

end

theorem judged_iff (store : ApprovalStore) (operation : ApprovalOperation) :
    Judged env store operation ↔ WrittenInOrder store operation := by
  cases operation with
  | create input => exact Iff.rfl
  | decide approval decision key hash at_ => exact decide_judged_iff store approval decision key hash at_
  | expire id binding => exact expire_judged_iff store id binding
  | cancel runId key at_ => exact Iff.rfl

/-- After every history each approval has one decision at most, in the log exactly if it is
consumed, made strictly before its instant of expiry, and none once it is expired; and
every operation goes by the instants exactly if the times it meets are written in order. -/
theorem approvals_hold_iff (blank : Blank start) (operations : List ApprovalOperation) : (Sound (start.performAll env operations) ∧
      (∀ later id approval, (start.performAll env operations).approvals.get? id = some approval → approval.status = .expired →
        (start.performAll env (operations ++ later)).approvals.get? id = some approval ∧
          ∀ event, ¬ Decides (start.performAll env (operations ++ later)).repository id event) ∧
      Along env (Judged env) start operations) ↔ Along env WrittenInOrder start operations := by
  have sound := @performAll_sound env _ blank.sound operations
  rw [along_congr judged_iff operations]
  refine ⟨fun ⟨_,_,ordered⟩ => ordered,fun ordered => ⟨sound,?_,ordered⟩⟩
  intro later id approval held expired
  have whole : start.performAll env (operations ++ later) = (start.performAll env operations).performAll env later :=
    List.foldl_append
  rw [whole]
  have kept := @performAll_expired env _ sound later _ _ held expired
  exact ⟨kept,(performAll_sound sound later).no_decision kept (by rw [expired]; simp)⟩

end
def newYear (hour : Nat) (offset : Option (Bool × Nat × Nat)) : TimestampParts :=
  {year := 2024,month := 1,day := 1,hour := hour,minute := 0,second := 0,fraction := [],offset := offset}

def eightInNewYork : IsoTimestamp where
  text := "2024-01-01T08:00:00-05:00"
  parts := newYear 8 (some (false,5,0))
  matched := by decide +kernel
  valid := by decide +kernel

def nineUtc : IsoTimestamp where
  text := "2024-01-01T09:00:00Z"
  parts := newYear 9 none
  matched := by decide +kernel
  valid := by decide +kernel

def midnightUtc : IsoTimestamp where
  text := "2024-01-01T00:00:00Z"
  parts := newYear 0 none
  matched := by decide +kernel
  valid := by decide +kernel

def expiringAt (expiresAt : IsoTimestamp) : NewApproval where
  id := "approval-1"
  runId := "run-1"
  scope := "merge"
  fingerprint := "hash-1"
  createdAt := midnightUtc
  expiresAt := expiresAt

def expiringRun : Run where
  id := "run-1"
  projectId := "project-1"
  pipeline := "feature"
  status := .waiting
  createdAt := 0
  updatedAt := 0

def blankStore : ApprovalStore := {repository := Repository.setRun {} expiringRun}

theorem blankStore_blank : Blank blankStore where
  approvals := rfl
  decisions id event := by
    rintro ⟨⟨key,held⟩,_⟩
    cases held

def sweptThenDecided : List ApprovalOperation :=
  [.create (expiringAt nineUtc),
    .expire "approval-1" ((expiringAt nineUtc).pending.binding midnightUtc),
    .decide (expiringAt nineUtc).pending .approve "key-1" (some "hash-1") midnightUtc]

theorem created_stored (expiresAt : IsoTimestamp) :
    (blankStore.perform .steady (.create (expiringAt expiresAt))).approvals.get? "approval-1" =
      some (expiringAt expiresAt).pending := by
  rfl

theorem sweptThenDecided_holds : Sound (blankStore.performAll .steady sweptThenDecided) ∧
    (∀ later id approval, (blankStore.performAll .steady sweptThenDecided).approvals.get? id = some approval →
      approval.status = .expired → (blankStore.performAll .steady (sweptThenDecided ++ later)).approvals.get? id = some approval ∧
        ∀ event, ¬ Decides (blankStore.performAll .steady (sweptThenDecided ++ later)).repository id event) ∧
    Along .steady (Judged .steady) blankStore sweptThenDecided := by
  refine (approvals_hold_iff blankStore_blank sweptThenDecided).mpr ⟨trivial,?_,?_,trivial⟩
  · intro approval held _
    cases (created_stored nineUtc).symm.trans held
    decide +kernel
  · intro _ _ late
    exact absurd late (by decide +kernel)

/-- Nine in London is before eight in New York, and its text is not. -/
theorem approval_expired_early : ¬ ∀ (env : Environment) (start : ApprovalStore) (operations : List ApprovalOperation),
    Blank start → Along env (Judged env) start operations := by
  intro claimed
  have judged := (claimed .steady blankStore [.create (expiringAt eightInNewYork),
    .expire "approval-1" ((expiringAt eightInNewYork).pending.binding nineUtc)] blankStore_blank).2.1
  obtain ⟨approval,held,_,late⟩ := judged.mp (by decide +kernel)
  cases (created_stored eightInNewYork).symm.trans held
  exact absurd late (by decide +kernel)

end AgentOS.System
