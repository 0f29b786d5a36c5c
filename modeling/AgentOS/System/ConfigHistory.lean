import AgentOS.ControlPlane.ConfigRevisions

/-! Histories of configuration calls. Two calls that take the same revision to be active
do not both apply one of their own, as long as no draft is older than the active revision. -/
namespace AgentOS.System
open Library ControlPlane Repository

/-! ### Calls -/

structure ConfigCall where
  project : Project
  revision : ConfigRevisionDraft
  precondition : Option ConfigRevisionPrecondition
  failBeforeCommit : Option Fault := none

structure ConfigRecord where
  call : ConfigCall
  before : Repository
  answer : Except Fault ConfigRevision
  after : Repository

def ConfigCall.record (call : ConfigCall) (before : Repository) : ConfigRecord :=
  match before.applyConfigRevision call.project call.revision call.precondition call.failBeforeCommit with
  | .ok (answer,after) => {call,before,answer := .ok answer,after}
  | .error fault => {call,before,answer := .error fault,after := before}

inductive ConfigHistory (start : Repository) : List ConfigRecord → Repository → Prop
  | start : ConfigHistory start [] start
  | step {history : List ConfigRecord} {before : Repository} (calls : ConfigHistory start history before) (call : ConfigCall)
      (own : call.revision.projectId = call.project.id) :
      ConfigHistory start (history ++ [call.record before]) (call.record before).after

def ConfigRecord.Applies (record : ConfigRecord) (answer : ConfigRevision) : Prop :=
  record.before.configRevisions.get? record.call.revision.id = none ∧ record.answer = .ok answer

/-- A draft that is applied is not older than the active revision. A call that names a
revision which is stored already names the active one, under the precondition with which
it was applied. -/
def InOrder (early : List ConfigRecord) (record : ConfigRecord) : Prop :=
  match record.before.configRevisions.get? record.call.revision.id with
  | none => ∀ active, record.before.getLatestConfigRevision record.call.project.id = some active →
      active.createdAt ≤ record.call.revision.createdAt
  | some existing => record.before.getLatestConfigRevision record.call.project.id = some existing ∧
      ∃ first ∈ early, first.Applies existing ∧ first.call.precondition = record.call.precondition ∧
        first.call.project.id = record.call.project.id

section
variable {call : ConfigCall} {before start after : Repository} {answer : ConfigRevision} {history early : List ConfigRecord}

theorem record_before : (call.record before).before = before ∧ (call.record before).call = call := by
  unfold ConfigCall.record
  split <;> exact ⟨rfl,rfl⟩

theorem record_ok (done : (call.record before).answer = .ok answer) :
    before.applyConfigRevision call.project call.revision call.precondition call.failBeforeCommit =
      .ok (answer,(call.record before).after) := by
  unfold ConfigCall.record at done ⊢
  split at done
  · rename_i ok
    cases done
    exact ok
  · cases done

theorem record_failed {fault : Fault} (done : (call.record before).answer = .error fault) : (call.record before).after = before := by
  unfold ConfigCall.record at done ⊢
  split at done
  · cases done
  · rfl

theorem inOrder_active (own : call.revision.projectId = call.project.id) (done : (call.record before).answer = .ok answer)
    (order : InOrder early (call.record before)) :
    (call.record before).after.getLatestConfigRevision call.project.id = some answer := by
  obtain ⟨found,called⟩ := @record_before call before
  unfold InOrder at order
  rw [found,called] at order
  rcases applyConfigRevision_ok (record_ok done) with ⟨held,_,same⟩ | ⟨absent,_,made,inserted⟩
  · rw [held] at order
    rw [same]
    exact order.1
  · rw [absent] at order
    rw [inserted]
    exact inserted_active absent own made order

theorem insert_elsewhere {project : Project} {created : ConfigRevision} {projectId : String}
    (absent : before.configRevisions.get? created.id = none) (other : created.projectId ≠ projectId) :
    (before.insertConfigRevision project created).getLatestConfigRevision projectId = before.getLatestConfigRevision projectId := by
  have same : (before.insertConfigRevision project created).revisionsOf projectId = before.revisionsOf projectId := by
    unfold revisionsOf
    change List.filter _ (before.configRevisions.set created.id created).values = _
    rw [OrderedMap.values_set_new _ absent,List.filter_append]
    simp [other]
  unfold getLatestConfigRevision
  rw [same]

/-! ### Histories -/

/-- The revision was applied for the project by a call with the precondition. -/
def AppliedUnder (history : List ConfigRecord) (projectId : String) (precondition : ConfigRevisionPrecondition)
    (revision : ConfigRevision) : Prop :=
  ∃ record ∈ history, record.call.project.id = projectId ∧ record.call.precondition = some precondition ∧ record.Applies revision

def AllInOrder (history : List ConfigRecord) : Prop :=
  ∀ early record late, history = early ++ record::late → ∀ answer, record.answer = .ok answer → InOrder early record

variable {record : ConfigRecord} {precondition : ConfigRevisionPrecondition}

theorem AllInOrder.init (order : AllInOrder (history ++ [record])) : AllInOrder history := by
  intro early other late split
  refine order early other (late ++ [record]) ?_
  rw [split]
  simp

/-- Once a call has applied a revision under a precondition, the active revision has a
greater number than the precondition names, and no other revision is applied under it. -/
structure Settled (history : List ConfigRecord) (after : Repository) : Prop where
  passed : ∀ projectId precondition revision, AppliedUnder history projectId precondition revision →
    ∃ active, after.getLatestConfigRevision projectId = some active ∧
      ∀ number, precondition.revision = some number → number < active.revision
  once : ∀ projectId precondition first second, AppliedUnder history projectId precondition first →
    AppliedUnder history projectId precondition second → first = second

theorem appliedUnder_snoc {projectId : String}
    {revision : ConfigRevision} : AppliedUnder (history ++ [record]) projectId precondition revision ↔
      AppliedUnder history projectId precondition revision ∨ record.call.project.id = projectId ∧
        record.call.precondition = some precondition ∧ record.Applies revision := by
  unfold AppliedUnder
  simp only [List.mem_append,List.mem_singleton,or_and_right,exists_or,exists_eq_left]

theorem Settled.idle (settled : Settled history before) (idle : ∀ revision, ¬ record.Applies revision)
    (same : record.after = before) : Settled (history ++ [record]) record.after := by
  have applied : ∀ {projectId precondition revision}, AppliedUnder (history ++ [record]) projectId precondition revision →
      AppliedUnder history projectId precondition revision := by
    intro projectId precondition revision applied
    rcases appliedUnder_snoc.mp applied with early | ⟨_,_,here⟩
    · exact early
    · exact absurd here (idle revision)
  constructor
  · intro projectId precondition revision here
    rw [same]
    exact settled.passed _ _ _ (applied here)
  · exact fun projectId precondition first second here there => settled.once _ _ _ _ (applied here) (applied there)

theorem holds_revision {active : Option ConfigRevision}
    (holds : precondition.holds active = true) : precondition.revision = active.map ConfigRevision.revision := by
  unfold ConfigRevisionPrecondition.holds at holds
  rw [Bool.and_eq_true,decide_eq_true_eq] at holds
  exact holds.1.symm

theorem Settled.insert (settled : Settled history before) (own : call.revision.projectId = call.project.id)
    (done : (call.record before).answer = .ok answer) (order : InOrder history (call.record before))
    (absent : before.configRevisions.get? call.revision.id = none) :
    Settled (history ++ [call.record before]) (call.record before).after := by
  obtain ⟨found,called⟩ := @record_before call before
  have active := inOrder_active own done order
  rcases applyConfigRevision_ok (record_ok done) with ⟨held,_⟩ | ⟨_,met,made,inserted⟩
  · rw [absent] at held
    cases held
  have newest : ∀ older, before.getLatestConfigRevision call.project.id = some older → older.revision < answer.revision := by
    intro older latest
    rw [made]
    exact lt_nextRevision (getLatestConfigRevision_ok latest).1
  have checked : ∀ precondition, call.precondition = some precondition →
      precondition.revision = (before.getLatestConfigRevision call.project.id).map ConfigRevision.revision := by
    intro precondition named
    rw [named] at met
    exact holds_revision met
  have fresh : ∀ precondition revision, call.precondition = some precondition →
      ¬ AppliedUnder history call.project.id precondition revision := by
    intro precondition revision named applied
    obtain ⟨older,latest,smaller⟩ := settled.passed _ _ _ applied
    have same := checked precondition named
    rw [latest] at same
    exact lt_irrefl _ (smaller _ same)
  constructor
  · intro projectId precondition revision applied
    rcases appliedUnder_snoc.mp applied with earlier | ⟨mine,named,_⟩
    · obtain ⟨older,latest,smaller⟩ := settled.passed _ _ _ earlier
      by_cases here : call.project.id = projectId
      · subst here
        exact ⟨answer,active,fun number same => (smaller number same).trans (newest older latest)⟩
      · have other : answer.projectId ≠ projectId := by
          rw [made]
          exact fun same => here (own.symm.trans same)
        refine ⟨older,?_,smaller⟩
        rw [inserted,insert_elsewhere (by rw [made]; exact absent) other]
        exact latest
    · rw [called] at mine named
      subst mine
      refine ⟨answer,active,fun number same => ?_⟩
      rw [checked precondition named] at same
      obtain ⟨older,latest,rfl⟩ := Option.map_eq_some_iff.mp same
      exact newest older latest
  · intro projectId precondition first second firstApplied secondApplied
    have answered : ∀ revision, (call.record before).Applies revision → revision = answer := by
      intro revision applies
      exact Except.ok.inj (applies.2.symm.trans done)
    rcases appliedUnder_snoc.mp firstApplied with earlier | ⟨mine,named,applies⟩
    · rcases appliedUnder_snoc.mp secondApplied with later | ⟨mine,named,_⟩
      · exact settled.once _ _ _ _ earlier later
      · rw [called] at mine named
        subst mine
        exact absurd earlier (fresh precondition first named)
    · rcases appliedUnder_snoc.mp secondApplied with later | ⟨_,_,again⟩
      · rw [called] at mine named
        subst mine
        exact absurd later (fresh precondition second named)
      · rw [answered first applies,answered second again]

section
variable (calls : ConfigHistory start history after)
include calls

theorem ConfigHistory.settled (order : AllInOrder history) : Settled history after := by
  induction calls with
  | start => exact ⟨fun _ _ _ ⟨_,inside,_⟩ => (by cases inside),fun _ _ _ _ ⟨_,inside,_⟩ => (by cases inside)⟩
  | @step history before _ call own ih =>
    have settled := ih order.init
    obtain ⟨found,called⟩ := @record_before call before
    cases done : (call.record before).answer with
    | error fault =>
      refine settled.idle (fun revision applies => ?_) (record_failed done)
      have impossible := applies.2.symm.trans done
      cases impossible
    | ok answer =>
      have here := order history (call.record before) [] rfl answer done
      cases absent : before.configRevisions.get? call.revision.id with
      | none => exact settled.insert own done here absent
      | some existing =>
        refine settled.idle (fun revision applies => ?_) ?_
        · have none := applies.1
          rw [found,called,absent] at none
          cases none
        · rcases applyConfigRevision_ok (record_ok done) with ⟨_,_,same⟩ | ⟨none,_⟩
          · exact same
          · rw [absent] at none
            cases none

theorem ConfigHistory.member (inside : record ∈ history) :
    ∃ (call : ConfigCall) (before : Repository), record = call.record before ∧ call.revision.projectId = call.project.id := by
  induction calls with
  | start => cases inside
  | step _ call own ih =>
    rcases List.mem_append.mp inside with earlier | last
    · exact ih earlier
    · exact ⟨call,_,List.mem_singleton.mp last,own⟩

theorem succeeded_applied (order : AllInOrder history)
    (inside : record ∈ history) (named : record.call.precondition = some precondition)
    (done : record.answer = .ok answer) : AppliedUnder history record.call.project.id precondition answer := by
  obtain ⟨call,before,rfl,_⟩ := calls.member inside
  obtain ⟨found,called⟩ := @record_before call before
  obtain ⟨early,late,split⟩ := List.append_of_mem inside
  have here := order early _ late split answer done
  rcases applyConfigRevision_ok (record_ok done) with ⟨held,_,_⟩ | ⟨absent,_⟩
  · unfold InOrder at here
    rw [found,called,held] at here
    obtain ⟨_,first,earlier,applies,same,project⟩ := here
    rw [called] at named
    refine ⟨first,?_,project.trans (by rw [called]),same.trans named,applies⟩
    rw [split]
    exact List.mem_append_left _ earlier
  · refine ⟨_,inside,rfl,named,?_,done⟩
    rw [found,called]
    exact absent

end

/-- In every history of calls in order, two calls for a project that name the same active
revision do not answer different revisions, and a call that succeeds leaves the revision
that it answers active. -/
theorem configurations_apply_in_turn (calls : ConfigHistory start history after) (order : AllInOrder history) :
    (∀ first ∈ history, ∀ second ∈ history, ∀ precondition firstAnswer secondAnswer,
      first.call.project.id = second.call.project.id → first.call.precondition = some precondition →
      second.call.precondition = some precondition → first.answer = .ok firstAnswer → second.answer = .ok secondAnswer →
      firstAnswer = secondAnswer) ∧ ∀ record ∈ history, ∀ answer, record.answer = .ok answer →
      record.after.getLatestConfigRevision record.call.project.id = some answer := by
  constructor
  · intro first firstInside second secondInside precondition firstAnswer secondAnswer project firstNamed secondNamed
      firstDone secondDone
    have firstApplied := succeeded_applied calls order firstInside firstNamed firstDone
    have secondApplied := succeeded_applied calls order secondInside secondNamed secondDone
    rw [project] at firstApplied
    exact (calls.settled order).once _ _ _ _ firstApplied secondApplied
  · intro record inside answer done
    obtain ⟨early,late,split⟩ := List.append_of_mem inside
    have here := order early record late split answer done
    obtain ⟨call,before,rfl,own⟩ := calls.member inside
    rw [(@record_before call before).2]
    exact inOrder_active own done here

/-- A call that is answered leaves its answer active exactly when the revision that was active is no newer than the draft,
or, where the draft was stored already, when it was active. -/
theorem answered_active_iff (own : call.revision.projectId = call.project.id) (done : (call.record before).answer = .ok answer) :
    (call.record before).after.getLatestConfigRevision call.project.id = some answer ↔
      match before.configRevisions.get? call.revision.id with
      | none => ∀ active, before.getLatestConfigRevision call.project.id = some active →
          active.createdAt ≤ call.revision.createdAt
      | some existing => before.getLatestConfigRevision call.project.id = some existing := by
  rcases applyConfigRevision_ok (record_ok done) with ⟨held,_,same⟩ | ⟨absent,_,made,inserted⟩
  · rw [held,same]
  · rw [absent,inserted]
    constructor
    · intro active older latest
      have fresh : before.configRevisions.get? answer.id = none := by
        rw [made]
        exact absent
      have listed : older ∈ (before.insertConfigRevision call.project answer).revisionsOf call.project.id :=
        (mem_insertConfigRevision fresh).mpr (.inr (getLatestConfigRevision_ok latest).1)
      have first := (getLatestConfigRevision_ok active).2 older listed
      rw [← Bool.not_eq_true,appliedAfter_iff,not_lt] at first
      have time := (Prod.Lex.toLex_le_toLex.mp first).elim (fun before => le_of_lt before) fun same => le_of_eq same.1
      rw [made] at time
      exact time
    · exact inserted_active absent own made

end

/-! ### Clocks that are behind -/

def applying (id : String) (createdAt : Instant) (expected : Option Nat) : ConfigCall where
  project := {id := "project-1",name := "Project",createdAt := 0,updatedAt := createdAt}
  revision := {id,projectId := "project-1",config := .obj [],createdAt}
  precondition := some {revision := expected,digest := expected.map fun _ => ""}

def firstApplied : ConfigRecord := (applying "revision-1" 100 none).record {}
def secondApplied : ConfigRecord := (applying "revision-2" 50 (some 1)).record firstApplied.after
def thirdApplied : ConfigRecord := (applying "revision-3" 60 (some 1)).record secondApplied.after

theorem behind_history : ConfigHistory {} [firstApplied,secondApplied,thirdApplied] thirdApplied.after :=
  .step (.step (.step .start (applying "revision-1" 100 none) rfl) (applying "revision-2" 50 (some 1)) rfl)
    (applying "revision-3" 60 (some 1)) rfl

theorem second_behind : ∃ answer, secondApplied.answer = .ok answer ∧
    (secondApplied.after.getLatestConfigRevision "project-1" = some answer ↔
      ∀ active, firstApplied.after.getLatestConfigRevision "project-1" = some active → active.createdAt ≤ 50) := by
  have absent : firstApplied.after.configRevisions.get? (applying "revision-2" 50 (some 1)).revision.id = none := by decide +kernel
  cases done : secondApplied.answer with
  | ok answer =>
    have active := answered_active_iff rfl done
    rw [absent] at active
    exact ⟨answer,rfl,active⟩
  | error fault =>
    have applied : secondApplied.answer.toOption.isSome = true := by decide +kernel
    rw [done] at applied
    cases applied

/-- Two calls that take the first revision to be active apply different ones, as their
clocks are behind it, and the one that is applied is not active. -/
theorem older_drafts_apply : ∃ history after, ConfigHistory {} history after ∧
    ∃ second ∈ history, ∃ third ∈ history, second.call.project.id = third.call.project.id ∧
      second.call.precondition = some {revision := some 1,digest := some ""} ∧
      third.call.precondition = second.call.precondition ∧
      (second.answer.map ConfigRevision.revision).toOption = some 2 ∧
      (third.answer.map ConfigRevision.revision).toOption = some 3 ∧
      (second.after.getLatestConfigRevision second.call.project.id).map ConfigRevision.revision = some 1 :=
  ⟨_,_,behind_history,secondApplied,by simp,thirdApplied,by simp,by decide +kernel,by decide +kernel,by decide +kernel,
    by decide +kernel,by decide +kernel,by decide +kernel⟩

/-! ### Clocks in order -/

def laterApplied : ConfigRecord := (applying "revision-2" 150 (some 1)).record firstApplied.after
def staleRefused : ConfigRecord := (applying "revision-3" 160 (some 1)).record laterApplied.after

theorem ahead_history : ConfigHistory {} [firstApplied,laterApplied,staleRefused] staleRefused.after :=
  .step (.step (.step .start (applying "revision-1" 100 none) rfl) (applying "revision-2" 150 (some 1)) rfl)
    (applying "revision-3" 160 (some 1)) rfl

theorem inOrder_new {early : List ConfigRecord} {record : ConfigRecord}
    (absent : record.before.configRevisions.get? record.call.revision.id = none)
    (current : ((record.before.getLatestConfigRevision record.call.project.id).all fun active =>
      active.createdAt ≤ record.call.revision.createdAt) = true) : InOrder early record := by
  unfold InOrder
  rw [absent]
  intro active latest
  rw [latest] at current
  simpa using current

theorem ahead_in_order : AllInOrder [firstApplied,laterApplied,staleRefused] := by
  have ordered : ∀ record ∈ [firstApplied,laterApplied,staleRefused],
      record.before.configRevisions.get? record.call.revision.id = none ∧
        ((record.before.getLatestConfigRevision record.call.project.id).all fun active =>
          active.createdAt ≤ record.call.revision.createdAt) = true := by
    decide +kernel
  intro early record late split _ _
  obtain ⟨absent,current⟩ := ordered record (by rw [split]; simp)
  exact inOrder_new absent current

theorem configurations_apply_in_turn_ahead : ∃ answer, laterApplied.answer = .ok answer ∧
    laterApplied.after.getLatestConfigRevision "project-1" = some answer := by
  cases done : laterApplied.answer with
  | ok answer => exact ⟨answer,rfl,(configurations_apply_in_turn ahead_history ahead_in_order).2 laterApplied (by simp) answer done⟩
  | error fault =>
    have applied : laterApplied.answer.toOption.isSome = true := by decide +kernel
    rw [done] at applied
    cases applied

end AgentOS.System
