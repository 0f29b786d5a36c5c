import AgentOS.ControlPlane.Resume
import AgentOS.Outbox.Cancel
import AgentOS.Outbox.Cleanup
import AgentOS.Outbox.OrphanSettles
import AgentOS.Outbox.StartRules

/-! Which runtime sessions a successful resume leaves within reach of cancel,
cleanup and orphan reconciliation. -/
namespace AgentOS.ControlPlane
open Library Checkpoint Outbox Routine AgentOS.Action
variable {env : Environment} {world after : World} {runId : String}

/-! ### Sessions and what refers to them -/

/-- The session of a runtime effect: its reference, or the one that its start left behind. -/
def Behind (journal : List Happening) (effect : Effect) (externalRef : String) : Prop :=
  effect.externalRef = some externalRef ∨
    effect.status = .started ∧ .sessionStarted effect.key externalRef ∈ journal

/-- A session that was started for the run and whose cleanup is not confirmed. -/
def Live (env : Environment) (world : World) (runId externalRef : String) : Prop :=
  .sessionCleaned externalRef ∉ world.journal ∧
    ∃ effect ∈ world.checkpoints.listEffects env.collation runId,
      effect.kind = "runtime-session" ∧ Behind world.journal effect externalRef

def Referenced (env : Environment) (world : World) (runId externalRef : String) : Prop :=
  let effects := world.checkpoints.listEffects env.collation runId
  externalRef ∈ cleanupReferences effects ∨
    (∃ effect ∈ activeRuntimeEffects effects, Behind world.journal effect externalRef) ∨
    ∃ reservation ∈ world.checkpoints.reservations.values, reservation.runId = runId ∧
      ∃ effect ∈ runtimeIntent effects reservation.stepKey, Behind world.journal effect externalRef

def Recorded (env : Environment) (world : World) (runId externalRef : String) : Prop :=
  ∃ effect ∈ world.checkpoints.listEffects env.collation runId,
    effect.status = .succeeded ∧ cleanupExternalReference effect = some externalRef

instance (journal : List Happening) (effect : Effect) (externalRef : String) :
    Decidable (Behind journal effect externalRef) := inferInstanceAs (Decidable (_ ∨ _))

instance (env : Environment) (world : World) (runId externalRef : String) :
    Decidable (Live env world runId externalRef) := inferInstanceAs (Decidable (_ ∧ _))

instance (env : Environment) (world : World) (runId externalRef : String) :
    Decidable (Referenced env world runId externalRef) := inferInstanceAs (Decidable (_ ∨ (∃ _ ∈ _, _) ∨ ∃ _ ∈ _, _ ∧ ∃ _ ∈ _, _))

theorem mem_cleanupReferences (effects : List Effect) (externalRef : String) :
    externalRef ∈ cleanupReferences effects ↔ ∃ effect ∈ effects, cleanupExternalReference effect = some externalRef := by
  simp [cleanupReferences,List.mem_filterMap]

/-! ### The released run -/

def sessionKinds : List String := ["runtime-session","runtime-session-cancel","runtime-session-orphan-reconcile"]

def HoldsSession (runId effectRunId kind : String) : Prop := effectRunId = runId ∧ kind ∈ sessionKinds

theorem cleanupExternalReference_kind {effect : Effect} {externalRef : String}
    (held : cleanupExternalReference effect = some externalRef) : effect.kind ∈ sessionKinds := by
  unfold cleanupExternalReference at held
  split at held
  · rename_i kind
    simp [sessionKinds,kind]
  · split at held
    · rename_i kind
      rcases kind.1 with kind | kind <;> simp [sessionKinds,kind]
    · cases held

/-- The run's effects that hold sessions, all of which have succeeded, and the reservations stay as they are. -/
structure KeepsSessions (runId : String) (before after : World) : Prop where
  journal : after.journal = before.journal
  reservations : after.checkpoints.reservations = before.checkpoints.reservations
  effects : (∀ key effect, before.checkpoints.effects.get? key = some effect →
      HoldsSession runId effect.runId effect.kind → effect.status = .succeeded) →
    ∀ key effect, HoldsSession runId effect.runId effect.kind →
      (after.checkpoints.effects.get? key = some effect ↔ before.checkpoints.effects.get? key = some effect)

namespace KeepsSessions
variable {first second third : World}

theorem of_same (checkpoints : second.checkpoints = first.checkpoints) (journal : second.journal = first.journal) :
    KeepsSessions runId first second :=
  ⟨journal,by rw [checkpoints],fun _ _ _ _ => by rw [checkpoints]⟩

theorem trans (left : KeepsSessions runId first second) (right : KeepsSessions runId second third) :
    KeepsSessions runId first third := by
  refine ⟨right.journal.trans left.journal,right.reservations.trans left.reservations,fun finished key effect concern => ?_⟩
  have early := left.effects finished
  have stillFinished : ∀ key effect, second.checkpoints.effects.get? key = some effect →
      HoldsSession runId effect.runId effect.kind → effect.status = .succeeded := by
    intro key effect held concern
    exact finished key effect ((early key effect concern).mp held) concern
  exact (right.effects stillFinished key effect concern).trans (early key effect concern)

theorem steps (taken : Relation.ReflTransGen (KeepsSessions runId) first second) : KeepsSessions runId first second := by
  induction taken with
  | refl => exact of_same rfl rfl
  | tail _ last ih => exact ih.trans last

end KeepsSessions

theorem requestStart_keepsSessions (request : StartRequest) : (requestStart env request).Takes (KeepsSessions runId) := by
  have delivers : Delivers request.Drafts (· ∈ request.effectKeys) (KeepsSessions runId) := by
    refine ⟨fun _ => .of_same rfl rfl,fun world store step => ⟨rfl,step.reservations,?_⟩⟩
    intro finished key effect concern
    have undrafted : ∀ draft, request.Drafts draft → ¬ HoldsSession runId draft.runId draft.kind := by
      rintro draft ⟨_,_,kind | kind⟩ ⟨_,session⟩
      · rw [kind] at session
        exact absurd session (by decide)
      · rw [kind] at session
        exact absurd session (by decide)
    exact step.concerned undrafted finished concern
  apply requestStart_takes delivers
  rintro before _ ⟨_,_,_,_,_,_,_,rfl⟩
  exact .of_same rfl rfl

theorem reopenRun_keepsSessions (run : Run) (pipeline : Pipeline) (generation : Nat) :
    (reopenRun env runId run pipeline generation).Takes (KeepsSessions runId) := by
  have passed : ∀ world : World, KeepsSessions runId world world.ticked := fun _ => .of_same rfl rfl
  refine .bind (takes_now passed) fun at_ =>
    .bind (takes_repository passed fun _ _ _ _ _ => .of_same rfl rfl) fun reopened => ?_
  cases reopened with
  | none => exact takes_throw _
  | some reopened =>
    have dispatched : (dispatchResumed env (resumedStart runId pipeline generation)).Takes (KeepsSessions runId) := by
      unfold dispatchResumed
      split
      · exact .bind (.outcome (requestStart_keepsSessions _)) fun _ => takes_pure _
      · exact takes_pure _
    exact .bind (takes_repository passed fun _ _ _ _ _ => .of_same rfl rfl) fun _ =>
      .bind dispatched fun _ => takes_ask passed

/-! ### What a resume does to the references -/

theorem resumeRun_ok {options : ResumeOptions} {run : Run} (ok : (resumeRun env runId options).exec world = (.ok run,after)) :
    ∃ released, released.checkpoints = (world.checkpoints.releaseRunForResume runId).2 ∧
      released.journal = world.journal ∧ KeepsSessions runId released after := by
  have reading : (resumableRun env runId options).Keeps fun world => (world.checkpoints,world.journal) := by
    refine .bind (takes_readRepository fun _ => rfl) fun found => ?_
    cases found with
    | none => exact takes_throw _
    | some run =>
      dsimp only
      split
      · exact takes_throw _
      · split
        · exact takes_throw _
        · exact takes_pure _
  unfold resumeRun at ok
  split at ok
  · cases ok
  · simp only [exec_bind_ok,listEffects,releaseRunForResume,exec_readCheckpoints_ok,exec_checkpoint_ok] at ok
    obtain ⟨⟨found,pipeline⟩,_,read,effects,_,⟨_,_,rfl⟩,_,released,⟨_,done,_,journal,_⟩,rest⟩ := ok
    have same := reading.of_exec read
    simp only [Prod.mk.injEq] at same
    have keeps : (reopenRun env runId found pipeline (nextResumeGeneration effects)).Takes (KeepsSessions runId) :=
      reopenRun_keepsSessions found pipeline _
    have taken := keeps.exec released
    refine ⟨released,?_,?_,?_⟩
    · simp only [Except.ok.injEq] at done
      have store := congrArg Prod.snd done
      rw [← same.1]
      exact store.symm
    · rw [journal,← same.2]
      rfl
    · rw [rest] at taken
      exact .steps taken

theorem resumeRun_referenced {options : ResumeOptions} {run : Run} (externalRef : String)
    (ok : (resumeRun env runId options).exec world = (.ok run,after)) :
    Referenced env after runId externalRef ↔ Recorded env world runId externalRef := by
  obtain ⟨released,store,_,keeps⟩ := resumeRun_ok ok
  have finished : ∀ key effect, released.checkpoints.effects.get? key = some effect →
      HoldsSession runId effect.runId effect.kind → effect.status = .succeeded := by
    intro key effect held concern
    rw [store,Store.releaseRunForResume_effects,Store.not_unfinished] at held
    exact held.2 concern.1
  have held : ∀ effect, HoldsSession runId effect.runId effect.kind →
      (effect ∈ after.checkpoints.listEffects env.collation runId ↔
        effect ∈ world.checkpoints.listEffects env.collation runId ∧ effect.status = .succeeded) := by
    intro effect concern
    rw [Store.mem_listEffects,Store.mem_listEffects,keeps.effects finished effect.key effect concern,store,
      Store.releaseRunForResume_effects,Store.not_unfinished]
    have mine := concern.1
    tauto
  have noReservation : ∀ reservation ∈ after.checkpoints.reservations.values, reservation.runId ≠ runId := by
    intro reservation inside
    obtain ⟨key,found⟩ := (OrderedMap.mem_values _ _).mp inside
    rw [keeps.reservations,store,Store.releaseRunForResume_reservations] at found
    exact found.2
  constructor
  · rintro (cleanup | ⟨effect,active,_⟩ | ⟨reservation,inside,mine,_⟩)
    · obtain ⟨effect,listed,holds⟩ := (mem_cleanupReferences _ _).mp cleanup
      have run := ((Store.mem_listEffects _ _ _ _).mp listed).2
      have both := (held effect ⟨run,cleanupExternalReference_kind holds⟩).mp listed
      exact ⟨effect,both.1,both.2,holds⟩
    · obtain ⟨listed,kind⟩ := List.mem_filter.mp active
      simp only [Bool.and_eq_true,decide_eq_true_eq] at kind
      have run := ((Store.mem_listEffects _ _ _ _).mp listed).2
      have concern : HoldsSession runId effect.runId effect.kind := ⟨run,by simp [sessionKinds,kind.1]⟩
      have succeeded := ((held effect concern).mp listed).2
      simp [kind.2] at succeeded
    · exact absurd mine (noReservation reservation inside)
  · rintro ⟨effect,listed,succeeded,holds⟩
    have run := ((Store.mem_listEffects _ _ _ _).mp listed).2
    have still := (held effect ⟨run,cleanupExternalReference_kind holds⟩).mpr ⟨listed,succeeded⟩
    exact .inl ((mem_cleanupReferences _ _).mpr ⟨effect,still,holds⟩)

/-- A successful resume keeps every live session of the run within reach exactly
when an effect that had succeeded before already recorded each of them. -/
theorem resumeRun_keeps_live_sessions_iff (env : Environment) (runId : String) (options : ResumeOptions)
    (world after : World) (run : Run) (ok : (resumeRun env runId options).exec world = (.ok run,after)) :
    (∀ externalRef, Live env world runId externalRef → Referenced env after runId externalRef) ↔
      ∀ externalRef, Live env world runId externalRef → Recorded env world runId externalRef := by
  have same : ∀ externalRef, Referenced env after runId externalRef ↔ Recorded env world runId externalRef :=
    fun externalRef => resumeRun_referenced externalRef ok
  exact forall₂_congr fun externalRef _ => same externalRef

def orphanedAndFailed : World :=
  {orphaned with repository := (Repository.setRun {}
    {id := "run-1",projectId := "project-1",pipeline := "feature",status := .failed,createdAt := 0,updatedAt := 0})}

theorem resumeRun_keeps_live_sessions_iff_orphaned : (∀ externalRef, Live .steady orphanedAndFailed "run-1" externalRef →
      Referenced .steady ((resumeRun .steady "run-1" {}).exec orphanedAndFailed).2 "run-1" externalRef) ↔
      ∀ externalRef, Live .steady orphanedAndFailed "run-1" externalRef → Recorded .steady orphanedAndFailed "run-1" externalRef :=
  resumeRun_keeps_live_sessions_iff .steady "run-1" {} orphanedAndFailed _ _ rfl

/-- Its resume succeeds, and nothing refers to the live session any more. -/
theorem orphanedAndFailed_loses_session : ((resumeRun .steady "run-1" {}).exec orphanedAndFailed).1.isOk = true ∧
      Live .steady orphanedAndFailed "run-1" "session-1" ∧
      ¬ Referenced .steady ((resumeRun .steady "run-1" {}).exec orphanedAndFailed).2 "run-1" "session-1" :=
  ⟨rfl,by decide,by decide⟩

end AgentOS.ControlPlane
