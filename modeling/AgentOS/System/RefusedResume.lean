import AgentOS.LocalDirect.Recovery
import AgentOS.Outbox.OrphanSettles

/-! Resumes and recovery sweeps among each other and among executions: what a
resume that is refused, or a run that a sweep finds moved, has done to the
checkpoints by then. -/
namespace AgentOS.System
open Library Checkpoint Outbox ControlPlane LocalDirect Routine AgentOS.Action
variable {env : Environment} {taken : List (World × World)}

structure HoldsNothing (store : Store) (runId : String) : Prop where
  effects : ∀ key effect, store.effects.get? key = some effect → ¬ Store.unfinished runId effect
  sessions : ∀ projectId lease, store.sessions.get? projectId = some lease → lease.runId ≠ runId
  reservations : ∀ key reservation, store.reservations.get? key = some reservation → reservation.runId ≠ runId

theorem release_same_iff (store : Store) (runId : String) :
    (store.releaseRunForResume runId).2 = store ↔ HoldsNothing store runId := by
  have effects := OrderedMap.filter_eq_self store.effects fun _ effect => ¬ Store.unfinished runId effect
  have sessions := OrderedMap.filter_eq_self store.sessions fun _ session => session.runId ≠ runId
  have reservations := OrderedMap.filter_eq_self store.reservations fun _ reservation => reservation.runId ≠ runId
  simp only [decide_eq_true_eq] at effects sessions reservations
  constructor
  · intro same
    exact ⟨effects.mp (congrArg Store.effects same),sessions.mp (congrArg Store.sessions same),
      reservations.mp (congrArg Store.reservations same)⟩
  · intro nothing
    have keptEffects := effects.mpr nothing.effects
    have keptSessions := sessions.mpr nothing.sessions
    have keptReservations := reservations.mpr nothing.reservations
    cases store
    simp only [Store.releaseRunForResume,Store.mk.injEq]
    exact ⟨keptEffects,keptSessions,keptReservations⟩

/-! ### The steps of a resume that came too late -/

/-- The steps up to a compare-and-set that failed: two that look, the release of
the checkpoints, the clock and the compare-and-set. -/
def ReleasedInVain (runId : String) (taken : List (World × World)) : Prop :=
  ∃ read listed released clocked moved, taken = [read,listed,released,clocked,moved] ∧
    released.2.checkpoints = (released.1.checkpoints.releaseRunForResume runId).2 ∧
    ∀ moment ∈ [read,listed,clocked,moved], moment.2.checkpoints = moment.1.checkpoints

variable {runId : String} {options : RecoveryOptions}

theorem ReleasedInVain.unchanged_iff (vain : ReleasedInVain runId taken) :
    (∀ moment ∈ taken, moment.2.checkpoints = moment.1.checkpoints) ↔
      ∀ released ∈ taken[2]?, HoldsNothing released.1.checkpoints runId := by
  obtain ⟨read,listed,released,clocked,moved,rfl,done,others⟩ := vain
  have condition : (∀ found ∈ [read,listed,released,clocked,moved][2]?, HoldsNothing found.1.checkpoints runId) ↔
      released.2.checkpoints = released.1.checkpoints := by
    rw [done,release_same_iff]
    constructor
    · exact fun all => all released rfl
    · rintro nothing found ⟨⟩
      exact nothing
  rw [condition]
  constructor
  · exact fun all => all released (by simp)
  · intro same moment inside
    simp only [List.mem_cons,List.not_mem_nil,or_false] at inside others
    rcases inside with rfl | rfl | rfl | rfl | rfl
    · exact others _ (.inl rfl)
    · exact others _ (.inr (.inl rfl))
    · exact same
    · exact others _ (.inr (.inr (.inl rfl)))
    · exact others _ (.inr (.inr (.inr rfl)))

theorem ends_release_ok {count : Nat} (ends : (releaseRunForResume env runId).Ends taken (.ok count)) :
    ∃ before after, taken = [(before,after)] ∧ after.checkpoints = (before.checkpoints.releaseRunForResume runId).2 := by
  have single : (releaseRunForResume env runId).Single := ⟨_,rfl⟩
  obtain ⟨before,after,only,done⟩ := single.ends.mp ends
  have released := (exec_checkpoint_ok.mp done).2.1
  simp only [Except.ok.injEq] at released
  exact ⟨before,after,only,(congrArg Prod.snd released).symm⟩

variable {statuses : List RunStatus} {run : Run} {store : Repository}

theorem ends_reopen {at_ : Instant} {answer : Except Fault (Option Run)} (ends : (reopen env run statuses at_).Ends taken answer) :
    ∃ moment, taken = [moment] ∧ moment.2.checkpoints = moment.1.checkpoints := by
  have single : (reopen env run statuses at_).Single := ⟨_,rfl⟩
  obtain ⟨before,after,only,_⟩ := single.ends.mp ends
  have kept : (reopen env run statuses at_).Keeps World.checkpoints := takes_repository (fun _ => rfl) fun _ _ _ _ _ => rfl
  exact ⟨_,only,kept.ends ends _ (by simp [only])⟩

theorem resumableRun_once {options : ResumeOptions} {found : Run × Pipeline}
    (ends : (resumableRun env runId options).Ends taken (.ok found)) :
    ∃ moment, taken = [moment] ∧ moment.2.checkpoints = moment.1.checkpoints ∧ found.1.id = runId := by
  have reading : (readRepository env fun repository => repository.getRun runId).Single := ⟨_,rfl⟩
  unfold resumableRun at ends
  rcases ends_bind.mp ends with ⟨_,impossible,_⟩ | ⟨first,answer,rest,rfl,read,ends⟩
  · cases impossible
  obtain ⟨before,after,rfl,done⟩ := reading.ends.mp read
  obtain ⟨_,got,rfl⟩ := exec_readRepository_ok.mp done
  have stopped : rest = [] ∧ answer = some found.1 := by
    cases answer with
    | none => cases (ends_throw.mp ends).2
    | some run =>
      dsimp only at ends
      split at ends
      · cases (ends_throw.mp ends).2
      · split at ends
        · cases (ends_throw.mp ends).2
        · obtain ⟨nothing,same⟩ := ends_pure.mp ends
          cases same
          exact ⟨nothing,rfl⟩
  rw [stopped.1]
  rw [stopped.2] at got
  exact ⟨_,rfl,rfl,before.repository.keyed runId found.1 got.symm⟩

def OtherFault (fault : Fault) : Prop := fault ≠ changedWhileResumed

theorem thrown_other (causes : List Cause) : OtherFault (.thrown causes) := by
  intro impossible
  cases impossible

theorem resumableRun_throws (runId : String) (options : ResumeOptions) : (resumableRun env runId options).Throws OtherFault := by
  refine .bind (throws_call thrown_other fun _ _ _ impossible => by cases impossible) fun found => ?_
  cases found with
  | none => exact throws_throw (by simp [OtherFault,changedWhileResumed,notResumable])
  | some run =>
    dsimp only
    split
    · exact throws_throw (by simp [OtherFault,changedWhileResumed,notResumable])
    · split
      · apply throws_throw
        split <;> simp [OtherFault,changedWhileResumed,notResumable]
      · exact throws_pure _

theorem appendEvent_fault {draft : EventDraft} {fault : Fault}
    (failed : store.appendEvent draft = .error fault) : ∃ message, fault = .error message := by
  unfold Repository.appendEvent Repository.stageEvent Repository.requireRun at failed
  cases found : store.runs.get? draft.runId with
  | none =>
    simp only [found,bind,Except.bind,Except.error.injEq] at failed
    exact ⟨_,failed.symm⟩
  | some run =>
    simp only [found,bind,Except.bind] at failed
    split at failed
    · rename_i staged
      split at staged
      · split at staged <;> cases staged
        cases failed
        exact ⟨_,rfl⟩
      · cases staged
    · cases failed

theorem transitionRun_fault {id : String} {update : RunUpdate}
    {version : Option Nat} {fault : Fault} (failed : store.transitionRun id statuses update version = .error fault) :
    ∃ message, fault = .error message := by
  unfold Repository.transitionRun Repository.requireRun at failed
  cases found : store.runs.get? id with
  | none =>
    simp only [found,bind,Except.bind,Except.error.injEq] at failed
    exact ⟨_,failed.symm⟩
  | some run =>
    simp only [found,bind,Except.bind] at failed
    split at failed <;> cases failed

theorem repository_throws {α : Type} {operation : Instant → Repository → Except Fault (α × Repository)}
    (messages : ∀ at_ store fault, operation at_ store = .error fault → ∃ message, fault = .error message) :
    (repository env operation).Throws OtherFault := by
  apply throws_call thrown_other
  intro at_ world fault failed
  cases done : operation at_ world.repository with
  | ok answer => simp [done] at failed
  | error thrown =>
    simp only [done,Except.error.injEq] at failed
    obtain ⟨message,same⟩ := messages _ _ _ done
    rw [← failed,same]
    simp [OtherFault,changedWhileResumed,notResumable]

theorem ask_throws {α : Type} (answer : Nat → α) : (ask env answer).Throws OtherFault :=
  throws_call thrown_other fun _ _ _ impossible => by cases impossible

theorem readCheckpoints_throws {α : Type} (read : Store → α) : (readCheckpoints env read).Throws OtherFault :=
  throws_call thrown_other fun _ _ _ impossible => by cases impossible

theorem releaseRunForResume_throws (runId : String) : (releaseRunForResume env runId).Throws OtherFault := by
  unfold releaseRunForResume checkpoint
  exact throws_call thrown_other fun _ _ _ impossible => by cases impossible

theorem dispatchResumed_throws (request : StartRequest) : (dispatchResumed env request).Throws OtherFault := by
  unfold dispatchResumed
  split
  · exact .bind (throws_outcome _) fun _ => throws_pure _
  · exact throws_pure _

theorem reopenRun_refused {pipeline : Pipeline} {generation : Nat}
    (refused : (reopenRun env runId run pipeline generation).Ends taken (.error changedWhileResumed)) :
    ∃ clocked moved, taken = [clocked,moved] ∧ ∀ moment ∈ [clocked,moved], moment.2.checkpoints = moment.1.checkpoints := by
  have clock : (Action.now env).Single := ⟨_,rfl⟩
  unfold reopenRun at refused
  rcases ends_bind.mp refused with ⟨_,same,early⟩ | ⟨first,at_,rest,rfl,clocked,reopening⟩
  · obtain ⟨before,after,_,done⟩ := clock.ends.mp early
    cases done
  obtain ⟨before,after,rfl,ticked⟩ := clock.ends.mp clocked
  obtain ⟨_,rfl⟩ := exec_now_ok.mp ticked
  rcases ends_bind.mp reopening with ⟨fault,same,early⟩ | ⟨second,reopened,rest,rfl,moving,continued⟩
  · cases same
    have listed : (reopen env run [.failed,.cancelled,.pending] at_).Throws OtherFault :=
      repository_throws fun _ _ _ failed => transitionRun_fault failed
    exact absurd rfl (listed.ends early)
  obtain ⟨moved,rfl,kept⟩ := ends_reopen moving
  cases reopened with
  | none =>
    obtain ⟨rfl,_⟩ := ends_throw.mp continued
    refine ⟨_,moved,rfl,?_⟩
    simp only [List.mem_cons,List.not_mem_nil,or_false]
    rintro moment (rfl | rfl)
    · rfl
    · exact kept
  | some reopened =>
    have listed : (do
        let _ ← recordResume env {resumedEvent runId generation at_ with runId := run.id}
        dispatchResumed env (resumedStart runId pipeline generation)
        project env reopened).Throws OtherFault :=
      .bind (repository_throws fun _ _ _ failed => appendEvent_fault failed) fun _ =>
        .bind (dispatchResumed_throws _) fun _ => ask_throws _
    exact absurd rfl (listed.ends continued)

theorem resumeRun_refused {options : ResumeOptions}
    (refused : (resumeRun env runId options).Ends taken (.error changedWhileResumed)) : ReleasedInVain runId taken := by
  unfold resumeRun at refused
  split at refused
  · have impossible := (ends_throw.mp refused).2
    simp [changedWhileResumed,notResumable] at impossible
  rcases ends_bind.mp refused with ⟨fault,same,early⟩ | ⟨first,found,rest,rfl,reading,looked⟩
  · cases same
    exact absurd rfl ((resumableRun_throws runId options).ends early)
  obtain ⟨read,rfl,readKept,_⟩ := resumableRun_once reading
  obtain ⟨run,pipeline⟩ := found
  have listing : (listEffects env runId).Single := ⟨_,rfl⟩
  rcases ends_bind.mp looked with ⟨fault,same,early⟩ | ⟨second,effects,rest,rfl,listed,counted⟩
  · cases same
    have throws : (listEffects env runId).Throws OtherFault := readCheckpoints_throws _
    exact absurd rfl (throws.ends early)
  obtain ⟨before,after,rfl,done⟩ := listing.ends.mp listed
  obtain ⟨_,_,rfl⟩ := exec_readCheckpoints_ok.mp done
  rcases ends_bind.mp counted with ⟨fault,same,early⟩ | ⟨third,count,rest,rfl,releasing,reopening⟩
  · cases same
    exact absurd rfl ((releaseRunForResume_throws runId).ends early)
  obtain ⟨releasedFrom,released,rfl,store⟩ := ends_release_ok releasing
  obtain ⟨clocked,moved,rfl,kept⟩ := reopenRun_refused reopening
  refine ⟨read,_,_,clocked,moved,rfl,store,?_⟩
  simp only [List.mem_cons,List.not_mem_nil,or_false] at kept ⊢
  rintro moment (rfl | rfl | rfl | rfl)
  · exact readKept
  · rfl
  · exact kept _ (.inl rfl)
  · exact kept _ (.inr rfl)

/-! ### Sweeps -/

structure Passage where
  run : Run
  ended : Except Fault Recovery
  steps : List (World × World)

theorem recoverRun_moved (moved : (recoverRun env options run).Ends taken (.ok .moved)) : ReleasedInVain run.id taken := by
  have asking : (ask env fun tick => options.isRunActive tick run.id).Single := ⟨_,rfl⟩
  have listing : (listEffects env run.id).Single := ⟨_,rfl⟩
  have clock : (Action.now env).Single := ⟨_,rfl⟩
  unfold recoverRun at moved
  rcases ends_bind.mp moved with ⟨_,impossible,_⟩ | ⟨first,active,rest,rfl,asked,looking⟩
  · cases impossible
  obtain ⟨before,after,rfl,done⟩ := asking.ends.mp asked
  obtain ⟨_,_,rfl⟩ := exec_ask_ok.mp done
  split at looking
  · have impossible := (ends_pure.mp looking).2
    cases impossible
  rcases ends_bind.mp looking with ⟨_,impossible,_⟩ | ⟨second,effects,rest,rfl,listed,owning⟩
  · cases impossible
  obtain ⟨before,after,rfl,done⟩ := listing.ends.mp listed
  obtain ⟨_,_,rfl⟩ := exec_readCheckpoints_ok.mp done
  split at owning
  · have impossible := (ends_pure.mp owning).2
    cases impossible
  rcases ends_bind.mp owning with ⟨_,impossible,_⟩ | ⟨third,count,rest,rfl,releasing,reopening⟩
  · cases impossible
  obtain ⟨releasedFrom,released,rfl,store⟩ := ends_release_ok releasing
  rcases ends_bind.mp reopening with ⟨_,impossible,_⟩ | ⟨fourth,at_,rest,rfl,clocked,moving⟩
  · cases impossible
  obtain ⟨before,after,rfl,done⟩ := clock.ends.mp clocked
  obtain ⟨_,rfl⟩ := exec_now_ok.mp done
  rcases ends_bind.mp moving with ⟨_,impossible,_⟩ | ⟨fifth,reopened,rest,rfl,moving,continued⟩
  · cases impossible
  obtain ⟨last,rfl,kept⟩ := ends_reopen moving
  cases reopened with
  | some reopened =>
    dsimp only at continued
    rcases ends_bind.mp continued with ⟨_,impossible,_⟩ | ⟨_,_,_,_,_,dispatching⟩
    · cases impossible
    rcases ends_bind.mp dispatching with ⟨_,impossible,_⟩ | ⟨_,_,_,_,_,finished⟩
    · cases impossible
    have impossible := (ends_pure.mp finished).2
    cases impossible
  | none =>
    obtain ⟨rfl,_⟩ := ends_pure.mp continued
    refine ⟨_,_,_,_,last,rfl,store,?_⟩
    simp only [List.mem_cons,List.not_mem_nil,or_false]
    rintro moment (rfl | rfl | rfl | rfl)
    · rfl
    · rfl
    · rfl
    · exact kept

theorem sweep_ends {runs : List Run} {ended : List (Run × Except Fault Recovery)}
    (swept : (sweep env options runs).Ends taken (.ok ended)) : ∃ passages : List Passage, taken = passages.flatMap Passage.steps ∧
      ended = passages.map (fun passage => (passage.run,passage.ended)) ∧
      ∀ passage ∈ passages, (recoverRun env options passage.run).Ends passage.steps passage.ended := by
  induction runs generalizing taken ended with
  | nil =>
    obtain ⟨rfl,same⟩ := ends_pure.mp swept
    cases same
    exact ⟨[],rfl,rfl,by simp⟩
  | cons run runs ih =>
    unfold sweep at swept
    rcases ends_bind.mp swept with ⟨_,impossible,_⟩ | ⟨first,outcome,rest,rfl,here,others⟩
    · cases impossible
    obtain ⟨answer,same,here⟩ := ends_outcome.mp here
    cases same
    rcases ends_bind.mp others with ⟨_,impossible,_⟩ | ⟨second,later,last,rfl,there,finished⟩
    · cases impossible
    obtain ⟨passages,steps,summary,each⟩ := ih there
    obtain ⟨rfl,same⟩ := ends_pure.mp finished
    cases same
    refine ⟨⟨run,outcome,first⟩::passages,?_,?_,?_⟩
    · simp [steps]
    · simp [summary]
    · intro passage inside
      rcases List.mem_cons.mp inside with rfl | inside
      · exact here
      · exact each passage inside

theorem recoverLocalDirectRuns_ends {result : RecoveryResult}
    (ended : (recoverLocalDirectRuns env options).Ends taken (.ok result)) : ∃ running waiting, ∃ passages : List Passage,
      taken = [running,waiting] ++ passages.flatMap Passage.steps ∧
      result = recoveryResult (passages.map fun passage => (passage.run,passage.ended)) ∧
      ∀ passage ∈ passages, (recoverRun env options passage.run).Ends passage.steps passage.ended := by
  have reading : ∀ status, (readRepository env fun repository =>
      repository.listRuns none (some status) options.limit none).Single := fun _ => ⟨_,rfl⟩
  unfold recoverLocalDirectRuns at ended
  rcases ends_bind.mp ended with ⟨_,impossible,_⟩ | ⟨first,running,rest,rfl,listing,later⟩
  · cases impossible
  obtain ⟨runningFrom,runningTo,rfl,_⟩ := (reading _).ends.mp listing
  rcases ends_bind.mp later with ⟨_,impossible,_⟩ | ⟨second,waiting,rest,rfl,listing,last⟩
  · cases impossible
  obtain ⟨waitingFrom,waitingTo,rfl,_⟩ := (reading _).ends.mp listing
  rcases ends_bind.mp last with ⟨_,impossible,_⟩ | ⟨third,swept,rest,rfl,sweeping,finished⟩
  · cases impossible
  obtain ⟨passages,rfl,rfl,each⟩ := sweep_ends sweeping
  obtain ⟨rfl,same⟩ := ends_pure.mp finished
  cases same
  exact ⟨(runningFrom,runningTo),(waitingFrom,waitingTo),passages,by simp,rfl,each⟩

/-! ### Among others -/

/-- In every interleaving with other threads, a resume refused because the run
had moved, and a sweep's passage over a run that had moved, leave the
checkpoints as they are exactly when their release found nothing of the run. -/
theorem refused_resume_leaves_checkpoints_iff {ι : Type} [DecidableEq ι] (env : Environment)
    (pool later : ι → Thread World) (world after : World) (trace : List (Moment ι World))
    (ran : Interleaved pool world trace later after) : (∀ who runId options, pool who = (resumeRun env runId options).thread →
      later who = (throw changedWhileResumed : Action Run).thread →
      ((∀ moment ∈ own who trace, moment.2.checkpoints = moment.1.checkpoints) ↔
        ∀ released ∈ (own who trace)[2]?, HoldsNothing released.1.checkpoints runId)) ∧
    (∀ who options result, pool who = (recoverLocalDirectRuns env options).thread →
      later who = (pure result : Action RecoveryResult).thread → ∃ running waiting, ∃ passages : List Passage,
        own who trace = [running,waiting] ++ passages.flatMap Passage.steps ∧
        result = recoveryResult (passages.map fun passage => (passage.run,passage.ended)) ∧
        ∀ passage ∈ passages, (recoverRun env options passage.run).Ends passage.steps passage.ended ∧ (passage.ended = .ok .moved →
            ((∀ moment ∈ passage.steps, moment.2.checkpoints = moment.1.checkpoints) ↔
              ∀ released ∈ passage.steps[2]?, HoldsNothing released.1.checkpoints passage.run.id))) := by
  constructor
  · intro who runId options started refused
    exact (resumeRun_refused (ran.routine_ends who started refused)).unchanged_iff
  · intro who options result started ended
    obtain ⟨running,waiting,passages,steps,summary,each⟩ :=
      recoverLocalDirectRuns_ends (ran.routine_ends who started ended)
    refine ⟨running,waiting,passages,steps,summary,fun passage inside => ⟨each passage inside,fun moved => ?_⟩⟩
    have ends := each passage inside
    rw [moved] at ends
    exact (recoverRun_moved ends).unchanged_iff

/-- An execution that takes a run up, is admitted and claims its session, and
is told later that the run has failed. -/
def execution (env : Environment) : Action Unit := do
  let moved (status : RunStatus) : Action (Option Run) := repository env fun now repository =>
    repository.transitionRun "run-1" [.pending,.running] {status := some status,updatedAt := now} none
  let _ ← moved .running
  let _ ← checkpoint env fun now store => store.admitSession (attemptAdmission 1 now)
  let _ ← checkpoint env fun now store => store.claimEffect
    {key := runtimeEffectKey "run-1" "implementation" 1,runId := "run-1",kind := "runtime-session",
      inputFingerprint := .null,createdAt := now,updatedAt := now}
    {ownerId := "workflow:local-direct:run-1:1:local-direct",now := now,leaseExpiresAt := now + sessionTimeoutMs}
  let _ ← moved .failed
  pure ()

/-- A resume that came too late, the resume that won, its execution and a sweep. -/
def resumers : Fin 4 → Thread World
  | 0 => (resumeRun .steady "run-1" {}).thread
  | 1 => (resumeRun .steady "run-1" {}).thread
  | 2 => (execution .steady).thread
  | 3 => (recoverLocalDirectRuns .steady {}).thread

def failedRun : World :=
  {repository := Repository.setRun {}
    {id := "run-1",projectId := "project-1",pipeline := "feature",status := .failed,createdAt := 0,updatedAt := 0}}

def refusedSchedule : List (Fin 4) :=
  [0,0] ++ List.replicate 25 1 ++ [2,2,2,0,0,0]

def sweptSchedule : List (Fin 4) :=
  [0,0] ++ List.replicate 25 1 ++ [2,2,2,3,3,3,3,2,3,3,3,0,0,0]

theorem refused_resume_leaves_checkpoints_iff_swept :
    let trace := (play sweptSchedule resumers failedRun).1
    ((∀ moment ∈ own 0 trace, moment.2.checkpoints = moment.1.checkpoints) ↔
      ∀ released ∈ (own 0 trace)[2]?, HoldsNothing released.1.checkpoints "run-1") ∧
    ∃ running waiting, ∃ passages : List Passage,
      own 3 trace = [running,waiting] ++ passages.flatMap Passage.steps ∧
      ⟨[],["run-1"]⟩ = recoveryResult (passages.map fun passage => (passage.run,passage.ended)) ∧
      ∀ passage ∈ passages, (recoverRun .steady {} passage.run).Ends passage.steps passage.ended ∧
        (passage.ended = .ok .moved →
          ((∀ moment ∈ passage.steps, moment.2.checkpoints = moment.1.checkpoints) ↔
            ∀ released ∈ passage.steps[2]?, HoldsNothing released.1.checkpoints passage.run.id)) :=
  have both := refused_resume_leaves_checkpoints_iff .steady resumers _ failedRun _ _
    (interleaved_play sweptSchedule resumers failedRun)
  ⟨both.1 0 "run-1" {} rfl rfl,both.2 3 {} ⟨[],["run-1"]⟩ rfl rfl⟩

/-- The refused resume frees the lease and deletes the session of the execution
that the other resume started. -/
theorem refused_resume_frees_lease :
    (play refusedSchedule resumers failedRun).2.1 0 = (throw changedWhileResumed : Action Run).thread ∧
      ∃ moment ∈ own 0 (play refusedSchedule resumers failedRun).1,
        moment.1.checkpoints.sessions.get? "project-1" ≠ none ∧ moment.2.checkpoints.sessions.get? "project-1" = none ∧
        moment.1.checkpoints.getEffect (runtimeEffectKey "run-1" "implementation" 1) ≠ none ∧
        moment.2.checkpoints.getEffect (runtimeEffectKey "run-1" "implementation" 1) = none :=
  ⟨rfl,by decide⟩

end AgentOS.System
