import AgentOS.Outbox.Spend
import AgentOS.System.RunVersions

/-! Which runs the local executor's recovery sweep takes over, and when one of them is still at work elsewhere. -/
namespace AgentOS.System
open Library Checkpoint Outbox ControlPlane LocalDirect Routine AgentOS.Action
variable {env : Environment} {options : RecoveryOptions} {runId : String}

/-- Which owners are local executors that have died, and who holds a session's lease. -/
structure Holders where
  dead : String → Prop
  sessionOwner : SessionLease → String

/-- Another owner than a dead local executor holds a started effect or the session of the run under an unexpired lease. -/
def AliveElsewhere (holders : Holders) (at_ : Instant) (store : Store) (runId : String) : Prop :=
  (∃ effect ∈ store.effects.values, effect.runId = runId ∧ effect.status = .started ∧
    ∃ owner expires, effect.ownerId = some owner ∧ ¬ holders.dead owner ∧ effect.leaseExpiresAt = some expires ∧ at_ < expires) ∨
  ∃ session ∈ store.sessions.values, session.runId = runId ∧ ¬ holders.dead (holders.sessionOwner session) ∧
    at_ < session.leaseExpiresAt

def TakenOver (before after : World) (runId : String) : Prop := after.repository.getRun runId ≠ before.repository.getRun runId

def recoverable (env : Environment) (limit : Nat) (repository : Repository) : List Run :=
  ((repository.listRuns none (some .running) limit none ++ repository.listRuns none (some .waiting) limit none).insertionSort
    fun left right => olderRun env left right).take limit

/-! ### Owners -/

def owners (store : Store) (runId key : String) : Option (Option String) :=
  ((store.effects.get? key).filter fun effect => effect.runId = runId).map Effect.ownerId

theorem ownedLocally_iff (collation : Collation) (store : Store) : ownedLocally (store.listEffects collation runId) = true ↔
    ∃ key owner, owners store runId key = some (some owner) ∧
      LOCAL_DIRECT_EFFECT_OWNER_PREFIX.toList.isPrefixOf owner.toList = true := by
  unfold ownedLocally owners
  rw [List.any_eq_true]
  constructor
  · rintro ⟨effect,inside,prefixed⟩
    obtain ⟨held,mine⟩ := (Store.mem_listEffects _ _ _ _).mp inside
    obtain ⟨owner,same,starts⟩ := (Option.any_eq_true _ _).mp prefixed
    exact ⟨effect.key,owner,by simp [held,Option.filter,mine,same],starts⟩
  · rintro ⟨key,owner,held,starts⟩
    obtain ⟨effect,kept,same⟩ := Option.map_eq_some_iff.mp held
    obtain ⟨found,mine⟩ := Option.filter_eq_some_iff.mp kept
    have key := store.keyed _ _ found
    refine ⟨effect,(Store.mem_listEffects _ _ _ _).mpr ⟨key ▸ found,by simpa using mine⟩,?_⟩
    rw [same]
    exact starts

theorem owners_changes {before after : Store} {lease : EffectLease} {change : Effect → Effect} {effect : Effect}
    (changes : Store.Changes before lease change effect after)
    (keeps : ∀ existing, (change existing).runId = existing.runId ∧ (change existing).ownerId = existing.ownerId) (key : String) :
    owners after runId key = owners before runId key := by
  obtain ⟨existing,found,rfl,replaced⟩ := changes.found
  obtain ⟨run,owner⟩ := keeps existing
  unfold owners
  by_cases here : key = lease.key
  · rw [here,replaced.stored,found]
    by_cases mine : existing.runId = runId <;> simp [Option.filter,run,owner,mine]
  · rw [replaced.others key here]

theorem owners_step {drafts : EffectDraft → Prop} {keys : String → Prop} {before after : Store}
    (step : EffectStep drafts keys before after) (foreign : ∀ draft, drafts draft → draft.runId ≠ runId) (key : String) :
    owners after runId key = owners before runId key := by
  cases step with
  | @claimed draft claim effect mine ok =>
    obtain ⟨replaced,_,same⟩ := Store.claimEffect_ok ok
    obtain ⟨_,run,_⟩ := Store.claimEffect_draft ok
    have other := foreign draft mine
    unfold owners
    by_cases here : key = draft.key
    · rw [here,replaced.stored]
      cases found : before.effects.get? draft.key with
      | none => simp [Option.filter,run,other]
      | some existing => simp [Option.filter,run,other,(same existing found).1]
    · rw [replaced.others key here]
  | started mine ok =>
    refine owners_changes (Store.markEffectStarted_ok ok) (fun existing => ?_) key
    unfold Store.startedBy
    split <;> exact ⟨rfl,rfl⟩
  | attached mine ok => exact owners_changes (Store.attachExternalRef_ok ok).1 (fun existing => ⟨rfl,rfl⟩) key
  | completed mine ok =>
    refine owners_changes (Store.completeEffect_ok ok).1 (fun existing => ?_) key
    unfold Store.completedBy
    split <;> exact ⟨rfl,rfl⟩
  | failed mine ok =>
    refine owners_changes (Store.failEffect_ok ok) (fun existing => ?_) key
    unfold Store.failedBy
    split <;> exact ⟨rfl,rfl⟩

theorem owners_released (store : Store) {target : String} (other : target ≠ runId) (key : String) :
    owners (store.releaseRunForResume target).2 runId key = owners store runId key := by
  unfold owners Store.releaseRunForResume
  dsimp only
  rw [OrderedMap.get?_filter]
  cases found : store.effects.get? key with
  | none => rfl
  | some effect =>
    by_cases mine : effect.runId = runId
    · have kept : Store.unfinished target effect = false := by
        simp [Store.unfinished,mine,Ne.symm other]
      simp [Option.filter,kept]
    · by_cases gone : Store.unfinished target effect = true <;> simp [Option.filter,gone,mine]

/-! ### Passages -/

structure Beyond (runId : String) (before after : World) : Prop where
  run : after.repository.getRun runId = before.repository.getRun runId
  owners : ∀ key, owners after.checkpoints runId key = owners before.checkpoints runId key

theorem Beyond.refl (world : World) : Beyond runId world world := ⟨rfl,fun _ => rfl⟩

theorem Beyond.trans {first second third : World} (early : Beyond runId first second) (late : Beyond runId second third) :
    Beyond runId first third :=
  ⟨late.run.trans early.run,fun key => (late.owners key).trans (early.owners key)⟩

variable {repository : Repository} {before after : World}

theorem Beyond.steps (taken : Relation.ReflTransGen (Beyond runId) before after) : Beyond runId before after := by
  induction taken with
  | refl => exact .refl _
  | tail _ last ih => exact ih.trans last

theorem Beyond.ownedLocally (beyond : Beyond runId before after) : ownedLocally (after.checkpoints.listEffects env.collation runId) =
      ownedLocally (before.checkpoints.listEffects env.collation runId) := by
  rw [Bool.eq_iff_iff,ownedLocally_iff,ownedLocally_iff]
  simp only [beyond.owners]

theorem beyond_transition {before : World} {target : String} {statuses : List RunStatus} {update : RunUpdate}
    {version : Option Nat} {answer : Option Run} (other : target ≠ runId)
    (ok : before.repository.transitionRun target statuses update version = .ok (answer,repository)) :
    Beyond runId before {before.ticked with repository := repository} := by
  refine ⟨?_,fun _ => rfl⟩
  rcases Repository.transitionRun_ok ok with ⟨_,rfl⟩ | ⟨current,moved,found,_,rfl,_,rfl⟩
  · rfl
  · have key : current.id = target := before.repository.keyed _ _ found
    exact RunStep.stored_elsewhere key (Ne.symm other)

theorem recoversRun_beyond {run : Run} (other : run.id ≠ runId) : RecoversRun env run (Beyond runId) where
  passed world := ⟨rfl,fun _ => rfl⟩
  released world := ⟨rfl,owners_released _ other⟩
  start pipeline generation := by
    apply requestStart_takes_own
    · refine ⟨fun _ => ⟨rfl,fun _ => rfl⟩,fun world store step => ⟨rfl,owners_step step ?_⟩⟩
      rintro draft ⟨mine,_⟩
      rw [mine]
      exact other
    · rintro before _ ⟨_,_,_,_,_,ok,rfl⟩
      exact beyond_transition other ok
  reopen statuses at_ := takes_repository (fun _ => ⟨rfl,fun _ => rfl⟩) fun _ _ _ _ ok => beyond_transition other ok
  record effects at_ := by
    refine takes_repository (fun _ => ⟨rfl,fun _ => rfl⟩) fun _ before _ next ok => ⟨?_,fun _ => rfl⟩
    obtain ⟨staged,_,_,rfl⟩ := Repository.appendEvent_ok ok
    unfold Repository.getRun
    rw [(before.repository.commitStagedEvent_eq staged).1]

theorem read_leads {α : Type} (read : World → α) (world : World) :
    (call env fun _ world => (.ok (read world),world)).Leads world fun answered after =>
      after = world.ticked ∧ ∀ value, answered = .ok value → value = read world.ticked := by
  unfold Leads call
  rw [exec_atomic]
  cases env.outage world.tick
  · refine ⟨rfl,fun value same => ?_⟩
    cases same
    rfl
  · exact ⟨rfl,by simp⟩
  · exact ⟨rfl,by simp⟩

theorem passage_leaves {run : Run} {world : World} (alone : (∀ tick, options.isRunActive tick run.id = true) ∨
      ownedLocally (world.checkpoints.listEffects env.collation run.id) = false) :
    Beyond run.id world ((recoverRun env options run).exec world).2 := by
  have leads : (recoverRun env options run).Leads world fun _ after => Beyond run.id world after := by
    refine leads_bind (read_leads (fun world => options.isRunActive world.tick run.id) world) ?_ ?_
    · rintro active _ ⟨rfl,said⟩
      have active_ := said active rfl
      split
      · exact ⟨rfl,fun _ => rfl⟩
      rename_i idle
      refine leads_bind (read_leads (fun world => world.checkpoints.listEffects env.collation run.id) world.ticked) ?_ ?_
      · rintro effects _ ⟨rfl,listed⟩
        rw [listed effects rfl]
        have foreign : ¬ ownedLocally (world.ticked.ticked.checkpoints.listEffects env.collation run.id) = true := by
          rcases alone with busy | foreign
          · rw [active_,busy] at idle
            exact absurd rfl idle
          · simp only [World.ticked_checkpoints,foreign]
            exact Bool.false_ne_true
        rw [if_pos foreign]
        exact ⟨rfl,fun _ => rfl⟩
      · rintro _ _ ⟨rfl,_⟩
        exact ⟨rfl,fun _ => rfl⟩
    · rintro _ _ ⟨rfl,_⟩
      exact ⟨rfl,fun _ => rfl⟩
  exact leads

theorem RunStep.grown {before after : Repository} (step : RunStep runId before after) {run : Run}
    (found : before.getRun runId = some run) : ∃ next, after.getRun runId = some next ∧ run.stateVersion ≤ next.stateVersion := by
  cases step with
  | kept same => exact ⟨run,same.trans found,Nat.le_refl _⟩
  | moved held now version =>
    cases found.symm.trans held
    exact ⟨_,now,by omega⟩
  | cancelled held now version =>
    cases found.symm.trans held
    exact ⟨_,now,by omega⟩

theorem RunSteps.grown (taken : Relation.ReflTransGen (RunSteps runId) before after) {run : Run}
    (found : before.repository.getRun runId = some run) :
    ∃ next, after.repository.getRun runId = some next ∧ run.stateVersion ≤ next.stateVersion := by
  induction taken with
  | refl => exact ⟨run,found,Nat.le_refl _⟩
  | tail _ last ih =>
    obtain ⟨middle,held,early⟩ := ih
    obtain ⟨next,now,late⟩ := RunStep.grown last held
    exact ⟨next,now,Nat.le_trans early late⟩

theorem exec_calm {α : Type} {step : Instant → World → Except Fault α × World} {world : World}
    (calm : env.outage world.tick = .none) : (call env step).exec world = step (env.clock world.tick) world.ticked := by
  unfold call
  rw [exec_atomic]
  dsimp only
  rw [calm]

theorem passage_takes_over (calm : ∀ tick, env.outage tick = .none) {run : Run} {world : World}
    (idle : ∀ tick, options.isRunActive tick run.id = false)
    (owned : ownedLocally (world.checkpoints.listEffects env.collation run.id) = true)
    (found : world.repository.getRun run.id = some run) (status : run.status ∈ RECOVERABLE_RUN_STATUSES) :
    TakenOver world ((recoverRun env options run).exec world).2 run.id := by
  have reopens (at_ : Instant) : ∃ moved, moved.stateVersion = run.stateVersion + 1 ∧ moved.id = run.id ∧
      world.repository.transitionRun run.id RECOVERABLE_RUN_STATUSES
        {status := some .pending,error := some .null,output := some .null,updatedAt := at_} (some run.stateVersion) =
        .ok (some moved,world.repository.setRun moved) := by
    unfold Repository.transitionRun Repository.requireRun
    rw [Repository.getRun] at found
    rw [found]
    refine ⟨_,?_,?_,if_neg ?_⟩
    · rfl
    · rfl
    · simp [status]
  unfold recoverRun
  rw [exec_bind,exec_ask_ok.mpr ⟨calm _,rfl,rfl⟩]
  dsimp only
  rw [idle,if_neg Bool.false_ne_true,exec_bind,listEffects,exec_readCheckpoints_ok.mpr ⟨calm _,rfl,rfl⟩]
  dsimp only
  rw [World.ticked_checkpoints,if_neg (not_not.mpr owned),exec_bind,releaseRunForResume,checkpoint,exec_calm (calm _)]
  dsimp only
  rw [exec_bind,exec_now_ok.mpr ⟨rfl,rfl⟩]
  dsimp only
  rw [exec_bind,reopen,repository,exec_calm (calm _)]
  dsimp only [World.ticked_repository]
  obtain ⟨moved,version,key,transition⟩ := reopens (env.clock (world.ticked.ticked.ticked.tick))
  rw [transition]
  dsimp only
  -- What follows, whether it answers or not, can only move the run further.
  have grows (effects : List Effect) (at_ : Instant) (reopened : World) (held : reopened.repository.getRun run.id = some moved) :=
    RunSteps.grown (Takes.exec ((Resumes.only (@resumes_runSteps env run.id) run).dispatched effects at_) reopened) held
  intro same
  rw [found] at same
  have ended : ∃ next, some run = some next ∧ moved.stateVersion ≤ next.stateVersion := by
    rw [← same]
    exact grows _ _ _ (RunStep.stored_here key rfl)
  obtain ⟨next,kept,grown⟩ := ended
  rw [Option.some.inj kept] at version
  omega

/-! ### Sweeps -/

theorem sweep_cons (env : Environment) (options : RecoveryOptions) (run : Run) (runs : List Run) (world : World) :
    ((sweep env options (run::runs)).exec world).2 =
      ((sweep env options runs).exec ((recoverRun env options run).exec world).2).2 := by
  rw [sweep,exec_bind,exec_outcome]
  dsimp only
  rw [exec_bind]
  rcases (sweep env options runs).exec _ with ⟨answer | answer,after⟩ <;> rfl

theorem sweep_leaves {runs : List Run} {world : World} (alone : ∀ run ∈ runs, run.id = runId →
      (∀ tick, options.isRunActive tick runId = true) ∨ ownedLocally (world.checkpoints.listEffects env.collation runId) = false) :
    Beyond runId world ((sweep env options runs).exec world).2 := by
  induction runs generalizing world with
  | nil => exact .refl _
  | cons run runs ih =>
    rw [sweep_cons]
    have first : Beyond runId world ((recoverRun env options run).exec world).2 := by
      by_cases mine : run.id = runId
      · subst mine
        exact passage_leaves (alone run List.mem_cons_self rfl)
      · exact .steps (Takes.exec ((recoversRun_beyond mine).recoverRun options) world)
    refine first.trans (ih fun other inside mine => ?_)
    rw [first.ownedLocally]
    exact alone other (List.mem_cons_of_mem _ inside) mine

theorem sweep_takes_over (calm : ∀ tick, env.outage tick = .none) {runs : List Run} {world : World} {run : Run}
    (distinct : (runs.map Run.id).Nodup) (inside : run ∈ runs) (idle : ∀ tick, options.isRunActive tick run.id = false)
    (owned : ownedLocally (world.checkpoints.listEffects env.collation run.id) = true)
    (found : world.repository.getRun run.id = some run) (status : run.status ∈ RECOVERABLE_RUN_STATUSES) :
    TakenOver world ((sweep env options runs).exec world).2 run.id := by
  induction runs generalizing world with
  | nil => cases inside
  | cons first runs ih =>
    obtain ⟨others,distinct⟩ := List.nodup_cons.mp distinct
    rw [sweep_cons]
    rcases List.mem_cons.mp inside with rfl | later
    · have taken := passage_takes_over calm idle owned found status
      have rest : Beyond run.id ((recoverRun env options run).exec world).2
          ((sweep env options runs).exec ((recoverRun env options run).exec world).2).2 := by
        apply sweep_leaves
        intro other inside same
        exact absurd (same ▸ List.mem_map_of_mem inside) others
      unfold TakenOver
      rw [rest.run]
      exact taken
    · have different : first.id ≠ run.id := by
        intro same
        exact others (same ▸ List.mem_map_of_mem later)
      have passed : Beyond run.id world ((recoverRun env options first).exec world).2 :=
        .steps (Takes.exec ((recoversRun_beyond different).recoverRun options) world)
      have taken := ih distinct later (passed.ownedLocally.trans owned) (passed.run.trans found)
      unfold TakenOver at taken ⊢
      rwa [passed.run] at taken

/-! ### The listing -/

theorem mem_listRuns {status : RunStatus} {limit : Nat} {run : Run}
    (inside : run ∈ repository.listRuns none (some status) limit none) : repository.getRun run.id = some run ∧ run.status = status := by
  have among := List.mem_of_mem_take inside
  rw [List.mem_insertionSort] at among
  obtain ⟨held,wanted⟩ := List.mem_filter.mp among
  obtain ⟨key,found⟩ := (repository.runs.mem_values run).mp held
  have named := repository.keyed key run found
  refine ⟨?_,by simpa [isAfterTimestamp] using wanted⟩
  rw [named]
  exact found

theorem listRuns_distinct (repository : Repository) (status : RunStatus) (limit : Nat) :
    ((repository.listRuns none (some status) limit none).map Run.id).Nodup := by
  rw [List.Nodup,List.pairwise_map]
  have perm := List.perm_insertionSort (fun left right : Run =>
    ¬ timestampedBefore right.createdAt right.id left.createdAt left.id)
    (repository.runs.values.filter fun run => (Option.all (fun wanted => run.projectId = wanted) none) &&
      ((some status).all fun wanted => run.status = wanted) && isAfterTimestamp run.createdAt run.id none)
  exact ((perm.pairwise_iff fun different => Ne.symm different).mpr ((runs_apart repository).filter _)).sublist
    (List.take_sublist _ _)

theorem mem_recoverable {limit : Nat} {run : Run} (inside : run ∈ recoverable env limit repository) :
    repository.getRun run.id = some run ∧ run.status ∈ RECOVERABLE_RUN_STATUSES := by
  have among := List.mem_of_mem_take inside
  rw [List.mem_insertionSort] at among
  rcases List.mem_append.mp among with running | waiting
  · obtain ⟨found,status⟩ := mem_listRuns running
    exact ⟨found,by rw [status]; decide⟩
  · obtain ⟨found,status⟩ := mem_listRuns waiting
    exact ⟨found,by rw [status]; decide⟩

theorem recoverable_distinct (env : Environment) (limit : Nat) (repository : Repository) :
    ((recoverable env limit repository).map Run.id).Nodup := by
  have both : ((repository.listRuns none (some .running) limit none ++ repository.listRuns none (some .waiting) limit none).map
      Run.id).Nodup := by
    rw [List.map_append]
    refine (listRuns_distinct repository .running limit).append (listRuns_distinct repository .waiting limit) ?_
    intro id running waiting
    obtain ⟨left,leftInside,leftId⟩ := List.mem_map.mp running
    obtain ⟨right,rightInside,rightId⟩ := List.mem_map.mp waiting
    obtain ⟨leftFound,leftStatus⟩ := mem_listRuns leftInside
    obtain ⟨rightFound,rightStatus⟩ := mem_listRuns rightInside
    rw [leftId] at leftFound
    rw [rightId,leftFound] at rightFound
    rw [Option.some.inj rightFound,rightStatus] at leftStatus
    cases leftStatus
  have sorted := (List.perm_insertionSort (fun left right => olderRun env left right)
    (repository.listRuns none (some .running) limit none ++ repository.listRuns none (some .waiting) limit none)).map Run.id
  exact (sorted.nodup_iff.mpr both).sublist ((List.take_sublist _ _).map Run.id)

theorem recovery_exec (calm : ∀ tick, env.outage tick = .none) (world : World) : ((recoverLocalDirectRuns env options).exec world).2 =
      ((sweep env options (recoverable env options.limit world.repository)).exec world.ticked.ticked).2 := by
  unfold recoverLocalDirectRuns
  rw [exec_bind,exec_readRepository_ok.mpr ⟨calm _,rfl,rfl⟩]
  dsimp only
  rw [exec_bind,exec_readRepository_ok.mpr ⟨calm _,rfl,rfl⟩]
  dsimp only
  rw [exec_bind]
  unfold recoverable
  rw [World.ticked_repository]
  rcases (sweep env options _).exec _ with ⟨answer | answer,after⟩ <;> rfl

theorem recovery_leaves {world : World} (alone : ∀ run ∈ recoverable env options.limit world.repository, run.id = runId →
      (∀ tick, options.isRunActive tick runId = true) ∨ ownedLocally (world.checkpoints.listEffects env.collation runId) = false) :
    Beyond runId world ((recoverLocalDirectRuns env options).exec world).2 := by
  have leads : (recoverLocalDirectRuns env options).Leads world fun _ after => Beyond runId world after := by
    refine leads_bind (read_leads (fun world => world.repository.listRuns none (some .running) options.limit none) world) ?_ ?_
    · rintro running _ ⟨rfl,runningRead⟩
      refine leads_bind (read_leads (fun world => world.repository.listRuns none (some .waiting) options.limit none)
        world.ticked) ?_ ?_
      · rintro waiting _ ⟨rfl,waitingRead⟩
        have swept : (sweep env options (recoverable env options.limit world.repository)).Leads world.ticked.ticked
            fun _ after => Beyond runId world after :=
          (show Beyond runId world world.ticked.ticked from ⟨rfl,fun _ => rfl⟩).trans (@sweep_leaves env options runId _ world.ticked.ticked alone)
        rw [runningRead running rfl,waitingRead waiting rfl]
        refine leads_bind swept ?_ ?_
        · exact fun _ _ beyond => beyond
        · exact fun _ _ beyond => beyond
      · rintro _ _ ⟨rfl,_⟩
        exact ⟨rfl,fun _ => rfl⟩
    · rintro _ _ ⟨rfl,_⟩
      exact ⟨rfl,fun _ => rfl⟩
  exact leads

theorem recovery_takes_over {active : String → Bool} (steady : ∀ tick id, options.isRunActive tick id = active id)
    {world : World} (taken : TakenOver world ((recoverLocalDirectRuns env options).exec world).2 runId) :
    ∃ run ∈ recoverable env options.limit world.repository, run.id = runId ∧ active runId = false ∧
      ownedLocally (world.checkpoints.listEffects env.collation runId) = true := by
  by_contra untouched
  simp only [not_exists,not_and,Bool.not_eq_true] at untouched
  refine taken (recovery_leaves fun run inside mine => ?_).run
  cases busy : active runId with
  | true => exact .inl fun tick => (steady tick runId).trans busy
  | false => exact .inr (untouched run inside mine busy)

/-- A recovery spares the runs that are at work elsewhere, whatever calls fail, if and only if every run that is, that
it passes over and that is not active in this process has no effect that a local execution ever claimed. -/
theorem recovery_spares_live_runs_iff (env : Environment) (active : String → Bool) (limit : Nat) (world : World)
    (holders : Holders) (at_ : Instant) :
    (∀ (outage : Nat → Outage) (runId : String),
      TakenOver world ((recoverLocalDirectRuns {env with outage := outage}
        {isRunActive := fun _ => active,limit := limit}).exec world).2 runId →
          ¬ AliveElsewhere holders at_ world.checkpoints runId) ↔
      ∀ run ∈ recoverable env limit world.repository, active run.id = false →
        AliveElsewhere holders at_ world.checkpoints run.id →
          ownedLocally (world.checkpoints.listEffects env.collation run.id) = false := by
  constructor
  · intro spares run inside idle alive
    by_contra owned
    rw [Bool.not_eq_false] at owned
    obtain ⟨found,status⟩ := mem_recoverable inside
    refine spares (fun _ => .none) run.id ?_ alive
    rw [recovery_exec fun _ => rfl]
    exact @sweep_takes_over {env with outage := fun _ => .none} {isRunActive := fun _ => active,limit := limit} (fun _ => rfl)
      _ world.ticked.ticked run (recoverable_distinct _ _ _) inside (fun _ => idle) owned found status
  · rintro spares outage runId taken alive
    obtain ⟨run,inside,rfl,idle,owned⟩ := @recovery_takes_over _ _ runId active (fun _ _ => rfl) world taken
    rw [spares run inside idle alive] at owned
    cases owned

/-! ### A run that was executed here, and then elsewhere -/

def plannedHere : Effect where
  key := "run-1:planning"
  runId := "run-1"
  kind := "planning"
  inputFingerprint := .null
  createdAt := 0
  updatedAt := 0
  status := .succeeded
  ownerId := some "workflow:local-direct:run-1:0:local-direct"
  leaseVersion := 1
  leaseExpiresAt := some 120000

def implementedElsewhere : Effect where
  key := "run-1:implementation"
  runId := "run-1"
  kind := "runtime-session"
  inputFingerprint := .null
  createdAt := 600000
  updatedAt := 600000
  status := .started
  ownerId := some "workflow:run_1:20260801.1"
  leaseVersion := 1
  leaseExpiresAt := some 3600000

def movedExecution : World :=
  {repository := Repository.setRun {}
    {id := "run-1",projectId := "project-1",pipeline := "feature",status := .running,createdAt := 0,updatedAt := 0}
   checkpoints := (Store.setEffect {} plannedHere).setEffect implementedElsewhere}

def localHolders : Holders where
  dead owner := owner = "workflow:local-direct:run-1:0:local-direct"
  sessionOwner _ := "workflow:run_1:20260801.1"

/-- The recovery reopens it, though the other executor's lease runs for another fifty minutes. -/
theorem recovery_reopens_live_run : ¬ ∀ (env : Environment) (options : RecoveryOptions) (world : World) (holders : Holders)
    (at_ : Instant) (runId : String), TakenOver world ((recoverLocalDirectRuns env options).exec world).2 runId →
      ¬ AliveElsewhere holders at_ world.checkpoints runId := by
  intro claim
  have taken : TakenOver movedExecution ((recoverLocalDirectRuns .steady {}).exec movedExecution).2 "run-1" := by
    unfold TakenOver
    decide +kernel
  have elsewhere : ¬ localHolders.dead "workflow:run_1:20260801.1" := by
    change ¬ "workflow:run_1:20260801.1" = "workflow:local-direct:run-1:0:local-direct"
    decide
  exact claim .steady {} movedExecution localHolders 600000 "run-1" taken
    (.inl ⟨implementedElsewhere,by decide,rfl,rfl,_,3600000,rfl,elsewhere,rfl,by decide⟩)

end AgentOS.System
