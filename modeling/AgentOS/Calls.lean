import AgentOS.World
import AgentOS.Library.Invariant
import AgentOS.Checkpoint.Effects

/-! Rules for the calls: what a call that answered did, and which parts of the
world each kind of call leaves alone. -/
namespace AgentOS
open Library Checkpoint Routine

namespace Action
variable {α : Type} {env : Environment} {world after : World} {value : α}

/-! ### Calls that answered -/

@[simp] theorem exec_require_ok (condition : Prop) [Decidable condition] (message : String) {answer : Unit} :
    (require condition message).exec world = (.ok answer,after) ↔ condition ∧ world = after := by
  unfold require
  split <;> rename_i holds <;> simp [holds]

@[simp] theorem exec_now_ok {at_ : Instant} :
    (now env).exec world = (.ok at_,after) ↔ at_ = env.clock world.tick ∧ after = world.ticked := by
  simp [now,eq_comm]

theorem exec_call_ok {step : Instant → World → Except Fault α × World} : (call env step).exec world = (.ok value,after) ↔
      env.outage world.tick = .none ∧ step (env.clock world.tick) world.ticked = (.ok value,after) := by
  simp only [call,exec_atomic]
  cases env.outage world.tick <;> simp

theorem exec_checkpoint_ok {operation : Instant → Store → Except Fault (α × Store)} :
    (checkpoint env operation).exec world = (.ok value,after) ↔ env.outage world.tick = .none ∧
      operation (env.clock world.tick) world.checkpoints = .ok (value,after.checkpoints) ∧
      after.repository = world.repository ∧ after.journal = world.journal ∧ after.artifacts = world.artifacts ∧
      after.tick = world.tick + 1 ∧ after.cursor = world.cursor := by
  rw [checkpoint,exec_call_ok,World.ticked_checkpoints]
  obtain ⟨store,stored,journal,tick,artifacts,cursor⟩ := after
  rcases operation (env.clock world.tick) world.checkpoints with fault | ⟨answer,next⟩
  · simp
  · simp only [World.ticked,Prod.mk.injEq,Except.ok.injEq,World.mk.injEq]
    refine and_congr_right fun _ => ⟨?_,?_⟩
    · rintro ⟨rfl,rfl,rfl,rfl,rfl,rfl,rfl⟩
      exact ⟨⟨rfl,rfl⟩,rfl,rfl,rfl,rfl,rfl⟩
    · rintro ⟨⟨rfl,rfl⟩,rfl,rfl,rfl,rfl,rfl⟩
      exact ⟨rfl,rfl,rfl,rfl,rfl,rfl,rfl⟩

theorem exec_readCheckpoints_ok {read : Store → α} : (readCheckpoints env read).exec world = (.ok value,after) ↔
      env.outage world.tick = .none ∧ value = read world.checkpoints ∧ after = world.ticked := by
  rw [readCheckpoints,exec_call_ok]
  simp [eq_comm]

theorem exec_repository_ok {operation : Instant → Repository → Except Fault (α × Repository)} :
    (repository env operation).exec world = (.ok value,after) ↔ env.outage world.tick = .none ∧
      operation (env.clock world.tick) world.repository = .ok (value,after.repository) ∧
      after.checkpoints = world.checkpoints ∧ after.journal = world.journal ∧ after.artifacts = world.artifacts ∧
      after.tick = world.tick + 1 ∧ after.cursor = world.cursor := by
  rw [repository,exec_call_ok,World.ticked_repository]
  obtain ⟨store,stored,journal,tick,artifacts,cursor⟩ := after
  rcases operation (env.clock world.tick) world.repository with fault | ⟨answer,next⟩
  · simp
  · simp only [World.ticked,Prod.mk.injEq,Except.ok.injEq,World.mk.injEq]
    refine and_congr_right fun _ => ⟨?_,?_⟩
    · rintro ⟨rfl,rfl,rfl,rfl,rfl,rfl,rfl⟩
      exact ⟨⟨rfl,rfl⟩,rfl,rfl,rfl,rfl,rfl⟩
    · rintro ⟨⟨rfl,rfl⟩,rfl,rfl,rfl,rfl,rfl⟩
      exact ⟨rfl,rfl,rfl,rfl,rfl,rfl,rfl⟩

theorem exec_readRepository_ok {read : Repository → α} : (readRepository env read).exec world = (.ok value,after) ↔
      env.outage world.tick = .none ∧ value = read world.repository ∧ after = world.ticked := by
  rw [readRepository,exec_call_ok]
  simp [eq_comm]

theorem exec_ask_ok {answer : Nat → α} : (ask env answer).exec world = (.ok value,after) ↔
      env.outage world.tick = .none ∧ value = answer world.ticked.tick ∧ after = world.ticked := by
  rw [ask,exec_call_ok]
  simp [eq_comm]

theorem exec_happen_ok {happening : Happening} {answer : Unit} : (happen env happening).exec world = (.ok answer,after) ↔
      env.outage world.tick = .none ∧ after = world.ticked.log happening := by
  rw [happen,exec_call_ok]
  simp [eq_comm]

def settlementLog (store : Store) (reservationKey : String) : List Happening :=
  match store.reservations.get? reservationKey with
  | none => []
  | some _ => [.reservationSettled reservationKey]

theorem exec_settleSession_ok {request : Instant → SessionSettlement} {settlement : Settlement}
    (ok : (settleSession env request).exec world = (.ok settlement,after)) :
    ∃ at_, world.checkpoints.settleSession (request at_) = .ok (settlement,after.checkpoints) ∧ after.repository = world.repository ∧
      after.journal = world.journal ++ settlementLog world.checkpoints (request at_).reservationKey := by
  rw [settleSession,exec_call_ok,World.ticked_checkpoints] at ok
  refine ⟨env.clock world.tick,?_⟩
  cases done : world.checkpoints.settleSession (request (env.clock world.tick)) with
  | error fault => simp [done] at ok
  | ok answer =>
    obtain ⟨answer,store⟩ := answer
    simp only [done,Prod.mk.injEq,Except.ok.injEq] at ok
    obtain ⟨_,rfl,rfl⟩ := ok
    unfold settlementLog
    cases world.checkpoints.reservations.get? (request (env.clock world.tick)).reservationKey <;> simp

/-! ### Calls among others -/

theorem throws_call {allowed : Fault → Prop} {step : Instant → World → Except Fault α × World}
    (outage : ∀ causes, allowed (.thrown causes)) (thrown : ∀ at_ world fault, (step at_ world).1 = .error fault → allowed fault) :
    (call env step).Throws allowed := by
  apply throws_atomic
  intro world fault ended
  dsimp only at ended
  cases broken : env.outage world.tick with
  | none =>
    rw [broken] at ended
    exact thrown _ _ _ ended
  | refused causes =>
    rw [broken] at ended
    cases ended
    exact outage causes
  | lost causes =>
    rw [broken] at ended
    cases ended
    exact outage causes

/-! ### The parts of the world a call leaves alone -/

section
variable {step : World → World → Prop}

theorem takes_call {action : Instant → World → Except Fault α × World}
    (taken : ∀ at_ world, step world world.ticked ∧ step world (action at_ world.ticked).2) : (call env action).Takes step := by
  apply takes_atomic
  intro world
  obtain ⟨passed,answered⟩ := taken (env.clock world.tick) world
  cases env.outage world.tick <;> assumption

theorem takes_now (taken : ∀ world, step world world.ticked) : (now env).Takes step := takes_atomic taken

theorem takes_require (condition : Prop) [Decidable condition] (message : String) : (require condition message).Takes step := by
  unfold require
  split
  · exact takes_pure _
  · exact takes_throw _

theorem takes_checkpoint {operation : Instant → Store → Except Fault (α × Store)} (passed : ∀ world, step world world.ticked)
    (taken : ∀ at_ world value store, operation at_ world.checkpoints = .ok (value,store) →
      step world {world.ticked with checkpoints := store}) : (checkpoint env operation).Takes step := by
  apply takes_call
  intro at_ world
  refine ⟨passed world,?_⟩
  rw [World.ticked_checkpoints]
  cases done : operation at_ world.checkpoints with
  | error fault => exact passed world
  | ok answer => exact taken at_ world answer.1 answer.2 done

theorem gives_checkpoint {post : α → Prop} {operation : Instant → Store → Except Fault (α × Store)}
    (passed : ∀ world, step world world.ticked)
    (taken : ∀ at_ world value store, operation at_ world.checkpoints = .ok (value,store) →
      step world {world.ticked with checkpoints := store})
    (answers : ∀ at_ store value next, operation at_ store = .ok (value,next) → post value) :
    (checkpoint env operation).Gives step post := by
  refine gives_atomic (fun world => ((takes_checkpoint passed taken world) world .refl).1) fun world value answered => ?_
  have ok : (checkpoint env operation).exec world = (.ok value,((checkpoint env operation).exec world).2) := Prod.ext answered rfl
  exact answers _ _ _ _ (exec_checkpoint_ok.mp ok).2.1

variable {read : Repository → α}

theorem gives_readRepository {post : α → Prop} (passed : ∀ world, step world world.ticked)
    (answers : ∀ repository, post (read repository)) : (readRepository env read).Gives step post := by
  apply gives_atomic
  · intro world
    cases env.outage world.tick <;> exact passed world
  · intro world value answered
    have ok : (readRepository env read).exec world = (.ok value,((readRepository env read).exec world).2) :=
      Prod.ext answered rfl
    rw [(exec_readRepository_ok.mp ok).2.1]
    exact answers _

theorem takes_repository {operation : Instant → Repository → Except Fault (α × Repository)} (passed : ∀ world, step world world.ticked)
    (taken : ∀ at_ world value next, operation at_ world.repository = .ok (value,next) →
      step world {world.ticked with repository := next}) : (repository env operation).Takes step := by
  apply takes_call
  intro at_ world
  refine ⟨passed world,?_⟩
  rw [World.ticked_repository]
  cases done : operation at_ world.repository with
  | error fault => exact passed world
  | ok answer => exact taken at_ world answer.1 answer.2 done

theorem gives_repository {post : α → Prop} {operation : Instant → Repository → Except Fault (α × Repository)}
    (taken : (repository env operation).Takes step)
    (answers : ∀ at_ before value next, operation at_ before = .ok (value,next) → post value) :
    (repository env operation).Gives step post := by
  refine gives_atomic (fun world => ((taken world) world .refl).1) fun world value answered => ?_
  have ok : (repository env operation).exec world = (.ok value,((repository env operation).exec world).2) :=
    Prod.ext answered rfl
  exact answers _ _ _ _ (exec_repository_ok.mp ok).2.1

theorem takes_readCheckpoints {read : Store → α} (passed : ∀ world, step world world.ticked) :
    (readCheckpoints env read).Takes step := takes_call fun _ world => ⟨passed world,passed world⟩

theorem takes_readRepository (passed : ∀ world, step world world.ticked) :
    (readRepository env read).Takes step := takes_call fun _ world => ⟨passed world,passed world⟩

theorem takes_ask {answer : Nat → α} (passed : ∀ world, step world world.ticked) : (ask env answer).Takes step :=
  takes_call fun _ world => ⟨passed world,passed world⟩

theorem takes_settleSession {request : Instant → SessionSettlement} (passed : ∀ world, step world world.ticked)
    (taken : ∀ at_ world settlement store, world.checkpoints.settleSession (request at_) = .ok (settlement,store) →
      step world {world.ticked with
        checkpoints := store
        journal := world.journal ++ settlementLog world.checkpoints (request at_).reservationKey}) :
    (settleSession env request).Takes step := by
  apply takes_call
  intro at_ world
  refine ⟨passed world,?_⟩
  rw [World.ticked_checkpoints]
  cases done : world.checkpoints.settleSession (request at_) with
  | error fault => exact passed world
  | ok answer =>
    have settled := taken at_ world answer.1 answer.2 done
    unfold settlementLog at settled
    dsimp only
    cases found : world.checkpoints.reservations.get? (request at_).reservationKey with
    | none => simpa [found] using settled
    | some reservation => simpa [found,World.log] using settled

theorem takes_happen {happening : Happening} (passed : ∀ world, step world world.ticked)
    (taken : ∀ world, step world (world.ticked.log happening)) : (happen env happening).Takes step :=
  takes_call fun _ world => ⟨passed world,taken world⟩

end

/-! ### Calls within an invariant -/

section
variable {invariant : World → Prop} {post : α → Prop}

theorem within_call {action : Instant → World → Except Fault α × World} (passed : ∀ world, invariant world → invariant world.ticked)
    (kept : ∀ at_ world, invariant world → invariant (action at_ world.ticked).2 ∧
      ∀ value, (action at_ world.ticked).1 = .ok value → post value) : (call env action).Within invariant post := by
  apply within_atomic
  intro world held
  obtain ⟨answered,allowed⟩ := kept (env.clock world.tick) world held
  cases env.outage world.tick with
  | none => exact ⟨answered,allowed⟩
  | refused causes =>
    refine ⟨passed world held,fun _ same => ?_⟩
    cases same
  | lost causes =>
    refine ⟨answered,fun _ same => ?_⟩
    cases same

theorem within_now (passed : ∀ world, invariant world → invariant world.ticked) :
    (now env).Within invariant fun _ => True := within_atomic fun world held => ⟨passed world held,fun _ _ => trivial⟩

theorem within_repository {operation : Instant → Repository → Except Fault (α × Repository)}
    (passed : ∀ world, invariant world → invariant world.ticked)
    (kept : ∀ at_ world value next, invariant world → operation at_ world.repository = .ok (value,next) →
      invariant {world.ticked with repository := next} ∧ post value) : (repository env operation).Within invariant post := by
  apply within_call passed
  intro at_ world held
  rw [World.ticked_repository]
  cases done : operation at_ world.repository with
  | error fault =>
    refine ⟨passed world held,fun _ same => ?_⟩
    cases same
  | ok answer =>
    obtain ⟨stays,allowed⟩ := kept at_ world answer.1 answer.2 held done
    refine ⟨stays,fun _ same => ?_⟩
    cases same
    exact allowed

theorem within_readRepository {read : Repository → α} (passed : ∀ world, invariant world → invariant world.ticked)
    (answers : ∀ world, invariant world → post (read world.repository)) : (readRepository env read).Within invariant post := by
  apply within_call passed
  intro at_ world held
  refine ⟨passed world held,fun _ same => ?_⟩
  cases same
  exact answers world held

theorem within_ask {answer : Nat → α} (passed : ∀ world, invariant world → invariant world.ticked)
    (answers : ∀ tick, post (answer tick)) : (ask env answer).Within invariant post := by
  apply within_call passed
  intro at_ world held
  refine ⟨passed world held,fun _ same => ?_⟩
  cases same
  exact answers _

theorem within_storeArtifact {operation : Instant → ArtifactStore → Except Fault (α × ArtifactStore)}
    (passed : ∀ world, invariant world → invariant world.ticked)
    (kept : ∀ at_ world value next, invariant world → operation at_ world.artifacts = .ok (value,next) →
      invariant {world.ticked with artifacts := next} ∧ post value) : (storeArtifact env operation).Within invariant post := by
  apply within_call passed
  intro at_ world held
  rw [World.ticked_artifacts]
  cases done : operation at_ world.artifacts with
  | error fault =>
    refine ⟨passed world held,fun _ same => ?_⟩
    cases same
  | ok answer =>
    obtain ⟨stays,allowed⟩ := kept at_ world answer.1 answer.2 held done
    refine ⟨stays,fun _ same => ?_⟩
    cases same
    exact allowed

theorem within_readArtifacts {read : ArtifactStore → Except Fault α} (passed : ∀ world, invariant world → invariant world.ticked)
    (answers : ∀ world value, invariant world → read world.artifacts = .ok value → post value) :
    (readArtifacts env read).Within invariant post :=
  within_call passed fun _ world held => ⟨passed world held,fun value => answers world value held⟩

end

/-! ### Calls that are all answered -/

def Steady (env : Environment) : Prop := ∀ tick, env.outage tick = .none

section
variable {β : Type} {post : Except Fault β → World → Prop}

variable {read : ArtifactStore → Except Fault α} {rest : α → Action β}

theorem leads_readRepository {read : Repository → α} (steady : Steady env)
    (later : (rest (read world.repository)).Leads world.ticked post) : (readRepository env read >>= rest).Leads world post := by
  have answered : (readRepository env read).exec world = (.ok (read world.repository),world.ticked) :=
    exec_readRepository_ok.mpr ⟨steady _,rfl,rfl⟩
  unfold Leads
  rw [exec_bind,answered]
  exact later

theorem leads_now {rest : Instant → Action β} (later : (rest (env.clock world.tick)).Leads world.ticked post) :
    (now env >>= rest).Leads world post := later

section
variable {operation : Instant → Repository → Except Fault (α × Repository)}

variable {next : Repository}

theorem exec_repository (steady : Steady env) (done : operation (env.clock world.tick) world.repository = .ok (value,next)) :
    (repository env operation).exec world = (.ok value,{world.ticked with repository := next}) :=
  exec_repository_ok.mpr ⟨steady _,done,rfl,rfl,rfl,rfl,rfl⟩

theorem leads_repository {rest : α → Action β}
    (steady : Steady env) (done : operation (env.clock world.tick) world.repository = .ok (value,next))
    (later : (rest value).Leads {world.ticked with repository := next} post) :
    (repository env operation >>= rest).Leads world post := by
  unfold Leads
  rw [exec_bind,exec_repository steady done]
  exact later

end

theorem exec_readArtifacts (steady : Steady env) : (readArtifacts env read).exec world = (read world.artifacts,world.ticked) := by
  simp only [readArtifacts,call,exec_atomic,steady world.tick]
  rfl

theorem leads_readArtifacts (steady : Steady env)
    (done : read world.artifacts = .ok value) (later : (rest value).Leads world.ticked post) :
    (readArtifacts env read >>= rest).Leads world post := by
  unfold Leads
  rw [exec_bind,exec_readArtifacts steady,done]
  exact later

theorem exec_storeArtifact {operation : Instant → ArtifactStore → Except Fault (α × ArtifactStore)} {next : ArtifactStore}
    (steady : Steady env) (done : operation (env.clock world.tick) world.artifacts = .ok (value,next)) :
    (storeArtifact env operation).exec world = (.ok value,{world.ticked with artifacts := next}) := by
  simp only [storeArtifact,call,exec_atomic,steady world.tick]
  rw [World.ticked_artifacts,done]

end
end Action

/-! ### The journal -/

/-- The journal grew by happenings in `plain` only. -/
def Logs (plain : Happening → Prop) (before after : World) : Prop :=
  ∃ added, after.journal = before.journal ++ added ∧ ∀ happening ∈ added, plain happening

namespace Logs
variable {plain : Happening → Prop} {first second third : World}

theorem same (kept : second.journal = first.journal) : Logs plain first second := ⟨[],by simpa using kept,by simp⟩

theorem log (happening : Happening) (allowed : plain happening) : Logs plain first (first.ticked.log happening) :=
  ⟨[happening],rfl,by simpa using allowed⟩

theorem trans (left : Logs plain first second) (right : Logs plain second third) : Logs plain first third := by
  obtain ⟨early,earlyAdded,earlyPlain⟩ := left
  obtain ⟨late,lateAdded,latePlain⟩ := right
  refine ⟨early ++ late,by rw [lateAdded,earlyAdded,List.append_assoc],fun happening inside => ?_⟩
  rcases List.mem_append.mp inside with inside | inside
  · exact earlyPlain happening inside
  · exact latePlain happening inside

theorem steps (taken : Relation.ReflTransGen (Logs plain) first second) : Logs plain first second := by
  induction taken with
  | refl => exact same rfl
  | tail _ last ih => exact ih.trans last

end Logs

theorem cut_bind_logs {α β : Type} {plain : Happening → Prop} {start world : World} {routine : Action α}
    {rest : α → Action β} {steps : Nat} {grown : List Happening → Prop}
    (plainly : ∀ added, (∀ happening ∈ added, plain happening) → grown added) (before : Logs plain start world)
    (first : routine.Takes (Logs plain))
    (second : ∀ value after later, routine.exec world = (.ok value,after) → Logs plain start after →
      ∃ added, ((rest value).cut later after).journal = start.journal ++ added ∧ grown added) :
    ∃ added, ((routine >>= rest).cut steps world).journal = start.journal ++ added ∧ grown added := by
  rcases Routine.cut_bind routine rest steps world with early | ⟨value,after,later,done,late⟩
  · rw [early]
    obtain ⟨added,journal,allPlain⟩ := before.trans (.steps (first.cut steps world))
    exact ⟨added,journal,plainly added allPlain⟩
  · rw [late]
    have taken := first.exec world
    rw [done] at taken
    exact second value after later done (before.trans (.steps taken))

end AgentOS
