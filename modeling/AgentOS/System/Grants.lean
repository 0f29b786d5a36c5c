import AgentOS.ControlPlane.BudgetOverride
import AgentOS.System.ResumeGenerations

/-! The budget granted to a run over a history of calls: what the workflow reads
back is what the successful calls granted, unless two of them read the same clock. -/
namespace AgentOS.System
open Library ControlPlane Workflow Routine AgentOS.Action
variable {env : Environment} {runId : String} {repository : Repository}

/-! ### Scans that answer -/

theorem exec_scanRunEvents_iff {β : Type} (steady : Steady env) {visit : β → Event → β} {pages : Nat} {read rest : List Event}
    {visited : β} {world : World} (all : world.repository.eventsOf runId = read ++ rest) :
    (∃ after, (scanRunEvents env runId visit pages (read.getLast?.map Event.sequence) visited).exec world =
      (.ok (rest.foldl visit visited),after)) ↔ rest.length + 100 ≤ 100 * pages := by
  induction pages generalizing read rest visited world with
  | zero =>
    simp only [scanRunEvents,exec_throw]
    simp
  | succ pages ih =>
    have next : (scanRunEvents env runId visit (pages + 1) (read.getLast?.map Event.sequence) visited).exec world =
        ((rest.take 100).getLast?.elim (pure visited) fun last =>
            if (read.getLast?.map Event.sequence).any (last.sequence ≤ ·) then
              throw (.permanent "run events did not paginate forward")
            else scanRunEvents env runId visit pages (some last.sequence) ((rest.take 100).foldl visit visited) :
          Action β).exec world.ticked := by
      have reading : (readRepository env fun repository =>
          repository.listEvents runId (read.getLast?.map Event.sequence) 1000).exec world = (.ok (rest.take 100),world.ticked) :=
        exec_readRepository_ok.mpr ⟨steady _,(Repository.listEvents_unread _ all).symm,rfl⟩
      rw [scanRunEvents,exec_bind,reading]
      dsimp only
      cases (rest.take 100).getLast? <;> rfl
    rw [next]
    cases final : (rest.take 100).getLast? with
    | none =>
      have done : rest = [] := by simpa using List.getLast?_eq_none_iff.mp final
      simp only [Option.elim_none,done,exec_pure]
      simp
    | some last =>
      have inside : last ∈ rest := List.mem_of_mem_take (List.mem_of_getLast? final)
      have forward : (read.getLast?.map Event.sequence).any (last.sequence ≤ ·) = false := by
        cases ended : read.getLast? with
        | none => rfl
        | some earlier =>
          have sorted := Repository.eventsOf_sorted world.repository runId
          rw [all] at sorted
          have before := (List.pairwise_append.mp sorted).2.2 earlier (List.mem_of_getLast? ended) last inside
          simpa using before
      simp only [Option.elim_some,forward]
      have split : world.ticked.repository.eventsOf runId = (read ++ rest.take 100) ++ rest.drop 100 := by
        rw [World.ticked_repository,all,List.append_assoc,List.take_append_drop]
      have page : (read ++ rest.take 100).getLast?.map Event.sequence = some last.sequence := by
        rw [List.getLast?_append,final]
        rfl
      have later := @ih _ _ ((rest.take 100).foldl visit visited) _ split
      rw [page,← List.foldl_append,List.take_append_drop] at later
      refine later.trans ?_
      have some : rest ≠ [] := List.ne_nil_of_mem inside
      have longer : 0 < rest.length := List.length_pos_iff.mpr some
      rw [List.length_drop]
      constructor
      · intro short
        omega
      · intro short
        omega

/-! ### Histories of calls -/

def overridesOf (repository : Repository) (runId : String) : List Event := (repository.eventsOf runId).filter isOverride

structure Grant where
  microdollars : Int
  at_ : String

/-- A history of the calls for a run that had none, with the successful ones, the
last first. Between two calls anything happens that grants the run nothing. -/
inductive Granting (env : Environment) (runId : String) : List Grant → World → Prop where
  | start {world : World} (none : overridesOf world.repository runId = []) : Granting env runId [] world
  | granted {grants : List Grant} {world after : World} {microdollars : Int} {run : Run} (earlier : Granting env runId grants world)
      (done : (overrideRunBudget env runId microdollars).exec world = (.ok run,after)) :
      Granting env runId (⟨microdollars,isoText (env.clock (world.tick + 1))⟩::grants) after
  | refused {grants : List Grant} {world after : World} {microdollars : Int} {fault : Fault}
      (earlier : Granting env runId grants world)
      (done : (overrideRunBudget env runId microdollars).exec world = (.error fault,after)) : Granting env runId grants after
  | meanwhile {grants : List Grant} {world after : World} (earlier : Granting env runId grants world)
      (same : overridesOf after.repository runId = overridesOf world.repository runId) : Granting env runId grants after

def total (grants : List Grant) : Int := (grants.map Grant.microdollars).sum

def clocks (grants : List Grant) : List String := grants.map Grant.at_

/-- The override events are those of the grants, and count a grant for each clock that was read. -/
structure Counted (runId : String) (grants : List Grant) (overrides : List Event) : Prop where
  listed : ∀ grant ∈ grants, ∃ event ∈ overrides, event.eventId = overrideEventId runId grant.at_
  made : ∀ event ∈ overrides, ∃ grant ∈ grants, event.eventId = overrideEventId runId grant.at_
  bounded : grantedIn overrides ≤ total grants
  exact : grantedIn overrides = total grants ↔ (clocks grants).Nodup

theorem overrideEventId_injective {first second : String} (same : overrideEventId runId first = overrideEventId runId second) :
    first = second := by
  unfold overrideEventId at same
  exact (String.append_right_inj _).mp same

theorem mem_overridesOf {event : Event} : event ∈ overridesOf repository runId ↔
    repository.events.get? (runId,event.eventId) = some event ∧ event.runId = runId ∧ event.type = BUDGET_OVERRIDE_EVENT := by
  rw [overridesOf,List.mem_filter,Repository.mem_eventsOf,and_assoc]
  simp [isOverride]

theorem mem_clocks {grants : List Grant} {at_ : String} : at_ ∈ clocks grants ↔ ∃ grant ∈ grants, grant.at_ = at_ :=
  List.mem_map

section
variable {grants : List Grant} {overrides : List Event} (counted : Counted runId grants overrides) {grant : Grant}
include counted

theorem Counted.replayed (positive : 0 < grant.microdollars) {event : Event} (inside : event ∈ overrides)
    (mine : event.eventId = overrideEventId runId grant.at_) : Counted runId (grant::grants) overrides := by
  have sum : total (grant::grants) = grant.microdollars + total grants := List.sum_cons
  have bounded := counted.bounded
  constructor
  · intro other listed
    rcases List.mem_cons.mp listed with rfl | listed
    · exact ⟨event,inside,mine⟩
    · exact counted.listed other listed
  · intro other listed
    obtain ⟨earlier,held,same⟩ := counted.made other listed
    exact ⟨earlier,List.mem_cons_of_mem _ held,same⟩
  · omega
  · obtain ⟨earlier,held,same⟩ := counted.made event inside
    have twice : grant.at_ ∈ clocks grants :=
      mem_clocks.mpr ⟨earlier,held,(overrideEventId_injective (mine.symm.trans same)).symm⟩
    have repeats : ¬ (clocks (grant::grants)).Nodup := fun distinct => (List.nodup_cons.mp distinct).1 twice
    constructor
    · intro equal
      omega
    · exact fun distinct => absurd distinct repeats

theorem Counted.appended {event : Event} (mine : event.eventId = overrideEventId runId grant.at_)
    (fresh : ∀ other ∈ overrides, other.eventId ≠ event.eventId)
    (counts : ∀ granted, visitBudgetOverride granted event = granted + grant.microdollars) :
    Counted runId (grant::grants) (overrides ++ [event]) := by
  have sum : total (grant::grants) = grant.microdollars + total grants := List.sum_cons
  have granted : grantedIn (overrides ++ [event]) = grantedIn overrides + grant.microdollars := by
    rw [grantedIn,List.foldl_append]
    exact counts _
  have bounded := counted.bounded
  constructor
  · intro other listed
    rcases List.mem_cons.mp listed with rfl | listed
    · exact ⟨event,by simp,mine⟩
    · obtain ⟨held,inside,same⟩ := counted.listed other listed
      exact ⟨held,List.mem_append_left _ inside,same⟩
  · intro other listed
    rcases List.mem_append.mp listed with listed | listed
    · obtain ⟨earlier,held,same⟩ := counted.made other listed
      exact ⟨earlier,List.mem_cons_of_mem _ held,same⟩
    · rw [List.mem_singleton.mp listed]
      exact ⟨grant,List.mem_cons_self,mine⟩
  · omega
  · have first : grant.at_ ∉ clocks grants := by
      intro repeated
      obtain ⟨earlier,held,same⟩ := mem_clocks.mp repeated
      obtain ⟨other,inside,named⟩ := counted.listed earlier held
      apply fresh other inside
      rw [named,same,mine]
    have distinct : (clocks (grant::grants)).Nodup ↔ (clocks grants).Nodup := by
      rw [clocks,List.map_cons,List.nodup_cons]
      exact and_iff_right first
    rw [distinct,← counted.exact]
    constructor
    · intro equal
      omega
    · intro equal
      omega

end

theorem Granting.counted {grants : List Grant} {world : World} (steady : Steady env) (history : Granting env runId grants world) :
    Counted runId grants (overridesOf world.repository runId) := by
  induction history with
  | start none =>
    rw [none]
    constructor
    · simp
    · simp
    · rfl
    · simp [clocks,total,grantedIn]
  | @granted grants world after microdollars run earlier done ih =>
    have leads := @overrideRunBudget_leads env world runId microdollars steady
    unfold Leads at leads
    rw [done] at leads
    obtain ⟨safe,positive,event,appended⟩ := leads
    rcases appendEvent_cases appended with ⟨existing,found,type,_,same⟩ | ⟨absent,draft,last,stored⟩
    · rw [same]
      have filed : (existing.runId,existing.eventId) = (runId,overrideEventId runId (isoText (env.clock (world.tick + 1)))) :=
        world.repository.filed _ _ found
      obtain ⟨mine,named⟩ := Prod.mk.inj filed
      refine ih.replayed positive (mem_overridesOf.mpr ⟨?_,mine,type⟩) named
      rw [named]
      exact found
    · have events := eventsOf_append absent draft last stored runId
      have type : event.type = BUDGET_OVERRIDE_EVENT := congrArg EventDraft.type draft
      have payload : event.payload = .obj [("microdollars",.num microdollars)] := congrArg EventDraft.payload draft
      have named : event.eventId = overrideEventId runId (isoText (env.clock (world.tick + 1))) :=
        congrArg EventDraft.eventId draft
      have grown : overridesOf after.repository runId = overridesOf world.repository runId ++ [event] := by
        rw [overridesOf,events,if_pos (show runId = (overrideEvent runId microdollars _).runId from rfl),List.filter_append]
        simp [overridesOf,isOverride,type]
      rw [grown]
      refine ih.appended named (fun other inside same => ?_) (visitBudgetOverride_grant type payload safe positive)
      have found := (mem_overridesOf.mp inside).1
      rw [same,named] at found
      exact absurd (found.symm.trans absent) (by simp)
  | @refused grants world after microdollars fault earlier done ih =>
    have leads := @overrideRunBudget_leads env world runId microdollars steady
    unfold Leads at leads
    rw [done] at leads
    rw [show after.repository = world.repository from leads]
    exact ih
  | meanwhile earlier same ih =>
    rw [same]
    exact ih

/-- After every history of calls that are all answered, the workflow reads back the
sum of what the successful ones granted exactly when no two of them read the same
clock and the run's events fit into the pages of a scan. -/
theorem granted_budget_is_sum_iff (steady : Steady env) {grants : List Grant} {world : World}
    (history : Granting env runId grants world) :
    (∃ after, (grantedBudgetOverride env runId).exec world = (.ok (total grants),after)) ↔
      (clocks grants).Nodup ∧ (world.repository.eventsOf runId).length ≤ 99900 := by
  have counted := history.counted steady
  have all : world.repository.eventsOf runId = [] ++ world.repository.eventsOf runId := rfl
  have scans := @exec_scanRunEvents_iff _ _ _ steady visitBudgetOverride 1000 _ _ 0 _ all
  have folded : (world.repository.eventsOf runId).foldl visitBudgetOverride 0 = grantedIn (overridesOf world.repository runId) :=
    (grantedIn_filter _).symm
  rw [folded] at scans
  constructor
  · rintro ⟨after,answered⟩
    have sum := (exec_scanRunEvents_ok all answered).1
    rw [folded] at sum
    rw [sum] at answered
    have short := scans.mp ⟨after,answered⟩
    exact ⟨counted.exact.mp sum.symm,by omega⟩
  · rintro ⟨distinct,short⟩
    obtain ⟨after,answered⟩ := scans.mpr (by omega)
    rw [counted.exact.mpr distinct] at answered
    exact ⟨after,answered⟩

def overriddenRun : Run where
  id := "run-1"
  projectId := "project-1"
  pipeline := "feature"
  status := .failed
  createdAt := 0
  updatedAt := 0

def overriddenWorld : World := {repository := Repository.setRun {} overriddenRun}

def firstOverride (env : Environment) : Except Fault Run × World :=
  (overrideRunBudget env "run-1" 5000000).exec overriddenWorld

def secondOverride (env : Environment) : Except Fault Run × World :=
  (overrideRunBudget env "run-1" 5000000).exec (firstOverride env).2

def twoGrants (env : Environment) : List Grant := [
  ⟨5000000,isoText (env.clock ((firstOverride env).2.tick + 1))⟩,
  ⟨5000000,isoText (env.clock (overriddenWorld.tick + 1))⟩]

theorem twoGrants_granting (first : (firstOverride env).1 = .ok overriddenRun) (second : (secondOverride env).1 = .ok overriddenRun) :
    Granting env "run-1" (twoGrants env) (secondOverride env).2 := by
  have started : Granting env "run-1" [] overriddenWorld := .start rfl
  have once := started.granted (Prod.ext first rfl : firstOverride env = (.ok overriddenRun,(firstOverride env).2))
  exact once.granted (Prod.ext second rfl : secondOverride env = (.ok overriddenRun,(secondOverride env).2))

theorem spaced_grants_counted : ∃ after, (grantedBudgetOverride Environment.steady "run-1").exec
    (secondOverride Environment.steady).2 = (.ok (total (twoGrants Environment.steady)),after) :=
  have steady : Steady Environment.steady := fun _ => rfl
  have history := @twoGrants_granting Environment.steady (by rfl) (by rfl)
  (granted_budget_is_sum_iff steady history).mpr ⟨by decide +kernel,by decide +kernel⟩

def sameMinute : Environment := {Environment.steady with clock := fun tick => 60000 * (tick / 100)}

/-- Two grants within one reading of the clock count once. -/
theorem doubled_grant_counted_once : ¬ ∀ (env : Environment) (grants : List Grant) (world : World), Steady env →
    Granting env "run-1" grants world →
      ∃ after, (grantedBudgetOverride env "run-1").exec world = (.ok (total grants),after) := by
  intro claimed
  obtain ⟨after,answered⟩ := claimed sameMinute _ _ (fun _ => rfl) (twoGrants_granting (by rfl) (by rfl))
  have counted := congrArg Prod.fst answered
  have once : ((grantedBudgetOverride sameMinute "run-1").exec (secondOverride sameMinute).2).1 = .ok 5000000 := by
    rfl
  rw [once] at counted
  cases counted

end AgentOS.System
