import AgentOS.Calls
import AgentOS.Library.Joined
import AgentOS.Library.Sums
import AgentOS.Outbox.Delivery

/-! What was spent, by a run or in a window of time. The sums that budgets are held
against read one page of usage records a run, and one page of runs. -/
namespace AgentOS.Outbox
open Library Routine AgentOS.Action
variable {env : Environment} {world after : World}

def sumWorkflowUsage (env : Environment) (runId : String) : Action Int :=
  readRepository env fun repository => totalMicrodollars (repository.listUsage runId 1000)

def sumUsageInWindow (env : Environment) (projectId : Option String) (since until_ : Instant) : Action Int := do
  let runs ← readRepository env fun repository => repository.listRuns projectId none 1000 none
  usageOfRuns env since until_ runs

def deploymentDailyUsageMicrodollars (env : Environment) (at_ : Instant) : Action Int :=
  sumUsageInWindow env none (at_ - 24 * 60 * 60 * 1000) at_

/-! ### Whole listings -/

def usageOf (repository : Repository) (runId : String) : List UsageRecord :=
  (repository.usage.values.filter fun usage => usage.runId = runId).insertionSort fun left right =>
    ¬ timestampedBefore right.recordedAt right.idempotencyId left.recordedAt left.idempotencyId

def runsOf (repository : Repository) (projectId : Option String) : List Run :=
  (repository.runs.values.filter fun run => projectId.all fun wanted => run.projectId = wanted).insertionSort fun left right =>
    ¬ timestampedBefore right.createdAt right.id left.createdAt left.id

theorem listUsage_page (repository : Repository) (runId : String) :
    repository.listUsage runId 1000 = (usageOf repository runId).take 100 := rfl

theorem listRuns_page (repository : Repository) (projectId : Option String) :
    repository.listRuns projectId none 1000 none = (runsOf repository projectId).take 100 := by
  simp [Repository.listRuns,runsOf,isAfterTimestamp,boundedListLimit,maxListLimit]

def within (since until_ : Instant) (record : UsageRecord) : Bool := since ≤ record.recordedAt && record.recordedAt ≤ until_

def spentBy (repository : Repository) (runId : String) : Int :=
  Sums.sum (repository.usage.values.filter fun record => record.runId = runId) UsageRecord.microdollars

def spentWithin (repository : Repository) (projectId : Option String) (since until_ : Instant) : Int :=
  Sums.sum (repository.usage.values.filter fun record => within since until_ record &&
    projectId.all fun wanted => (repository.getRun record.runId).any fun run => run.projectId = wanted) UsageRecord.microdollars

/-- Usage is recorded at a price that is no credit, and of a run that is there. -/
structure Booked (repository : Repository) : Prop where
  priced : ∀ record ∈ repository.usage.values, 0 ≤ record.microdollars
  owned : ∀ record ∈ repository.usage.values, (repository.getRun record.runId).isSome

/-! ### Pages against the whole -/

variable {repository : Repository}

theorem mem_usageOf {runId : String} {record : UsageRecord} :
    record ∈ usageOf repository runId ↔ record ∈ repository.usage.values ∧ record.runId = runId := by
  rw [usageOf,List.mem_insertionSort,List.mem_filter,decide_eq_true_eq]

theorem sum_usageOf (repository : Repository) (runId : String) (cost : UsageRecord → Int) :
    Sums.sum (usageOf repository runId) cost = Sums.sum (repository.usage.values.filter fun record => record.runId = runId) cost :=
  Sums.sum_perm (List.perm_insertionSort _ _) cost

def costWithin (since until_ : Instant) (record : UsageRecord) : Int := if within since until_ record then record.microdollars else 0

theorem costWithin_free (booked : Booked repository) (since until_ : Instant) {record : UsageRecord}
    (inside : record ∈ repository.usage.values) : 0 ≤ costWithin since until_ record := by
  unfold costWithin
  split
  · exact booked.priced record inside
  · exact le_rfl

theorem sum_within (usage : List UsageRecord) (since until_ : Instant) :
    totalMicrodollars (usage.filter (within since until_)) = Sums.sum usage (costWithin since until_) := Sums.sum_filter _ _ _

theorem usageOfRuns_leads (steady : Steady env) (since until_ : Instant) (runs : List Run) :
    (usageOfRuns env since until_ runs).Leads world fun answer after => after.repository = world.repository ∧
      answer = .ok (Sums.sum runs fun run => Sums.sum ((usageOf world.repository run.id).take 100) (costWithin since until_)) := by
  induction runs generalizing world with
  | nil => exact ⟨rfl,rfl⟩
  | cons run runs ih =>
    apply leads_readRepository steady
    have rest := @ih world.ticked
    apply leads_bind rest
    · rintro value after ⟨same,answered⟩
      cases answered
      refine ⟨same,?_⟩
      rw [listUsage_page]
      have page := sum_within ((usageOf world.repository run.id).take 100) since until_
      rw [Sums.sum_cons,← page]
      rfl
    · rintro fault after ⟨_,impossible⟩
      cases impossible

theorem mem_runsOf {projectId : Option String} {run : Run} : run ∈ runsOf repository projectId ↔
    repository.getRun run.id = some run ∧ (projectId.all fun wanted => run.projectId = wanted) = true := by
  rw [runsOf,List.mem_insertionSort,List.mem_filter,OrderedMap.mem_values]
  constructor
  · rintro ⟨⟨key,found⟩,mine⟩
    have named := repository.keyed key run found
    exact ⟨by rw [named]; exact found,mine⟩
  · rintro ⟨found,mine⟩
    exact ⟨⟨run.id,found⟩,mine⟩

theorem runs_apart (repository : Repository) : repository.runs.values.Pairwise fun left right => left.id ≠ right.id := by
  apply repository.runs.pairwise_values
  intro left right first second different leftFound rightFound same
  apply different
  rw [← repository.keyed left first leftFound,← repository.keyed right second rightFound,same]

theorem runsOf_distinct (repository : Repository) (projectId : Option String) : ((runsOf repository projectId).map Run.id).Nodup := by
  have perm := List.perm_insertionSort (fun left right : Run =>
    ¬ timestampedBefore right.createdAt right.id left.createdAt left.id)
    (repository.runs.values.filter fun run => projectId.all fun wanted => run.projectId = wanted)
  rw [List.Nodup,List.pairwise_map]
  exact (perm.pairwise_iff fun different => Ne.symm different).mpr ((runs_apart repository).filter _)

theorem sum_runsOf (booked : Booked repository) (projectId : Option String) (since until_ : Instant) :
    Sums.sum (runsOf repository projectId) (fun run => Sums.sum (usageOf repository run.id) (costWithin since until_)) =
      spentWithin repository projectId since until_ := by
  have byRun : Sums.sum (runsOf repository projectId) (fun run => Sums.sum (usageOf repository run.id) (costWithin since until_)) =
      Sums.sum ((runsOf repository projectId).map Run.id) fun runId => Sums.sum repository.usage.values fun record =>
        if record.runId = runId then costWithin since until_ record else 0 := by
    rw [Sums.sum,Sums.sum,List.map_map]
    congr 1
    apply List.map_congr_left
    intro run _
    rw [sum_usageOf,Sums.sum_filter]
    simp
  rw [byRun,Sums.sum_groups _ _ _ _ (runsOf_distinct repository projectId),spentWithin,Sums.sum_filter]
  apply Sums.sum_congr
  intro record inside
  obtain ⟨run,found⟩ := Option.isSome_iff_exists.mp (booked.owned record inside)
  have named : run.id = record.runId := repository.keyed _ _ found
  have counted : record.runId ∈ (runsOf repository projectId).map Run.id ↔
      (projectId.all fun wanted => (repository.getRun record.runId).any fun run => run.projectId = wanted) = true := by
    rw [found,List.mem_map]
    simp only [Option.any_some]
    constructor
    · rintro ⟨listed,member,same⟩
      obtain ⟨stored,mine⟩ := mem_runsOf.mp member
      rw [same,found] at stored
      cases stored
      exact mine
    · intro mine
      exact ⟨run,mem_runsOf.mpr ⟨by rw [named]; exact found,mine⟩,named⟩
  unfold costWithin
  by_cases mine : record.runId ∈ (runsOf repository projectId).map Run.id
  · rw [if_pos mine,counted.mp mine,Bool.and_true]
  · rw [if_neg mine,if_neg]
    rw [Bool.and_eq_true]
    exact fun both => mine (counted.mpr both.2)

structure Paged (repository : Repository) (projectId : Option String) (since until_ : Instant) : Prop where
  usage : ∀ run ∈ (runsOf repository projectId).take 100, ∀ record ∈ (usageOf repository run.id).drop 100,
    costWithin since until_ record = 0
  runs : ∀ run ∈ (runsOf repository projectId).drop 100, ∀ record ∈ usageOf repository run.id, costWithin since until_ record = 0

section
variable (steady : Steady env) (booked : Booked world.repository)
include steady booked

theorem sumUsageInWindow_iff (projectId : Option String)
    (since until_ : Instant) : ((sumUsageInWindow env projectId since until_).exec world).1 =
      .ok (spentWithin world.repository projectId since until_) ↔ Paged world.repository projectId since until_ := by
  have listing : (sumUsageInWindow env projectId since until_).Leads world fun answer _ => answer =
      .ok (Sums.sum ((runsOf world.repository projectId).take 100) fun run =>
        Sums.sum ((usageOf world.repository run.id).take 100) (costWithin since until_)) := by
    apply leads_readRepository steady
    rw [listRuns_page]
    exact (usageOfRuns_leads steady since until_ _).mono fun _ _ answered => answered.2
  unfold Leads at listing
  rw [listing,Except.ok.injEq,← sum_runsOf booked,Sums.sum_take_add (runsOf world.repository projectId) _ 100]
  have free : ∀ run : Run, ∀ record ∈ usageOf world.repository run.id, 0 ≤ costWithin since until_ record :=
    fun run record inside => costWithin_free booked since until_ (mem_usageOf.mp inside).1
  have late : ∀ run : Run, ∀ record ∈ (usageOf world.repository run.id).drop 100, 0 ≤ costWithin since until_ record :=
    fun run record inside => free run record (List.mem_of_mem_drop inside)
  -- What the listed runs spent is what their pages sum up to and what comes after them.
  have pages : (Sums.sum ((runsOf world.repository projectId).take 100) fun run =>
        Sums.sum (usageOf world.repository run.id) (costWithin since until_)) =
      (Sums.sum ((runsOf world.repository projectId).take 100) fun run =>
        Sums.sum ((usageOf world.repository run.id).take 100) (costWithin since until_)) +
      Sums.sum ((runsOf world.repository projectId).take 100) fun run =>
        Sums.sum ((usageOf world.repository run.id).drop 100) (costWithin since until_) := by
    rw [← Sums.sum_add]
    exact Sums.sum_congr fun run _ => Sums.sum_take_add _ _ 100
  have restFree : 0 ≤ Sums.sum ((runsOf world.repository projectId).take 100) fun run =>
      Sums.sum ((usageOf world.repository run.id).drop 100) (costWithin since until_) :=
    Sums.sum_nonneg fun run _ => Sums.sum_nonneg (late run)
  have laterFree : 0 ≤ Sums.sum ((runsOf world.repository projectId).drop 100) fun run =>
      Sums.sum (usageOf world.repository run.id) (costWithin since until_) :=
    Sums.sum_nonneg fun run _ => Sums.sum_nonneg (free run)
  have restNothing := @Sums.sum_eq_zero_iff _ _ ((runsOf world.repository projectId).take 100)
    fun run _ => Sums.sum_nonneg (late run)
  have laterNothing := @Sums.sum_eq_zero_iff _ _ ((runsOf world.repository projectId).drop 100)
    fun run _ => Sums.sum_nonneg (free run)
  constructor
  · intro equal
    have rest := restNothing.mp (by omega)
    have later := laterNothing.mp (by omega)
    exact ⟨fun run listed => (Sums.sum_eq_zero_iff (late run)).mp (rest run listed),
      fun run listed => (Sums.sum_eq_zero_iff (free run)).mp (later run listed)⟩
  · intro paged
    have rest := restNothing.mpr fun run listed => (Sums.sum_eq_zero_iff (late run)).mpr (paged.usage run listed)
    have later := laterNothing.mpr fun run listed => (Sums.sum_eq_zero_iff (free run)).mpr (paged.runs run listed)
    omega

theorem sumWorkflowUsage_iff (runId : String) : ((sumWorkflowUsage env runId).exec world).1 = .ok (spentBy world.repository runId) ↔
      ∀ record ∈ (usageOf world.repository runId).drop 100, record.microdollars = 0 := by
  have answered : (sumWorkflowUsage env runId).exec world =
      (.ok (Sums.sum ((usageOf world.repository runId).take 100) UsageRecord.microdollars),world.ticked) :=
    exec_readRepository_ok.mpr ⟨steady _,rfl,rfl⟩
  have late : ∀ record ∈ (usageOf world.repository runId).drop 100, 0 ≤ record.microdollars :=
    fun record inside => booked.priced record (mem_usageOf.mp (List.mem_of_mem_drop inside)).1
  rw [answered,Except.ok.injEq,spentBy,← sum_usageOf,Sums.sum_take_add (usageOf world.repository runId) _ 100,
    ← Sums.sum_eq_zero_iff late]
  constructor
  · intro equal
    omega
  · intro nothing
    omega

end

/-- The sums that budgets are held against are what was really spent exactly when
the pages they read leave out nothing that costs: no charge of a run after its
first hundred records, and for a window no run with a charge after the first
hundred runs. -/
theorem usage_sums_are_spend_iff (steady : Steady env) (booked : Booked world.repository) :
    (∀ runId, ((sumWorkflowUsage env runId).exec world).1 = .ok (spentBy world.repository runId) ↔
      ∀ record ∈ (usageOf world.repository runId).drop 100, record.microdollars = 0) ∧
    ∀ projectId since until_, ((sumUsageInWindow env projectId since until_).exec world).1 =
      .ok (spentWithin world.repository projectId since until_) ↔ Paged world.repository projectId since until_ :=
  ⟨sumWorkflowUsage_iff steady booked,sumUsageInWindow_iff steady booked⟩

def charge (number : Nat) : UsageRecord where
  idempotencyId := toString number
  runId := "run-1"
  model := "model-1"
  pricingVersion := "1"
  inputTokens := 1
  outputTokens := 1
  cacheReadInputTokens := 0
  cacheCreation5mInputTokens := 0
  cacheCreation1hInputTokens := 0
  runtimeMs := 1
  microdollars := 1
  recordedAt := number

def chargedRun : Run where
  id := "run-1"
  projectId := "project-1"
  pipeline := "feature"
  status := .running
  createdAt := 0
  updatedAt := 0

def charges (count : Nat) : OrderedMap String UsageRecord where
  entries := (List.range count).map fun number => ((charge number).idempotencyId,charge number)
  distinct := by
    rw [List.map_map]
    apply List.Nodup.map _ List.nodup_range
    intro first second same
    exact Joined.numeral_injective (congrArg String.toList same)

def chargedWorld (count : Nat) : World := {repository := {Repository.setRun {} chargedRun with usage := charges count}}

theorem values_charges (count : Nat) : (charges count).values = (List.range count).map charge := by
  rw [OrderedMap.values,charges,List.map_map]
  rfl

theorem two_charges_are_spend :
    ((sumWorkflowUsage Environment.steady "run-1").exec (chargedWorld 2)).1 = .ok (spentBy (chargedWorld 2).repository "run-1") ∧
      ((sumUsageInWindow Environment.steady (some "project-1") 0 5).exec (chargedWorld 2)).1 =
        .ok (spentWithin (chargedWorld 2).repository (some "project-1") 0 5) :=
  have booked : Booked (chargedWorld 2).repository := ⟨by decide +kernel,by decide +kernel⟩
  have sums := @usage_sums_are_spend_iff Environment.steady _ (fun _ => rfl) booked
  ⟨(sums.1 "run-1").mpr (by decide +kernel),(sums.2 (some "project-1") 0 5).mpr ⟨by decide +kernel,by decide +kernel⟩⟩

/-- A run's hundred and first charge is not counted. -/
theorem hundred_and_one_charges_not_counted : Booked (chargedWorld 101).repository ∧
    ((sumWorkflowUsage Environment.steady "run-1").exec (chargedWorld 101)).1 ≠
      .ok (spentBy (chargedWorld 101).repository "run-1") := by
  have values : (chargedWorld 101).repository.usage.values = (List.range 101).map charge := values_charges 101
  have booked : Booked (chargedWorld 101).repository := by
    constructor
    · rw [values]
      decide +kernel
    · rw [values]
      decide +kernel
  refine ⟨booked,fun counted => ?_⟩
  have paged := (sumWorkflowUsage_iff (fun _ => rfl) booked "run-1").mp counted
  have length : (usageOf (chargedWorld 101).repository "run-1").length = 101 := by
    rw [usageOf,List.length_insertionSort,values]
    decide +kernel
  have last : 100 < (usageOf (chargedWorld 101).repository "run-1").length := by omega
  have inside : (usageOf (chargedWorld 101).repository "run-1")[100] ∈ (usageOf (chargedWorld 101).repository "run-1").drop 100 := by
    rw [List.drop_eq_getElem_cons last]
    exact List.mem_cons_self
  have free := paged _ inside
  have listed := (mem_usageOf.mp (List.mem_of_mem_drop inside)).1
  rw [values,List.mem_map] at listed
  obtain ⟨number,_,same⟩ := listed
  rw [← same] at free
  exact absurd (show (1 : Int) = 0 from free) (by decide)

end AgentOS.Outbox
