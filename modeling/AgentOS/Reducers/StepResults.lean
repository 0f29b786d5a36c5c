import AgentOS.Reducers.GoalHistory

/-! Which results a step of a goal takes: one for each criterion and no other, as long as no criterion is named like
the prototype of the record they are collected in. -/
namespace AgentOS.Reducers
open Library ControlPlane GoalWorkflowState

structure Complete (criteria : List CommandCriterion) (results : List VerificationResult) : Prop where
  one : ∀ criterion ∈ criteria, results.countP (fun result => result.criterionId = criterion.id) = 1
  known : ∀ result ∈ results, ∃ criterion ∈ criteria, criterion.id = result.criterionId

def criterionIds (criteria : List CommandCriterion) : List String := criteria.map CommandCriterion.id

def resultIds (results : List VerificationResult) : List String := results.map VerificationResult.criterionId

section
variable {criteria : List CommandCriterion} {results : List VerificationResult} {result : VerificationResult}
  {expectedIds : List String} {byCriterion found : OrderedMap String VerificationResult} {state : GoalWorkflowState}

theorem count_resultIds (id : String) : (resultIds results).count id = results.countP fun result => result.criterionId = id := by
  unfold resultIds
  rw [List.count,List.countP_map]
  refine List.countP_congr fun result _ => ?_
  simp

theorem complete_iff_perm (distinct : (criterionIds criteria).Nodup) :
    Complete criteria results ↔ (resultIds results).Perm (criterionIds criteria) := by
  constructor
  · intro complete
    refine List.perm_iff_count.mpr fun id => ?_
    by_cases expected : id ∈ criterionIds criteria
    · obtain ⟨criterion,inside,rfl⟩ := List.mem_map.mp expected
      rw [List.count_eq_one_of_mem distinct expected,count_resultIds,complete.one criterion inside]
    · rw [List.count_eq_zero.mpr expected,List.count_eq_zero]
      intro reported
      obtain ⟨result,inside,rfl⟩ := List.mem_map.mp reported
      obtain ⟨criterion,there,same⟩ := complete.known result inside
      exact expected (List.mem_map.mpr ⟨criterion,there,same⟩)
  · intro same
    constructor
    · intro criterion inside
      rw [← count_resultIds,same.count_eq]
      exact List.count_eq_one_of_mem distinct (List.mem_map_of_mem inside)
    · intro result inside
      exact List.mem_map.mp (same.mem_iff.mp (List.mem_map_of_mem inside))

/-! ### Results that are collected -/

theorem set_new_length (unseen : byCriterion.get? result.criterionId = none) :
    (byCriterion.set result.criterionId result).entries.length = byCriterion.entries.length + 1 := by
  have keys := congrArg List.length (OrderedMap.keys_set byCriterion result.criterionId result)
  rw [unseen] at keys
  simpa using keys

theorem collectResults_distinct (expected : ∀ id ∈ resultIds results, id ∈ expectedIds) (distinct : (resultIds results).Nodup)
    (ordinary : "__proto__" ∉ resultIds results) (unseen : ∀ id ∈ resultIds results, byCriterion.get? id = none) :
    ∃ found, collectResults expectedIds byCriterion results = .ok found ∧
      found.entries.length = byCriterion.entries.length + results.length := by
  induction results generalizing byCriterion with
  | nil => exact ⟨byCriterion,rfl,rfl⟩
  | cons result results ih =>
    obtain ⟨newHere,distinct⟩ := List.nodup_cons.mp distinct
    have here : byCriterion.get? result.criterionId = none := unseen _ List.mem_cons_self
    have named : result.criterionId ≠ "__proto__" := fun same => ordinary (same ▸ List.mem_cons_self)
    have assigned : assign byCriterion result = byCriterion.set result.criterionId result := if_neg named
    obtain ⟨found,collects,length⟩ := @ih (byCriterion.set result.criterionId result)
      (fun id inside => expected id (List.mem_cons_of_mem _ inside)) distinct
      (fun inside => ordinary (List.mem_cons_of_mem _ inside)) fun id inside => by
        have other : id ≠ result.criterionId := fun same => newHere (same ▸ inside)
        rw [OrderedMap.get?_set,if_neg other]
        exact unseen id (List.mem_cons_of_mem _ inside)
    refine ⟨found,?_,?_⟩
    · unfold collectResults
      rw [if_neg (by simpa using expected _ List.mem_cons_self),if_neg (by simp [here]),assigned]
      exact collects
    · rw [length,set_new_length here,List.length_cons]
      omega

theorem collectResults_expected (collects : collectResults expectedIds byCriterion results = .ok found) :
    ∀ result ∈ results, result.criterionId ∈ expectedIds := by
  induction results generalizing byCriterion with
  | nil => exact nofun
  | cons first rest ih =>
    unfold collectResults at collects
    split at collects
    · cases collects
    rename_i known
    split at collects
    · cases collects
    intro result inside
    rcases List.mem_cons.mp inside with rfl | later
    · simpa using known
    · exact ih collects result later

section
variable (distinct : (criterionIds state.criteria).Nodup)
include distinct

theorem assertCompleteResults_complete (ok : state.assertCompleteResults results = .ok found) : Complete state.criteria results := by
  obtain ⟨collected,complete⟩ := assertCompleteResults_ok ok
  unfold assertCompleteResults at ok
  split at ok
  · cases ok
  rename_i lengths
  obtain ⟨_,collects,_⟩ := bind_ok.mp ok
  have known := collectResults_expected collects
  have subset : criterionIds state.criteria ⊆ resultIds results := by
    intro id inside
    obtain ⟨criterion,there,rfl⟩ := List.mem_map.mp inside
    obtain ⟨result,held⟩ := Option.isSome_iff_exists.mp (complete criterion there)
    obtain ⟨member,same⟩ := collected.stored _ _ held
    exact List.mem_map.mpr ⟨result,member,same⟩
  have sameLength : (resultIds results).length = (criterionIds state.criteria).length := by
    simpa [resultIds,criterionIds] using lengths
  exact (complete_iff_perm distinct).mpr ((List.subperm_of_subset distinct subset).perm_of_length_le (by omega)).symm

theorem assertCompleteResults_of_complete (ordinary : "__proto__" ∉ criterionIds state.criteria) (complete : Complete state.criteria results) :
    ∃ found, state.assertCompleteResults results = .ok found := by
  have same := (complete_iff_perm distinct).mp complete
  have lengths : results.length = state.criteria.length := by
    have equal := same.length_eq
    simpa [resultIds,criterionIds] using equal
  have expected : (criterionIds state.criteria).dedup = criterionIds state.criteria := List.Nodup.dedup distinct
  obtain ⟨found,collects,length⟩ := @collectResults_distinct results (criterionIds state.criteria).dedup .empty
    (fun id inside => by rw [expected]; exact same.mem_iff.mp inside) (same.nodup_iff.mpr distinct)
    (fun inside => ordinary (same.mem_iff.mp inside)) fun _ _ => rfl
  refine ⟨found,?_⟩
  unfold assertCompleteResults
  rw [if_neg (not_not.mpr lengths)]
  refine bind_ok.mpr ⟨found,collects,if_neg (not_not.mpr ?_)⟩
  have empty : (OrderedMap.empty : OrderedMap String VerificationResult).entries.length = 0 := rfl
  change found.entries.length = (criterionIds state.criteria).dedup.length
  rw [expected,length,empty,criterionIds,List.length_map,lengths,Nat.zero_add]

theorem assertCompleteResults_read (ok : state.assertCompleteResults results = .ok found) (inside : result ∈ results) :
    found.get? result.criterionId = some result := by
  obtain ⟨collected,complete⟩ := assertCompleteResults_ok ok
  refine collected.seen result inside fun prototype => ?_
  obtain ⟨criterion,there,same⟩ := (assertCompleteResults_complete distinct ok).known result inside
  have held := complete criterion there
  rw [same,prototype,collected.prototype] at held
  cases held

end

/-! ### Goals -/

theorem checkCriteria_distinct {ids : List String} (ok : checkCriteria ids criteria = .ok ()) :
    (criterionIds criteria).Nodup ∧ ∀ id ∈ ids, id ∉ criterionIds criteria := by
  induction criteria generalizing ids with
  | nil => simp [criterionIds]
  | cons criterion criteria ih =>
    unfold checkCriteria at ok
    split at ok
    · cases ok
    split at ok
    · cases ok
    rename_i fresh
    obtain ⟨distinct,apart⟩ := ih ok
    refine ⟨List.nodup_cons.mpr ⟨apart criterion.id (by simp),distinct⟩,fun id known inside => ?_⟩
    rcases List.mem_cons.mp inside with rfl | later
    · exact fresh (by simpa using known)
    · exact apart id (by simp [known]) later

variable {sha256 : String → String} {options : GoalWorkflowOptions} {events : List GoalWorkflowEvent}

theorem createGoalWorkflow_distinct (created : createGoalWorkflow options = .ok state) : (criterionIds options.criteria).Nodup := by
  unfold createGoalWorkflow at created
  split at created
  · cases created
  obtain ⟨_,checked,_⟩ := bind_ok.mp created
  unfold cloneAndFreezeCriteria at checked
  split at checked
  · cases checked
  obtain ⟨_,ok,_⟩ := bind_ok.mp checked
  exact (checkCriteria_distinct ok).1

theorem replayGoalWorkflow_criteria (replayed : replayGoalWorkflow sha256 events options = .ok state) :
    state.criteria = options.criteria ∧ (criterionIds state.criteria).Nodup := by
  obtain ⟨start,created,replays⟩ := bind_ok.mp replayed
  obtain ⟨bounds,progress⟩ := @createGoalWorkflow_ok sha256 options start created
  have same := (progress.replayed bounds replays).criteria
  rw [same]
  exact ⟨rfl,createGoalWorkflow_distinct created⟩

def stepEvaluated (state : GoalWorkflowState) (id : String) (results : List VerificationResult) : GoalWorkflowEvent :=
  ⟨id,.stepEvaluated state.currentStep results⟩

theorem evaluate_latest (stepResults : OrderedMap String VerificationResult) :
    (state.evaluate results stepResults).latestResults = state.latestResults.spread stepResults := by
  unfold GoalWorkflowState.evaluate
  dsimp only
  split
  · rfl
  split
  · rfl
  split <;> rfl

theorem reduceGoalWorkflow_step {id : String} {next : GoalWorkflowState} (running : state.status = .running)
    (named : Workflow.trim id ≠ "") (fresh : state.processedEventFingerprints.get? id = none) :
    reduceGoalWorkflow sha256 state (stepEvaluated state id results) = .ok next ↔
      ∃ found, state.assertCompleteResults results = .ok found ∧
        state.recordEvent id (goalEventFingerprint sha256 (stepEvaluated state id results)) (state.evaluate results found) = next := by
  have judged : state.existingEventDisposition id (goalEventFingerprint sha256 (stepEvaluated state id results)) = .ok false := by
    unfold existingEventDisposition
    rw [if_neg named,fresh]
  have live : ¬ state.status.terminal = true := by simp [running,GoalWorkflowStatus.terminal]
  have moves : state.transition (.stepEvaluated state.currentStep results) =
      state.assertCompleteResults results >>= fun found => .ok (state.evaluate results found) := by
    unfold transition
    dsimp only
    rw [if_neg (not_not.mpr running),if_neg (not_not.mpr rfl)]
  unfold reduceGoalWorkflow
  rw [bind_ok]
  constructor
  · rintro ⟨duplicate,judged',ok⟩
    cases judged.symm.trans judged'
    rw [if_neg Bool.false_ne_true,if_neg live] at ok
    obtain ⟨changed,taken,same⟩ := bind_ok.mp ok
    obtain ⟨found,complete,evaluated⟩ := bind_ok.mp (moves.symm.trans taken)
    cases evaluated
    exact ⟨found,complete,Except.ok.inj same⟩
  · rintro ⟨found,complete,rfl⟩
    refine ⟨false,judged,?_⟩
    rw [if_neg Bool.false_ne_true,if_neg live]
    exact bind_ok.mpr ⟨_,moves.trans (bind_ok.mpr ⟨found,complete,rfl⟩),rfl⟩

theorem recordEvent_latest {id fingerprint : String} {changed : GoalWorkflowState} :
    (state.recordEvent id fingerprint changed).latestResults = changed.latestResults := by
  unfold recordEvent
  dsimp only

/-- New events for the current step are taken exactly when they report complete results, and the results are then read
back under their criteria. -/
def TakesComplete (sha256 : String → String) (state : GoalWorkflowState) (id : String) : Prop :=
  ∀ results, ((∃ next, reduceGoalWorkflow sha256 state (stepEvaluated state id results) = .ok next) ↔
      Complete state.criteria results) ∧
    ∀ next, reduceGoalWorkflow sha256 state (stepEvaluated state id results) = .ok next →
      ∀ result ∈ results, next.latestResults.get? result.criterionId = some result

def passing (criteria : List CommandCriterion) : List VerificationResult :=
  criteria.map fun criterion => ⟨criterion.id,.passed "command" "passed" .null⟩

theorem passing_complete (distinct : (criterionIds criteria).Nodup) : Complete criteria (passing criteria) := by
  refine (complete_iff_perm distinct).mpr ?_
  unfold resultIds passing criterionIds
  rw [List.map_map]
  exact List.Perm.refl _

theorem prototype_refused {id : String} (running : state.status = .running) (named : Workflow.trim id ≠ "")
    (fresh : state.processedEventFingerprints.get? id = none) (distinct : (criterionIds state.criteria).Nodup)
    (prototype : "__proto__" ∈ criterionIds state.criteria) : ¬ TakesComplete sha256 state id := by
  intro takes
  obtain ⟨next,reduced⟩ := (takes (passing state.criteria)).1.mpr (passing_complete distinct)
  obtain ⟨found,ok,_⟩ := (reduceGoalWorkflow_step running named fresh).mp reduced
  obtain ⟨collected,complete⟩ := assertCompleteResults_ok ok
  obtain ⟨criterion,inside,name⟩ := List.mem_map.mp prototype
  have held := complete criterion inside
  rw [name,collected.prototype] at held
  cases held

/-- A running goal takes complete results and no others exactly when none of its criteria is named `__proto__`. -/
theorem complete_results_taken_iff {id : String} (replayed : replayGoalWorkflow sha256 events options = .ok state)
    (running : state.status = .running) (named : Workflow.trim id ≠ "") (fresh : state.processedEventFingerprints.get? id = none) :
    TakesComplete sha256 state id ↔ "__proto__" ∉ options.criteria.map CommandCriterion.id := by
  obtain ⟨criteria,distinct⟩ := replayGoalWorkflow_criteria replayed
  have same : criterionIds state.criteria = options.criteria.map CommandCriterion.id := by
    unfold criterionIds
    rw [criteria]
  rw [← same]
  constructor
  · exact fun takes prototype => prototype_refused running named fresh distinct prototype takes
  · intro ordinary results
    refine ⟨⟨?_,?_⟩,?_⟩
    · rintro ⟨next,reduced⟩
      obtain ⟨found,ok,_⟩ := (reduceGoalWorkflow_step running named fresh).mp reduced
      exact assertCompleteResults_complete distinct ok
    · intro complete
      obtain ⟨found,ok⟩ := assertCompleteResults_of_complete distinct ordinary complete
      exact ⟨_,(reduceGoalWorkflow_step running named fresh).mpr ⟨found,ok,rfl⟩⟩
    · intro next reduced result inside
      obtain ⟨found,ok,rfl⟩ := (reduceGoalWorkflow_step running named fresh).mp reduced
      rw [recordEvent_latest,evaluate_latest,OrderedMap.get?_spread,assertCompleteResults_read distinct ok inside]
      rfl

end

/-! ### A criterion named like the prototype -/

def startedGoal : List GoalWorkflowEvent := [⟨"start",.start⟩]

def Awaits (options : GoalWorkflowOptions) : Prop :=
  (replayGoalWorkflow (fun text => text) startedGoal options).toOption.map
    (fun state => (state.status,state.processedEventFingerprints.get? "evaluation-1")) = some (.running,none)

theorem started_goal_awaits : Awaits goalOptions := by
  unfold Awaits
  decide +kernel

/-- A goal that waits for the results of its tests takes those of its tests. -/
theorem test_results_taken : ∃ state, replayGoalWorkflow (fun text => text) startedGoal goalOptions = .ok state ∧
    TakesComplete (fun text => text) state "evaluation-1" := by
  obtain ⟨state,replayed,shown⟩ := ok_of_map started_goal_awaits
  obtain ⟨running,fresh⟩ := Prod.mk.inj shown
  exact ⟨state,replayed,(complete_results_taken_iff replayed running (by decide) fresh).mpr (by decide)⟩

def prototypeOptions : GoalWorkflowOptions :=
  {criteria := [{id := "__proto__",description := "The tests pass",command := "npm test"}],maxSteps := 2}

theorem prototype_goal_awaits : Awaits prototypeOptions := by
  unfold Awaits
  decide +kernel

/-- A goal whose only criterion is named `__proto__` refuses the one result that it waits for. -/
theorem prototype_results_refused : ¬ ∀ (sha256 : String → String) (options : GoalWorkflowOptions)
    (events : List GoalWorkflowEvent) (state : GoalWorkflowState) (id : String),
    replayGoalWorkflow sha256 events options = .ok state → state.status = .running → Workflow.trim id ≠ "" →
      state.processedEventFingerprints.get? id = none → TakesComplete sha256 state id := by
  intro claim
  obtain ⟨state,replayed,shown⟩ := ok_of_map prototype_goal_awaits
  obtain ⟨running,fresh⟩ := Prod.mk.inj shown
  obtain ⟨criteria,distinct⟩ := replayGoalWorkflow_criteria replayed
  refine prototype_refused running (by decide) fresh distinct ?_ (claim _ _ _ _ _ replayed running (by decide) fresh)
  rw [criteria]
  decide

end AgentOS.Reducers
