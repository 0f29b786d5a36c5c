import AgentOS.Reducers.GoalWorkflow
import Mathlib.Data.List.Perm.Subperm

/-! Histories of a goal: how many events it takes, when it succeeds, and that duplicates change nothing. -/
namespace AgentOS.Reducers
open Library ControlPlane GoalWorkflowState

section
variable (sha256 : String → String)

def GoalWorkflowState.repeats (state : GoalWorkflowState) (event : GoalWorkflowEvent) : Bool :=
  match state.existingEventDisposition event.id (goalEventFingerprint sha256 event) with
  | .ok duplicate => duplicate
  | .error _ => false

/-- The events of a replay that are no duplicates, each with the state that it found. -/
def acceptedGoalEvents : GoalWorkflowState → List GoalWorkflowEvent → List (GoalWorkflowState × GoalWorkflowEvent) :=
  fresh (GoalWorkflowState.repeats sha256) (reduceGoalWorkflow sha256)

def CameBefore (early : List GoalWorkflowEvent) (event : GoalWorkflowEvent) : Prop :=
  ∃ earlier ∈ early, earlier.id = event.id ∧ goalEventFingerprint sha256 earlier = goalEventFingerprint sha256 event

end

def GoalWorkflowEvent.evaluation (event : GoalWorkflowEvent) : Option (List VerificationResult) :=
  match event.type with
  | .stepEvaluated _ results => some results
  | _ => none

def lastEvaluation (events : List GoalWorkflowEvent) : Option (List VerificationResult) :=
  (events.filterMap GoalWorkflowEvent.evaluation).getLast?

def RequiredPassed (criteria : List CommandCriterion) (results : List VerificationResult) : Prop :=
  ∀ criterion ∈ criteria, criterion.required ≠ some false →
    ∃ result ∈ results, result.criterionId = criterion.id ∧ result.passed = true

def LastPassed (criteria : List CommandCriterion) (events : List GoalWorkflowEvent) : Prop :=
  ∃ results, lastEvaluation events = some results ∧ RequiredPassed criteria results

/-! ### Results of a step -/

structure Collected (expectedIds : List String) (seen : List VerificationResult) (byCriterion : OrderedMap String VerificationResult) :
    Prop where
  expected : ∀ id result, byCriterion.get? id = some result → id ∈ expectedIds
  stored : ∀ id result, byCriterion.get? id = some result → result ∈ seen ∧ result.criterionId = id
  seen : ∀ result ∈ seen, result.criterionId ≠ "__proto__" → byCriterion.get? result.criterionId = some result
  prototype : byCriterion.get? "__proto__" = none

section
variable {expectedIds : List String} {seen results : List VerificationResult} {result : VerificationResult}
  {byCriterion found : OrderedMap String VerificationResult}

theorem Collected.assign (collected : Collected expectedIds seen byCriterion) (expected : result.criterionId ∈ expectedIds)
    (unseen : byCriterion.get? result.criterionId = none) : Collected expectedIds (seen ++ [result]) (assign byCriterion result) := by
  unfold GoalWorkflowState.assign
  split
  · rename_i prototype
    refine ⟨collected.expected,?_,?_,collected.prototype⟩
    · intro id other held
      obtain ⟨inside,same⟩ := collected.stored id other held
      exact ⟨List.mem_append_left _ inside,same⟩
    · intro other inside ordinary
      rcases List.mem_append.mp inside with earlier | here
      · exact collected.seen other earlier ordinary
      · rw [List.mem_singleton.mp here] at ordinary
        exact absurd prototype ordinary
  · rename_i ordinary
    refine ⟨?_,?_,?_,?_⟩
    · intro id other held
      rcases OrderedMap.get?_set_some held with ⟨rfl,_⟩ | ⟨_,held⟩
      · exact expected
      · exact collected.expected id other held
    · intro id other held
      rcases OrderedMap.get?_set_some held with ⟨rfl,rfl⟩ | ⟨_,held⟩
      · exact ⟨by simp,rfl⟩
      · obtain ⟨inside,same⟩ := collected.stored id other held
        exact ⟨List.mem_append_left _ inside,same⟩
    · intro other inside notPrototype
      rw [OrderedMap.get?_set]
      rcases List.mem_append.mp inside with earlier | here
      · have held := collected.seen other earlier notPrototype
        have different : other.criterionId ≠ result.criterionId := by
          intro same
          rw [same,unseen] at held
          cases held
        rw [if_neg different]
        exact held
      · rw [List.mem_singleton.mp here,if_pos rfl]
    · rw [OrderedMap.get?_set,if_neg (Ne.symm ordinary)]
      exact collected.prototype

theorem Collected.collect (collected : Collected expectedIds seen byCriterion)
    (ok : collectResults expectedIds byCriterion results = .ok found) : Collected expectedIds (seen ++ results) found := by
  induction results generalizing seen byCriterion with
  | nil =>
    cases ok
    rwa [List.append_nil]
  | cons result results ih =>
    unfold collectResults at ok
    split at ok
    · cases ok
    rename_i known
    split at ok
    · cases ok
    rename_i unseen
    have here := collected.assign (show result.criterionId ∈ expectedIds by simpa using known) (by simpa using unseen)
    have later := ih here ok
    rwa [List.append_assoc] at later

theorem assertCompleteResults_ok {state : GoalWorkflowState} (ok : state.assertCompleteResults results = .ok found) :
    Collected (state.criteria.map CommandCriterion.id).dedup results found ∧
      ∀ criterion ∈ state.criteria, (found.get? criterion.id).isSome := by
  unfold assertCompleteResults at ok
  split at ok
  · cases ok
  obtain ⟨byCriterion,collects,ok⟩ := bind_ok.mp ok
  split at ok
  · cases ok
  rename_i full
  cases ok
  have start : Collected (state.criteria.map CommandCriterion.id).dedup [] .empty :=
    ⟨by simp,by simp,by simp,rfl⟩
  have collected := start.collect collects
  refine ⟨collected,fun criterion inside => ?_⟩
  -- There are as many keys as expected identifiers, and all keys are expected.
  have subset : found.entries.map Prod.fst ⊆ (state.criteria.map CommandCriterion.id).dedup := by
    intro id key
    obtain ⟨result,held⟩ := Option.isSome_iff_exists.mp ((found.mem_keys id).mp key)
    exact collected.expected id result held
  have perm := (List.subperm_of_subset found.distinct subset).perm_of_length_le (by simp only [List.length_map]; omega)
  apply (found.mem_keys criterion.id).mp
  exact perm.mem_iff.mpr (List.mem_dedup.mpr (List.mem_map_of_mem inside))

theorem allRequiredPassed_iff {state : GoalWorkflowState} (latest : OrderedMap String VerificationResult)
    (ok : state.assertCompleteResults results = .ok found) :
    allRequiredPassed state.criteria (latest.spread found) = true ↔ RequiredPassed state.criteria results := by
  obtain ⟨collected,complete⟩ := assertCompleteResults_ok ok
  have latestOf (criterion : CommandCriterion) (inside : criterion ∈ state.criteria) :
      ∃ result, (latest.spread found).get? criterion.id = some result ∧ found.get? criterion.id = some result := by
    obtain ⟨result,held⟩ := Option.isSome_iff_exists.mp (complete criterion inside)
    exact ⟨result,by rw [OrderedMap.get?_spread,held]; rfl,held⟩
  unfold allRequiredPassed
  rw [List.all_eq_true]
  constructor
  · intro all criterion inside required
    obtain ⟨result,last,held⟩ := latestOf criterion inside
    have passed := all criterion (List.mem_filter.mpr ⟨inside,by simpa using required⟩)
    rw [last] at passed
    obtain ⟨member,same⟩ := collected.stored _ _ held
    exact ⟨result,member,same,passed⟩
  · intro all criterion kept
    obtain ⟨inside,required⟩ := List.mem_filter.mp kept
    obtain ⟨result,member,same,passed⟩ := all criterion inside (by simpa using required)
    obtain ⟨other,last,held⟩ := latestOf criterion inside
    have ordinary : result.criterionId ≠ "__proto__" := by
      intro prototype
      rw [← same,prototype,collected.prototype] at held
      cases held
    have found := collected.seen result member ordinary
    rw [same,held] at found
    cases found
    rw [last]
    exact passed

end

/-! ### Histories -/

abbrev GoalHistory := List (GoalWorkflowState × GoalWorkflowEvent)

def GoalHistory.events (history : GoalHistory) : List GoalWorkflowEvent := history.map Prod.snd

structure Progress (sha256 : String → String) (options : GoalWorkflowOptions) (history : GoalHistory) (state : GoalWorkflowState) :
    Prop where
  criteria : state.criteria = options.criteria
  maxSteps : state.maxSteps = options.maxSteps
  within : state.currentStep ≤ options.maxSteps
  pending : state.status = .pending → history.length = 0
  running : state.status = .running → (history.length : Int) = state.currentStep
  length : (history.length : Int) ≤ options.maxSteps + 1
  succeeded : state.status = .succeeded ↔ LastPassed options.criteria history.events
  ids : state.processedEventIds = history.events.map GoalWorkflowEvent.id
  prints : ∀ id fingerprint, state.processedEventFingerprints.get? id = some fingerprint ↔
    ∃ event ∈ history.events, event.id = id ∧ goalEventFingerprint sha256 event = fingerprint

section
variable {sha256 : String → String} {options : GoalWorkflowOptions} {criteria : List CommandCriterion} {history : GoalHistory}
  {state next changed last : GoalWorkflowState} {event : GoalWorkflowEvent} {events : List GoalWorkflowEvent}
  {results : List VerificationResult}

theorem GoalHistory.events_append : GoalHistory.events (history ++ [(state,event)]) = history.events ++ [event] := by
  simp [GoalHistory.events]

theorem lastPassed_evaluation (evaluation : event.evaluation = some results) :
    LastPassed criteria (events ++ [event]) ↔ RequiredPassed criteria results := by
  simp [LastPassed,lastEvaluation,evaluation]

theorem lastPassed_other (other : event.evaluation = none) : LastPassed criteria (events ++ [event]) ↔ LastPassed criteria events := by
  simp [LastPassed,lastEvaluation,other]

theorem reduceGoalWorkflow_ok (ok : reduceGoalWorkflow sha256 state event = .ok next) :
    (state.repeats sha256 event = true ∧ next = state) ∨
      state.repeats sha256 event = false ∧ state.processedEventFingerprints.get? event.id = none ∧ state.status.terminal = false ∧
        ∃ changed, state.transition event.type = .ok changed ∧
          next = state.recordEvent event.id (goalEventFingerprint sha256 event) changed := by
  unfold reduceGoalWorkflow at ok
  obtain ⟨duplicate,judged,ok⟩ := bind_ok.mp ok
  have known : state.repeats sha256 event = duplicate := by
    unfold repeats
    rw [judged]
  cases duplicate with
  | true =>
    cases ok
    exact .inl ⟨known,rfl⟩
  | false =>
    rw [if_neg Bool.false_ne_true] at ok
    split at ok
    · cases ok
    rename_i live
    obtain ⟨changed,moves,same⟩ := bind_ok.mp ok
    cases same
    refine .inr ⟨known,?_,by simpa using live,changed,moves,rfl⟩
    unfold existingEventDisposition at judged
    split at judged
    · cases judged
    split at judged
    · rename_i absent
      exact absent
    · split at judged <;> cases judged

theorem repeated_goal_stays (repeated : state.repeats sha256 event = true) (ok : reduceGoalWorkflow sha256 state event = .ok next) :
    next = state := by
  rcases reduceGoalWorkflow_ok ok with ⟨_,same⟩ | ⟨new,_⟩
  · exact same
  · cases repeated.symm.trans new

theorem terminal_stays (terminal : state.status.terminal = true) (ok : reduceGoalWorkflow sha256 state event = .ok next) :
    next = state := by
  rcases reduceGoalWorkflow_ok ok with ⟨_,same⟩ | ⟨_,_,live,_⟩
  · exact same
  · cases terminal.symm.trans live

theorem terminal_replay_stays (terminal : state.status.terminal = true)
    (replayed : replay (reduceGoalWorkflow sha256) state events = .ok last) : last = state := by
  induction events with
  | nil =>
    cases replayed
    rfl
  | cons event events ih =>
    obtain ⟨next,first,rest⟩ := replay_cons.mp replayed
    cases terminal_stays terminal first
    exact ih rest

/-- What an event changes of the progress, beside the events that are processed. -/
structure Moved (options : GoalWorkflowOptions) (history : GoalHistory) (event : GoalWorkflowEvent) (changed : GoalWorkflowState) :
    Prop where
  criteria : changed.criteria = options.criteria
  maxSteps : changed.maxSteps = options.maxSteps
  within : changed.currentStep ≤ options.maxSteps
  pending : changed.status ≠ .pending
  running : changed.status = .running → (history.length : Int) + 1 = changed.currentStep
  length : (history.length : Int) ≤ options.maxSteps
  succeeded : changed.status = .succeeded ↔ LastPassed options.criteria (history.events ++ [event])

section
variable (progress : Progress sha256 options history state)
include progress

theorem Progress.live_length (some_ : 1 ≤ options.maxSteps)
    (live : state.status.terminal = false) : (history.length : Int) ≤ options.maxSteps := by
  cases status : state.status with
  | pending =>
    have none := progress.pending status
    omega
  | running =>
    have length := progress.running status
    have within := progress.within
    omega
  | succeeded => simp [status,GoalWorkflowStatus.terminal] at live
  | failed => simp [status,GoalWorkflowStatus.terminal] at live
  | cancelled => simp [status,GoalWorkflowStatus.terminal] at live

theorem Progress.unfinished (live : state.status.terminal = false)
    (other : event.evaluation = none) : ¬ LastPassed options.criteria (history.events ++ [event]) := by
  rw [lastPassed_other other,← progress.succeeded]
  intro succeeded
  rw [succeeded] at live
  cases live

theorem Progress.evaluated (running : state.status = .running)
    {stepResults : OrderedMap String VerificationResult} (complete : state.assertCompleteResults results = .ok stepResults)
    (evaluation : event.evaluation = some results) : Moved options history event (state.evaluate results stepResults) := by
  have within := progress.within
  have length := progress.running running
  have same := progress.maxSteps
  have passes := allRequiredPassed_iff state.latestResults complete
  rw [progress.criteria,← @lastPassed_evaluation options.criteria event history.events results evaluation] at passes
  unfold evaluate
  dsimp only
  rw [progress.criteria]
  split
  · rename_i passed
    exact ⟨rfl,same,within,by simp,by simp,by omega,by simpa using passes.mp passed⟩
  rename_i unpassed
  have failed := mt passes.mpr unpassed
  split
  · exact ⟨rfl,same,within,by simp,by simp,by omega,by simpa using failed⟩
  split
  · exact ⟨rfl,same,within,by simp,by simp,by omega,by simpa using failed⟩
  · refine ⟨rfl,same,?_,by simp [running],?_,by omega,by simpa [running] using failed⟩
    · dsimp only
      omega
    · intro _
      dsimp only
      omega

theorem Progress.moves (some_ : 1 ≤ options.maxSteps)
    (live : state.status.terminal = false) (moved : state.transition event.type = .ok changed) :
    Moved options history event changed := by
  have length := progress.live_length some_ live
  have within := progress.within
  cases type : event.type with
  | start =>
    have unfinished := @Progress.unfinished sha256 options history state event progress live (by rw [GoalWorkflowEvent.evaluation,type])
    rw [type,transition] at moved
    split at moved
    · cases moved
    rename_i pending
    cases moved
    have none := progress.pending (not_not.mp pending)
    exact ⟨progress.criteria,progress.maxSteps,some_,by simp,by simp [none],length,by simpa using unfinished⟩
  | cancel reason =>
    have unfinished := @Progress.unfinished sha256 options history state event progress live (by rw [GoalWorkflowEvent.evaluation,type])
    rw [type,transition] at moved
    cases moved
    exact ⟨progress.criteria,progress.maxSteps,within,by simp,by simp,length,by simpa using unfinished⟩
  | crash reason =>
    have unfinished := @Progress.unfinished sha256 options history state event progress live (by rw [GoalWorkflowEvent.evaluation,type])
    rw [type,transition] at moved
    cases moved
    exact ⟨progress.criteria,progress.maxSteps,within,by simp,by simp,length,by simpa using unfinished⟩
  | stepEvaluated step results =>
    rw [type,transition] at moved
    split at moved
    · cases moved
    rename_i running
    split at moved
    · cases moved
    obtain ⟨stepResults,complete,same⟩ := bind_ok.mp moved
    cases same
    exact progress.evaluated (not_not.mp running) complete (by rw [GoalWorkflowEvent.evaluation,type])

end

theorem recordEvent_few (few : state.processedEventIds.length < MAX_PROCESSED_EVENTS) (id fingerprint : String) :
    state.recordEvent id fingerprint changed = {changed with
      processedEventIds := state.processedEventIds ++ [id]
      processedEventFingerprints := (state.processedEventFingerprints.set id fingerprint).filter
        fun other _ => (state.processedEventIds ++ [id]).contains other} := by
  have room : (state.processedEventIds ++ [id]).length - MAX_PROCESSED_EVENTS = 0 := by
    rw [List.length_append,List.length_singleton]
    exact Nat.sub_eq_zero_of_le few
  unfold recordEvent
  dsimp only
  rw [room,List.drop_zero]

theorem recorded_prints (ids : state.processedEventIds = history.events.map GoalWorkflowEvent.id)
    (prints : ∀ id fingerprint, state.processedEventFingerprints.get? id = some fingerprint ↔
      ∃ event ∈ history.events, event.id = id ∧ goalEventFingerprint sha256 event = fingerprint)
    (absent : state.processedEventFingerprints.get? event.id = none) (id fingerprint : String) :
    ((state.processedEventFingerprints.set event.id (goalEventFingerprint sha256 event)).filter
        fun other _ => (state.processedEventIds ++ [event.id]).contains other).get? id = some fingerprint ↔
      ∃ other ∈ history.events ++ [event], other.id = id ∧ goalEventFingerprint sha256 other = fingerprint := by
  rw [OrderedMap.get?_filter,OrderedMap.get?_set]
  by_cases here : id = event.id
  · subst id
    have first : ¬ ∃ other ∈ history.events, other.id = event.id ∧ goalEventFingerprint sha256 other = fingerprint := by
      rw [← prints,absent]
      simp
    simp only [if_true,List.mem_append,List.mem_singleton,or_and_right,exists_or]
    simp [first]
  · rw [if_neg here]
    have kept : (state.processedEventFingerprints.get? id).filter (fun _ => (state.processedEventIds ++ [event.id]).contains id) =
        state.processedEventFingerprints.get? id := by
      cases known : state.processedEventFingerprints.get? id with
      | none => rfl
      | some found =>
        obtain ⟨other,inside,same,_⟩ := (prints id found).mp known
        have among : id ∈ state.processedEventIds := by
          rw [ids]
          exact List.mem_map.mpr ⟨other,inside,same⟩
        simp [Option.filter,among]
    rw [kept,prints]
    simp [Ne.symm here]

theorem Progress.step (progress : Progress sha256 options history state) (bounds : 1 ≤ options.maxSteps ∧ options.maxSteps ≤ 3)
    (new : state.repeats sha256 event = false) (reduced : reduceGoalWorkflow sha256 state event = .ok next) :
    Progress sha256 options (history ++ [(state,event)]) next := by
  rcases reduceGoalWorkflow_ok reduced with ⟨repeated,_⟩ | ⟨_,absent,live,changed,moves,rfl⟩
  · cases new.symm.trans repeated
  have moved := progress.moves bounds.1 live moves
  have length := moved.length
  have few : state.processedEventIds.length < MAX_PROCESSED_EVENTS := by
    rw [progress.ids,List.length_map,GoalHistory.events,List.length_map]
    exact lt_of_le_of_lt (show history.length ≤ 3 by omega) (by decide)
  rw [recordEvent_few few]
  refine ⟨moved.criteria,moved.maxSteps,moved.within,fun pending => absurd pending moved.pending,?_,?_,?_,?_,?_⟩
  · intro running
    have steps := moved.running running
    simpa using steps
  · simp only [List.length_append,List.length_singleton]
    omega
  · rw [GoalHistory.events_append]
    exact moved.succeeded
  · rw [GoalHistory.events_append,List.map_append,← progress.ids]
    rfl
  · rw [GoalHistory.events_append]
    exact recorded_prints progress.ids progress.prints absent

theorem createGoalWorkflow_ok (ok : createGoalWorkflow options = .ok state) :
    (1 ≤ options.maxSteps ∧ options.maxSteps ≤ 3) ∧ Progress sha256 options [] state := by
  unfold createGoalWorkflow at ok
  split at ok
  · cases ok
  rename_i bounds
  obtain ⟨criteria,checked,same⟩ := bind_ok.mp ok
  unfold cloneAndFreezeCriteria at checked
  split at checked
  · cases checked
  obtain ⟨_,_,kept⟩ := bind_ok.mp checked
  cases kept
  cases same
  refine ⟨by omega,rfl,rfl,?_,by simp,by simp,?_,?_,rfl,?_⟩
  · dsimp only
    omega
  · simp only [List.length_nil]
    omega
  · simp [LastPassed,lastEvaluation,GoalHistory.events]
  · simp [GoalHistory.events]

theorem Progress.replayed (progress : Progress sha256 options history state) (bounds : 1 ≤ options.maxSteps ∧ options.maxSteps ≤ 3)
    (replayed : replay (reduceGoalWorkflow sha256) state events = .ok last) :
    Progress sha256 options (history ++ acceptedGoalEvents sha256 state events) last :=
  fresh_preserved (Progress sha256 options) repeated_goal_stays (fun progress new reduced => progress.step bounds new reduced)
    progress replayed

/-! ### Duplicates -/

theorem repeats_iff (reduced : reduceGoalWorkflow sha256 state event = .ok next) : state.repeats sha256 event = true ↔
    state.processedEventFingerprints.get? event.id = some (goalEventFingerprint sha256 event) := by
  obtain ⟨duplicate,judged,_⟩ := bind_ok.mp reduced
  unfold repeats
  rw [judged]
  unfold existingEventDisposition at judged
  split at judged
  · cases judged
  split at judged
  · rename_i absent
    cases judged
    simp [absent]
  · rename_i existing known
    split at judged
    · cases judged
    · rename_i same
      cases judged
      simp [known,not_not.mp same]

theorem accepted_stands (progress : Progress sha256 options history state) (bounds : 1 ≤ options.maxSteps ∧ options.maxSteps ≤ 3)
    (replayed : replay (reduceGoalWorkflow sha256) state events = .ok last) (inside : event ∈ events) :
    CameBefore sha256 (GoalHistory.events (history ++ acceptedGoalEvents sha256 state events)) event := by
  induction events generalizing history state with
  | nil => cases inside
  | cons first events ih =>
    obtain ⟨next,reduced,rest⟩ := replay_cons.mp replayed
    unfold acceptedGoalEvents
    cases known : state.repeats sha256 first with
    | true =>
      rw [fresh_duplicate known reduced]
      cases repeated_goal_stays known reduced
      rcases List.mem_cons.mp inside with rfl | later
      · obtain ⟨other,member,same⟩ := (progress.prints _ _).mp ((repeats_iff reduced).mp known)
        refine ⟨other,?_,same⟩
        rw [GoalHistory.events,List.map_append]
        exact List.mem_append_left _ member
      · exact ih progress rest later
    | false =>
      rw [fresh_new known reduced]
      rcases List.mem_cons.mp inside with rfl | later
      · exact ⟨event,by simp [GoalHistory.events],rfl,rfl⟩
      · have there := ih (progress.step bounds known reduced) rest later
        rwa [List.append_assoc] at there

theorem repeats_iff_cameBefore (progress : Progress sha256 options [] state)
    (bounds : 1 ≤ options.maxSteps ∧ options.maxSteps ≤ 3) (replayed : replay (reduceGoalWorkflow sha256) state events = .ok last)
    (reduced : reduceGoalWorkflow sha256 last event = .ok next) :
    last.repeats sha256 event = true ↔ CameBefore sha256 events event := by
  rw [repeats_iff reduced,(progress.replayed bounds replayed).prints]
  constructor
  · rintro ⟨other,inside,same⟩
    exact ⟨other,fresh_sublist.subset inside,same⟩
  · rintro ⟨earlier,inside,id,fingerprint⟩
    obtain ⟨other,member,sameId,sameFingerprint⟩ := accepted_stands progress bounds replayed inside
    exact ⟨other,member,sameId.trans id,sameFingerprint.trans fingerprint⟩

end

/-- What holds of any goal and any events that it takes: every state on the way is within the steps, and the first that
is at an end is the last; the events that came before are the duplicates, and of the others there are few; the goal has
succeeded if and only if the last evaluation among them has all required criteria as passed; and they alone make
the same state. -/
theorem goal_workflow_safe {sha256 : String → String} {events : List GoalWorkflowEvent} {options : GoalWorkflowOptions}
    {state : GoalWorkflowState} (replayed : replayGoalWorkflow sha256 events options = .ok state) :
    ∃ start, createGoalWorkflow options = .ok start ∧
      (∀ early late, events = early ++ late → ∃ middle, replayGoalWorkflow sha256 early options = .ok middle ∧
        middle.currentStep ≤ options.maxSteps ∧ (middle.status.terminal = true → state = middle) ∧
        ∀ event rest, late = event::rest → (middle.repeats sha256 event = true ↔ CameBefore sha256 early event)) ∧
      ((acceptedGoalEvents sha256 start events).length : Int) ≤ options.maxSteps + 1 ∧
      (state.status = .succeeded ↔ LastPassed options.criteria (GoalHistory.events (acceptedGoalEvents sha256 start events))) ∧
      replayGoalWorkflow sha256 (GoalHistory.events (acceptedGoalEvents sha256 start events)) options = .ok state := by
  obtain ⟨start,created,replayed⟩ := bind_ok.mp replayed
  obtain ⟨bounds,progress⟩ := @createGoalWorkflow_ok sha256 options start created
  have whole := progress.replayed bounds replayed
  rw [List.nil_append] at whole
  refine ⟨start,created,?_,whole.length,whole.succeeded,?_⟩
  · rintro early late rfl
    obtain ⟨middle,first,rest⟩ := replay_append.mp replayed
    refine ⟨middle,bind_ok.mpr ⟨start,created,first⟩,(progress.replayed bounds first).within,?_,?_⟩
    · exact fun terminal => terminal_replay_stays terminal rest
    · rintro event later rfl
      obtain ⟨_,reduced,_⟩ := replay_cons.mp rest
      exact repeats_iff_cameBefore progress bounds first reduced
  · exact bind_ok.mpr ⟨start,created,replay_fresh repeated_goal_stays replayed⟩

/-! ### An evaluation that comes again after the end -/

def failedOnce : GoalWorkflowEvent :=
  ⟨"evaluation-1",.stepEvaluated 1 [⟨"tests",.failed none "failed" "Tests failed" "tests-failed"⟩]⟩

def goalEvents : List GoalWorkflowEvent :=
  [⟨"start",.start⟩,failedOnce,failedOnce,⟨"evaluation-2",.stepEvaluated 2 [⟨"tests",.passed "command" "Tests passed" .null⟩]⟩]

def goalOptions : GoalWorkflowOptions :=
  {criteria := [{id := "tests",description := "The tests pass",command := "npm test"}],maxSteps := 2}

theorem goal_succeeds : (replayGoalWorkflow (fun text => text) goalEvents goalOptions).toOption.map
    GoalWorkflowState.status = some .succeeded := by decide +kernel

/-- A goal whose first step failed, and was reported twice, succeeds in three events. -/
theorem second_step_safe : ∃ state start, replayGoalWorkflow (fun text => text) goalEvents goalOptions = .ok state ∧
    state.status = .succeeded ∧ createGoalWorkflow goalOptions = .ok start ∧
    ((acceptedGoalEvents (fun text => text) start goalEvents).length : Int) ≤ goalOptions.maxSteps + 1 ∧
    LastPassed goalOptions.criteria (GoalHistory.events (acceptedGoalEvents (fun text => text) start goalEvents)) := by
  obtain ⟨state,replayed,succeeded⟩ := ok_of_map goal_succeeds
  obtain ⟨start,created,_,few,passed,_⟩ := goal_workflow_safe replayed
  exact ⟨state,start,replayed,succeeded,created,few,passed.mp succeeded⟩

theorem late_goal_succeeds : (replayGoalWorkflow (fun text => text) (goalEvents ++ [failedOnce]) goalOptions).toOption.map
    GoalWorkflowState.status = some .succeeded := by decide +kernel

/-- The failed evaluation, delivered again after the end, is the last of the sequence. -/
theorem late_evaluation_unpassed : ¬ ∀ (sha256 : String → String) (events : List GoalWorkflowEvent) (options : GoalWorkflowOptions)
    (state : GoalWorkflowState), replayGoalWorkflow sha256 events options = .ok state →
      (state.status = .succeeded ↔ LastPassed options.criteria events) := by
  intro claim
  obtain ⟨state,replayed,succeeded⟩ := ok_of_map late_goal_succeeds
  have passed := (claim _ _ _ _ replayed).mp succeeded
  rw [lastPassed_evaluation rfl] at passed
  obtain ⟨result,inside,_,bad⟩ := passed _ (List.mem_singleton.mpr rfl) (by decide)
  rw [List.mem_singleton.mp inside] at bad
  cases bad

end AgentOS.Reducers
