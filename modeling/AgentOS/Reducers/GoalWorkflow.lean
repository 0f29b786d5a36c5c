import AgentOS.ControlPlane.CreateRun
import AgentOS.Reducers.Events
import AgentOS.Library.Replay
import Mathlib.Data.List.Dedup

/-! The reducer of a goal: steps that are evaluated against the goal's criteria, until all that are required
pass, the same failure keeps coming back or the steps are used up. -/
namespace AgentOS.Reducers
open Library ControlPlane Workflow

def MAX_PROCESSED_EVENTS : Nat := 256

inductive GoalWorkflowStatus where
  | pending
  | running
  | succeeded
  | failed
  | cancelled
  deriving DecidableEq

def GoalWorkflowStatus.text : GoalWorkflowStatus → String
  | .pending => "pending"
  | .running => "running"
  | .succeeded => "succeeded"
  | .failed => "failed"
  | .cancelled => "cancelled"

def GoalWorkflowStatus.terminal : GoalWorkflowStatus → Bool
  | .succeeded => true
  | .failed => true
  | .cancelled => true
  | _ => false

inductive GoalFailureReason where
  | stuck
  | stepLimit
  | crashed

inductive VerificationOutcome where
  | passed (verifierId message : String) (attestation : Json)
  | failed (verifierId : Option String) (code message fingerprint : String)

structure VerificationResult where
  criterionId : String
  outcome : VerificationOutcome

namespace VerificationResult

section
variable (result : VerificationResult)

def passed : Bool :=
  match result.outcome with
  | .passed .. => true
  | .failed .. => false

def failureFingerprint : Option String :=
  match result.outcome with
  | .passed .. => none
  | .failed _ _ _ fingerprint => some fingerprint

def json : Json :=
  match result.outcome with
  | .passed verifierId message attestation => .obj [("status",.str "passed"),("criterionId",.str result.criterionId),
      ("verifierId",.str verifierId),("message",.str message),("attestation",attestation)]
  | .failed verifierId code message fingerprint => .obj ([("status",.str "failed"),("criterionId",.str result.criterionId)] ++
      (verifierId.map fun id => ("verifierId",Json.str id)).toList ++
      [("code",.str code),("message",.str message),("fingerprint",.str fingerprint)])

end

end VerificationResult

inductive GoalWorkflowEventType where
  | start
  | stepEvaluated (step : Int) (results : List VerificationResult)
  | cancel (reason : Option String)
  | crash (reason : Option String)

structure GoalWorkflowEvent where
  id : String
  type : GoalWorkflowEventType

namespace GoalWorkflowEventType

def text : GoalWorkflowEventType → String
  | .start => "start"
  | .stepEvaluated .. => "step_evaluated"
  | .cancel _ => "cancel"
  | .crash _ => "crash"

def fields : GoalWorkflowEventType → List (String × Json)
  | .start => []
  | .stepEvaluated step results => [("step",.num step),("results",.arr (results.map VerificationResult.json))]
  | .cancel reason => reasonField reason
  | .crash reason => reasonField reason

end GoalWorkflowEventType

def GoalWorkflowEvent.json (event : GoalWorkflowEvent) : Json :=
  .obj ([("id",.str event.id),("type",.str event.type.text)] ++ event.type.fields)

structure GoalWorkflowOptions where
  criteria : List CommandCriterion
  maxSteps : Int

structure GoalWorkflowState where
  status : GoalWorkflowStatus
  criteria : List CommandCriterion
  maxSteps : Int
  currentStep : Int
  latestResults : OrderedMap String VerificationResult
  failureFingerprints : List String
  failureReason : Option GoalFailureReason := none
  processedEventIds : List String
  processedEventFingerprints : OrderedMap String String

/-! ### The goal -/

def complete (criterion : CommandCriterion) : Bool :=
  trim criterion.id ≠ "" && trim criterion.description ≠ "" && trim criterion.command ≠ ""

/-- Checks each criterion, with the identifiers that the ones before it have. -/
def checkCriteria : List String → List CommandCriterion → Except String Unit
  | _, [] => .ok ()
  | ids, criterion::criteria =>
    if complete criterion = false then .error "Goal command criteria must be complete"
    else if ids.contains criterion.id then .error ("Duplicate goal criterion id: " ++ criterion.id)
    else checkCriteria (ids ++ [criterion.id]) criteria

def cloneAndFreezeCriteria (criteria : List CommandCriterion) : Except String (List CommandCriterion) :=
  if criteria = [] then .error "A goal requires at least one criterion"
  else checkCriteria [] criteria >>= fun _ => .ok criteria

def createGoalWorkflow (options : GoalWorkflowOptions) : Except String GoalWorkflowState :=
  if isSafeInteger options.maxSteps = false ∨ options.maxSteps < 1 ∨ options.maxSteps > 3 then
    .error "Goal maxSteps must be an integer from 1 through 3"
  else cloneAndFreezeCriteria options.criteria >>= fun criteria =>
    .ok {status := .pending,criteria := criteria,maxSteps := options.maxSteps,currentStep := 0,latestResults := .empty
         failureFingerprints := [],processedEventIds := [],processedEventFingerprints := .empty}

/-! ### Failures that keep coming back -/

def STUCK_THRESHOLD : Nat := 3

def detectStuck (failureFingerprints : List String) : Bool := count .empty failureFingerprints
where
  count : OrderedMap String Nat → List String → Bool
    | _, [] => false
    | counts, fingerprint::rest =>
      let occurrences := (counts.get? fingerprint).getD 0 + 1
      if occurrences ≥ STUCK_THRESHOLD then true else count (counts.set fingerprint occurrences) rest

namespace GoalWorkflowState

/-! ### Evaluations -/

/-- Assigns to the record. The prototype's name is no key: the assignment replaces the prototype. -/
def assign (byCriterion : OrderedMap String VerificationResult) (result : VerificationResult) : OrderedMap String VerificationResult :=
  if result.criterionId = "__proto__" then byCriterion else byCriterion.set result.criterionId result

def collectResults (expectedIds : List String) :
    OrderedMap String VerificationResult → List VerificationResult → Except String (OrderedMap String VerificationResult)
  | byCriterion, [] => .ok byCriterion
  | byCriterion, result::results =>
    if expectedIds.contains result.criterionId = false then .error ("Unknown goal criterion result: " ++ result.criterionId)
    else if (byCriterion.get? result.criterionId).isSome then .error ("Duplicate goal criterion result: " ++ result.criterionId)
    else collectResults expectedIds (assign byCriterion result) results

def incomplete : String := "A step must report exactly one result for every criterion"

def assertCompleteResults (state : GoalWorkflowState) (results : List VerificationResult) :
    Except String (OrderedMap String VerificationResult) :=
  if results.length ≠ state.criteria.length then .error incomplete
  else
    let expectedIds := (state.criteria.map CommandCriterion.id).dedup
    collectResults expectedIds .empty results >>= fun byCriterion =>
    if byCriterion.entries.length ≠ expectedIds.length then .error incomplete else .ok byCriterion

def allRequiredPassed (criteria : List CommandCriterion) (latestResults : OrderedMap String VerificationResult) : Bool :=
  (criteria.filter fun criterion => criterion.required ≠ some false).all fun criterion =>
    ((latestResults.get? criterion.id).map VerificationResult.passed).getD false

section
variable (state : GoalWorkflowState)

def evaluate (results : List VerificationResult) (stepResults : OrderedMap String VerificationResult) : GoalWorkflowState :=
  let latestResults := state.latestResults.spread stepResults
  if allRequiredPassed state.criteria latestResults then {state with status := .succeeded,latestResults := latestResults}
  else
    let failureFingerprints := state.failureFingerprints ++ results.filterMap VerificationResult.failureFingerprint
    if detectStuck failureFingerprints then
      {state with status := .failed,latestResults := latestResults,failureFingerprints := failureFingerprints
                  failureReason := some .stuck}
    else if state.currentStep ≥ state.maxSteps then
      {state with status := .failed,latestResults := latestResults,failureFingerprints := failureFingerprints
                  failureReason := some .stepLimit}
    else {state with latestResults := latestResults,failureFingerprints := failureFingerprints,currentStep := state.currentStep + 1}

/-! ### Events -/

def transition (type : GoalWorkflowEventType) : Except String GoalWorkflowState :=
  match type with
  | .start =>
    if state.status ≠ .pending then .error ("Cannot start goal from " ++ state.status.text)
    else .ok {state with status := .running,currentStep := 1}
  | .cancel _ => .ok {state with status := .cancelled}
  | .crash _ => .ok {state with status := .failed,failureReason := some .crashed}
  | .stepEvaluated step results =>
    if state.status ≠ .running then .error ("Cannot evaluate a goal step from " ++ state.status.text)
    else if step ≠ state.currentStep then
      .error ("Expected goal step " ++ toString state.currentStep ++ ", received " ++ toString step)
    else state.assertCompleteResults results >>= fun stepResults => .ok (state.evaluate results stepResults)

def existingEventDisposition (id fingerprint : String) : Except String Bool :=
  if trim id = "" then .error "Goal workflow event id must not be empty"
  else match state.processedEventFingerprints.get? id with
    | none => .ok false
    | some existing =>
      if existing ≠ fingerprint then .error ("Goal workflow event " ++ id ++ " was replayed with different content") else .ok true

def recordEvent (id fingerprint : String) (changed : GoalWorkflowState) : GoalWorkflowState :=
  let ids := state.processedEventIds ++ [id]
  let retainedIds := ids.drop (ids.length - MAX_PROCESSED_EVENTS)
  {changed with
    processedEventIds := retainedIds
    processedEventFingerprints := (state.processedEventFingerprints.set id fingerprint).filter fun id _ => retainedIds.contains id}

end

end GoalWorkflowState

section
variable (sha256 : String → String)

def goalEventFingerprint (event : GoalWorkflowEvent) : String := sha256 (canonicalJsonValue event.json)

def reduceGoalWorkflow (state : GoalWorkflowState) (event : GoalWorkflowEvent) : Except String GoalWorkflowState :=
  let fingerprint := goalEventFingerprint sha256 event
  state.existingEventDisposition event.id fingerprint >>= fun duplicate =>
  if duplicate then .ok state
  else if state.status.terminal then .error ("Cannot transition terminal goal state " ++ state.status.text)
  else state.transition event.type >>= fun changed => .ok (state.recordEvent event.id fingerprint changed)

def replayGoalWorkflow (events : List GoalWorkflowEvent) (options : GoalWorkflowOptions) : Except String GoalWorkflowState :=
  createGoalWorkflow options >>= fun state => replay (reduceGoalWorkflow sha256) state events

end

end AgentOS.Reducers
