import AgentOS.Checkpoint.Store
import AgentOS.Library.Machines
import AgentOS.Library.Serial

/-! The local executor's dispatcher: executions wait in one chain of promises, are handed to the handler one after the other,
and are stopped through their abort signals. -/
namespace AgentOS.LocalDirect
open Library Checkpoint

inductive LocalDirectExecutionStatus where
  | executing
  | completed
  | failed
  deriving DecidableEq

structure LocalDirectExecution where
  runId : String
  generation : Int
  /-- Whether its abort signal was tripped. -/
  aborted : Bool := false
  startedAt : String
  status : LocalDirectExecutionStatus := .executing
  completedAt : Option String := none
  error : Option String := none
  attempts : Nat := 0

inductive Turn where
  | queued
  /-- It awaits the handler. -/
  | handling (attempt : Nat)
  /-- It awaits the delay before the retry, with the message of the failure. -/
  | delaying (message : String)
  | settled
  deriving DecidableEq

structure Scheduled where
  ref : String
  execution : LocalDirectExecution
  turn : Turn := .queued

/-- `executions` names each execution by its place in the chain, `tick` counts the readings of the clock. -/
structure Dispatcher where
  executions : OrderedMap String Nat := .empty
  chain : List Scheduled := []
  closed : Bool := false
  tick : Nat := 0

structure LocalDirectDispatcherOptions where
  clock : Nat → String
  deploymentVersion : String := "development-unversioned"

inductive Thrown where
  | error (name message : String) (transientClass : Bool)
  | text (message : String)
  | other

inductive DispatchEvent where
  | startFeature (runId : String) (resumeGeneration : Int)
  | startGoal (runId : String)
  | cancel (externalRunRef : String)
  | close
  /-- The promise that a callback waits for has settled, and the callback runs. -/
  | begins (place : Nat)
  /-- The handler's promise settles. -/
  | handled (place : Nat) (outcome : Except Thrown Unit)
  /-- The delay is over: its time, or an abort. -/
  | delayed (place : Nat)

inductive Reaction where
  | reference (externalRunRef : String)
  | refused (message : String)
  | called (place : Nat) (runId deploymentVersion triggerRunId : String)
  | silent

def executionReference (runId : String) (generation : Int) : Except String String :=
  if isNonNegativeSafeInteger generation then .ok ("local-direct:" ++ runId ++ ":" ++ toString generation)
  else .error "resume generation must be a non-negative integer"

def MAX_ERROR_LENGTH : Nat := 500

def errorMessage (thrown : Thrown) : String :=
  let message := match thrown with
    | .error _ message _ => message
    | .text message => message
    | .other => "unknown local-direct execution failure"
  Store.slice (if message = "" then "unknown local-direct execution failure" else message) MAX_ERROR_LENGTH

def isTransient : Thrown → Bool
  | .error name _ transientClass => transientClass || name = "FeatureWorkflowTaskTransientError"
  | _ => false

def Scheduled.abort (scheduled : Scheduled) : Scheduled :=
  {scheduled with execution := {scheduled.execution with aborted := true}}

def Scheduled.fail (message : String) (at_ : String) (scheduled : Scheduled) : Scheduled :=
  {scheduled with
    execution := {scheduled.execution with status := .failed,error := some message,completedAt := some at_}
    turn := .settled}

def Scheduled.complete (at_ : String) (scheduled : Scheduled) : Scheduled :=
  {scheduled with
    execution := {scheduled.execution with status := .completed,completedAt := some at_}
    turn := .settled}

def Scheduled.attempt (number : Nat) (scheduled : Scheduled) : Scheduled :=
  {scheduled with
    execution := {scheduled.execution with attempts := scheduled.execution.attempts + 1}
    turn := .handling number}

def Scheduled.delay (message : String) (scheduled : Scheduled) : Scheduled := {scheduled with turn := .delaying message}

def reached (chain : List Scheduled) : Nat → Bool
  | 0 => true
  | place+1 => chain[place]?.any fun scheduled => scheduled.turn = .settled

section
variable (options : LocalDirectDispatcherOptions)

section
variable (dispatcher : Dispatcher)

def ending (place : Nat) (ended : String → Scheduled → Scheduled) : Reaction × Dispatcher :=
  (.silent,{dispatcher with chain := dispatcher.chain.modify place (ended (options.clock dispatcher.tick))
                            tick := dispatcher.tick + 1})

def attempting (place : Nat) (scheduled : Scheduled) (number : Nat) : Reaction × Dispatcher :=
  (.called place scheduled.execution.runId options.deploymentVersion scheduled.ref,
    {dispatcher with chain := dispatcher.chain.modify place (Scheduled.attempt number)})

def schedule (runId : String) (generation : Int) (ref : String) : Reaction × Dispatcher :=
  (.reference ref,{dispatcher with
    executions := dispatcher.executions.set ref dispatcher.chain.length
    chain := dispatcher.chain ++ [{ref,execution := {runId,generation,startedAt := options.clock dispatcher.tick}}]
    tick := dispatcher.tick + 1})

def start (runId : String) (resumeGeneration : Int) : Reaction × Dispatcher :=
  if dispatcher.closed then (.refused ("local-direct dispatcher is closed; cannot start run " ++ runId),dispatcher)
  else match executionReference runId resumeGeneration with
    | .error message => (.refused message,dispatcher)
    | .ok ref =>
      if ((dispatcher.executions.get? ref).bind (dispatcher.chain[·]?)).any fun existing => existing.execution.status = .executing then
        (.reference ref,dispatcher)
      else schedule options dispatcher runId resumeGeneration ref

def cancel (externalRunRef : String) : Dispatcher :=
  match dispatcher.executions.get? externalRunRef with
  | some place => {dispatcher with chain := dispatcher.chain.modify place Scheduled.abort}
  | none => dispatcher

def close : Dispatcher :=
  {dispatcher with
    closed := true
    chain := dispatcher.chain.mapIdx fun place scheduled =>
      if place ∈ dispatcher.executions.values ∧ scheduled.execution.status = .executing then scheduled.abort else scheduled}

def begin (place : Nat) : Reaction × Dispatcher :=
  match dispatcher.chain[place]? with
  | none => (.silent,dispatcher)
  | some scheduled =>
    if scheduled.turn = .queued ∧ reached dispatcher.chain place then
      if scheduled.execution.aborted then
        ending options dispatcher place (Scheduled.fail "local-direct execution cancelled before it started")
      else attempting options dispatcher place scheduled 0
    else (.silent,dispatcher)

def handled (place : Nat) (outcome : Except Thrown Unit) : Reaction × Dispatcher :=
  match dispatcher.chain[place]? with
  | none => (.silent,dispatcher)
  | some scheduled => match scheduled.turn,outcome with
    | .handling _,.ok _ => ending options dispatcher place Scheduled.complete
    | .handling attempt,.error thrown =>
      if attempt = 0 ∧ isTransient thrown then
        (.silent,{dispatcher with chain := dispatcher.chain.modify place (Scheduled.delay (errorMessage thrown))})
      else ending options dispatcher place (Scheduled.fail (errorMessage thrown))
    | _,_ => (.silent,dispatcher)

def delayed (place : Nat) : Reaction × Dispatcher :=
  match dispatcher.chain[place]? with
  | none => (.silent,dispatcher)
  | some scheduled => match scheduled.turn with
    | .delaying message =>
      if scheduled.execution.aborted then ending options dispatcher place (Scheduled.fail message)
      else attempting options dispatcher place scheduled 1
    | _ => (.silent,dispatcher)

def dispatch : DispatchEvent → Reaction × Dispatcher
  | .startFeature runId resumeGeneration => start options dispatcher runId resumeGeneration
  | .startGoal runId => (.refused ("goal runs are not supported on the local-direct executor (run " ++ runId ++
      "); use the Trigger executor for goal pipelines"),dispatcher)
  | .cancel externalRunRef => (.silent,cancel dispatcher externalRunRef)
  | .close => (.silent,close dispatcher)
  | .begins place => begin options dispatcher place
  | .handled place outcome => handled options dispatcher place outcome
  | .delayed place => delayed options dispatcher place

end

end
end AgentOS.LocalDirect
