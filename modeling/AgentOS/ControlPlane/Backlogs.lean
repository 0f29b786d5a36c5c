import AgentOS.ControlPlane.CreateRun

/-! Backlogs: lists of features that are built one after the other, each on the
commit the one before it published. A pass settles the items whose runs ended,
decides what to do next and does it. -/
namespace AgentOS.ControlPlane
open Library AgentOS.Action

/-! ### The decision -/

structure BacklogItemRun where
  runId : String
  status : RunStatus
  publishedBranch : Option String := none
  publishedCommitSha : Option String := none

inductive BacklogAdvance where
  | idle
  | dispatch (item : BacklogItem) (baseRunId : Option String)
  | pause (reason : String)
  | complete
  deriving DecidableEq

section
variable (runs : OrderedMap String BacklogItemRun)

def awaitRun (runId : String) : BacklogAdvance :=
  match runs.get? runId with
  | none => .pause "item_run_missing"
  | some run => match run.status with
    | .pending | .running | .waiting => .idle
    | .failed => .pause "item_run_failed"
    | .cancelled => .pause "item_run_cancelled"
    | .succeeded => .idle

def startItem (item : BacklogItem) (previousRunId : Option String) : BacklogAdvance :=
  match previousRunId with
  | none => .dispatch item none
  | some previousRunId => match runs.get? previousRunId with
    | none => .pause "base_run_missing"
    | some base =>
      if base.publishedBranch.isNone ∨ base.publishedCommitSha.isNone then .pause "base_run_unpublished"
      else .dispatch item (some previousRunId)

def standing (item : BacklogItem) (previousRunId : Option String) : BacklogAdvance :=
  match item.runId with
  | some runId => awaitRun runs runId
  | none => if item.status = .failed then .pause "item_failed" else startItem runs item previousRunId

def firstStanding : Option String → List BacklogItem → BacklogAdvance
  | _,[] => .complete
  | previousRunId,item::rest =>
    if item.status = .skipped then firstStanding previousRunId rest
    else if item.status = .succeeded then firstStanding (item.runId.or previousRunId) rest
    else standing runs item previousRunId

def byOrdinal (items : List BacklogItem) : List BacklogItem :=
  items.insertionSort fun left right => left.ordinal ≤ right.ordinal

def advanceBacklog (backlog : Backlog) (items : List BacklogItem) : BacklogAdvance :=
  if backlog.status ≠ .active then .idle
  else if byOrdinal items = [] then .idle
  else firstStanding runs none (byOrdinal items)

end

section
variable (env : Environment) (pages : Nat)

/-! ### Reading and settling -/

def itemPage : Nat := 100

def listItems (backlogId : String) : Action (List BacklogItem) :=
  readRepository env fun repository => repository.listBacklogItems backlogId itemPage

def itemRun (runId : String) (run : Run) : BacklogItemRun where
  runId := runId
  status := run.status
  publishedBranch := outputText run "publishedBranch"
  publishedCommitSha := outputText run "publishedCommitSha"

def readRuns : List BacklogItem → OrderedMap String BacklogItemRun → Action (OrderedMap String BacklogItemRun)
  | [],runs => pure runs
  | item::rest,runs => match item.runId with
    | none => readRuns rest runs
    | some runId => do
      match ← readRepository env fun repository => repository.getRun runId with
      | none => readRuns rest runs
      | some run => readRuns rest (runs.set runId (itemRun runId run))

def settledStatus : RunStatus → Option BacklogItemStatus
  | .succeeded => some .succeeded
  | .failed => some .failed
  | .cancelled => some .failed
  | _ => none

def settlement (runs : OrderedMap String BacklogItemRun) (item : BacklogItem) : Option BacklogItemStatus :=
  if item.status ≠ .running then none
  else (item.runId.bind runs.get?).bind fun run => settledStatus run.status

def settleItem (runs : OrderedMap String BacklogItemRun) (item : BacklogItem) : Action Unit :=
  match settlement runs item with
  | none => pure ()
  | some status => do
    let _ ← repository env fun at_ repository => .ok (repository.updateBacklogItem item.id [.running] status none at_)
    pure ()

def settleBacklogItems (runs : OrderedMap String BacklogItemRun) (items : List BacklogItem) : Action Unit :=
  items.forM (settleItem env runs)

variable (backlog : Backlog)

def decideBacklog : Action BacklogAdvance := do
  let items ← listItems env backlog.id
  let runs ← readRuns env items .empty
  settleBacklogItems env runs items
  let settled ← listItems env backlog.id
  pure (advanceBacklog runs backlog settled)

/-! ### Acting on the decision -/

def completeBacklog (id : String) : Action Unit := do
  let _ ← repository env fun at_ repository => .ok (repository.updateBacklogStatus id [.active] .completed none at_)
  pure ()

def pauseBacklog (id reason : String) : Action Unit := do
  let _ ← repository env fun at_ repository => .ok (repository.updateBacklogStatus id [.active] .paused (some reason) at_)
  pure ()

def itemKey (backlogId : String) (ordinal : Nat) : String := "backlog:" ++ backlogId ++ ":item:" ++ toString ordinal

def itemInput (item : BacklogItem) (revision : ConfigRevision) (baseRunId : Option String) : CreateRunInput where
  projectId := backlog.projectId
  title := item.title
  description := item.description
  provenance := revision.provenance
  baseRunId := baseRunId

def attachRun (itemId runId : String) : Action (Option BacklogItem) :=
  repository env fun at_ repository => .ok (repository.updateBacklogItem itemId [.pending] .running (some runId) at_)

/-- Another pass may have attached the run first; then there is nothing left to do. -/
def runItem (item : BacklogItem) (revision : ConfigRevision) (baseRunId : Option String) : Action Unit := do
  let run ← createFeatureRun env pages (itemKey backlog.id item.ordinal) (itemInput backlog item revision baseRunId)
  let _ ← attachRun env item.id run.id
  pure ()

def refusalOf : Fault → String
  | .service code _ _ => code
  | _ => "dispatch_failed"

def dispatchBacklogItem (item : BacklogItem) (baseRunId : Option String) : Action Unit := do
  match ← readRepository env fun repository => repository.getLatestConfigRevision backlog.projectId with
  | none => pauseBacklog env backlog.id "project_unconfigured"
  | some revision => do
    match ← (runItem env pages backlog item revision baseRunId).outcome with
    | .ok () => pure ()
    | .error fault => pauseBacklog env backlog.id (refusalOf fault)

def actOn : BacklogAdvance → Action Unit
  | .idle => pure ()
  | .complete => completeBacklog env backlog.id
  | .pause reason => pauseBacklog env backlog.id reason
  | .dispatch item baseRunId => dispatchBacklogItem env pages backlog item baseRunId

def advanceOne : Action Unit :=
  if backlog.status ≠ .active then pure ()
  else do
    let decision ← decideBacklog env backlog
    actOn env pages backlog decision

def advanceBacklogs (projectId : String) : Action Unit := do
  let backlogs ← readRepository env fun repository => repository.listBacklogs projectId 100
  backlogs.forM (advanceOne env pages)

/-! ### The operator's calls -/

structure BacklogInput where
  projectId : String
  title : String
  items : List (String × String)

def backlogId (idempotencyKey : String) : String := env.generateId "backlog" ("backlog:" ++ idempotencyKey)

def backlogItemId (backlogId : String) (ordinal : Nat) : String :=
  env.generateId "backlogItem" (backlogId ++ ":item:" ++ toString ordinal)

def newBacklog (id : String) (input : BacklogInput) (now : Instant) : Backlog where
  id := id
  projectId := input.projectId
  title := input.title
  status := .active
  createdAt := now
  updatedAt := now

def newItem (backlogId : String) (ordinal : Nat) (item : String × String) (now : Instant) : BacklogItem where
  id := backlogItemId env backlogId ordinal
  backlogId := backlogId
  ordinal := ordinal
  title := item.1
  description := item.2
  status := .pending
  createdAt := now
  updatedAt := now

def ensureBacklog (id : String) (input : BacklogInput) (now : Instant) : Action Backlog := do
  match ← readRepository env fun repository => repository.getBacklog id with
  | some existing => pure existing
  | none => repository env fun _ repository => repository.createBacklog (newBacklog id input now)

def createItem (item : BacklogItem) : Action Unit := do
  let _ ← repository env fun _ repository => repository.createBacklogItemIdempotently item
  pure ()

def createItems (backlogId : String) (now : Instant) : Nat → List (String × String) → Action Unit
  | _,[] => pure ()
  | ordinal,item::rest => do
    createItem env (newItem env backlogId ordinal item now)
    createItems backlogId now (ordinal + 1) rest

def backlogProjection : Action (Backlog × List BacklogItem) := do
  let items ← listItems env backlog.id
  pure (backlog,items)

def createBacklog (idempotencyKey : String) (input : BacklogInput) : Action (Backlog × List BacklogItem) := do
  requireProject env input.projectId
  let now ← Action.now env
  let backlog ← ensureBacklog env (backlogId env idempotencyKey) input now
  createItems env backlog.id now 1 input.items
  backlogProjection env backlog

inductive AskedStatus where
  | active
  | paused

def AskedStatus.status : AskedStatus → BacklogStatus
  | .active => .active
  | .paused => .paused

def AskedStatus.text : AskedStatus → String
  | .active => "active"
  | .paused => "paused"

/-- A completed backlog stays completed: only the other state becomes this one. -/
def AskedStatus.expected : AskedStatus → List BacklogStatus
  | .active => [.paused]
  | .paused => [.active]

def setBacklogStatus (id : String) (asked : AskedStatus) : Action (Backlog × List BacklogItem) := do
  match ← repository env fun at_ repository =>
      .ok (repository.updateBacklogStatus id asked.expected asked.status none at_) with
  | none => throw (.service "backlog_state_conflict"
      ("backlog is not in a state that can become " ++ asked.text) 409)
  | some updated => backlogProjection env updated

def deleteBacklog (id : String) : Action Unit := do
  let deleted ← repository env fun _ repository => .ok (repository.deleteBacklog id)
  if deleted then pure ()
  else throw (.service "backlog_not_deletable"
    "a backlog that has started work cannot be deleted; pause it instead" 409)

end
end AgentOS.ControlPlane
