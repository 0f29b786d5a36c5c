import AgentOS.Domain
import AgentOS.Library.OrderedMap
import Mathlib.Data.List.Sort

/-! The domain repository: runs, their events, the usage ledger and the
configuration snapshots. As in the checkpoint store, an operation throws and
changes nothing or answers with the next repository. -/
namespace AgentOS
open Library
open OrderedMap (get?_set)

inductive RunStatus where
  | pending
  | running
  | waiting
  | succeeded
  | failed
  | cancelled
  deriving DecidableEq

structure Run where
  id : String
  projectId : String
  pipeline : String
  status : RunStatus
  input : Option Json := none
  output : Option Json := none
  error : Option Json := none
  createdAt : Instant
  updatedAt : Instant
  completedAt : Option Instant := none
  cleanupAt : Option Instant := none
  configRevisionId : Option String := none
  stateVersion : Nat := 0
  deriving DecidableEq

/-- A partial update: a field left out keeps its value, and JSON null is a value. -/
structure RunUpdate where
  status : Option RunStatus := none
  output : Option Json := none
  error : Option Json := none
  updatedAt : Instant
  completedAt : Option Instant := none
  cleanupAt : Option Instant := none

structure EventDraft where
  runId : String
  eventId : String
  fingerprint : Fingerprint
  type : String
  payload : Json
  occurredAt : Instant
  deriving DecidableEq

structure Event extends EventDraft where
  sequence : Nat
  deriving DecidableEq

structure RuntimeUsage where
  inputTokens : Int := 0
  outputTokens : Int := 0
  cacheReadInputTokens : Option Int := none
  cacheCreation5mInputTokens : Option Int := none
  cacheCreation1hInputTokens : Option Int := none
  runtimeMs : Int := 0

structure UsageRecord where
  idempotencyId : String
  runId : String
  stepRunId : Option String := none
  model : String
  pricingVersion : String
  inputTokens : Int
  outputTokens : Int
  cacheReadInputTokens : Int
  cacheCreation5mInputTokens : Int
  cacheCreation1hInputTokens : Int
  runtimeMs : Int
  microdollars : Int
  recordedAt : Instant
  deriving DecidableEq

structure Project where
  id : String
  name : String
  createdAt : Instant
  updatedAt : Instant

structure Provenance where
  repositorySha : String := ""
  configDigest : String := ""
  modelDigest : String := ""
  promptDigest : String := ""
  environmentDigest : String := ""
  policyDigest : String := ""
  deriving DecidableEq

structure ConfigRevision where
  id : String
  projectId : String
  revision : Nat
  config : Json
  provenance : Provenance := {}
  createdAt : Instant

structure ConfigSnapshot where
  id : String
  runId : String
  configRevisionId : String := ""
  config : Json
  provenance : Provenance := {}
  createdAt : Instant

def SPEC_DOD_SCOPE : String := "feature-spec-and-dod"

inductive ApprovalStatus where
  | pending
  | consumed
  | expired
  deriving DecidableEq

structure Approval where
  id : String
  runId : String
  scope : String
  fingerprint : String
  status : ApprovalStatus
  createdAt : Instant
  expiresAt : Instant
  consumedAt : Option Instant := none

inductive ProgressStatus where
  | pending
  | satisfied
  | failed
  deriving DecidableEq

structure GoalProgress where
  id : String
  runId : String
  criterionId : Option String := none
  step : Nat
  status : ProgressStatus
  payload : Option Json := none
  recordedAt : Instant

structure GoalCriterion where
  id : String
  runId : String
  ordinal : Nat
  description : String
  definition : Json
  status : ProgressStatus
  createdAt : Instant
  deriving DecidableEq

inductive StepStatus where
  | pending
  | running
  | succeeded
  | failed
  deriving DecidableEq

structure StepRun where
  id : String
  runId : String
  stepKey : String
  attempt : Nat
  status : StepStatus
  input : Option Json := none
  output : Option Json := none
  error : Option Json := none
  externalSessionId : Option String := none
  createdAt : Instant
  updatedAt : Instant
  startedAt : Option Instant := none
  completedAt : Option Instant := none

inductive SessionStatus where
  | active
  | completed
  | cancelled
  | failed

structure ExternalSession where
  id : String
  runId : String
  stepRunId : Option String := none
  provider : String
  externalId : String
  status : SessionStatus
  state : Option Json := none
  createdAt : Instant
  updatedAt : Option Instant := none
  cleanupAt : Option Instant := none

structure ExternalSessionUpdate where
  status : Option SessionStatus := none
  updatedAt : Option Instant := none
  cleanupAt : Option Instant := none

inductive ArtifactCapabilityMethod where
  | get
  | put
  | list
  deriving DecidableEq

structure ArtifactCapabilityClaims where
  purpose : String
  audience : String
  methods : List ArtifactCapabilityMethod
  projectId : String
  runId : String
  stepId : String
  keyPrefix : Option String := none
  maxBytes : Int
  maxCalls : Int
  maxCumulativeBytes : Int
  notBefore : Instant
  expiresAt : Instant
  nonce : Fingerprint
  deriving DecidableEq

structure ArtifactCapabilityQuota where
  fingerprint : Fingerprint
  notBefore : Instant
  expiresAt : Instant
  calls : Int
  cumulativeBytes : Int

structure ArtifactCapabilityQuotaRequest where
  purpose : String
  audience : String
  nonce : Fingerprint
  fingerprint : Fingerprint
  bytes : Int
  maxCalls : Int
  maxCumulativeBytes : Int
  notBefore : Instant
  expiresAt : Instant
  now : Instant

inductive BacklogStatus where
  | active
  | paused
  | completed
  deriving DecidableEq

inductive BacklogItemStatus where
  | pending
  | running
  | succeeded
  | skipped
  | failed
  deriving DecidableEq

structure Backlog where
  id : String
  projectId : String
  title : String
  status : BacklogStatus
  pausedReason : Option String := none
  createdAt : Instant
  updatedAt : Instant
  deriving DecidableEq

structure BacklogItem where
  id : String
  backlogId : String
  ordinal : Nat
  title : String
  description : String
  status : BacklogItemStatus
  runId : Option String := none
  createdAt : Instant
  updatedAt : Instant
  deriving DecidableEq

structure Cursor where
  at_ : Instant
  id : String

def maxListLimit : Nat := 100

def boundedListLimit (requested : Nat) : Nat := min requested maxListLimit

/-- Whether one entry comes before another in a listing by time, then identifier. -/
def timestampedBefore (leftAt : Instant) (leftId : String) (rightAt : Instant) (rightId : String) : Bool :=
  leftAt < rightAt || (leftAt = rightAt && leftId < rightId)

def isAfterTimestamp (at_ : Instant) (id : String) (cursor : Option Cursor) : Bool :=
  match cursor with
  | none => true
  | some cursor => timestampedBefore cursor.at_ cursor.id at_ id

namespace Repository

theorem keyed_empty {ν : Type} (name : ν → String) (id : String) (value : ν) :
    (OrderedMap.empty : OrderedMap String ν).get? id = some value → name value = id := nofun

theorem filed_empty (key : String × String) (event : Event) : OrderedMap.empty.get? key = some event →
    (event.runId,event.eventId) = key := nofun

theorem numbered_empty (key : String × String) (event : Event) : OrderedMap.empty.get? key = some event →
    event.sequence < ((OrderedMap.empty : OrderedMap String Nat).get? event.runId).getD 1 := nofun

theorem distinct_empty (left right : String × String) (first second : Event) : OrderedMap.empty.get? left = some first →
    OrderedMap.empty.get? right = some second → first.runId = second.runId → first.sequence = second.sequence →
      left = right := nofun

end Repository

/-- The tables. Runs, events, backlogs and their items are stored under their own
keys, and the events of a run carry distinct numbers below the next one. -/
structure Repository where
  projects : OrderedMap String Project := .empty
  configRevisions : OrderedMap String ConfigRevision := .empty
  runs : OrderedMap String Run := .empty
  runIdempotencyFingerprints : OrderedMap String Fingerprint := .empty
  events : OrderedMap (String × String) Event := .empty
  nextEventSequence : OrderedMap String Nat := .empty
  usage : OrderedMap String UsageRecord := .empty
  configSnapshots : OrderedMap String ConfigSnapshot := .empty
  approvals : OrderedMap String Approval := .empty
  goalProgress : OrderedMap String GoalProgress := .empty
  goalCriteria : OrderedMap String GoalCriterion := .empty
  stepRuns : OrderedMap (String × String × Nat) StepRun := .empty
  externalSessions : OrderedMap String ExternalSession := .empty
  artifactCapabilityQuotas : OrderedMap (String × String × Fingerprint) ArtifactCapabilityQuota := .empty
  backlogs : OrderedMap String Backlog := .empty
  backlogItems : OrderedMap String BacklogItem := .empty
  backlogItemOrdinals : OrderedMap (String × Nat) String := .empty
  backlogItemRuns : OrderedMap String String := .empty
  keyed : ∀ id run, runs.get? id = some run → run.id = id := by
    first | exact Repository.keyed_empty _ | simp
  backlogKeyed : ∀ id backlog, backlogs.get? id = some backlog → backlog.id = id := by
    first | exact Repository.keyed_empty _ | simp
  itemKeyed : ∀ id item, backlogItems.get? id = some item → item.id = id := by
    first | exact Repository.keyed_empty _ | simp
  filed : ∀ key event, events.get? key = some event → (event.runId,event.eventId) = key := by
    first | exact Repository.filed_empty | simp
  numbered : ∀ key event, events.get? key = some event →
    event.sequence < (nextEventSequence.get? event.runId).getD 1 := by
      first | exact Repository.numbered_empty | simp
  distinct : ∀ left right first second, events.get? left = some first → events.get? right = some second →
    first.runId = second.runId → first.sequence = second.sequence → left = right := by
      first | exact Repository.distinct_empty | simp

namespace Repository

section
variable (repository : Repository)

def setRun (run : Run) : Repository :=
  {repository with
    runs := repository.runs.set run.id run
    keyed := by
      intro id held found
      rw [get?_set] at found
      split at found
      · rename_i same
        cases found
        exact same.symm
      · exact repository.keyed id held found}

def getRun (id : String) : Option Run := repository.runs.get? id

def requireRun (id : String) : Except Fault Run :=
  match repository.runs.get? id with
  | none => .error (.error ("Run " ++ id ++ " not found"))
  | some run => .ok run

/-- A run that is created once: asked for again with the same fingerprint, it is
answered as it stands. -/
def createRunIdempotently (run : Run) (idempotencyFingerprint : Fingerprint) : Except Fault (Run × Repository) :=
  match repository.runs.get? run.id with
  | some existing =>
    if repository.runIdempotencyFingerprints.get? run.id ≠ some idempotencyFingerprint then
      .error (.idempotencyConflict ("Run " ++ run.id ++ " already exists with different content"))
    else .ok (existing,repository)
  | none =>
    if (repository.projects.get? run.projectId).isNone then
      .error (.error ("Project " ++ run.projectId ++ " not found"))
    else match run.configRevisionId.filter fun id => (repository.configRevisions.get? id).isNone with
      | some id => .error (.error ("Config revision " ++ id ++ " not found"))
      | none =>
        let stored := repository.setRun run
        .ok (run,{stored with
          runIdempotencyFingerprints := repository.runIdempotencyFingerprints.set run.id idempotencyFingerprint})

def createConfigSnapshot (snapshot : ConfigSnapshot) : Except Fault (ConfigSnapshot × Repository) :=
  if (repository.runs.get? snapshot.runId).isNone then .error (.error ("Run " ++ snapshot.runId ++ " not found"))
  else if (repository.configRevisions.get? snapshot.configRevisionId).isNone then
    .error (.error ("Config revision " ++ snapshot.configRevisionId ++ " not found"))
  else if (repository.configSnapshots.get? snapshot.id).isSome then
    .error (.error ("Config snapshot " ++ snapshot.id ++ " already exists"))
  else .ok (snapshot,{repository with configSnapshots := repository.configSnapshots.set snapshot.id snapshot})

def listRuns (projectId : Option String) (status : Option RunStatus) (limit : Nat) (after : Option Cursor) : List Run :=
  ((repository.runs.values.filter fun run =>
    (projectId.all fun wanted => run.projectId = wanted) && (status.all fun wanted => run.status = wanted) &&
      isAfterTimestamp run.createdAt run.id after).insertionSort
    fun left right => ¬ timestampedBefore right.createdAt right.id left.createdAt left.id).take
      (boundedListLimit limit)

end

def updated (run : Run) (update : RunUpdate) : Run :=
  {run with
    status := update.status.getD run.status
    output := update.output.or run.output
    error := update.error.or run.error
    updatedAt := update.updatedAt
    completedAt := update.completedAt.or run.completedAt
    cleanupAt := update.cleanupAt.or run.cleanupAt}

/-- The compare-and-set on a run: it answers nothing when the run has moved on. -/
def transitionRun (repository : Repository) (id : String) (expectedStatuses : List RunStatus) (update : RunUpdate)
    (expectedVersion : Option Nat) : Except Fault (Option Run × Repository) := do
  let current ← repository.requireRun id
  if current.status ∉ expectedStatuses ∨ expectedVersion.any (current.stateVersion ≠ ·) then .ok (none,repository)
  else
    let moved := {updated current update with stateVersion := current.stateVersion + 1}
    .ok (some moved,repository.setRun moved)

@[simp] theorem getRun_setRun (repository : Repository) (run : Run) (id : String) :
    (repository.setRun run).getRun id = if id = run.id then some run else repository.getRun id :=
  get?_set _ _ _ _

variable {before after : Repository}

variable {update : RunUpdate} {draft : EventDraft}

theorem transitionRun_ok {id : String} {expectedStatuses : List RunStatus} {expectedVersion : Option Nat} {answer : Option Run}
    (ok : before.transitionRun id expectedStatuses update expectedVersion = .ok (answer,after)) :
    answer = none ∧ after = before ∨ ∃ current moved, before.getRun id = some current ∧
      current.status ∈ expectedStatuses ∧ moved = {updated current update with stateVersion := current.stateVersion + 1} ∧
      answer = some moved ∧ after = before.setRun moved := by
  unfold transitionRun requireRun at ok
  cases found : before.runs.get? id with
  | none => simp [found,bind,Except.bind] at ok
  | some current =>
    simp only [found,bind,Except.bind] at ok
    split at ok
    · cases ok
      exact .inl ⟨rfl,rfl⟩
    · rename_i expected
      cases ok
      simp only [not_or,Decidable.not_not] at expected
      exact .inr ⟨current,_,found,expected.1,rfl,rfl,rfl⟩

def nextSequence (repository : Repository) (runId : String) : Nat := (repository.nextEventSequence.get? runId).getD 1

structure Staged (repository : Repository) where
  event : Event
  replay : Bool
  fresh : replay = false → event.sequence = repository.nextSequence event.runId

section
variable (repository : Repository)

def stageEvent (draft : EventDraft) : Except Fault (Staged repository) := do
  let _ ← repository.requireRun draft.runId
  match repository.events.get? (draft.runId,draft.eventId) with
  | some existing =>
    if existing.fingerprint ≠ draft.fingerprint ∨ existing.type ≠ draft.type ∨ existing.payload ≠ draft.payload then
      .error (.error ("Event " ++ draft.eventId ++ " for run " ++ draft.runId ++
        " already has a different fingerprint"))
    else .ok {event := existing,replay := true,fresh := by simp}
  | none =>
    .ok {event := {draft with sequence := repository.nextSequence draft.runId},replay := false,fresh := fun _ => rfl}

def commitEvent (event : Event) (fresh : event.sequence = repository.nextSequence event.runId) : Repository :=
  {repository with
    events := repository.events.set (event.runId,event.eventId) event
    nextEventSequence := repository.nextEventSequence.set event.runId (event.sequence + 1)
    filed := by
      intro key held found
      rw [get?_set] at found
      split at found
      · rename_i same
        cases found
        exact same.symm
      · exact repository.filed key held found
    numbered := by
      intro key held found
      rw [get?_set] at found ⊢
      split at found
      · cases found
        simp
      · have below := repository.numbered key held found
        split
        · rename_i same
          simp only [Option.getD_some]
          rw [same] at below
          change _ < repository.nextSequence event.runId at below
          omega
        · exact below
    distinct := by
      intro left right first second leftFound rightFound sameRun sameSequence
      rw [get?_set] at leftFound rightFound
      split at leftFound <;> split at rightFound
      · rename_i here there
        rw [here,there]
      · cases leftFound
        have below := repository.numbered right second rightFound
        rw [← sameRun,← sameSequence,fresh] at below
        exact absurd below (lt_irrefl _)
      · cases rightFound
        have below := repository.numbered left first leftFound
        rw [sameRun,sameSequence,fresh] at below
        exact absurd below (lt_irrefl _)
      · exact repository.distinct left right first second leftFound rightFound sameRun sameSequence}

def commitStagedEvent (staged : Staged repository) : Repository :=
  if replay : staged.replay then repository
  else repository.commitEvent staged.event (staged.fresh (by simpa using replay))

def appendEvent (draft : EventDraft) : Except Fault (Event × Repository) := do
  let staged ← repository.stageEvent draft
  .ok (staged.event,repository.commitStagedEvent staged)

/-- Cancels a run that has not finished and records why, in one step. Unlike a
transition it leaves the state version alone. -/
def cancelRunWithEvent (id : String) (update : RunUpdate) (draft : EventDraft) : Except Fault (Run × Repository) := do
  if draft.runId ≠ id then .error (.error "event run does not match mutation")
  else
    let run ← repository.requireRun id
    let staged ← repository.stageEvent draft
    if staged.replay then
      if run.status ≠ .cancelled then .error (.error "event replay does not match run state")
      else .ok (run,repository)
    else if run.status ∈ [RunStatus.succeeded,.failed,.cancelled] then
      .error (.error ("Run " ++ id ++ " cannot be cancelled"))
    else
      let cancelled := {updated run update with status := .cancelled}
      .ok (cancelled,(repository.commitStagedEvent staged).setRun cancelled)

theorem commitStagedEvent_eq (staged : Staged repository) : (repository.commitStagedEvent staged).runs = repository.runs ∧
      (repository.commitStagedEvent staged).approvals = repository.approvals ∧
      (repository.commitStagedEvent staged).stepRuns = repository.stepRuns ∧
      (repository.commitStagedEvent staged).configSnapshots = repository.configSnapshots ∧
      (repository.commitStagedEvent staged).artifactCapabilityQuotas = repository.artifactCapabilityQuotas := by
  unfold commitStagedEvent
  split <;> exact ⟨rfl,rfl,rfl,rfl,rfl⟩

end

theorem appendEvent_ok {event : Event} (ok : before.appendEvent draft = .ok (event,after)) :
    ∃ staged, before.stageEvent draft = .ok staged ∧ event = staged.event ∧ after = before.commitStagedEvent staged := by
  unfold appendEvent at ok
  cases staging : before.stageEvent draft with
  | error fault => simp [staging,bind,Except.bind] at ok
  | ok staged =>
    simp only [staging,bind,Except.bind] at ok
    cases ok
    exact ⟨staged,rfl,rfl,rfl⟩

theorem cancelRunWithEvent_ok {id : String} {run : Run}
    (ok : before.cancelRunWithEvent id update draft = .ok (run,after)) : ∃ current, before.getRun id = some current ∧
      (run = current ∧ after = before ∨ current.status ∉ [RunStatus.succeeded,.failed,.cancelled] ∧
        run = {updated current update with status := .cancelled} ∧
        ∃ staged : Staged before, before.stageEvent draft = .ok staged ∧
          after = (before.commitStagedEvent staged).setRun run) := by
  unfold cancelRunWithEvent requireRun at ok
  split at ok
  · cases ok
  cases found : before.runs.get? id with
  | none => simp [found,bind,Except.bind] at ok
  | some current =>
    refine ⟨current,found,?_⟩
    cases staging : before.stageEvent draft with
    | error fault => simp [found,staging,bind,Except.bind] at ok
    | ok staged =>
      simp only [found,staging,bind,Except.bind] at ok
      split at ok
      · split at ok <;> cases ok
        exact .inl ⟨rfl,rfl⟩
      split at ok
      · cases ok
      · rename_i live
        cases ok
        exact .inr ⟨live,rfl,staged,rfl,rfl⟩

def listEvents (repository : Repository) (runId : String) (after : Option Nat) (limit : Nat) : List Event :=
  ((repository.events.values.filter fun event => event.runId = runId && after.all (· < event.sequence)).insertionSort
    fun left right => left.sequence ≤ right.sequence).take (boundedListLimit limit)

def invalidUsageField (usage : UsageRecord) : Option String :=
  ([("inputTokens",usage.inputTokens),("outputTokens",usage.outputTokens),
    ("cacheReadInputTokens",usage.cacheReadInputTokens),
    ("cacheCreation5mInputTokens",usage.cacheCreation5mInputTokens),
    ("cacheCreation1hInputTokens",usage.cacheCreation1hInputTokens),
    ("runtimeMs",usage.runtimeMs),("microdollars",usage.microdollars)].find? fun field =>
      ¬ isNonNegativeSafeInteger field.2).map Prod.fst

def appendUsage (repository : Repository) (usage : UsageRecord) : Except Fault (UsageRecord × Repository) := do
  match invalidUsageField usage with
  | some field => .error (.error (field ++ " must be a non-negative safe integer"))
  | none =>
    let _ ← repository.requireRun usage.runId
    match repository.usage.get? usage.idempotencyId with
    | some existing =>
      if existing ≠ usage then
        .error (.error ("Usage record " ++ usage.idempotencyId ++ " already exists with different content"))
      else .ok (existing,repository)
    | none => .ok (usage,{repository with usage := repository.usage.set usage.idempotencyId usage})

theorem appendUsage_ok {usage record : UsageRecord} (ok : before.appendUsage usage = .ok (record,after)) :
    after = before ∨ after = {before with usage := before.usage.set usage.idempotencyId usage} := by
  unfold appendUsage at ok
  split at ok
  · cases ok
  cases required : before.requireRun usage.runId with
  | error fault => simp [required,bind,Except.bind] at ok
  | ok run =>
    simp only [required,bind,Except.bind] at ok
    split at ok
    · split at ok <;> cases ok
      exact .inl rfl
    · cases ok
      exact .inr rfl

section
variable (repository : Repository)

def listUsage (runId : String) (limit : Nat) : List UsageRecord :=
  ((repository.usage.values.filter fun usage => usage.runId = runId).insertionSort fun left right =>
    ¬ timestampedBefore right.recordedAt right.idempotencyId left.recordedAt left.idempotencyId).take
      (boundedListLimit limit)

def listConfigSnapshots (runId : String) (limit : Nat) : List ConfigSnapshot :=
  ((repository.configSnapshots.values.filter fun snapshot => snapshot.runId = runId).insertionSort
    fun left right => ¬ timestampedBefore right.createdAt right.id left.createdAt left.id).take
      (boundedListLimit limit)

def getApproval (id : String) : Option Approval := repository.approvals.get? id

def listApprovals (runId : String) (status : Option ApprovalStatus) (limit : Nat) (after : Option Cursor) : List Approval :=
  ((repository.approvals.values.filter fun approval =>
    approval.runId = runId && (status.all fun wanted => approval.status = wanted) &&
      isAfterTimestamp approval.createdAt approval.id after).insertionSort
    fun left right => ¬ timestampedBefore right.createdAt right.id left.createdAt left.id).take
      (boundedListLimit limit)

def expireApproval (id runId scope fingerprint : String) (at_ : Instant) : Option Approval × Repository :=
  match repository.approvals.get? id with
  | none => (none,repository)
  | some approval =>
    if approval.status ≠ .pending ∨ approval.runId ≠ runId ∨ approval.scope ≠ scope ∨
        approval.fingerprint ≠ fingerprint ∨ approval.expiresAt > at_ then (none,repository)
    else
      let expired := {approval with status := .expired}
      (some expired,{repository with approvals := repository.approvals.set id expired})

end

theorem expireApproval_runs {id runId scope fingerprint : String} {at_ : Instant} {answer : Option Approval}
    (ok : (.ok (before.expireApproval id runId scope fingerprint at_) : Except Fault _) = .ok (answer,after)) :
    after.runs = before.runs := by
  unfold expireApproval at ok
  split at ok
  · cases ok
    rfl
  · split at ok <;> cases ok <;> rfl

structure ConsumeApprovalRequest where
  approvalId : String
  runId : String
  scope : String
  fingerprint : String
  consumedAt : Instant

section
variable (approval : Approval) (request : ConsumeApprovalRequest)

def consumable : Bool :=
  approval.runId = request.runId && approval.scope = request.scope && approval.fingerprint = request.fingerprint &&
    approval.status = .pending && request.consumedAt < approval.expiresAt

def consumed : Approval :=
  {approval with status := .consumed,consumedAt := some request.consumedAt}

end

def consumeApproval (repository : Repository) (request : ConsumeApprovalRequest) : Option Approval × Repository :=
  match (repository.approvals.get? request.approvalId).filter (consumable · request) with
  | none => (none,repository)
  | some approval =>
    let stored := consumed approval request
    (some stored,{repository with approvals := repository.approvals.set approval.id stored})

def consumeApprovalWithEvent (repository : Repository) (request : ConsumeApprovalRequest) (draft : EventDraft) :
    Except Fault (Option Approval × Repository) := do
  if draft.runId ≠ request.runId then .error (.error "event run does not match mutation")
  else
    let staged ← repository.stageEvent draft
    let held := repository.approvals.get? request.approvalId
    if staged.replay then
      if held.map Approval.status ≠ some .consumed then .error (.error "event replay does not match approval state")
      else .ok (held,repository)
    else match held.filter (consumable · request) with
      | none => .ok (none,repository)
      | some approval =>
        let stored := consumed approval request
        let committed := repository.commitStagedEvent staged
        .ok (some stored,{committed with approvals := committed.approvals.set approval.id stored})

def listProjects (repository : Repository) (limit : Nat) : List Project :=
  (repository.projects.values.insertionSort
    fun left right => ¬ timestampedBefore right.createdAt right.id left.createdAt left.id).take (boundedListLimit limit)

def sameGoalCriterion (existing requested : GoalCriterion) : Bool :=
  existing = {requested with createdAt := existing.createdAt}

def createGoalCriterionIdempotently (repository : Repository) (criterion : GoalCriterion) :
    Except Fault (GoalCriterion × Repository) := do
  let _ ← repository.requireRun criterion.runId
  match repository.goalCriteria.get? criterion.id with
  | some existing =>
    if sameGoalCriterion existing criterion then .ok (existing,repository)
    else .error (.idempotencyConflict ("Goal criterion " ++ criterion.id ++ " already exists with different content"))
  | none =>
    if repository.goalCriteria.values.any fun held => held.runId = criterion.runId && held.ordinal = criterion.ordinal then
      .error (.idempotencyConflict ("Goal criterion ordinal " ++ criterion.runId ++ ":" ++ toString criterion.ordinal ++
        " already exists with different content"))
    else .ok (criterion,{repository with goalCriteria := repository.goalCriteria.set criterion.id criterion})

def listGoalCriteria (repository : Repository) (runId : String) (limit : Nat) : List GoalCriterion :=
  ((repository.goalCriteria.values.filter fun criterion => criterion.runId = runId).insertionSort
    fun left right => left.ordinal ≤ right.ordinal).take (boundedListLimit limit)

def listGoalProgress (repository : Repository) (runId : String) (limit : Nat) : List GoalProgress :=
  ((repository.goalProgress.values.filter fun progress => progress.runId = runId).insertionSort
    fun left right => ¬ timestampedBefore right.recordedAt right.id left.recordedAt left.id).take
      (boundedListLimit limit)

/-! ### Steps and their sessions -/

def POSTGRES_INTEGER_MAX : Nat := 2147483647

/-- A stored row under a later one: fields the later row leaves out keep their values. -/
def merged (existing step : StepRun) : StepRun :=
  {existing with
    status := step.status
    input := step.input.or existing.input
    output := step.output.or existing.output
    error := step.error.or existing.error
    externalSessionId := step.externalSessionId.or existing.externalSessionId
    updatedAt := step.updatedAt
    startedAt := step.startedAt.or existing.startedAt
    completedAt := step.completedAt.or existing.completedAt}

section
variable (repository : Repository)

def upsertStepRun (step : StepRun) : Except Fault (StepRun × Repository) := do
  let _ ← repository.requireRun step.runId
  if step.attempt < 1 ∨ POSTGRES_INTEGER_MAX < step.attempt then
    .error (.error "attempt must be a positive PostgreSQL integer")
  else match step.externalSessionId.filter fun id => (repository.externalSessions.get? id).isNone with
    | some id => .error (.error ("External session " ++ id ++ " not found"))
    | none =>
      let key := (step.runId,step.stepKey,step.attempt)
      match repository.stepRuns.get? key with
      | some existing =>
        let kept := merged existing step
        .ok (kept,{repository with stepRuns := repository.stepRuns.set key kept})
      | none =>
        if repository.stepRuns.values.any (·.id = step.id) then
          .error (.error ("Step run " ++ step.id ++ " already exists"))
        else .ok (step,{repository with stepRuns := repository.stepRuns.set key step})

def listStepRuns (runId : String) (limit : Nat) : List StepRun :=
  ((repository.stepRuns.values.filter fun step => step.runId = runId).insertionSort fun left right =>
    if left.stepKey = right.stepKey then left.attempt ≤ right.attempt else left.stepKey < right.stepKey).take
      (boundedListLimit limit)

def getExternalSession (id : String) : Option ExternalSession :=
  repository.externalSessions.get? id

def createExternalSession (session : ExternalSession) : Except Fault (ExternalSession × Repository) := do
  let _ ← repository.requireRun session.runId
  match session.stepRunId.filter fun id => ¬ repository.stepRuns.values.any (·.id = id) with
  | some id => .error (.error ("Step run " ++ id ++ " not found"))
  | none =>
    if repository.externalSessions.values.any fun held =>
        held.provider = session.provider && held.externalId = session.externalId then
      .error (.error ("External session " ++ session.provider ++ "/" ++ session.externalId ++ " already exists"))
    else if (repository.externalSessions.get? session.id).isSome then
      .error (.error ("External session " ++ session.id ++ " already exists"))
    else .ok (session,{repository with externalSessions := repository.externalSessions.set session.id session})

def updateExternalSession (id : String) (update : ExternalSessionUpdate) : Except Fault (ExternalSession × Repository) :=
  match repository.externalSessions.get? id with
  | none => .error (.error ("External session " ++ id ++ " not found"))
  | some current =>
    let updated := {current with
      status := update.status.getD current.status
      updatedAt := update.updatedAt.or current.updatedAt
      cleanupAt := update.cleanupAt.or current.cleanupAt}
    .ok (updated,{repository with externalSessions := repository.externalSessions.set id updated})

end

/-! ### Artifact capability quotas -/

def ARTIFACT_CAPABILITY_MAX_CALLS : Int := 10000

def ARTIFACT_CAPABILITY_MAX_CUMULATIVE_BYTES : Int := 64 * 1024 * 1024

def invalidQuotaField (request : ArtifactCapabilityQuotaRequest) : Option String :=
  if ¬ isSafeInteger request.bytes ∨ request.bytes < 0 then some "bytes"
  else if ¬ isSafeInteger request.maxCalls ∨ request.maxCalls < 1 then some "maxCalls"
  else if ¬ isSafeInteger request.maxCumulativeBytes ∨ request.maxCumulativeBytes < 1 then some "maxCumulativeBytes"
  else if request.maxCalls > ARTIFACT_CAPABILITY_MAX_CALLS then some "maxCalls"
  else if request.maxCumulativeBytes > ARTIFACT_CAPABILITY_MAX_CUMULATIVE_BYTES then some "maxCumulativeBytes"
  else none

/-- Counts a call against a capability's quota, where the capability is in force
and the stored quota is this very capability's. -/
def consumeArtifactCapabilityQuota (repository : Repository) (request : ArtifactCapabilityQuotaRequest) :
    Except Fault (Bool × Repository) :=
  match invalidQuotaField request with
  | some field => .error (.error (field ++ " is invalid"))
  | none =>
    let key := (request.purpose,request.audience,request.nonce)
    let counted := fun quota : ArtifactCapabilityQuota =>
      {repository with artifactCapabilityQuotas := repository.artifactCapabilityQuotas.set key quota}
    if ¬ (request.now ≥ request.notBefore ∧ request.now < request.expiresAt) then .ok (false,repository)
    else match repository.artifactCapabilityQuotas.get? key with
      | none =>
        if request.maxCalls < 1 ∨ request.bytes > request.maxCumulativeBytes then .ok (false,repository)
        else .ok (true,counted
          {fingerprint := request.fingerprint,notBefore := request.notBefore,expiresAt := request.expiresAt,
            calls := 1,cumulativeBytes := request.bytes})
      | some existing =>
        if existing.fingerprint ≠ request.fingerprint ∨ existing.notBefore ≠ request.notBefore ∨
            existing.expiresAt ≠ request.expiresAt then .ok (false,repository)
        else if existing.calls ≥ request.maxCalls ∨
            existing.cumulativeBytes + request.bytes > request.maxCumulativeBytes then .ok (false,repository)
        else .ok (true,counted
          {existing with calls := existing.calls + 1,cumulativeBytes := existing.cumulativeBytes + request.bytes})

/-! ### Configuration revisions and backlogs -/

def revisionsOf (repository : Repository) (projectId : String) : List ConfigRevision :=
  repository.configRevisions.values.filter fun revision => revision.projectId = projectId

def listConfigRevisions (repository : Repository) (projectId : String) (after : Option Nat) (limit : Nat) : List ConfigRevision :=
  (((repository.revisionsOf projectId).filter fun revision => after.all (· < revision.revision)).insertionSort
    fun left right => left.revision ≤ right.revision).take (boundedListLimit limit)

/-- Whether one revision was applied after another: by time, then number, then identifier. -/
def appliedAfter (left right : ConfigRevision) : Bool :=
  right.createdAt < left.createdAt || (right.createdAt = left.createdAt &&
    (right.revision < left.revision || (right.revision = left.revision && right.id < left.id)))

def getLatestConfigRevision (repository : Repository) (projectId : String) : Option ConfigRevision :=
  ((repository.revisionsOf projectId).insertionSort fun left right => ¬ appliedAfter right left).head?

theorem keyed_set {ν : Type} {map : OrderedMap String ν} {key : ν → String}
    (keyed : ∀ id held, map.get? id = some held → key held = id) (value : ν) :
    ∀ id held, (map.set (key value) value).get? id = some held → key held = id := by
  intro id held found
  rcases OrderedMap.get?_set_some found with ⟨here,rfl⟩ | ⟨_,there⟩
  · exact here.symm
  · exact keyed id held there

def setBacklog (repository : Repository) (backlog : Backlog) : Repository :=
  {repository with
    backlogs := repository.backlogs.set backlog.id backlog
    backlogKeyed := keyed_set repository.backlogKeyed backlog}

def setBacklogItem (repository : Repository) (item : BacklogItem) : Repository :=
  {repository with
    backlogItems := repository.backlogItems.set item.id item
    itemKeyed := keyed_set repository.itemKeyed item}

def createBacklog (repository : Repository) (backlog : Backlog) : Except Fault (Backlog × Repository) :=
  if (repository.projects.get? backlog.projectId).isNone then
    .error (.error ("Project " ++ backlog.projectId ++ " not found"))
  else if (repository.backlogs.get? backlog.id).isSome then
    .error (.error ("Backlog " ++ backlog.id ++ " already exists"))
  else .ok (backlog,repository.setBacklog backlog)

def getBacklog (repository : Repository) (id : String) : Option Backlog := repository.backlogs.get? id

def sameBacklogItem (existing item : BacklogItem) : Bool :=
  existing.backlogId = item.backlogId && existing.ordinal = item.ordinal && existing.title = item.title &&
    existing.description = item.description

section
variable (repository : Repository)

def createBacklogItemIdempotently (item : BacklogItem) : Except Fault (BacklogItem × Repository) :=
  if (repository.backlogs.get? item.backlogId).isNone then
    .error (.error ("Backlog " ++ item.backlogId ++ " not found"))
  else match repository.backlogItems.get? item.id with
    | some existing =>
      if sameBacklogItem existing item then .ok (existing,repository)
      else .error (.idempotencyConflict ("Backlog item " ++ item.id ++ " already exists with different content"))
    | none =>
      if (repository.backlogItemOrdinals.get? (item.backlogId,item.ordinal)).isSome then
        .error (.idempotencyConflict ("Backlog item ordinal " ++ item.backlogId ++ ":" ++ toString item.ordinal ++
          " already exists with different content"))
      else .ok (item,{repository.setBacklogItem item with
        backlogItemOrdinals := repository.backlogItemOrdinals.set (item.backlogId,item.ordinal) item.id
        backlogItemRuns := match item.runId with
          | none => repository.backlogItemRuns
          | some runId => repository.backlogItemRuns.set runId item.id})

def deleteBacklog (id : String) : Bool × Repository :=
  if (repository.backlogs.get? id).isNone then (false,repository)
  else
    let items := repository.backlogItems.values.filter fun item => item.backlogId = id
    if items.any fun item => item.runId.isSome then (false,repository)
    else (true,{repository with
      backlogItems := repository.backlogItems.filter fun key _ => key ∉ items.map BacklogItem.id
      backlogItemOrdinals := repository.backlogItemOrdinals.filter fun key _ => key ∉ items.map fun item =>
        (item.backlogId,item.ordinal)
      backlogs := repository.backlogs.erase id
      backlogKeyed := fun key backlog held => repository.backlogKeyed key backlog (by
        rw [OrderedMap.get?_erase] at held
        split at held
        · cases held
        · exact held)
      itemKeyed := fun key item held => repository.itemKeyed key item (by
        rw [OrderedMap.get?_filter] at held
        exact (Option.filter_eq_some_iff.mp held).1)})

def listBacklogs (projectId : String) (limit : Nat) : List Backlog :=
  ((repository.backlogs.values.filter fun backlog => backlog.projectId = projectId).insertionSort fun left right =>
    ¬ timestampedBefore right.createdAt right.id left.createdAt left.id).take (boundedListLimit limit)

def listBacklogItems (backlogId : String) (limit : Nat) : List BacklogItem :=
  ((repository.backlogItems.values.filter fun item => item.backlogId = backlogId).insertionSort fun left right =>
    left.ordinal ≤ right.ordinal).take (boundedListLimit limit)

/-- The compare-and-set on a backlog's status. A backlog that is not paused has no reason for it. -/
def updateBacklogStatus (id : String) (expected : List BacklogStatus) (status : BacklogStatus)
    (pausedReason : Option String) (updatedAt : Instant) : Option Backlog × Repository :=
  match (repository.backlogs.get? id).filter fun backlog => backlog.status ∈ expected with
  | none => (none,repository)
  | some existing =>
    let updated := {existing with
      status := status
      pausedReason := if status = .paused then pausedReason.or existing.pausedReason else none
      updatedAt := updatedAt}
    (some updated,repository.setBacklog updated)

/-- The compare-and-set on a backlog item. An item has one run, and a run one item. -/
def updateBacklogItem (id : String) (expected : List BacklogItemStatus)
    (status : BacklogItemStatus) (runId : Option String) (updatedAt : Instant) : Option BacklogItem × Repository :=
  match (repository.backlogItems.get? id).filter fun item => item.status ∈ expected with
  | none => (none,repository)
  | some existing =>
    if runId.any fun runId => (repository.backlogItemRuns.get? runId).any (· ≠ id) || existing.runId.any (· ≠ runId) then
      (none,repository)
    else
      let updated := {existing with status := status,runId := runId.or existing.runId,updatedAt := updatedAt}
      let stored := repository.setBacklogItem updated
      (some updated,match updated.runId with
        | none => stored
        | some runId => {stored with backlogItemRuns := repository.backlogItemRuns.set runId updated.id})

end

end Repository
end AgentOS
