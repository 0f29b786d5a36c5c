import AgentOS.ControlPlane.BacklogTables

/-! Rules for the backlogs: the steps that a creation of a run and a pass over the
backlogs can take, whatever others do in between. -/
namespace AgentOS.ControlPlane
open Library Checkpoint Outbox Routine AgentOS.Action
variable {env : Environment} {pages : Nat} {step : World → World → Prop} {inserts : Run → Prop}

/-! ### Creating a run -/

structure Unmoved (before after : World) : Prop extends Repository.SameBacklogs before.repository after.repository where
  runs : after.repository.runs = before.repository.runs

theorem Unmoved.of_same {before after : World} (same : after.repository = before.repository) : Unmoved before after := by
  constructor
  · rw [same]
    exact .refl _
  · rw [same]

/-- The steps of a creation: it inserts a run, and the dispatch may fail an undispatched one. -/
structure Creates (inserts : Run → Prop) (step : World → World → Prop) : Prop where
  quiet : ∀ before after, Unmoved before after → step before after
  undispatched : ∀ before after, Undispatched before after → step before after
  inserted : ∀ (world : World) run fingerprint created next, inserts run →
    world.repository.createRunIdempotently run fingerprint = .ok (created,next) →
    step world {world.ticked with repository := next}

structure Prepared (env : Environment) (pipeline : Pipeline) (idempotencyKey : String) (input : CreateRunInput) (run : Run) :
    Prop where
  named : run.id = runId env pipeline idempotencyKey
  project : run.projectId = input.projectId
  pending : run.status = .pending
  base : chainBase run = input.baseRunId.map Json.str

variable {input : CreateRunInput} {idempotencyKey : String} {chain : Option RunChain}

theorem inputForRun_ok {runInput : Json} (ok : inputForRun idempotencyKey input chain = .ok runInput) :
    ∃ criteria, runInput = inputJson idempotencyKey input chain criteria := by
  unfold inputForRun at ok
  cases made : input.criteria.mapM CommandCriterion.goalDefinitions with
  | error fault => simp [made,bind,Except.bind] at ok
  | ok criteria =>
    simp only [made,bind,Except.bind] at ok
    cases ok
    exact ⟨criteria,rfl⟩

theorem chainBase_runOf {id : String} {pipeline : Pipeline}
    {revision : Option ConfigRevision} {criteria : Option (List Json)} {now : Instant} :
    chainBase (runOf id pipeline input revision (inputJson idempotencyKey input chain criteria) now) =
      chain.map fun chain => .str chain.baseRunId := by
  cases chain with
  | none => cases criteria <;> simp [chainBase,runOf,inputJson,Json.field?]
  | some chain => simp [chainBase,runOf,inputJson,chainJson,Json.field?]

theorem usableBase_ok {baseRunId : String} {found : Option Run} {base : Run} {chain : RunChain}
    (ok : usableBase input baseRunId found = .ok (base,chain)) :
    found = some base ∧ base.projectId = input.projectId ∧ base.status = .succeeded ∧ chain.baseRunId = baseRunId := by
  unfold usableBase at ok
  split at ok
  · cases ok
  · rename_i held usable
    obtain ⟨same,fits⟩ := Option.filter_eq_some_iff.mp usable
    split at ok
    · cases ok
      simp only [Bool.and_eq_true,decide_eq_true_eq] at fits
      exact ⟨same,fits.1,fits.2,rfl⟩
    · cases ok

namespace Creates
variable (creates : Creates inserts step)
include creates

theorem passed (world : World) : step world world.ticked := creates.quiet _ _ (.of_same rfl)

theorem delivers (drafts : EffectDraft → Prop) (keys : String → Prop) : Delivers drafts keys step :=
  ⟨creates.passed,fun _ _ _ => creates.quiet _ _ (.of_same rfl)⟩

theorem requestStart (request : StartRequest) : (requestStart env request).Takes step :=
  requestStart_takes_undispatched (creates.delivers _ _) creates.undispatched

theorem createSnapshot (snapshot : ConfigSnapshot) : (createSnapshot env snapshot).Takes step := by
  refine .bind (takes_repository creates.passed fun _ world answer next ok => ?_) fun _ => takes_pure _
  unfold Repository.createConfigSnapshot at ok
  split at ok
  · cases ok
  split at ok
  · cases ok
  split at ok
  · cases ok
  · cases ok
    exact creates.quiet _ _ ⟨⟨rfl,rfl,rfl,rfl⟩,rfl⟩

theorem createCriterion (criterion : GoalCriterion) : (createCriterion env criterion).Takes step := by
  refine .bind (takes_repository creates.passed fun _ world answer next ok => ?_) fun _ => takes_pure _
  unfold Repository.createGoalCriterionIdempotently at ok
  cases required : world.repository.requireRun criterion.runId with
  | error fault => simp [required,bind,Except.bind] at ok
  | ok run =>
    simp only [required,bind,Except.bind] at ok
    split at ok
    · split at ok <;> cases ok
      exact creates.quiet _ _ (.of_same rfl)
    · split at ok <;> cases ok
      exact creates.quiet _ _ ⟨⟨rfl,rfl,rfl,rfl⟩,rfl⟩

theorem findRevision (input : CreateRunInput) (pages : Nat) (after : Option Nat) :
    (findRevision env input pages after).Takes step := by
  induction pages generalizing after with
  | zero => exact takes_pure _
  | succ pages ih =>
    refine .bind (takes_readRepository creates.passed) fun revisions => ?_
    split
    · exact takes_pure _
    · split
      · exact takes_pure _
      · exact ih _

variable (pipeline : Pipeline)

theorem appliedRevision (input : CreateRunInput) : (appliedRevision env pages pipeline input).Takes step := by
  unfold ControlPlane.appliedRevision
  split
  · refine .bind (creates.findRevision _ _ _) fun revision => ?_
    split
    · exact takes_throw _
    · exact takes_pure _
  · exact takes_pure _

theorem requireProject (projectId : String) : (requireProject env projectId).Takes step := by
  refine .bind (takes_readRepository creates.passed) fun project => ?_
  split
  · exact takes_throw _
  · exact takes_pure _

theorem sameConfiguration (base : Run) (revision : Option ConfigRevision) : (sameConfiguration env base revision).Takes step := by
  cases revision with
  | none => exact takes_pure _
  | some revision =>
    refine .bind (takes_readRepository creates.passed) fun snapshots => ?_
    split
    · exact takes_pure _
    · exact takes_throw _

theorem untaken (projectId baseRunId : String) (status : RunStatus) : (untaken env projectId baseRunId status).Takes step := by
  refine .bind (takes_readRepository creates.passed) fun active => ?_
  split
  · exact takes_throw _
  · exact takes_pure _

theorem baseUntaken (projectId baseRunId : String) : (baseUntaken env projectId baseRunId).Takes step :=
  takes_forM fun status _ => creates.untaken projectId baseRunId status

theorem countChain (bound existing : Nat) (ancestor : Option String) : (countChain env bound existing ancestor).Takes step := by
  induction bound generalizing existing ancestor with
  | zero => cases ancestor <;> exact takes_pure _
  | succ bound ih =>
    cases ancestor with
    | none => exact takes_pure _
    | some ancestor =>
      refine .bind (takes_settle _) fun id => ?_
      exact .bind (takes_readRepository creates.passed) fun run => ih _ _

theorem shallow (base : Run) (maxDepth : Nat) : (shallow env base maxDepth).Takes step := by
  refine .bind (creates.countChain _ _ _) fun existing => ?_
  split
  · exact takes_throw _
  · exact takes_pure _

theorem resolveChain (input : CreateRunInput) (revision : Option ConfigRevision) :
    (resolveChain env input revision).Gives step fun chain => chain.map RunChain.baseRunId = input.baseRunId := by
  unfold ControlPlane.resolveChain
  cases named : input.baseRunId with
  | none => exact gives_pure rfl
  | some baseRunId =>
    refine (takes_readRepository creates.passed).gives.bind fun found _ => ?_
    have settled : (Routine.settle (usableBase input baseRunId found) : Action (Run × RunChain)).Gives step
        fun answer => answer.2.baseRunId = baseRunId := by
      intro _ answer same
      exact (usableBase_ok same).2.2.2
    refine settled.bind fun answer same => ?_
    refine (creates.sameConfiguration _ _).gives.bind fun _ _ => ?_
    refine (creates.baseUntaken _ _).gives.bind fun _ _ => ?_
    refine (creates.shallow _ _).gives.bind fun _ _ => gives_pure ?_
    exact congrArg some same

theorem prepareRun (idempotencyKey : String) (input : CreateRunInput) : (prepareRun env pages pipeline idempotencyKey input).Gives step
      fun answer => Prepared env pipeline idempotencyKey input answer.2.1 := by
  refine (takes_now creates.passed).gives.bind fun now _ => ?_
  refine (creates.requireProject _).gives.bind fun _ _ => ?_
  refine (creates.appliedRevision _ _).gives.bind fun revision _ => ?_
  refine (creates.resolveChain _ _).bind fun chain based => ?_
  have settled : (Routine.settle (inputForRun idempotencyKey input chain) : Action Json).Gives step
      fun runInput => ∃ criteria, runInput = inputJson idempotencyKey input chain criteria := by
    intro _ answer same
    exact inputForRun_ok same
  refine settled.bind fun runInput made => gives_pure ?_
  obtain ⟨criteria,rfl⟩ := made
  refine ⟨rfl,rfl,rfl,?_⟩
  rw [chainBase_runOf,← based,Option.map_map]
  rfl

theorem bindSnapshot (run : Run) (revision : Option ConfigRevision) (now : Instant) :
    (bindSnapshot env pipeline run revision now).Takes step := by
  cases revision with
  | none => exact takes_pure _
  | some revision =>
    refine .bind (takes_readRepository creates.passed) fun snapshots => ?_
    split
    · exact creates.createSnapshot _
    · split
      · exact takes_pure _
      · exact takes_throw _

theorem bindCriteria (run : Run) (criteria : Option (List CommandCriterion)) (now : Instant) :
    (bindCriteria env run criteria now).Takes step := by
  cases criteria with
  | none => exact takes_pure _
  | some criteria =>
    refine .bind (takes_forM fun entry _ => creates.createCriterion _) fun _ =>
      .bind (takes_readRepository creates.passed) fun persisted => ?_
    split
    · exact takes_throw _
    · exact takes_pure _

theorem dispatchStart (runId : String) (pipeline : Pipeline) : (dispatchStart env runId pipeline).Takes step := by
  unfold ControlPlane.dispatchStart dispatchResumed
  split
  · exact .bind (.outcome (creates.requestStart _)) fun _ => takes_pure _
  · exact takes_pure _

theorem finishRun (input : CreateRunInput) (revision : Option ConfigRevision) (created : Run)
    (now : Instant) : (finishRun env pipeline input revision created now).Takes step :=
  .bind (creates.bindSnapshot _ _ _ _) fun _ => .bind (creates.bindCriteria _ _ _) fun _ =>
    .bind (creates.dispatchStart _ _) fun _ => takes_ask creates.passed

theorem startRun (input : CreateRunInput) (revision : Option ConfigRevision) {run : Run}
    (fingerprint : Fingerprint) (mine : inserts run) : (startRun env pipeline input revision run fingerprint).Takes step := by
  refine .bind (takes_repository creates.passed fun _ world created next ok => ?_) fun created =>
    creates.finishRun pipeline input revision created run.createdAt
  exact creates.inserted world run fingerprint created next mine ok

theorem createRun (idempotencyKey : String) (input : CreateRunInput)
    (mine : ∀ run, Prepared env pipeline idempotencyKey input run → inserts run) :
    (createRun env pages pipeline idempotencyKey input).Takes step := by
  refine (creates.prepareRun pipeline idempotencyKey input).then fun answer prepared => ?_
  obtain ⟨revision,run,fingerprint⟩ := answer
  refine .bind (.outcome (creates.startRun pipeline input revision fingerprint (mine run prepared))) fun ended => ?_
  split
  · exact takes_pure _
  · exact takes_throw _

end Creates

/-! ### A pass -/

structure Advances (inserts : Run → Prop) (step : World → World → Prop) : Prop extends Creates inserts step where
  settled : ∀ (world : World) id status at_ next, status = .succeeded ∨ status = .failed →
    (world.repository.updateBacklogItem id [.running] status none at_).2 = next →
    step world {world.ticked with repository := next}
  attached : ∀ (world : World) id runId at_ next,
    (world.repository.updateBacklogItem id [.pending] .running (some runId) at_).2 = next →
    step world {world.ticked with repository := next}
  paused : ∀ (world : World) id reason at_ next,
    (world.repository.updateBacklogStatus id [.active] .paused reason at_).2 = next →
    step world {world.ticked with repository := next}

theorem settlement_cases {runs : OrderedMap String BacklogItemRun} {item : BacklogItem} {status : BacklogItemStatus}
    (settles : settlement runs item = some status) : item.status = .running ∧ ∃ runId run, item.runId = some runId ∧
      runs.get? runId = some run ∧ settledStatus run.status = some status := by
  unfold settlement at settles
  split at settles
  · cases settles
  rename_i running
  obtain ⟨run,found,status⟩ := Option.bind_eq_some_iff.mp settles
  obtain ⟨runId,named,held⟩ := Option.bind_eq_some_iff.mp found
  exact ⟨not_not.mp running,runId,run,named,held,status⟩

theorem settledStatus_cases {status : RunStatus} {settled : BacklogItemStatus} (settles : settledStatus status = some settled) :
    settled = .succeeded ∨ settled = .failed := by
  cases status <;> simp [settledStatus] at settles <;> simp [← settles]

namespace Advances
variable (advances : Advances inserts step)
include advances

theorem listItems (backlogId : String) : (listItems env backlogId).Takes step := takes_readRepository advances.passed

theorem readRuns (items : List BacklogItem) (runs : OrderedMap String BacklogItemRun) : (readRuns env items runs).Takes step := by
  induction items generalizing runs with
  | nil => exact takes_pure _
  | cons item items ih =>
    unfold ControlPlane.readRuns
    split
    · exact ih _
    · refine .bind (takes_readRepository advances.passed) fun run => ?_
      split
      · exact ih _
      · exact ih _

theorem settleItem (runs : OrderedMap String BacklogItemRun) (item : BacklogItem) : (settleItem env runs item).Takes step := by
  unfold ControlPlane.settleItem
  split
  · exact takes_pure _
  · rename_i status settles
    obtain ⟨_,_,_,_,_,settled⟩ := settlement_cases settles
    refine .bind (takes_repository advances.passed fun at_ world _ next ok => ?_) fun _ => takes_pure _
    exact advances.settled world item.id status at_ next (settledStatus_cases settled) (congrArg Prod.snd (Except.ok.inj ok))

theorem decideBacklog (backlog : Backlog) : (decideBacklog env backlog).Takes step :=
  .bind (advances.listItems _) fun _ => .bind (advances.readRuns _ _) fun runs =>
    .bind (takes_forM fun item _ => advances.settleItem runs item) fun _ => .bind (advances.listItems _) fun _ =>
      takes_pure _

theorem pauseBacklog (id reason : String) : (pauseBacklog env id reason).Takes step := by
  refine .bind (takes_repository advances.passed fun at_ world _ next ok => ?_) fun _ => takes_pure _
  exact advances.paused world id (some reason) at_ next (congrArg Prod.snd (Except.ok.inj ok))

theorem attachRun (itemId runId : String) : (attachRun env itemId runId).Takes step :=
  takes_repository advances.passed fun at_ world _ next ok =>
    advances.attached world itemId runId at_ next (congrArg Prod.snd (Except.ok.inj ok))

theorem runItem (backlog : Backlog) (item : BacklogItem) (revision : ConfigRevision) (baseRunId : Option String)
    (mine : ∀ run, Prepared env .feature (itemKey backlog.id item.ordinal) (itemInput backlog item revision baseRunId) run →
      inserts run) : (runItem env pages backlog item revision baseRunId).Takes step :=
  .bind (advances.createRun _ _ _ mine) fun _ => .bind (advances.attachRun _ _) fun _ => takes_pure _

theorem dispatchBacklogItem (backlog : Backlog) (item : BacklogItem) (baseRunId : Option String)
    (mine : ∀ revision run, Prepared env .feature (itemKey backlog.id item.ordinal)
      (itemInput backlog item revision baseRunId) run → inserts run) :
    (dispatchBacklogItem env pages backlog item baseRunId).Takes step := by
  refine .bind (takes_readRepository advances.passed) fun revision => ?_
  split
  · exact advances.pauseBacklog _ _
  · refine .bind (.outcome (advances.runItem _ _ _ _ (mine _))) fun ended => ?_
    split
    · exact takes_pure _
    · exact advances.pauseBacklog _ _

theorem advanceBacklogs (projectId : String) (mine : ∀ run, inserts run) (completed : ∀ (world : World) id at_ next,
      (world.repository.updateBacklogStatus id [.active] .completed none at_).2 = next →
      step world {world.ticked with repository := next}) : (advanceBacklogs env pages projectId).Takes step := by
  refine .bind (takes_readRepository advances.passed) fun backlogs => takes_forM fun backlog _ => ?_
  unfold advanceOne
  split
  · exact takes_pure _
  · refine .bind (advances.decideBacklog backlog) fun decision => ?_
    cases decision with
    | idle => exact takes_pure _
    | complete =>
      refine .bind (takes_repository advances.passed fun at_ world answer next ok => ?_) fun _ => takes_pure _
      exact completed world backlog.id at_ next (congrArg Prod.snd (Except.ok.inj ok))
    | pause reason => exact advances.pauseBacklog _ _
    | dispatch item baseRunId => exact advances.dispatchBacklogItem _ _ _ fun _ run _ => mine run

end Advances
/-! ### The operator's calls -/

section
variable (quiet : ∀ before after, Unmoved before after → step before after)
include quiet

private theorem ticks (world : World) : step world world.ticked := quiet _ _ (.of_same rfl)

theorem backlogProjection_takes (backlog : Backlog) : (backlogProjection env backlog).Takes step :=
  .bind (takes_readRepository (ticks quiet)) fun _ => takes_pure _

def ItemAt (input : BacklogInput) (ordinal : Nat) (item : String × String) : Prop :=
  1 ≤ ordinal ∧ input.items[ordinal - 1]? = some item

variable {id : String} {input : BacklogInput}

theorem createItems_takes (now : Instant) {ordinal : Nat} {items : List (String × String)}
    (positive : 1 ≤ ordinal) (rest : items = input.items.drop (ordinal - 1))
    (filed : ∀ (world : World) ordinal item answer next, ItemAt input ordinal item →
      world.repository.createBacklogItemIdempotently (newItem env id ordinal item now) = .ok (answer,next) →
      step world {world.ticked with repository := next}) : (createItems env id now ordinal items).Takes step := by
  induction items generalizing ordinal with
  | nil => exact takes_pure _
  | cons item items ih =>
    have here : ItemAt input ordinal item := by
      refine ⟨positive,?_⟩
      have first := congrArg List.head? rest
      rwa [List.head?_drop,List.head?_cons,eq_comm] at first
    have later : items = input.items.drop (ordinal + 1 - 1) := by
      have tails := congrArg List.tail rest
      rw [List.tail_drop,List.tail_cons] at tails
      rw [tails]
      congr 1
      omega
    refine .bind (.bind (takes_repository (ticks quiet) fun _ world answer next ok => ?_) fun _ => takes_pure _) fun _ =>
      ih (by omega) later
    exact filed world ordinal item answer next here ok

theorem createBacklog_takes {idempotencyKey : String} (shelved : ∀ (world : World) now answer next,
      world.repository.createBacklog (newBacklog (backlogId env idempotencyKey) input now) = .ok (answer,next) →
      step world {world.ticked with repository := next})
    (filed : ∀ (world : World) ordinal item now answer next, ItemAt input ordinal item →
      world.repository.createBacklogItemIdempotently (newItem env (backlogId env idempotencyKey) ordinal item now) =
        .ok (answer,next) → step world {world.ticked with repository := next}) :
    (createBacklog env idempotencyKey input).Takes step := by
  have project : (requireProject env input.projectId).Takes step := by
    refine .bind (takes_readRepository (ticks quiet)) fun project => ?_
    split
    · exact takes_throw _
    · exact takes_pure _
  have ensured : ∀ now, (ensureBacklog env (backlogId env idempotencyKey) input now).Gives step
      fun backlog => backlog.id = backlogId env idempotencyKey := by
    intro now
    have reading : (readRepository env fun repository => repository.getBacklog (backlogId env idempotencyKey)).Gives step
        fun found => ∀ backlog, found = some backlog → backlog.id = backlogId env idempotencyKey :=
      gives_readRepository (ticks quiet) fun repository backlog found => repository.backlogKeyed _ _ found
    refine reading.bind fun found named => ?_
    split
    · rename_i existing
      exact gives_pure (named existing rfl)
    · refine gives_repository (takes_repository (ticks quiet) fun _ world answer next ok => shelved world now answer next ok) ?_
      intro _ before backlog next ok
      rw [(Repository.createBacklog_ok ok).2.1]
      rfl
  refine .bind project fun _ => .bind (takes_now (ticks quiet)) fun now => (ensured now).then fun backlog named => ?_
  rw [named]
  exact .bind (createItems_takes quiet now (Nat.le_refl 1) rfl fun world ordinal item answer next here ok =>
    filed world ordinal item now answer next here ok) fun _ => backlogProjection_takes quiet backlog

theorem setBacklogStatus_takes {asked : AskedStatus} (moved : ∀ (world : World) at_ next,
      (world.repository.updateBacklogStatus id asked.expected asked.status none at_).2 = next →
      step world {world.ticked with repository := next}) : (setBacklogStatus env id asked).Takes step := by
  refine .bind (takes_repository (ticks quiet) fun at_ world _ next ok => ?_) fun updated => ?_
  · exact moved world at_ next (congrArg Prod.snd (Except.ok.inj ok))
  · split
    · exact takes_throw _
    · exact backlogProjection_takes quiet _

theorem deleteBacklog_takes (deleted : ∀ (world : World) next, (world.repository.deleteBacklog id).2 = next →
      step world {world.ticked with repository := next}) : (deleteBacklog env id).Takes step := by
  refine .bind (takes_repository (ticks quiet) fun _ world _ next ok => ?_) fun done => ?_
  · exact deleted world next (congrArg Prod.snd (Except.ok.inj ok))
  · split
    · exact takes_pure _
    · exact takes_throw _

end
end AgentOS.ControlPlane
