import AgentOS.Goal.FeatureRunner

/-! A goal step executed again after its process died. The child is found as it
was left: absent, prepared, claimed or ended. Its claim is its status, which an
error gives back and a process that dies does not. -/
namespace AgentOS.Goal
open Library Routine AgentOS.Action Workflow
open OrderedMap (values_set_new get?_set)
variable {hash : String → String} {request : GoalStepRequest}

/-! ### What a step rests on -/

structure Authority where
  others : String → Option Run
  parent : Run
  configRevisionId : String
  input : ParentInput
  bundle : ArtifactMetadata
  source : Artifact

def Authority.child (authority : Authority) (request : GoalStepRequest) : Run :=
  childRun request authority.parent authority.configRevisionId authority.input 0

/-- The step can be carried out, and whatever there is of its child is what the
step made of it. -/
structure Sound (hash : String → String) (request : GoalStepRequest) (authority : Authority) (repository : Repository)
    (artifacts : ArtifactStore) : Prop where
  others : ∀ id, id ≠ request.childRunId → repository.getRun id = authority.others id
  apart : request.parentRunId ≠ request.childRunId
  parent : authority.others request.parentRunId = some authority.parent
  accepted : authoritativeParent request (some authority.parent) =
    .ok (authority.parent,authority.configRevisionId,authority.input)
  snapshots : authoritativeSnapshot request authority.parent (repository.listConfigSnapshots authority.parent.id 2) = .ok ()
  project : (repository.projects.get? authority.parent.projectId).isSome
  revision : (repository.configRevisions.get? authority.configRevisionId).isSome
  listed : artifacts.list (sourceScope request.projectId request.parentRunId) "bundle" 2 = ([authority.bundle],false)
  bound : sourceBundle ([authority.bundle],false) = .ok authority.bundle
  stored : artifacts.read hash authority.bundle (some authority.bundle.sizeBytes) = .ok (some authority.source)
  available : availableBundle authority.bundle (some authority.source) = .ok authority.source
  small : authority.source.bytes.utf8ByteSize ≤ DEFAULT_ARTIFACT_MAX_BYTES
  child : ∀ child, repository.getRun request.childRunId = some child → boundChild request child = .ok () ∧
    repository.runIdempotencyFingerprints.get? request.childRunId = some (runFingerprint (authority.child request))
  prepared : repository.listConfigSnapshots request.childRunId 2 = [] ∧
      repository.configSnapshots.get? (childSnapshot request 0).id = none ∨
    ensureMatches request "" (repository.listConfigSnapshots request.childRunId 2) = .ok () ∧
      (repository.configSnapshots.get? (childSnapshot request 0).id).isSome
  copied : ∀ copy, artifacts.get? (bundleCopy request authority.source).slot = some copy →
    ∃ prepared, ArtifactStore.prepareArtifactPut hash (bundleCopy request authority.source) 0 = .ok prepared ∧
      ArtifactStore.equivalent copy.toArtifactMetadata prepared.toArtifactMetadata = true
  reported : ∀ child, repository.getRun request.childRunId = some child → child.status = .succeeded →
    ∃ artifact, trustedReport (artifacts.list (verificationScope request) "trusted-test-report" 2) = .ok artifact

variable {authority : Authority} {repository after : Repository} {artifacts : ArtifactStore}

theorem authoritativeParent_ok {found : Option Run} {parent : Run} {configRevisionId : String} {input : ParentInput}
    (ok : authoritativeParent request found = .ok (parent,configRevisionId,input)) :
    found = some parent ∧ parent.projectId = request.projectId ∧ request.snapshot.configRevisionId = configRevisionId := by
  unfold authoritativeParent at ok
  cases found with
  | none => cases ok
  | some run =>
    dsimp only at ok
    cases revision : run.configRevisionId with
    | none =>
      rw [revision] at ok
      cases ok
    | some id =>
      rw [revision] at ok
      dsimp only at ok
      split at ok
      · cases ok
      rename_i runnable
      split at ok
      · cases ok
      rename_i binding
      cases parsed : parentInput run.input with
      | none =>
        rw [parsed] at ok
        cases ok
      | some input =>
        rw [parsed] at ok
        dsimp only at ok
        split at ok
        · cases ok
        · cases ok
          simp only [not_or,Decidable.not_not] at runnable binding
          exact ⟨rfl,runnable.2.1,binding.2⟩

theorem boundChild_ok {child : Run} : boundChild request child = .ok () ↔
    child.id = request.childRunId ∧ child.projectId = request.projectId ∧ child.pipeline = "feature" := by
  unfold boundChild
  split
  · rename_i wrong
    simp only [reduceCtorEq,false_iff]
    tauto
  · rename_i right
    simp only [true_iff]
    tauto

theorem ensureMatches_ok {message : String} {snapshots : List ConfigSnapshot} : ensureMatches request message snapshots = .ok () ↔
      ∃ snapshot, snapshots = [snapshot] ∧ snapshotMatches snapshot request.snapshot request.childRunId = true := by
  unfold ensureMatches
  split
  · split <;> simp_all
  · rename_i other
    simp only [reduceCtorEq,false_iff]
    rintro ⟨snapshot,same,_⟩
    exact other snapshot same

theorem childSnapshot_matches (now : Instant) :
    snapshotMatches (childSnapshot request now) request.snapshot request.childRunId = true := by
  simp [snapshotMatches,childSnapshot]

/-! ### Listings -/

variable {snapshot : ConfigSnapshot} {limit : Nat} {scope : ArtifactScope}

theorem listConfigSnapshots_set {runId : String}
    (fresh : repository.configSnapshots.get? snapshot.id = none) (other : snapshot.runId ≠ runId) :
    Repository.listConfigSnapshots {repository with configSnapshots := repository.configSnapshots.set snapshot.id snapshot}
      runId limit = repository.listConfigSnapshots runId limit := by
  unfold Repository.listConfigSnapshots
  dsimp only
  rw [values_set_new snapshot fresh,List.filter_append]
  simp [other]

theorem listConfigSnapshots_first (fresh : repository.configSnapshots.get? snapshot.id = none)
    (none : repository.listConfigSnapshots snapshot.runId 2 = []) :
    Repository.listConfigSnapshots {repository with configSnapshots := repository.configSnapshots.set snapshot.id snapshot}
      snapshot.runId 2 = [snapshot] := by
  have empty : repository.configSnapshots.values.filter (fun held => decide (held.runId = snapshot.runId)) = [] := by
    unfold Repository.listConfigSnapshots at none
    apply List.eq_nil_of_length_eq_zero
    have length := congrArg List.length none
    rw [List.length_take,List.length_insertionSort,List.length_nil] at length
    have two : boundedListLimit 2 = 2 := rfl
    rw [two] at length
    omega
  unfold Repository.listConfigSnapshots
  dsimp only
  rw [values_set_new snapshot fresh,List.filter_append,empty]
  simp [boundedListLimit,maxListLimit]

theorem list_set {artifact : Artifact} {slot : ArtifactSlot} {name : String}
    (fresh : artifacts.get? slot = none) (other : artifact.toArtifactScope ≠ scope) :
    ArtifactStore.list (OrderedMap.set artifacts slot artifact) scope name limit = artifacts.list scope name limit := by
  unfold ArtifactStore.list
  rw [values_set_new artifact fresh,List.filter_append]
  simp [other]

theorem list_scope {name : String} {metadata : ArtifactMetadata}
    (inside : metadata ∈ (artifacts.list scope name limit).1) : metadata.toArtifactScope = scope := by
  unfold ArtifactStore.list at inside
  obtain ⟨artifact,taken,rfl⟩ := List.mem_map.mp inside
  have sorted := List.mem_of_mem_take taken
  rw [List.mem_insertionSort] at sorted
  have kept := (List.mem_filter.mp sorted).2
  rw [Bool.and_eq_true] at kept
  simpa using kept.1

/-! ### What keeps it -/

namespace Sound

theorem present (sound : Sound hash request authority repository artifacts) :
    repository.getRun request.parentRunId = some authority.parent := by
  rw [sound.others _ sound.apart]
  exact sound.parent

theorem parentId (sound : Sound hash request authority repository artifacts) : authority.parent.id = request.parentRunId :=
  repository.keyed _ _ sound.present

theorem setRun {run : Run} (sound : Sound hash request authority repository artifacts) (bound : boundChild request run = .ok ())
    (open_ : run.status ≠ .succeeded) (known : repository.runIdempotencyFingerprints.get? request.childRunId =
      some (runFingerprint (authority.child request))) : Sound hash request authority (repository.setRun run) artifacts := by
  have id := (boundChild_ok.mp bound).1
  have here : (repository.setRun run).getRun request.childRunId = some run := by
    rw [Repository.getRun_setRun,if_pos id.symm]
  refine {sound with others := ?_,child := ?_,reported := ?_}
  · intro other different
    rw [Repository.getRun_setRun,if_neg (by rw [id]; exact different)]
    exact sound.others other different
  · intro child found
    rw [here] at found
    cases found
    exact ⟨bound,known⟩
  · intro child found succeeded
    rw [here] at found
    cases found
    exact absurd succeeded open_

section
variable (sound : Sound hash request authority repository artifacts)
include sound

theorem transition {statuses : List RunStatus} {update : RunUpdate}
    {version : Option Nat} {answer : Option Run} {status : RunStatus} (moves : update.status = some status)
    (open_ : status ≠ .succeeded) (ok : repository.transitionRun request.childRunId statuses update version = .ok (answer,after)) :
    Sound hash request authority after artifacts := by
  rcases Repository.transitionRun_ok ok with ⟨_,rfl⟩ | ⟨current,moved,found,_,rfl,_,rfl⟩
  · exact sound
  · obtain ⟨bound,known⟩ := sound.child current found
    apply sound.setRun _ _ known
    · exact bound
    · simpa [Repository.updated,moves] using open_

theorem fingerprinted (table : OrderedMap String Fingerprint) (known : ∀ child, repository.getRun request.childRunId = some child →
      table.get? request.childRunId = some (runFingerprint (authority.child request))) :
    Sound hash request authority {repository with runIdempotencyFingerprints := table} artifacts :=
  {sound with child := fun child found => ⟨(sound.child child found).1,known child found⟩}

theorem created {now : Instant} {child : Run} (ok : repository.createRunIdempotently
      (childRun request authority.parent authority.configRevisionId authority.input now)
      (runFingerprint (childRun request authority.parent authority.configRevisionId authority.input now)) =
        .ok (child,after)) : Sound hash request authority after artifacts ∧ boundChild request child = .ok () := by
  have fresh : boundChild request (childRun request authority.parent authority.configRevisionId authority.input now) = .ok () :=
    boundChild_ok.mpr ⟨rfl,(authoritativeParent_ok sound.accepted).2.1,rfl⟩
  have named : repository.runs.get? (childRun request authority.parent authority.configRevisionId authority.input now).id =
      repository.getRun request.childRunId := rfl
  unfold Repository.createRunIdempotently at ok
  rw [named] at ok
  cases found : repository.getRun request.childRunId with
  | some existing =>
    rw [found] at ok
    dsimp only at ok
    split at ok
    · cases ok
    · cases ok
      exact ⟨sound,(sound.child _ found).1⟩
  | none =>
    rw [found] at ok
    dsimp only at ok
    split at ok
    · cases ok
    split at ok
    · cases ok
    · cases ok
      have known := sound.fingerprinted (repository.runIdempotencyFingerprints.set request.childRunId
        (runFingerprint (authority.child request))) (by
          intro child held
          rw [found] at held
          cases held)
      refine ⟨known.setRun fresh (by intro impossible; cases impossible) ?_,fresh⟩
      exact (get?_set _ _ _ _).trans (if_pos rfl)

theorem created_ok (now : Instant) : ∃ child after, repository.createRunIdempotently
        (childRun request authority.parent authority.configRevisionId authority.input now)
        (runFingerprint (childRun request authority.parent authority.configRevisionId authority.input now)) =
          .ok (child,after) ∧ after.getRun request.childRunId = some child ∧ (repository.getRun request.childRunId = some child ∨
        repository.getRun request.childRunId = none ∧ child.status = .pending) := by
  have named : repository.runs.get? (childRun request authority.parent authority.configRevisionId authority.input now).id =
      repository.getRun request.childRunId := rfl
  unfold Repository.createRunIdempotently
  rw [named]
  cases found : repository.getRun request.childRunId with
  | some existing =>
    have known := (sound.child existing found).2
    refine ⟨existing,repository,?_,found,.inl rfl⟩
    exact if_neg (Decidable.not_not.mpr known)
  | none =>
    have project := sound.project
    have revision := sound.revision
    rw [← Option.not_isNone,Bool.not_eq_true'] at project revision
    simp only [childRun,project,Option.filter,revision]
    refine ⟨_,_,rfl,?_,.inr ⟨trivial,rfl⟩⟩
    exact (get?_set _ _ _ _).trans (if_pos rfl)

theorem snapshotted_ok (now : Instant) {child : Run} (found : repository.getRun request.childRunId = some child)
    (empty : repository.listConfigSnapshots request.childRunId 2 = []) :
    ∃ after, repository.createConfigSnapshot (childSnapshot request now) = .ok (childSnapshot request now,after) ∧
      after.runs = repository.runs := by
  have free : repository.configSnapshots.get? (childSnapshot request now).id = none := by
    rcases sound.prepared with ⟨_,free⟩ | ⟨kept,_⟩
    · exact free
    · rw [empty] at kept
      cases kept
  have revision := sound.revision
  rw [← (authoritativeParent_ok sound.accepted).2.2] at revision
  have present : (repository.runs.get? (childSnapshot request now).runId).isNone = false := by
    change (repository.getRun request.childRunId).isNone = false
    rw [found]
    rfl
  have known : (repository.configRevisions.get? (childSnapshot request now).configRevisionId).isNone = false := by
    change (repository.configRevisions.get? request.snapshot.configRevisionId).isNone = false
    rw [← Option.not_isNone,Bool.not_eq_true'] at revision
    exact revision
  unfold Repository.createConfigSnapshot
  rw [present,known,free]
  exact ⟨_,rfl,rfl⟩

theorem snapshotted {now : Instant} {snapshot : ConfigSnapshot}
    (ok : repository.createConfigSnapshot (childSnapshot request now) = .ok (snapshot,after)) :
    Sound hash request authority after artifacts := by
  unfold Repository.createConfigSnapshot at ok
  split at ok
  · cases ok
  split at ok
  · cases ok
  split at ok
  · cases ok
  rename_i free
  cases ok
  have fresh : repository.configSnapshots.get? (childSnapshot request now).id = none := by simpa using free
  rcases sound.prepared with ⟨none,_⟩ | ⟨_,taken⟩
  · refine {sound with snapshots := ?_,prepared := .inr ⟨?_,?_⟩}
    · rw [listConfigSnapshots_set fresh]
      · exact sound.snapshots
      · rw [sound.parentId]
        exact sound.apart.symm
    · rw [ensureMatches_ok]
      exact ⟨_,listConfigSnapshots_first fresh none,childSnapshot_matches now⟩
    · change (OrderedMap.get? (OrderedMap.set _ _ _) _).isSome
      rw [get?_set,if_pos (show (childSnapshot request 0).id = (childSnapshot request now).id from rfl)]
      rfl
  · change (repository.configSnapshots.get? (childSnapshot request now).id).isSome at taken
    rw [fresh] at taken
    cases taken

end

theorem prepared_again {prepared : Artifact} {now : Instant}
    (ok : ArtifactStore.prepareArtifactPut hash (bundleCopy request authority.source) now = .ok prepared) :
    ∃ first, ArtifactStore.prepareArtifactPut hash (bundleCopy request authority.source) 0 = .ok first ∧
      prepared.toArtifactSlot = (bundleCopy request authority.source).slot ∧
      ArtifactStore.equivalent prepared.toArtifactMetadata first.toArtifactMetadata = true := by
  unfold ArtifactStore.prepareArtifactPut at ok ⊢
  dsimp only at ok ⊢
  split at ok
  · cases ok
  split at ok
  · cases ok
  rename_i fits same
  rw [if_neg fits,if_neg same]
  split at ok
  · cases ok
  · cases ok
    exact ⟨_,rfl,rfl,by simp [ArtifactStore.equivalent]⟩

variable {metadata : ArtifactMetadata}

theorem stored_copy (sound : Sound hash request authority repository artifacts) {now : Instant}
    {next : ArtifactStore} (ok : artifacts.put hash (bundleCopy request authority.source) now = .ok (metadata,next)) :
    Sound hash request authority repository next := by
  unfold ArtifactStore.put at ok
  cases preparing : ArtifactStore.prepareArtifactPut hash (bundleCopy request authority.source) now with
  | error fault => simp [preparing,bind,Except.bind] at ok
  | ok prepared =>
    simp only [preparing,bind,Except.bind] at ok
    obtain ⟨first,firstly,slot,same⟩ := prepared_again preparing
    split at ok
    · rename_i fresh
      cases ok
      have scope : prepared.toArtifactScope = sourceScope request.projectId request.childRunId :=
        congrArg ArtifactSlot.toArtifactScope slot
      have elsewhere : prepared.toArtifactScope ≠ sourceScope request.projectId request.parentRunId := by
        rw [scope]
        intro equal
        exact sound.apart (congrArg ArtifactScope.runId equal).symm
      have bundleScope : authority.bundle.toArtifactScope = sourceScope request.projectId request.parentRunId := by
        have inside : authority.bundle ∈ (artifacts.list (sourceScope request.projectId request.parentRunId) "bundle" 2).1 := by
          rw [sound.listed]
          exact List.mem_singleton_self _
        exact list_scope inside
      refine {sound with listed := ?_,stored := ?_,copied := ?_,reported := ?_}
      · rw [list_set fresh elsewhere]
        exact sound.listed
      · unfold ArtifactStore.read
        rw [get?_set,if_neg]
        · exact sound.stored
        · intro equal
          exact elsewhere ((congrArg ArtifactSlot.toArtifactScope (slot.trans equal.symm)).trans bundleScope)
      · intro copy held
        rw [get?_set,if_pos rfl] at held
        cases held
        exact ⟨first,firstly,same⟩
      · intro child found succeeded
        rw [list_set fresh]
        · exact sound.reported child found succeeded
        · rw [scope]
          intro equal
          have steps := congrArg ArtifactScope.stepId equal
          simp [sourceScope,verificationScope] at steps
    · split at ok <;> cases ok
      exact sound

theorem read_digest {store : ArtifactStore} {limit : Option Nat} {found : Artifact}
    (ok : store.read hash metadata limit = .ok (some found)) : hash found.bytes = found.digest := by
  unfold ArtifactStore.read at ok
  split at ok
  · cases ok
  split at ok
  · cases ok
  split at ok
  · cases ok
  · rename_i same
    cases ok
    exact Decidable.not_not.mp same

theorem put_answers (sound : Sound hash request authority repository artifacts) (now : Instant) :
    ∃ metadata next, artifacts.put hash (bundleCopy request authority.source) now = .ok (metadata,next) := by
  have digest := read_digest sound.stored
  have fits : ¬ (bundleCopy request authority.source).bytes.utf8ByteSize > DEFAULT_ARTIFACT_MAX_BYTES :=
    Nat.not_lt.mpr sound.small
  have given : ¬ (bundleCopy request authority.source).digest.any
      (· ≠ hash (bundleCopy request authority.source).bytes) = true := by
    simp [bundleCopy,digest]
  have preparing : ∃ prepared, ArtifactStore.prepareArtifactPut hash (bundleCopy request authority.source) now = .ok prepared := by
    unfold ArtifactStore.prepareArtifactPut
    dsimp only
    rw [if_neg fits,if_neg given]
    exact ⟨_,rfl⟩
  obtain ⟨prepared,preparing⟩ := preparing
  obtain ⟨first,firstly,_,same⟩ := prepared_again preparing
  unfold ArtifactStore.put
  simp only [preparing,bind,Except.bind]
  cases held : artifacts.get? (bundleCopy request authority.source).slot with
  | none => exact ⟨_,_,rfl⟩
  | some existing =>
    obtain ⟨other,otherwise,equal⟩ := sound.copied existing held
    rw [firstly] at otherwise
    cases otherwise
    have alike : ArtifactStore.equivalent existing.toArtifactMetadata prepared.toArtifactMetadata = true := by
      unfold ArtifactStore.equivalent at equal same ⊢
      simp only [Bool.and_eq_true,decide_eq_true_eq] at equal same ⊢
      obtain ⟨⟨⟨a,b⟩,c⟩,d⟩ := equal
      obtain ⟨⟨⟨e,f⟩,g⟩,h⟩ := same
      exact ⟨⟨⟨a.trans e.symm,b.trans f.symm⟩,c.trans g.symm⟩,d.trans h.symm⟩
    simp only [alike]
    exact ⟨_,_,rfl⟩

end Sound

/-! ### The feature task -/

/-- What a feature task does is to its own run: it leaves other runs, configurations
and source bundles alone, and a run that succeeded has its trusted report. -/
structure OwnWork (request : GoalStepRequest) (before after : World) : Prop where
  others : ∀ id, id ≠ request.childRunId → after.repository.getRun id = before.repository.getRun id
  child : ∀ child, after.repository.getRun request.childRunId = some child → ∃ was,
    before.repository.getRun request.childRunId = some was ∧ child.projectId = was.projectId ∧ child.pipeline = was.pipeline
  projects : after.repository.projects = before.repository.projects
  revisions : after.repository.configRevisions = before.repository.configRevisions
  snapshots : after.repository.configSnapshots = before.repository.configSnapshots
  fingerprints : after.repository.runIdempotencyFingerprints = before.repository.runIdempotencyFingerprints
  sources : ∀ projectId runId name limit, after.artifacts.list (sourceScope projectId runId) name limit =
    before.artifacts.list (sourceScope projectId runId) name limit
  copies : ∀ slot : ArtifactSlot, slot.stepId = "source" → after.artifacts.get? slot = before.artifacts.get? slot
  reported : (∀ child, before.repository.getRun request.childRunId = some child → child.status = .succeeded →
      ∃ artifact, trustedReport (before.artifacts.list (verificationScope request) "trusted-test-report" 2) = .ok artifact) →
    ∀ child, after.repository.getRun request.childRunId = some child → child.status = .succeeded →
      ∃ artifact, trustedReport (after.artifacts.list (verificationScope request) "trusted-test-report" 2) = .ok artifact

/-- The feature task works on its own run, and undisturbed it ends a run it is given. -/
structure Works (request : GoalStepRequest) (featureTask : Environment → String → Action Unit) : Prop where
  own : ∀ env, (featureTask env request.childRunId).Takes (OwnWork request)
  ends : ∀ env world child, Steady env → world.repository.getRun request.childRunId = some child → child.status = .running →
    (featureTask env request.childRunId).Leads world fun answer after => answer = .ok () ∧
      ∃ child, after.repository.getRun request.childRunId = some child ∧ isTerminalRun child.status = true

/-- `Sound` of a world. -/
def Stands (hash : String → String) (request : GoalStepRequest) (authority : Authority) (world : World) : Prop :=
  Sound hash request authority world.repository world.artifacts

theorem Stands.worked {before after : World} (stands : Stands hash request authority before) (work : OwnWork request before after) :
    Stands hash request authority after := by
  have sound : Sound hash request authority before.repository before.artifacts := stands
  have bundleStep : authority.bundle.stepId = "source" := by
    have inside : authority.bundle ∈
        (before.artifacts.list (sourceScope request.projectId request.parentRunId) "bundle" 2).1 := by
      rw [sound.listed]
      exact List.mem_singleton_self _
    exact congrArg ArtifactScope.stepId (list_scope inside)
  have sameList : ∀ runId limit, after.repository.listConfigSnapshots runId limit =
      before.repository.listConfigSnapshots runId limit := by
    intro runId limit
    unfold Repository.listConfigSnapshots
    rw [work.snapshots]
  refine {sound with
    others := ?_,snapshots := ?_,project := ?_,revision := ?_,listed := ?_,stored := ?_,child := ?_,prepared := ?_
    copied := ?_,reported := work.reported sound.reported}
  · intro id different
    rw [work.others id different]
    exact sound.others id different
  · rw [sameList]
    exact sound.snapshots
  · rw [work.projects]
    exact sound.project
  · rw [work.revisions]
    exact sound.revision
  · rw [work.sources]
    exact sound.listed
  · unfold ArtifactStore.read
    rw [work.copies _ bundleStep]
    exact sound.stored
  · intro child found
    obtain ⟨was,here,project,pipeline⟩ := work.child child found
    obtain ⟨bound,known⟩ := sound.child was here
    obtain ⟨_,wasProject,wasPipeline⟩ := boundChild_ok.mp bound
    refine ⟨boundChild_ok.mpr ⟨after.repository.keyed _ _ found,project.trans wasProject,pipeline.trans wasPipeline⟩,?_⟩
    rw [work.fingerprints]
    exact known
  · rw [sameList,work.snapshots]
    exact sound.prepared
  · intro copy held
    rw [work.copies _ rfl] at held
    exact sound.copied copy held

/-! ### Every step keeps it -/

section
variable {env : Environment} {url : UrlFormat} {featureTask : Environment → String → Action Unit}

theorem passed (world : World) (stands : Stands hash request authority world) : Stands hash request authority world.ticked := stands

theorem reads {α : Type} (read : Repository → α) : (readRepository env read).Within (Stands hash request authority) fun _ => True :=
  within_readRepository passed fun _ _ => trivial

theorem terminalStepResult_within (child : Run) :
    (terminalStepResult env request url child).Within (Stands hash request authority) fun _ => True := by
  unfold terminalStepResult
  split
  · exact .bind (within_readArtifacts passed fun _ _ _ _ => trivial) fun _ _ =>
      .bind (within_settle fun _ _ => trivial) fun _ _ => within_pure trivial
  · exact within_pure trivial

theorem copySourceBundle_within (hashed : env.sha256 = hash) :
    (copySourceBundle env request).Within (Stands hash request authority) fun _ => True := by
  subst hashed
  have listing : (readArtifacts env fun store =>
      (.ok (store.list (sourceScope request.projectId request.parentRunId) "bundle" 2) : Except Fault _)).Within
      (Stands env.sha256 request authority) fun listed => listed = ([authority.bundle],false) := by
    apply within_readArtifacts passed
    intro world listed stands answered
    cases answered
    exact stands.listed
  refine .bind listing fun listed here => ?_
  subst here
  have bound : (Routine.settle (sourceBundle ([authority.bundle],false)) : Action ArtifactMetadata).Within
      (Stands env.sha256 request authority) fun metadata => metadata = authority.bundle := by
    intro world stands
    refine ⟨stands,fun metadata same => ?_⟩
    rw [stands.bound] at same
    cases same
    rfl
  refine .bind bound fun metadata same => ?_
  subst same
  have reading : (readArtifacts env fun store => store.read env.sha256 authority.bundle (some authority.bundle.sizeBytes)).Within
      (Stands env.sha256 request authority) fun stored => stored = some authority.source := by
    apply within_readArtifacts passed
    intro world stored stands answered
    rw [stands.stored] at answered
    cases answered
    rfl
  refine .bind reading fun stored same => ?_
  subst same
  have valued : (Routine.settle (availableBundle authority.bundle (some authority.source)) : Action Artifact).Within
      (Stands env.sha256 request authority) fun value => value = authority.source := by
    intro world stands
    refine ⟨stands,fun value same => ?_⟩
    rw [stands.available] at same
    cases same
    rfl
  refine .bind valued fun value same => ?_
  subst same
  exact within_storeArtifact passed fun _ _ _ _ stands ok => ⟨stands.stored_copy ok,trivial⟩

theorem ensureChildSnapshot_within : (ensureChildSnapshot env request).Within (Stands hash request authority) fun _ => True := by
  refine .bind (reads _) fun snapshots _ => ?_
  split
  · have creating : (repository env fun now repository => repository.createConfigSnapshot (childSnapshot request now)).Within
        (Stands hash request authority) fun _ => True :=
      within_repository passed fun _ _ _ _ stands ok => ⟨stands.snapshotted ok,trivial⟩
    refine .bind creating.outcome fun answer _ => ?_
    cases answer with
    | ok _ => exact within_pure trivial
    | error _ => exact .bind (reads _) fun _ _ => within_settle fun _ _ => trivial
  · exact within_settle fun _ _ => trivial

theorem claimChild_within {child : Run} (bound : boundChild request child = .ok ()) :
    (claimChild env child).Within (Stands hash request authority) fun _ => True := by
  unfold claimChild
  rw [(boundChild_ok.mp bound).1]
  split
  · exact within_repository passed fun _ _ _ _ stands ok => ⟨stands.transition rfl (by decide) ok,trivial⟩
  · exact within_pure trivial

theorem concurrentResult_within (child : Run) :
    (concurrentResult env request url child).Within (Stands hash request authority) fun _ => True := by
  refine .bind (reads _) fun found _ => ?_
  cases found with
  | none => exact within_throw _
  | some concurrent =>
    dsimp only
    split
    · exact terminalStepResult_within concurrent
    · exact within_throw _

theorem releaseChild_within {child : Run} (bound : boundChild request child = .ok ()) :
    (releaseChild env child).Within (Stands hash request authority) fun _ => True := by
  unfold releaseChild
  rw [(boundChild_ok.mp bound).1]
  have reading : (readRepository env fun repository => repository.getRun request.childRunId).Within
      (Stands hash request authority) fun found => ∀ active, found = some active → active.id = request.childRunId :=
    within_readRepository passed fun world _ active found => world.repository.keyed _ _ found
  refine .bind reading fun found named => ?_
  cases found with
  | none => exact within_pure trivial
  | some active =>
    dsimp only
    rw [named active rfl]
    split
    · exact .bind (within_repository passed fun _ _ _ _ stands ok => ⟨stands.transition rfl (by decide) ok,trivial⟩)
        fun _ _ => within_pure trivial
    · exact within_pure trivial

section
variable (works : Works request featureTask)
include works

theorem featureTask_within : (featureTask env request.childRunId).Within (Stands hash request authority) fun _ => True :=
  ((works.own env).mono fun _ _ work stands => Stands.worked stands work).within

theorem executeChild_within (hashed : env.sha256 = hash) {child : Run} (bound : boundChild request child = .ok ()) :
    (executeChild env request url (featureTask env) child).Within (Stands hash request authority) fun _ => True := by
  have executing : (do
      let _ ← copySourceBundle env request
      featureTask env request.childRunId : Action Unit).Within (Stands hash request authority) fun _ => True :=
    (copySourceBundle_within hashed).bind fun _ _ => featureTask_within works
  refine .bind executing.outcome fun answer _ => ?_
  cases answer with
  | error fault => exact (releaseChild_within bound).bind fun _ _ => within_throw _
  | ok _ =>
    refine .bind (reads _) fun found _ => ?_
    cases found with
    | none => exact within_throw _
    | some completed =>
      dsimp only
      split
      · exact terminalStepResult_within completed
      · exact within_throw _

theorem runChild_within (hashed : env.sha256 = hash) {child : Run} (bound : boundChild request child = .ok ()) :
    (runChild env request url (featureTask env) child).Within (Stands hash request authority) fun _ => True := by
  refine .bind (within_settle fun _ _ => trivial) fun _ _ => .bind ensureChildSnapshot_within fun _ _ => ?_
  split
  · exact terminalStepResult_within child
  · refine .bind (claimChild_within bound) fun claimed _ => ?_
    cases claimed with
    | none => exact concurrentResult_within child
    | some _ => exact executeChild_within works hashed bound

theorem run_within (hashed : env.sha256 = hash) :
    (run env request url (featureTask env)).Within (Stands hash request authority) fun _ => True := by
  refine .bind (within_settle fun _ _ => trivial) fun _ _ => ?_
  have reading : (readRepository env fun repository => repository.getRun request.parentRunId).Within
      (Stands hash request authority) fun found => found = some authority.parent :=
    within_readRepository passed fun _ stands => stands.present
  refine .bind reading fun found same => ?_
  subst same
  have authorized : (Routine.settle (authoritativeParent request (some authority.parent)) : Action _).Within
      (Stands hash request authority) fun answer =>
        answer = (authority.parent,authority.configRevisionId,authority.input) := by
    intro world stands
    refine ⟨stands,fun answer same => ?_⟩
    rw [stands.accepted] at same
    cases same
    rfl
  refine .bind authorized fun answer same => ?_
  subst same
  refine .bind (reads _) fun _ _ => .bind (within_settle fun _ _ => trivial) fun _ _ =>
    .bind (within_now passed) fun createdAt _ => ?_
  have creating : (repository env fun _ repository => repository.createRunIdempotently
      (childRun request authority.parent authority.configRevisionId authority.input createdAt)
      (runFingerprint (childRun request authority.parent authority.configRevisionId authority.input createdAt))).Within
      (Stands hash request authority) fun child => boundChild request child = .ok () :=
    within_repository passed fun _ _ _ _ stands ok => stands.created ok
  exact .bind creating fun child bound => runChild_within works hashed bound

end

/-! ### A call that nobody disturbs -/

def Finishes (request : GoalStepRequest) (answer : Except Fault GoalStepResult) (after : World) : Prop :=
  ∃ child result, after.repository.getRun request.childRunId = some child ∧ isTerminalRun child.status = true ∧
    answer = .ok result ∧ result.childRunId = request.childRunId ∧ result.status = terminalStatus child.status

variable {world : World} {child : Run}

theorem terminalStepResult_leads (steady : Steady env) (stands : Stands hash request authority world)
    (found : world.repository.getRun request.childRunId = some child) (ended : isTerminalRun child.status = true) :
    (terminalStepResult env request url child).Leads world (Finishes request) := by
  unfold terminalStepResult
  split
  · rename_i succeeded
    have status : child.status = .succeeded := by
      cases stored : child.status <;> rw [stored] at succeeded <;> simp [terminalStatus] at succeeded
    obtain ⟨artifact,report⟩ := stands.reported child found status
    refine leads_readArtifacts steady rfl (leads_settled (fun held same => ?_) fun error failed => ?_)
    · exact ⟨child,_,found,ended,rfl,rfl,rfl⟩
    · rw [report] at failed
      cases failed
  · exact ⟨child,_,found,ended,rfl,rfl,rfl⟩

theorem copySourceBundle_leads (hashed : env.sha256 = hash) (steady : Steady env) (stands : Stands hash request authority world) :
    (copySourceBundle env request).Leads world fun answer after => answer.isOk = true ∧ after.repository = world.repository := by
  subst hashed
  refine leads_readArtifacts steady (congrArg Except.ok stands.listed) ?_
  refine leads_settled (fun metadata same => ?_) fun error failed => ?_
  · rw [stands.bound] at same
    cases same
    refine leads_readArtifacts steady stands.stored (leads_settled (fun value same => ?_) fun error failed => ?_)
    · rw [stands.available] at same
      cases same
      obtain ⟨metadata,next,put⟩ := Sound.put_answers stands (env.clock (world.ticked.ticked).tick)
      unfold Leads
      rw [exec_storeArtifact steady put]
      exact ⟨rfl,rfl⟩
    · rw [stands.available] at failed
      cases failed
  · rw [stands.bound] at failed
    cases failed

theorem ensureChildSnapshot_leads (steady : Steady env) (stands : Stands hash request authority world)
    (found : world.repository.getRun request.childRunId = some child) :
    (ensureChildSnapshot env request).Leads world fun answer after => answer = .ok () ∧
      after.repository.getRun request.childRunId = some child := by
  unfold ensureChildSnapshot
  apply leads_readRepository steady
  split
  · rename_i none
    obtain ⟨next,created,runs⟩ := Sound.snapshotted_ok stands (env.clock world.ticked.tick) found none
    have creating : (AgentOS.Action.repository env fun now repository =>
        repository.createConfigSnapshot (childSnapshot request now)).Leads world.ticked fun answer after =>
          answer.isOk = true ∧ after.repository.runs = world.repository.runs := by
      unfold Leads
      rw [exec_repository steady created]
      exact ⟨rfl,runs⟩
    refine leads_bind creating.outcome (fun ended after held => ?_) fun error after impossible => ?_
    · obtain ⟨answer,same,ok,kept⟩ := held
      cases same
      cases ended with
      | ok snapshot =>
        refine ⟨rfl,?_⟩
        change after.repository.runs.get? request.childRunId = some child
        rw [kept]
        exact found
      | error fault => cases ok
    · obtain ⟨_,same,_⟩ := impossible
      cases same
  · rename_i some
    have matched : ensureMatches request "goal child config snapshot conflicts with its parent"
        (world.repository.listConfigSnapshots request.childRunId 2) = .ok () := by
      rcases stands.prepared with ⟨none,_⟩ | ⟨kept,_⟩
      · exact absurd none some
      · exact ensureMatches_ok.mpr (ensureMatches_ok.mp kept)
    rw [matched]
    exact ⟨rfl,found⟩

def Claimed (request : GoalStepRequest) (repository : Repository) : Prop :=
  ∃ child, repository.getRun request.childRunId = some child ∧ (child.status = .running ∨ child.status = .waiting)

theorem executeChild_leads (works : Works request featureTask) (hashed : env.sha256 = hash) (steady : Steady env)
    (stands : Stands hash request authority world) (found : world.repository.getRun request.childRunId = some child)
    (running : child.status = .running) {claimed : Run} :
    (executeChild env request url (featureTask env) claimed).Leads world (Finishes request) := by
  let Ended (answer : Except Fault Unit) (after : World) : Prop := answer = .ok () ∧ Stands hash request authority after ∧
    ∃ child, after.repository.getRun request.childRunId = some child ∧ isTerminalRun child.status = true
  have executing : (do
      let _ ← copySourceBundle env request
      featureTask env request.childRunId : Action Unit).Leads world Ended := by
    have copying : (copySourceBundle env request).Leads world fun answer after => answer.isOk = true ∧
        after.repository = world.repository ∧ Stands hash request authority after := by
      obtain ⟨ok,kept⟩ := copySourceBundle_leads hashed steady stands
      exact ⟨ok,kept,(copySourceBundle_within hashed).exec stands⟩
    refine leads_bind copying (fun _ after held => ?_) fun error after held => ?_
    · obtain ⟨_,kept,stood⟩ := held
      have here : after.repository.getRun request.childRunId = some child := by
        rw [kept]
        exact found
      obtain ⟨ok,ended⟩ := works.ends env after child steady here running
      exact ⟨ok,(featureTask_within works).exec stood,ended⟩
    · cases held.1
  refine leads_bind executing.outcome (fun answer after held => ?_) fun error after impossible => ?_
  · obtain ⟨_,same,ok,stood,completed,here,ended⟩ := held
    cases same
    subst ok
    apply leads_readRepository steady
    rw [here]
    dsimp only
    rw [if_pos ended]
    exact terminalStepResult_leads steady stood here ended
  · obtain ⟨_,same,_⟩ := impossible
    cases same

theorem claimChild_leads (steady : Steady env) (found : world.repository.getRun request.childRunId = some child)
    (pending : child.status = .pending) : (claimChild env child).Leads world fun answer after =>
      ∃ claimed, answer = .ok (some claimed) ∧ after.repository.getRun request.childRunId = some claimed ∧
        claimed.status = .running := by
  have id := world.repository.keyed _ _ found
  have here : world.repository.runs.get? child.id = some child := by
    rw [id]
    exact found
  unfold claimChild
  rw [if_pos pending]
  let claimed : Run := {Repository.updated child {status := some .running,updatedAt := env.clock world.tick} with
    stateVersion := child.stateVersion + 1}
  have moves : world.repository.transitionRun child.id [.pending]
      {status := some .running,updatedAt := env.clock world.tick} (some child.stateVersion) =
        .ok (some claimed,world.repository.setRun claimed) := by
    unfold Repository.transitionRun Repository.requireRun
    simp [here,pending,bind,Except.bind,claimed]
  unfold Leads
  rw [exec_repository steady moves]
  refine ⟨claimed,rfl,?_,rfl⟩
  exact (Repository.getRun_setRun _ _ _).trans (if_pos id.symm)

section
variable (works : Works request featureTask) (hashed : env.sha256 = hash) (steady : Steady env)
include works hashed steady

theorem runChild_leads (stands : Stands hash request authority world) (found : world.repository.getRun request.childRunId = some child) :
    (runChild env request url (featureTask env) child).Leads world fun answer after =>
      (child.status = .running ∨ child.status = .waiting →
        answer = .error (.goalTransient "goal feature child execution is already in progress")) ∧
      (¬ (child.status = .running ∨ child.status = .waiting) → Finishes request answer after) := by
  have bound := (stands.child child found).1
  have preparing : (ensureChildSnapshot env request).Leads world fun answer after => answer = .ok () ∧
      after.repository.getRun request.childRunId = some child ∧ Stands hash request authority after := by
    obtain ⟨ok,kept⟩ := ensureChildSnapshot_leads steady stands found
    exact ⟨ok,kept,ensureChildSnapshot_within.exec stands⟩
  unfold runChild
  rw [bound]
  refine leads_settled (fun _ _ => leads_bind preparing (fun _ middle held => ?_) fun error after held => ?_)
    fun error failed => ?_
  · obtain ⟨_,here,stood⟩ := held
    by_cases ended : isTerminalRun child.status = true
    · rw [if_pos ended]
      have finishes := @terminalStepResult_leads _ _ _ env url _ _ steady stood here ended
      refine finishes.mono fun answer after done => ⟨fun open_ => ?_,fun _ => done⟩
      rcases open_ with open_ | open_ <;> simp [isTerminalRun,open_] at ended
    rw [if_neg ended]
    by_cases pending : child.status = .pending
    · have claiming : (claimChild env child).Leads middle fun answer after => ∃ claimed, answer = .ok (some claimed) ∧
          after.repository.getRun request.childRunId = some claimed ∧ claimed.status = .running ∧
          Stands hash request authority after := by
        obtain ⟨claimed,answer,kept,running⟩ := claimChild_leads steady here pending
        exact ⟨claimed,answer,kept,running,(claimChild_within bound).exec stood⟩
      refine leads_bind claiming (fun value after held => ?_) fun error after impossible => ?_
      · obtain ⟨claimed,same,kept,running,claimedStood⟩ := held
        cases same
        refine (executeChild_leads works hashed steady claimedStood kept running).mono fun answer after done =>
          ⟨fun open_ => ?_,fun _ => done⟩
        rw [pending] at open_
        rcases open_ with open_ | open_ <;> cases open_
      · obtain ⟨_,same,_⟩ := impossible
        cases same
    · have open_ : child.status = .running ∨ child.status = .waiting := by
        unfold isTerminalRun at ended
        cases status : child.status <;> rw [status] at ended pending <;> simp at ended pending ⊢
      have claiming : claimChild env child = pure none := if_neg pending
      rw [claiming,pure_bind]
      unfold concurrentResult
      rw [(boundChild_ok.mp bound).1]
      apply leads_readRepository steady
      rw [here]
      dsimp only
      rw [if_neg ended]
      exact ⟨fun _ => rfl,fun free => absurd open_ free⟩
  · cases held.1
  · cases failed

theorem run_leads (expected : expectedChild env request = .ok ()) (stands : Stands hash request authority world) :
    (run env request url (featureTask env)).Leads world fun answer after => (Claimed request world.repository →
        answer = .error (.goalTransient "goal feature child execution is already in progress")) ∧
      (¬ Claimed request world.repository → Finishes request answer after) := by
  unfold run
  rw [expected]
  refine leads_settled (fun _ _ => leads_readRepository steady ?_) fun _ failed => nomatch failed
  rw [stands.present,stands.accepted]
  refine leads_settled (fun found same => leads_readRepository steady ?_) fun _ failed => nomatch failed
  cases same
  have snapshots : authoritativeSnapshot request authority.parent
    (world.ticked.repository.listConfigSnapshots authority.parent.id 2) = .ok () := stands.snapshots
  dsimp only
  rw [snapshots]
  refine leads_settled (fun _ _ => leads_now ?_) fun _ failed => nomatch failed
  obtain ⟨child,next,created,here,origin⟩ := Sound.created_ok stands (env.clock world.ticked.ticked.tick)
  refine leads_repository steady created ?_
  have stood : Stands hash request authority {world.ticked.ticked.ticked.ticked with repository := next} :=
    (Sound.created stands created).1
  refine (runChild_leads works hashed steady stood here).mono fun answer after done => ?_
  have claimed : Claimed request world.repository ↔ child.status = .running ∨ child.status = .waiting := by
    constructor
    · rintro ⟨held,found,open_⟩
      rcases origin with found' | ⟨absent,_⟩
      · rw [found'] at found
        cases found
        exact open_
      · rw [absent] at found
        cases found
    · intro open_
      rcases origin with found | ⟨_,pending⟩
      · exact ⟨child,found,open_⟩
      · rw [pending] at open_
        rcases open_ with open_ | open_ <;> cases open_
  rw [claimed]
  exact done

end

end

/-! ### After any crashes -/

/-- What processes leave behind that began the step and died, each at any point. -/
inductive Crashed (hash : String → String) (request : GoalStepRequest) (featureTask : Environment → String → Action Unit)
    (initial : World) : World → Prop
  | begun : Crashed hash request featureTask initial initial
  | again {world : World} (earlier : Crashed hash request featureTask initial world) (env : Environment) (url : UrlFormat)
    (hashed : env.sha256 = hash) (steps : Nat) :
    Crashed hash request featureTask initial ((run env request url (featureTask env)).cut steps world)

section
variable {featureTask : Environment → String → Action Unit} {initial world : World}

theorem Crashed.stands (crashed : Crashed hash request featureTask initial world) (works : Works request featureTask)
    (stands : Stands hash request authority initial) : Stands hash request authority world := by
  induction crashed with
  | begun => exact stands
  | again _ env url hashed steps ih => exact (run_within works hashed).cut ih steps

/-- Begun again after any crashes, the step ends its child exactly when none of them
left it claimed. The goal has no other child, before and after. -/
theorem step_runs_again_iff (works : Works request featureTask) (stands : Stands hash request authority initial)
    (crashed : Crashed hash request featureTask initial world) {env : Environment} (hashed : env.sha256 = hash)
    (steady : Steady env) (expected : expectedChild env request = .ok ()) (url : UrlFormat) :
    ((run env request url (featureTask env)).Leads world (Finishes request) ↔ ¬ Claimed request world.repository) ∧
    (Claimed request world.repository → ((run env request url (featureTask env)).exec world).1 =
      .error (.goalTransient "goal feature child execution is already in progress")) ∧
    ∀ id, id ≠ request.childRunId → world.repository.getRun id = initial.repository.getRun id ∧
      ((run env request url (featureTask env)).exec world).2.repository.getRun id = initial.repository.getRun id := by
  have stood := crashed.stands works stands
  have later : Stands hash request authority ((run env request url (featureTask env)).exec world).2 :=
    (run_within works hashed).exec stood
  have led := @run_leads _ _ _ env url _ _ works hashed steady expected stood
  refine ⟨⟨fun finishes claimed => ?_,led.2⟩,led.1,fun id other => ?_⟩
  · obtain ⟨_,_,_,_,answered,_⟩ := finishes
    rw [led.1 claimed] at answered
    cases answered
  · rw [stood.others id other,Sound.others later id other,Sound.others stands id other]
    exact ⟨rfl,rfl⟩

end

/-! ### A goal of one step -/

def digest (char : Char) (length : Nat) : Json := .str (String.ofList (List.replicate length char))

def goalInput : Json := .obj [("idempotencyKey",.str "goal-1"),("title",.str "Search"),("description",.str "Add a search"),
  ("provenance",.obj [("repositorySha",digest 'a' 40),("configDigest",digest 'b' 64),("modelDigest",digest 'b' 64),
    ("promptDigest",digest 'b' 64),("environmentDigest",digest 'b' 64),("policyDigest",digest 'b' 64)]),
  ("criteria",.arr [.obj [("id",.str "found")]])]

def goalRun : Run where
  id := "goal-1"
  projectId := "project-1"
  pipeline := "goal"
  status := .running
  input := some goalInput
  createdAt := 0
  updatedAt := 0
  configRevisionId := some "revision-1"

def goalSnapshot : ConfigSnapshot :=
  {id := "snapshot-1",runId := "goal-1",configRevisionId := "revision-1",config := .obj [],createdAt := 0}

def goalBundle : Artifact where
  projectId := "project-1"
  runId := "goal-1"
  stepId := "source"
  artifactId := "bundle"
  version := 1
  digest := "files"
  mediaType := "application/json"
  sizeBytes := 5
  retentionClass := "source-bundle"
  createdAt := 0
  expiresAt := 0
  bytes := "files"

def goalWorld : World where
  repository := {({} : Repository).setRun goalRun with
    projects := OrderedMap.empty.set "project-1" {id := "project-1",name := "Project",createdAt := 0,updatedAt := 0}
    configRevisions := OrderedMap.empty.set "revision-1"
      {id := "revision-1",projectId := "project-1",revision := 1,config := .obj [],createdAt := 0}
    configSnapshots := OrderedMap.empty.set "snapshot-1" goalSnapshot}
  artifacts := OrderedMap.empty.set goalBundle.toArtifactSlot goalBundle

def firstStep : GoalStepRequest where
  parentRunId := "goal-1"
  projectId := "project-1"
  childRunId := "goal-child-goal-1\x001"
  step := 1
  criteria := [.obj [("id",.str "found")]]
  snapshot := goalSnapshot

def failingTask (env : Environment) (runId : String) : Action Unit := do
  let _ ← Action.repository env fun now repository =>
    repository.transitionRun runId [.running,.waiting] {status := some .failed,updatedAt := now} none
  pure ()

theorem OwnWork.nothing {before after : World} (repository : after.repository = before.repository)
    (artifacts : after.artifacts = before.artifacts) : OwnWork request before after := by
  refine ⟨?_,?_,?_,?_,?_,?_,?_,?_,?_⟩ <;> simp only [repository,artifacts,implies_true]
  · exact fun child found => ⟨child,found,rfl,rfl⟩
  · exact fun reported => reported

theorem failingTask_works : Works request failingTask := by
  refine ⟨fun env => ?_,fun env world child steady found running => ?_⟩
  · refine Takes.bind (takes_repository (fun _ => .nothing rfl rfl) ?_) fun _ => takes_pure _
    intro now world answer next ok
    rcases Repository.transitionRun_ok ok with ⟨_,rfl⟩ | ⟨current,moved,found,_,same,_,rfl⟩
    · exact .nothing rfl rfl
    have named := world.repository.keyed _ _ found
    have id : moved.id = request.childRunId := by
      rw [same]
      exact named
    have here : (world.repository.setRun moved).getRun request.childRunId = some moved :=
      (Repository.getRun_setRun _ _ _).trans (if_pos id.symm)
    refine ⟨?_,?_,rfl,rfl,rfl,rfl,fun _ _ _ _ => rfl,fun _ _ => rfl,?_⟩
    · intro other different
      rw [← id] at different
      exact (Repository.getRun_setRun _ _ _).trans (if_neg different)
    · intro child held
      rw [here] at held
      cases held
      rw [same]
      exact ⟨current,found,rfl,rfl⟩
    · intro _ child held succeeded
      rw [here] at held
      cases held
      rw [same] at succeeded
      cases succeeded
  · have id := world.repository.keyed _ _ found
    let ended : Run := {Repository.updated child {status := some .failed,updatedAt := env.clock world.tick} with
      stateVersion := child.stateVersion + 1}
    have here : world.repository.runs.get? request.childRunId = some child := found
    have moves : world.repository.transitionRun request.childRunId [.running,.waiting]
        {status := some .failed,updatedAt := env.clock world.tick} none =
          .ok (some ended,world.repository.setRun ended) := by
      unfold Repository.transitionRun Repository.requireRun
      simp [here,running,bind,Except.bind,ended]
    refine leads_repository steady moves ⟨rfl,ended,?_,rfl⟩
    exact (Repository.getRun_setRun _ _ _).trans (if_pos id.symm)

def goalAuthority : Authority where
  others := goalWorld.repository.getRun
  parent := goalRun
  configRevisionId := "revision-1"
  input := (parentInput (some goalInput)).getD {title := "",description := "",provenance := .null,criteria := []}
  bundle := goalBundle.toArtifactMetadata
  source := goalBundle

theorem goalWorld_stands : Stands id firstStep goalAuthority goalWorld := by
  have absent : goalWorld.repository.getRun firstStep.childRunId = none := by decide +kernel
  refine ⟨fun _ _ => rfl,by decide,by decide +kernel,?_,by decide +kernel,by decide +kernel,by decide +kernel,
    by decide +kernel,by decide +kernel,by decide +kernel,by decide +kernel,by decide +kernel,?_,?_,?_,?_⟩
  · rfl
  · intro child found
    rw [absent] at found
    cases found
  · exact .inl ⟨by decide +kernel,by decide +kernel⟩
  · intro copy held
    have free : goalWorld.artifacts.get? (bundleCopy firstStep goalAuthority.source).slot = none := by decide +kernel
    rw [free] at held
    cases held
  · intro child found
    rw [absent] at found
    cases found

def noUrl : UrlFormat := {parse := fun _ => none,stable := fun _ _ impossible => nomatch impossible}

def died (steps : Nat) : World := (run Environment.steady firstStep noUrl (failingTask Environment.steady)).cut steps goalWorld

theorem died_crashed (steps : Nat) : Crashed id firstStep failingTask goalWorld (died steps) :=
  .again .begun Environment.steady noUrl rfl steps

theorem prepared_step_runs_again :
    (run Environment.steady firstStep noUrl (failingTask Environment.steady)).Leads (died 5) (Finishes firstStep) := by
  have status : ((died 5).repository.getRun firstStep.childRunId).map Run.status = some .pending := by decide +kernel
  have expected : expectedChild Environment.steady firstStep = .ok () := by decide +kernel
  refine (step_runs_again_iff failingTask_works goalWorld_stands (died_crashed 5) rfl (fun _ => rfl) expected noUrl).1.mpr ?_
  intro claimed
  obtain ⟨child,found,open_⟩ := claimed
  rw [found] at status
  rcases open_ with open_ | open_ <;> simp [open_] at status

/-- The process died when it had claimed the child: the step cannot be run again. -/
theorem claimed_step_stays : Crashed id firstStep failingTask goalWorld (died 7) ∧
    ((died 7).repository.getRun firstStep.childRunId).map Run.status = some .running ∧
    ((run Environment.steady firstStep noUrl (failingTask Environment.steady)).exec (died 7)).1 =
      .error (.goalTransient "goal feature child execution is already in progress") := by
  refine ⟨died_crashed 7,?_,?_⟩ <;> decide +kernel

end AgentOS.Goal
