import AgentOS.Artifacts.Listings
import Mathlib

/-! The two manifest stores under the same calls: they answer alike for as long as no call is one that they take
differently. -/
namespace AgentOS.Artifacts
open Library Routine

inductive ManifestCall where
  | claim (metadata : ArtifactMetadata)
  | beginWrite (metadata : ArtifactMetadata) (lease : ArtifactWriteLease)
  | finishWrite (expected : ArtifactMetadata) (leaseId : String)
  | get (scope : ArtifactScope) (key : String)
  | list (request : ArtifactManifestListRequest)
  | listExpired (before : Instant) (limit : Nat)
  | reserveDeletion (scope : ArtifactScope) (key : String) (audit : ArtifactDeletionAudit) (reservationTime : Instant)
  | finalizeDeletion (expected : ArtifactMetadata) (audit : ArtifactDeletionAudit)

inductive ManifestAnswer where
  | done
  | metadata (found : ArtifactMetadata)
  | entry (found : Option ArtifactMetadata)
  | page (page : ArtifactManifestListPage)
  | expired (page : ArtifactExpiredManifestPage)

section
variable (platform : Platform)

def domainCall : ManifestCall → Routine Storage StorageError ManifestAnswer
  | .claim metadata => DomainManifest.claim platform metadata >>= fun found => pure (.metadata found)
  | .beginWrite metadata lease => DomainManifest.beginWrite platform metadata lease >>= fun found => pure (.metadata found)
  | .finishWrite expected leaseId => DomainManifest.finishWrite platform expected leaseId >>= fun _ => pure .done
  | .get scope key => DomainManifest.get platform scope key >>= fun found => pure (.entry found)
  | .list request => DomainManifest.list platform request >>= fun page => pure (.page page)
  | .listExpired before limit => DomainManifest.listExpired platform before limit >>= fun page => pure (.expired page)
  | .reserveDeletion scope key audit reservationTime =>
    DomainManifest.reserveDeletion platform scope key audit reservationTime >>= fun found => pure (.entry found)
  | .finalizeDeletion expected audit => DomainManifest.finalizeDeletion platform expected audit >>= fun _ => pure .done

def memoryCall (manifest : MemoryManifest) : ManifestCall → Checked (ManifestAnswer × MemoryManifest)
  | .claim metadata => manifest.claim platform metadata >>= fun ended => .ok (.metadata ended.1,ended.2)
  | .beginWrite metadata lease => manifest.beginWrite platform metadata lease >>= fun ended => .ok (.metadata ended.1,ended.2)
  | .finishWrite expected leaseId => manifest.finishWrite expected leaseId >>= fun ended => .ok (.done,ended.2)
  | .get scope key => manifest.get scope key >>= fun found => .ok (.entry found,manifest)
  | .list request => manifest.list request >>= fun page => .ok (.page page,manifest)
  | .listExpired before limit => .ok (.expired (manifest.listExpired before limit),manifest)
  | .reserveDeletion scope key audit reservationTime =>
    manifest.reserveDeletion scope key audit reservationTime >>= fun ended => .ok (.entry ended.1,ended.2)
  | .finalizeDeletion expected audit => manifest.finalizeDeletion expected audit >>= fun ended => .ok (.done,ended.2)

def domainAnswers : Storage → List ManifestCall → List (Checked ManifestAnswer)
  | _,[] => []
  | storage,call::calls =>
    let ended := (domainCall platform call).exec storage
    ended.1::domainAnswers ended.2 calls

/-- What the store in memory keeps after a call; a call that fails changes nothing. -/
def MemoryManifest.after (manifest : MemoryManifest) (call : ManifestCall) : MemoryManifest :=
  match memoryCall platform manifest call with
  | .ok (_,after) => after
  | .error _ => manifest

def memoryAnswers : MemoryManifest → List ManifestCall → List (Checked ManifestAnswer)
  | _,[] => []
  | manifest,call::calls =>
    (memoryCall platform manifest call).map Prod.fst::memoryAnswers (manifest.after platform call) calls

def Alike : Checked ManifestAnswer → Checked ManifestAnswer → Prop
  | .ok first, .ok second => first = second
  | .error _, .error _ => True
  | _, _ => False

def ManifestCall.InProject (runs : OrderedMap String String) : ManifestCall → Prop
  | .claim metadata => runs.get? metadata.runId = some metadata.projectId
  | .beginWrite metadata _ => runs.get? metadata.runId = some metadata.projectId
  | .finishWrite expected _ => runs.get? expected.runId = some expected.projectId
  | .get scope _ => runs.get? scope.runId = some scope.projectId
  | .list request => runs.get? request.scope.runId = some request.scope.projectId
  | .listExpired _ _ => True
  | .reserveDeletion scope _ _ _ => runs.get? scope.runId = some scope.projectId
  | .finalizeDeletion expected _ => runs.get? expected.runId = some expected.projectId

/-- A call that the two stores take in the same way, where the entries are those of `manifest`. -/
def MemoryManifest.Takes (runs : OrderedMap String String) (manifest : MemoryManifest) : ManifestCall → Prop
  | .claim _ => True
  | .beginWrite metadata lease => metadata.Valid platform → manifest.refuses metadata lease = false → lease.WellFormed
  | .finishWrite expected _ => ∀ id, identity expected.toKeyParts = .ok id → (manifest.values.get? id).isSome
  | .get _ key => ∀ parts : KeyParts, parts.Valid → parts.keyText = key → manifest.gone parts.identity = false →
      ∀ metadata, manifest.values.get? parts.identity = some metadata → metadata.key = key
  | .list request => Listable manifest request
  | .listExpired before _ => Sweepable platform manifest before
  | .reserveDeletion _ _ _ _ => True
  | .finalizeDeletion expected audit => ∀ parts : KeyParts, parts.Valid → parts.keyText = expected.key →
      audit.key = expected.key → runs.get? parts.runId = some parts.projectId ∧
        ∃ metadata, manifest.values.get? parts.identity = some metadata ∧
          (metadata = expected → manifest.state parts.identity ≠ .deleted)

/-- Every call of a sequence is taken in the same way by the two stores when its turn comes. -/
def MemoryManifest.TakesAll (runs : OrderedMap String String) : MemoryManifest → List ManifestCall → Prop
  | _,[] => True
  | manifest,call::calls => manifest.Takes platform runs call ∧ (manifest.after platform call).TakesAll runs calls

/-! ### The runs stay -/

def runsOf (storage : Storage) : OrderedMap String String := storage.tables.runs

theorem keeps_repository {α : Type} {action : ArtifactTables → Checked (α × ArtifactTables)}
    (kept : ∀ tables value after, action tables = .ok (value,after) → after.runs = tables.runs) :
    (repository action).Keeps runsOf := by
  refine takes_atomic fun now => ?_
  cases ended : action now.tables with
  | error error => rfl
  | ok ended' => exact kept _ _ _ ended

theorem keeps_reading {α : Type} {view : ArtifactTables → α} : (reading view).Keeps runsOf :=
  keeps_repository fun _ _ _ same => by cases same; rfl

variable {manifest : MemoryManifest} {tables after : ArtifactTables} {audit : ArtifactDeletionAudit}

variable {artifact found : ArtifactRecord} {scope : ArtifactScope} {call : ManifestCall}

theorem insertArtifact_runs (ok : tables.insertArtifact artifact = .ok (found,after)) : after.runs = tables.runs := by
  unfold ArtifactTables.insertArtifact at ok
  split at ok
  · cases ok
  · cases ok
    rfl

theorem claimArtifact_runs (ok : tables.claimArtifact artifact = .ok (found,after)) : after.runs = tables.runs := by
  unfold ArtifactTables.claimArtifact at ok
  obtain ⟨_,_,ok⟩ := bind_ok.mp ok
  obtain ⟨_,_,ok⟩ := bind_ok.mp ok
  split at ok
  · obtain ⟨_,_,ok⟩ := bind_ok.mp ok
    cases ok
    rfl
  · exact insertArtifact_runs ok

theorem claimArtifactForWrite_runs {request : ArtifactWriteClaimRequest}
    {found : ArtifactRecord} (ok : tables.claimArtifactForWrite request = .ok (found,after)) : after.runs = tables.runs := by
  unfold ArtifactTables.claimArtifactForWrite at ok
  obtain ⟨_,_,ok⟩ := bind_ok.mp ok
  obtain ⟨_,_,ok⟩ := bind_ok.mp ok
  split at ok
  · cases ok
  · split at ok
    · exact insertArtifact_runs ok
    · obtain ⟨_,_,ok⟩ := bind_ok.mp ok
      split at ok <;> cases ok <;> rfl

theorem releaseArtifactWriteLease_runs {id leaseId : String} {done : Unit}
    (ok : tables.releaseArtifactWriteLease id leaseId = .ok (done,after)) : after.runs = tables.runs := by
  unfold ArtifactTables.releaseArtifactWriteLease at ok
  obtain ⟨_,_,ok⟩ := bind_ok.mp ok
  split at ok <;> cases ok <;> rfl

theorem reserveArtifactDeletion_runs (tables : ArtifactTables) (request : ArtifactDeletionReservationRequest) :
    (tables.reserveArtifactDeletion request).2.runs = tables.runs := by
  unfold ArtifactTables.reserveArtifactDeletion
  split
  · rfl
  · split
    · rfl
    · split <;> rfl

theorem finalizeArtifactDeletion_runs {request : ArtifactDeletionFinalizationRequest}
    {found : ArtifactRecord} (ok : tables.finalizeArtifactDeletion request = .ok (found,after)) : after.runs = tables.runs := by
  unfold ArtifactTables.finalizeArtifactDeletion at ok
  obtain ⟨_,_,ok⟩ := bind_ok.mp ok
  split at ok
  · cases ok
  · split at ok <;> cases ok <;> rfl

variable {platform} {metadata : ArtifactMetadata}

theorem keeps_project : (DomainManifest.requireProject metadata).Keeps runsOf :=
  (takes_settle _).bind fun _ => keeps_reading.bind fun _ => by
    split
    · exact takes_throw _
    · exact takes_pure _

theorem keeps_claim : (DomainManifest.claim platform metadata).Keeps runsOf := by
  refine (takes_settle _).bind fun _ => keeps_project.bind fun _ => (takes_settle _).bind fun _ => ?_
  refine (keeps_repository fun _ _ _ => claimArtifact_runs).bind fun record => ?_
  split
  · exact takes_throw _
  · refine (takes_settle _).bind fun _ => ?_
    split
    · exact takes_pure _
    · exact takes_throw _

theorem keeps_beginWrite {lease : ArtifactWriteLease} : (DomainManifest.beginWrite platform metadata lease).Keeps runsOf := by
  refine (takes_settle _).bind fun _ => keeps_project.bind fun _ => (takes_settle _).bind fun _ => keeps_reading.bind fun _ => ?_
  refine (takes_settle _).bind fun _ => (takes_settle _).bind fun _ => ?_
  refine (keeps_repository fun _ _ _ => claimArtifactForWrite_runs).bind fun record => ?_
  split
  · exact takes_throw _
  · refine (takes_settle _).bind fun _ => ?_
    split
    · exact takes_throw _
    · split
      · exact takes_throw _
      · exact takes_pure _

theorem keeps_finishWrite {leaseId : String} : (DomainManifest.finishWrite platform metadata leaseId).Keeps runsOf :=
  (takes_settle _).bind fun _ => (takes_settle _).bind fun _ => keeps_repository fun _ _ _ => releaseArtifactWriteLease_runs

theorem keeps_get {key : String} : (DomainManifest.get platform scope key).Keeps runsOf := by
  refine (takes_settle _).bind fun _ => (takes_settle _).bind fun _ => ?_
  split
  · exact takes_throw _
  · refine (takes_settle _).bind fun _ => (takes_settle _).bind fun _ => keeps_reading.bind fun record => ?_
    split
    · exact takes_pure _
    · split
      · exact takes_pure _
      · refine (takes_settle _).bind fun _ => ?_
        split
        · exact takes_throw _
        · exact takes_pure _

theorem keeps_list {request : ArtifactManifestListRequest} : (DomainManifest.list platform request).Keeps runsOf :=
  (takes_settle _).bind fun _ => (takes_settle _).bind fun _ => (takes_settle _).bind fun _ => keeps_reading.bind fun _ =>
    (takes_settle _).bind fun _ => (takes_settle _).bind fun _ => takes_pure _

theorem keeps_reserveDeletion {key : String} {time : Instant} :
    (DomainManifest.reserveDeletion platform scope key audit time).Keeps runsOf := by
  refine (takes_settle _).bind fun _ => ?_
  split
  · exact takes_throw _
  refine (takes_settle _).bind fun _ => ?_
  split
  · exact takes_throw _
  refine (takes_settle _).bind fun _ => (takes_settle _).bind fun _ => keeps_reading.bind fun record => ?_
  split
  · exact takes_pure _
  split
  · exact takes_pure _
  refine (takes_settle _).bind fun _ => ?_
  split
  · exact takes_pure _
  refine (keeps_repository fun tables _ _ same => ?_).bind fun reserved => ?_
  · have ended := congrArg (fun found => found.2.runs) (Except.ok.inj same)
    exact ended.symm.trans (reserveArtifactDeletion_runs tables _)
  · split
    · exact takes_pure _
    · refine (takes_settle _).bind fun _ => ?_
      split
      · exact takes_pure _
      · exact takes_throw _

theorem keeps_finalizeDeletion : (DomainManifest.finalizeDeletion platform metadata audit).Keeps runsOf := by
  unfold DomainManifest.finalizeDeletion
  split
  · exact takes_throw _
  refine (takes_settle _).bind fun _ => (takes_settle _).bind fun _ => keeps_reading.bind fun record => ?_
  split
  · exact takes_pure _
  refine (takes_settle _).bind fun _ => ?_
  split
  · exact takes_throw _
  exact (keeps_repository fun _ _ _ => finalizeArtifactDeletion_runs).bind fun _ => takes_pure _

theorem keeps_call (call : ManifestCall) : (domainCall platform call).Keeps runsOf := by
  cases call with
  | claim => exact keeps_claim.bind fun _ => takes_pure _
  | beginWrite => exact keeps_beginWrite.bind fun _ => takes_pure _
  | finishWrite => exact keeps_finishWrite.bind fun _ => takes_pure _
  | get => exact keeps_get.bind fun _ => takes_pure _
  | list => exact keeps_list.bind fun _ => takes_pure _
  | listExpired => exact (keeps_reading.bind fun _ => takes_pure _).bind fun _ => takes_pure _
  | reserveDeletion => exact keeps_reserveDeletion.bind fun _ => takes_pure _
  | finalizeDeletion => exact keeps_finalizeDeletion.bind fun _ => takes_pure _

/-! ### Calls and runs -/

theorem Matches.answered {α β : Type} {routine : Routine Storage StorageError α} {answer : Checked (α × MemoryManifest)}
    {storage : Storage} (matched : Matches platform manifest (routine.exec storage) answer) (shown : α → β) :
    Matches platform manifest ((routine >>= fun found => pure (shown found)).exec storage)
      (answer >>= fun ended => .ok (shown ended.1,ended.2)) := by
  rw [exec_bind]
  revert matched
  rcases routine.exec storage with ⟨_ | _,after⟩ <;> cases answer <;> intro matched
  · exact matched
  · exact matched
  · exact matched
  · exact ⟨congrArg shown matched.1,matched.2⟩

theorem call_matches {storage : Storage}
    (simulates : Simulates platform storage.tables manifest) (collisionFree : Function.Injective platform.sha256)
    (inProject : call.InProject storage.tables.runs) (taken : manifest.Takes platform storage.tables.runs call) :
    Matches platform manifest ((domainCall platform call).exec storage) (memoryCall platform manifest call) := by
  cases call with
  | claim input => exact (claim_matches simulates collisionFree inProject).answered ManifestAnswer.metadata
  | beginWrite input lease => exact (beginWrite_matches simulates collisionFree inProject taken).answered ManifestAnswer.metadata
  | finishWrite expected leaseId => exact (finishWrite_matches simulates collisionFree taken).answered fun _ => ManifestAnswer.done
  | get scope key =>
    have matched := (get_matches simulates inProject taken).answered ManifestAnswer.entry
    rwa [bind_assoc] at matched
  | list request =>
    have matched := (list_matches simulates inProject taken).answered ManifestAnswer.page
    rwa [bind_assoc] at matched
  | listExpired before limit => exact (listExpired_matches simulates taken).answered ManifestAnswer.expired
  | reserveDeletion scope key audit time =>
    exact (reserveDeletion_matches simulates collisionFree inProject).answered ManifestAnswer.entry
  | finalizeDeletion expected audit =>
    exact (finalizeDeletion_matches simulates collisionFree inProject taken).answered fun _ => ManifestAnswer.done

theorem Matches.alike {ended : Checked ManifestAnswer × Storage}
    (matched : Matches platform manifest ended (memoryCall platform manifest call)) :
    Alike ended.1 ((memoryCall platform manifest call).map Prod.fst) ∧
      Simulates platform ended.2.tables (manifest.after platform call) := by
  unfold MemoryManifest.after
  rcases ended with ⟨_ | _,after⟩ <;> cases answered : memoryCall platform manifest call <;> rw [answered] at matched
  · exact ⟨trivial,matched⟩
  · exact matched.elim
  · exact matched.elim
  · exact matched

theorem simulates_empty {tables : ArtifactTables} (rows : tables.artifacts = .empty) (keys : tables.artifactKeys = .empty) :
    Simulates platform tables {} := by
  refine ⟨?_,?_,?_,?_,?_,?_⟩
  · rintro id metadata ⟨⟩
  · rintro id metadata ⟨⟩
  · intro parts _
    rw [keys]
    rfl
  · rw [rows]
    rfl
  · rintro id (gone | leased)
    · cases gone
    · cases leased
  · rintro id ⟨⟩

def domainAfter (platform : Platform) (storage : Storage) (calls : List ManifestCall) : Storage :=
  calls.foldl (fun storage call => ((domainCall platform call).exec storage).2) storage

def memoryAfter (platform : Platform) (manifest : MemoryManifest) (calls : List ManifestCall) : MemoryManifest :=
  calls.foldl (fun manifest call => manifest.after platform call) manifest

theorem answers_alike (collisionFree : Function.Injective platform.sha256) (calls : List ManifestCall)
    {storage : Storage} (simulates : Simulates platform storage.tables manifest)
    (inProject : ∀ call ∈ calls, call.InProject storage.tables.runs)
    (taken : manifest.TakesAll platform storage.tables.runs calls) :
    List.Forall₂ Alike (domainAnswers platform storage calls) (memoryAnswers platform manifest calls) ∧
      Simulates platform (domainAfter platform storage calls).tables (memoryAfter platform manifest calls) := by
  induction calls generalizing storage manifest with
  | nil => exact ⟨.nil,simulates⟩
  | cons call calls ih =>
    obtain ⟨first,rest⟩ := taken
    have matched := call_matches simulates collisionFree (inProject call List.mem_cons_self) first
    have runs : ((domainCall platform call).exec storage).2.tables.runs = storage.tables.runs :=
      Keeps.exec (keeps_call call) storage
    have later := ih matched.alike.2 (by
      rw [runs]
      exact fun other inside => inProject other (List.mem_cons_of_mem call inside)) (by
      rw [runs]
      exact rest)
    exact ⟨.cons matched.alike.1 later.1,later.2⟩

theorem domainAnswers_append (storage : Storage) (calls : List ManifestCall) (last : ManifestCall) :
    domainAnswers platform storage (calls ++ [last]) = domainAnswers platform storage calls ++
      [((domainCall platform last).exec (domainAfter platform storage calls)).1] := by
  induction calls generalizing storage with
  | nil => rfl
  | cons call calls ih => exact congrArg (List.cons _) (ih _)

theorem memoryAnswers_append (manifest : MemoryManifest) (calls : List ManifestCall) (last : ManifestCall) :
    memoryAnswers platform manifest (calls ++ [last]) = memoryAnswers platform manifest calls ++
      [(memoryCall platform (memoryAfter platform manifest calls) last).map Prod.fst] := by
  induction calls generalizing manifest with
  | nil => rfl
  | cons call calls ih => exact congrArg (List.cons _) (ih _)

/-- The two stores start out empty and are interchangeable under any calls that they take in the same way. -/
theorem stores_interchangeable (platform : Platform) (collisionFree : Function.Injective platform.sha256)
    (runs : OrderedMap String String) (calls : List ManifestCall) (inProject : ∀ call ∈ calls, call.InProject runs)
    (taken : MemoryManifest.TakesAll platform runs {} calls) :
    List.Forall₂ Alike (domainAnswers platform {tables := {runs := runs}} calls) (memoryAnswers platform {} calls) :=
  (answers_alike collisionFree calls (simulates_empty rfl rfl) inProject taken).1

/-! ### A deletion that is finalized twice -/

theorem claim_new (valid : metadata.Valid platform)
    (active : manifest.gone metadata.identity = false) (none_ : manifest.values.get? metadata.identity = none) :
    manifest.claim platform metadata = .ok (metadata,{manifest with values := manifest.values.set metadata.identity metadata}) := by
  refine bind_ok.mpr ⟨metadata,validateArtifactMetadata_ok_iff.mpr ⟨valid,rfl⟩,?_⟩
  refine bind_ok.mpr ⟨metadata.identity,valid.parts.identified,?_⟩
  rw [if_neg (by simp [active]),none_]

theorem reserveDeletion_entry {time : Instant}
    (valid : metadata.Valid platform) (held : manifest.values.get? metadata.identity = some metadata)
    (active : manifest.gone metadata.identity = false) (unleased : manifest.writeLeases.get? metadata.identity = none)
    (audited : audit.key = metadata.key) : manifest.reserveDeletion metadata.toArtifactScope metadata.key audit time =
      .ok (some metadata,{manifest with pending := manifest.pending ++ [metadata.identity]}) := by
  obtain ⟨undeleted,unasked⟩ := Bool.or_eq_false_iff.mp active
  unfold MemoryManifest.reserveDeletion
  rw [if_neg (not_not.mpr audited)]
  refine bind_ok.mpr ⟨true,artifactKeyMatchesScope_ok_iff.mpr
    ⟨metadata.toKeyParts,valid.parts,valid.key.symm,valid.parts.toScopeValid,by simp⟩,?_⟩
  rw [if_neg (by simp)]
  refine bind_ok.mpr ⟨metadata.toKeyParts,parseArtifactKey_ok_iff.mpr ⟨valid.parts,valid.key.symm⟩,?_⟩
  refine bind_ok.mpr ⟨metadata.identity,valid.parts.identified,?_⟩
  rw [if_neg (Bool.eq_false_iff.mp undeleted),held]
  dsimp only
  rw [unleased,if_neg (by simp),if_neg (Bool.eq_false_iff.mp unasked)]

theorem finalized_again {storage : Storage}
    (simulates : Simulates platform storage.tables manifest) (held : manifest.values.get? metadata.identity = some metadata)
    (gone : manifest.tombstones.contains metadata.identity = true) (audited : audit.key = metadata.key) :
    ((domainCall platform (.finalizeDeletion metadata audit)).exec storage).1 = .ok .done ∧
      memoryCall platform manifest (.finalizeDeletion metadata audit) = .error conflict := by
  obtain ⟨valid,_,inProject⟩ := simulates.filed _ _ held
  obtain ⟨record,found,stored,row⟩ := simulates.present inProject held
  have state : manifest.state metadata.identity = .deleted := if_pos gone
  constructor
  · have finalized : storage.tables.finalizeArtifactDeletion (finalization record metadata audit) =
        .ok (record,storage.tables) := by
      unfold ArtifactTables.finalizeArtifactDeletion finalization
      dsimp only
      rw [row.id,requireArtifact_ok stored]
      dsimp only [bind,Except.bind]
      rw [if_neg (by simp [row.uri,row.digest,row.version]),row.state,state]
    have ended : ((DomainManifest.finalizeDeletion platform metadata audit).exec storage) = (.ok (),storage) := by
      unfold DomainManifest.finalizeDeletion
      rw [if_neg (not_not.mpr audited),exec_settled (parseArtifactKey_ok_iff.mpr ⟨valid.parts,valid.key.symm⟩),
        exec_settled valid.parts.logicalKey,exec_reading,found]
      dsimp only
      rw [exec_settled (row.read valid),if_neg (not_not.mpr exactlyEquivalent_refl),exec_repository finalized]
      rfl
    unfold domainCall
    rw [exec_bind,ended]
    rfl
  · unfold memoryCall MemoryManifest.finalizeDeletion
    dsimp only
    rw [if_neg (not_not.mpr audited),valid.parts.identified]
    dsimp only [bind,Except.bind]
    rw [held]
    dsimp only
    have unasked := simulates.apart _ gone
    rw [if_neg (not_not.mpr exactlyEquivalent_refl),if_pos (Bool.eq_false_iff.mp unasked)]

end

/-- The digest of the sample's identity; every other digest is told by what it is of. -/
def sampleDigest (bytes : ByteArray) : String :=
  if bytes = (identityText "p" "r" "artifact-manifest/v1/s/report/1").toUTF8 then
    "79f99c98a60c046c24f9285fc7f7ef6a93617dd6e1b39f6abbb484385f8e08a1"
  else "of " ++ String.ofList (bytes.data.toList.map Char.ofUInt8)

def samplePlatform : Platform where
  sha256 := sampleDigest
  toLowerCase := fun text => String.ofList (text.toList.map Char.toLower)

def sampleMetadata : ArtifactMetadata where
  projectId := "p"
  runId := "r"
  stepId := "s"
  artifactId := "report"
  version := 1
  digest := "ba7816bf8f01cfea414140de5dae2223b00361a396177a9cb410ff61f20015ad"
  key := "artifacts/v1/p/r/s/report/1/sha256/ba7816bf8f01cfea414140de5dae2223b00361a396177a9cb410ff61f20015ad"
  mediaType := "text/plain"
  sizeBytes := 3
  retentionClass := "working"
  createdAt := 0
  expiresAt := 1000

def sampleAudit : ArtifactDeletionAudit := {key := sampleMetadata.key,deletedAt := 2000,reason := "expired"}

def sampleRuns : OrderedMap String String := OrderedMap.empty.set "r" "p"

def sampleCalls : List ManifestCall :=
  [.claim sampleMetadata,.reserveDeletion sampleMetadata.toArtifactScope sampleMetadata.key sampleAudit 2000,
    .finalizeDeletion sampleMetadata sampleAudit]

theorem sampleDigest_injective : Function.Injective samplePlatform.sha256 := by
  intro first second same
  have letters : Function.Injective Char.ofUInt8 := by
    intro left right equal
    have values := congrArg Char.val equal
    exact UInt8.toUInt32_inj.mp values
  have apart : ∀ rest : String, ("79f99c98a60c046c24f9285fc7f7ef6a93617dd6e1b39f6abbb484385f8e08a1" : String) ≠ "of " ++ rest := by
    intro rest equal
    have heads := congrArg String.toList equal
    rw [String.toList_append] at heads
    cases heads
  change sampleDigest first = sampleDigest second at same
  unfold sampleDigest at same
  split at same
  · rename_i left
    split at same
    · rename_i right
      exact left.trans right.symm
    · exact absurd same (apart _)
  · split at same
    · exact absurd same.symm (apart _)
    · have texts := congrArg String.toList same
      rw [String.toList_append,String.toList_append] at texts
      have characters := String.ofList_injective (String.toList_injective (List.append_cancel_left texts))
      have bytes := List.map_injective_iff.mpr letters characters
      exact ByteArray.ext (Array.toList_inj.mp bytes)

theorem sampleMetadata_valid : sampleMetadata.Valid samplePlatform where
  parts := ⟨⟨by decide,by decide,by decide⟩,by decide,by decide,by decide⟩
  key := by decide
  size := by decide
  mediaType := ⟨"text/plain",rfl⟩
  retention := ⟨2592000000,by decide,by decide,by decide⟩

/-- The entry, once it is claimed, once its deletion is pending and once it is deleted. -/
def claimedManifest : MemoryManifest := {values := OrderedMap.empty.set sampleMetadata.identity sampleMetadata}

def pendingManifest : MemoryManifest := {claimedManifest with pending := [sampleMetadata.identity]}

def deletedManifest : MemoryManifest := {claimedManifest with tombstones := [sampleMetadata.identity]}

theorem held_in_sample : claimedManifest.values.get? sampleMetadata.identity = some sampleMetadata := by
  unfold claimedManifest
  rw [OrderedMap.get?_set,if_pos rfl]

theorem sample_kept : pendingManifest.state sampleMetadata.identity ≠ .deleted := by
  simp [MemoryManifest.state,pendingManifest,claimedManifest]

theorem sample_claimed : ({} : MemoryManifest).after samplePlatform (.claim sampleMetadata) = claimedManifest := by
  unfold MemoryManifest.after memoryCall
  dsimp only
  rw [claim_new sampleMetadata_valid rfl rfl]
  rfl

theorem sample_reserved : claimedManifest.after samplePlatform
    (.reserveDeletion sampleMetadata.toArtifactScope sampleMetadata.key sampleAudit 2000) = pendingManifest := by
  unfold MemoryManifest.after memoryCall
  dsimp only
  rw [reserveDeletion_entry sampleMetadata_valid held_in_sample rfl rfl rfl]
  rfl

theorem sample_finalized : pendingManifest.after samplePlatform (.finalizeDeletion sampleMetadata sampleAudit) = deletedManifest := by
  have finalized := @finalizeDeletion_entry samplePlatform pendingManifest sampleMetadata sampleAudit sampleMetadata_valid
    held_in_sample sample_kept rfl
  unfold MemoryManifest.after memoryCall
  dsimp only
  rw [finalized,if_pos (by simp [pendingManifest])]
  simp [bind,Except.bind,pendingManifest,deletedManifest,claimedManifest]

theorem sample_run : sampleRuns.get? sampleMetadata.runId = some sampleMetadata.projectId := by decide

theorem sample_inProject : ∀ call ∈ sampleCalls, call.InProject sampleRuns := by
  intro call inside
  simp only [sampleCalls,List.mem_cons,List.not_mem_nil,or_false] at inside
  rcases inside with rfl | rfl | rfl <;> exact sample_run

theorem sample_taken : MemoryManifest.TakesAll samplePlatform sampleRuns {} sampleCalls := by
  refine ⟨trivial,?_⟩
  rw [sample_claimed]
  refine ⟨trivial,?_⟩
  rw [sample_reserved]
  refine ⟨fun parts valid same _ => ?_,trivial⟩
  have parts_ : parts = sampleMetadata.toKeyParts :=
    keyText_injective valid sampleMetadata_valid.parts (same.trans sampleMetadata_valid.key)
  subst parts_
  exact ⟨sample_run,sampleMetadata,held_in_sample,fun _ => sample_kept⟩

/-- An artifact that is claimed and deleted. -/
theorem stores_interchangeable_once : List.Forall₂ Alike (domainAnswers samplePlatform {tables := {runs := sampleRuns}} sampleCalls)
    (memoryAnswers samplePlatform {} sampleCalls) :=
  stores_interchangeable samplePlatform sampleDigest_injective sampleRuns sampleCalls sample_inProject sample_taken

theorem last_alike {first second : List (Checked ManifestAnswer)} {left right : Checked ManifestAnswer}
    (alike : List.Forall₂ Alike (first ++ [left]) (second ++ [right])) : Alike left right := by
  have backwards := List.forall₂_reverse_iff.mpr alike
  rw [List.reverse_append,List.reverse_append] at backwards
  exact (List.forall₂_cons.mp backwards).1

/-- A retried finalization of a deletion succeeds over the repository and fails in memory. -/
theorem finalizations_differ : ¬ ∀ platform : Platform, Function.Injective platform.sha256 →
    ∀ (runs : OrderedMap String String) (calls : List ManifestCall), (∀ call ∈ calls, call.InProject runs) →
      List.Forall₂ Alike (domainAnswers platform {tables := {runs := runs}} calls) (memoryAnswers platform {} calls) := by
  intro interchangeable
  have alike := interchangeable samplePlatform sampleDigest_injective sampleRuns
    (sampleCalls ++ [.finalizeDeletion sampleMetadata sampleAudit]) fun call inside => by
      rcases List.mem_append.mp inside with known | last
      · exact sample_inProject call known
      · rw [List.mem_singleton.mp last]
        exact sample_inProject _ (by simp [sampleCalls])
  have simulates := (@answers_alike samplePlatform {} sampleDigest_injective sampleCalls {tables := {runs := sampleRuns}}
    (simulates_empty rfl rfl) sample_inProject sample_taken).2
  have entries : memoryAfter samplePlatform {} sampleCalls = deletedManifest := by
    unfold memoryAfter sampleCalls
    rw [List.foldl_cons,sample_claimed,List.foldl_cons,sample_reserved,List.foldl_cons,sample_finalized,List.foldl_nil]
  have audited : sampleAudit.key = sampleMetadata.key := rfl
  rw [domainAnswers_append,memoryAnswers_append,entries] at alike
  rw [entries] at simulates
  obtain ⟨taken,refused⟩ := finalized_again simulates held_in_sample (by simp [deletedManifest]) audited
  rw [taken,refused] at alike
  generalize domainAnswers samplePlatform _ sampleCalls = first at alike
  generalize memoryAnswers samplePlatform _ sampleCalls = second at alike
  exact last_alike alike

end AgentOS.Artifacts
