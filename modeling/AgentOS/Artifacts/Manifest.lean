import AgentOS.Artifacts.Records

/-! The two manifest stores: one over the repository's rows, whose calls run until they await the repository, and one
that keeps its entries in memory. -/
namespace AgentOS.Artifacts
open Library Routine

structure ArtifactWriteLease where
  leaseId : String
  now : Instant
  expiresAt : Instant

structure ArtifactDeletionAudit where
  key : String
  deletedAt : Instant
  reason : String

structure ArtifactManifestListRequest where
  scope : ArtifactScope
  artifactPrefix : Option String := none
  after : Option String := none
  limit : Nat

structure ArtifactManifestListPage where
  items : List ArtifactMetadata
  nextAfter : Option String

structure ArtifactExpiredManifestPage where
  items : List ArtifactMetadata
  invalidCount : Nat

structure StoredObject where
  body : ByteArray
  contentType : String
  digest : Option String
  createdAt : Option Instant
  expiresAt : Option Instant
  retentionClass : Option String

/-- The repository's artifact tables, the bucket, the clock, and how many calls of the bucket and how many lease
identifiers there were. -/
structure Storage where
  tables : ArtifactTables
  bucket : OrderedMap String StoredObject := .empty
  now : Instant := 0
  sends : Nat := 0
  leases : Nat := 0

def conflict : StorageError :=
  .adapter "artifact_conflict" "artifact version already exists with different content or metadata" 409

def deleted : StorageError :=
  .adapter "artifact_deleted" "artifact logical version has been deleted and cannot be recreated" 410

def outOfScope : StorageError := .adapter "artifact_scope_denied" "artifact is outside the requested scope" 403

def outOfProject : StorageError := .adapter "artifact_scope_denied" "artifact run is outside the requested project" 403

def scopeIntegrity : StorageError :=
  .adapter "artifact_integrity_error" "artifact manifest scope failed integrity verification" 500

def deletionIntegrity : StorageError :=
  .adapter "artifact_integrity_error" "artifact deletion target failed integrity verification" 409

def equivalent (left right : ArtifactMetadata) : Bool :=
  left.key = right.key && left.digest = right.digest && left.mediaType = right.mediaType && left.sizeBytes = right.sizeBytes &&
    left.retentionClass = right.retentionClass

def exactlyEquivalent (left right : ArtifactMetadata) : Bool :=
  equivalent left right && left.projectId = right.projectId && left.runId = right.runId && left.stepId = right.stepId &&
    left.artifactId = right.artifactId && left.version = right.version && left.createdAt = right.createdAt &&
    left.expiresAt = right.expiresAt

def logicalKey (parts : KeyParts) : Checked String := artifactLogicalKey parts.stepId parts.artifactId parts.version

def identityText (projectId runId logical : String) : String := projectId ++ "\x00" ++ runId ++ "\x00" ++ logical

def persistenceId (kind value : String) : Checked String :=
  if Workflow.trim value = "" then .error (.other (kind ++ " identifier must not be empty")) else .ok value

section
variable (platform : Platform)

def recordId (parts : KeyParts) : Checked String :=
  logicalKey parts >>= fun logical =>
  .ok ("artifact_" ++ platform.sha256 (identityText parts.projectId parts.runId logical).toUTF8)

def incompleteManifest : StorageError := .adapter "artifact_integrity_error" "artifact manifest is incomplete" 500

def manifestIdentity : StorageError :=
  .adapter "artifact_integrity_error" "artifact manifest identity failed integrity verification" 500

def metadataFromRecord (record : ArtifactRecord) : Checked ArtifactMetadata :=
  match record.uri, record.mediaType, record.sizeBytes, record.cleanupAt, record.retentionClass with
  | some uri, some mediaType, some sizeBytes, some cleanupAt, some retentionClass =>
    if record.manifestVersion ≠ some "artifact-manifest-v1" ∨ record.deletionState = none then .error incompleteManifest
    else
      parseArtifactKey uri >>= fun parts =>
      validateArtifactMetadata platform {parts with
        key := uri
        mediaType := mediaType
        sizeBytes := sizeBytes
        retentionClass := retentionClass
        createdAt := record.createdAt
        expiresAt := cleanupAt} >>= fun metadata =>
      logicalKey metadata.toKeyParts >>= fun logical =>
      recordId platform metadata.toKeyParts >>= fun id =>
      if record.runId ≠ metadata.runId ∨ record.key ≠ logical ∨ record.digest ≠ metadata.digest ∨ record.id ≠ id then
        .error manifestIdentity
      else .ok metadata
  | _, _, _, _, _ => .error incompleteManifest

def recordFromMetadata (metadata : ArtifactMetadata) : Checked ArtifactRecord :=
  validateArtifactMetadata platform metadata >>= fun _ =>
  recordId platform metadata.toKeyParts >>= fun text =>
  persistenceId "artifact" text >>= fun id =>
  persistenceId "run" metadata.runId >>= fun runId =>
  logicalKey metadata.toKeyParts >>= fun key =>
  .ok {
    id := id
    runId := runId
    key := key
    mediaType := some metadata.mediaType
    sizeBytes := some metadata.sizeBytes
    digest := metadata.digest
    uri := some metadata.key
    retentionClass := some metadata.retentionClass
    createdAt := metadata.createdAt
    cleanupAt := some metadata.expiresAt
    manifestVersion := some "artifact-manifest-v1"
    deletionState := some .active}

def ArtifactRecord.gone (record : ArtifactRecord) : Bool :=
  record.deletedAt.isSome || record.deletionState = some .pending || record.deletionState = some .deleted

def repository {α : Type} (action : ArtifactTables → Checked (α × ArtifactTables)) : Routine Storage StorageError α :=
  atomic fun storage => match action storage.tables with
    | .ok (value,tables) => (.ok value,{storage with tables := tables})
    | .error error => (.error error,storage)

def reading {α : Type} (view : ArtifactTables → α) : Routine Storage StorageError α :=
  repository fun tables => .ok (view tables,tables)

namespace DomainManifest

def requireProject (metadata : ArtifactMetadata) : Routine Storage StorageError Unit :=
  settle (persistenceId "run" metadata.runId) >>= fun runId =>
  reading (fun tables => tables.runs.get? runId) >>= fun project =>
  if project ≠ some metadata.projectId then throw outOfProject else pure ()

def claim (input : ArtifactMetadata) : Routine Storage StorageError ArtifactMetadata :=
  settle (validateArtifactMetadata platform input) >>= fun metadata =>
  requireProject metadata >>= fun _ =>
  settle (recordFromMetadata platform metadata) >>= fun artifact =>
  repository (fun tables => tables.claimArtifact artifact) >>= fun record =>
  if record.gone then throw deleted
  else settle (metadataFromRecord platform record) >>= fun claimed =>
    if equivalent claimed metadata then pure claimed else throw conflict

/-- The metadata that stands for an artifact: that of its row, where there is one. -/
def authoritative (metadata : ArtifactMetadata) : Option ArtifactRecord → Checked ArtifactMetadata
  | none => .ok metadata
  | some existing =>
    if existing.gone then .error deleted
    else metadataFromRecord platform existing >>= fun found => if equivalent found metadata then .ok found else .error conflict

def beginWrite (input : ArtifactMetadata) (lease : ArtifactWriteLease) : Routine Storage StorageError ArtifactMetadata :=
  settle (validateArtifactMetadata platform input) >>= fun metadata =>
  requireProject metadata >>= fun _ =>
  settle (logicalKey metadata.toKeyParts) >>= fun logical =>
  reading (fun tables => tables.getArtifactByRunKey metadata.runId logical) >>= fun existing =>
  settle (authoritative platform metadata existing) >>= fun authoritative =>
  settle (recordFromMetadata platform authoritative) >>= fun artifact =>
  repository (fun tables => tables.claimArtifactForWrite
    {artifact := artifact,leaseId := lease.leaseId,now := lease.now,expiresAt := lease.expiresAt}) >>= fun record =>
  if record.gone then throw deleted
  else settle (metadataFromRecord platform record) >>= fun claimed =>
    if ¬ equivalent claimed authoritative then throw conflict
    else if record.writeLeaseId ≠ some lease.leaseId then throw conflict
    else pure claimed

def finishWrite (expected : ArtifactMetadata) (leaseId : String) : Routine Storage StorageError Unit :=
  settle (recordId platform expected.toKeyParts) >>= fun text =>
  settle (persistenceId "artifact" text) >>= fun id =>
  repository fun tables => tables.releaseArtifactWriteLease id leaseId

variable (scope : ArtifactScope)

def get (key : String) : Routine Storage StorageError (Option ArtifactMetadata) :=
  settle (normalizeArtifactScope scope) >>= fun normalized =>
  settle (artifactKeyMatchesScope key normalized) >>= fun inScope =>
  if ¬ inScope then throw outOfScope
  else settle (parseArtifactKey key) >>= fun parts =>
    settle (logicalKey parts) >>= fun logical =>
    reading (fun tables => tables.getArtifactByRunKey normalized.runId logical) >>= fun record =>
    match record with
    | none => pure none
    | some record =>
      if record.gone then pure none
      else settle (metadataFromRecord platform record) >>= fun metadata =>
        if metadata.key ≠ key ∨ metadata.projectId ≠ normalized.projectId ∨ metadata.stepId ≠ normalized.stepId then
          throw scopeIntegrity
        else pure (some metadata)

def logicalPrefix (request : ArtifactManifestListRequest) : Checked String :=
  normalizeArtifactScope request.scope >>= fun scope =>
  .ok ("artifact-manifest/v1/" ++ scope.stepId ++ "/" ++ request.artifactPrefix.getD "")

def logicalAfter : Option String → Checked (Option String)
  | none => .ok none
  | some after =>
    artifactKeyMatchesScope after scope >>= fun inScope =>
    if ¬ inScope then .error (.validation "artifact cursor is outside the requested scope")
    else parseArtifactKey after >>= fun parts => (logicalKey parts).map some

/-- The items of a page that have the wanted names; an entry of another scope is an error. -/
def pageItems (artifactPrefix : Option String) (items : List ArtifactMetadata) : Checked (List ArtifactMetadata) :=
  if items.any fun metadata => metadata.projectId ≠ scope.projectId || metadata.stepId ≠ scope.stepId then .error scopeIntegrity
  else .ok (items.filter fun metadata => artifactPrefix.all fun start => start.toList.isPrefixOf metadata.artifactId.toList)

def list (request : ArtifactManifestListRequest) : Routine Storage StorageError ArtifactManifestListPage :=
  settle (normalizeArtifactScope request.scope) >>= fun normalized =>
  settle (logicalPrefix request) >>= fun keyPrefix =>
  settle (logicalAfter normalized request.after) >>= fun after =>
  reading (fun tables => tables.listArtifactsByRunKey normalized.runId keyPrefix after (request.limit + 1)) >>= fun records =>
  let page := records.take request.limit
  settle (page.mapM (metadataFromRecord platform)) >>= fun found =>
  settle (pageItems normalized request.artifactPrefix found) >>= fun items =>
  pure {items := items,nextAfter := if records.length ≤ request.limit then none else found.getLast?.map ArtifactMetadata.key}

def listExpired (before : Instant) (limit : Nat) : Routine Storage StorageError ArtifactExpiredManifestPage :=
  reading (fun tables => tables.listArtifactsDueForCleanup before limit) >>= fun records =>
  pure {
    items := records.filterMap fun record => (metadataFromRecord platform record).toOption
    invalidCount := records.countP fun record => (metadataFromRecord platform record).toOption.isNone}

def reserveDeletion (key : String) (audit : ArtifactDeletionAudit) (reservationTime : Instant) :
    Routine Storage StorageError (Option ArtifactMetadata) :=
  settle (normalizeArtifactScope scope) >>= fun normalized =>
  if audit.key ≠ key then throw deletionIntegrity
  else settle (artifactKeyMatchesScope key normalized) >>= fun inScope =>
    if ¬ inScope then throw deletionIntegrity
    else settle (parseArtifactKey key) >>= fun parts =>
      settle (logicalKey parts) >>= fun logical =>
      reading (fun tables => tables.getArtifactByRunKey normalized.runId logical) >>= fun record =>
      match record with
      | none => pure none
      | some record =>
        if record.deletionState = some .deleted then pure none
        else settle (metadataFromRecord platform record) >>= fun actual =>
          if actual.key ≠ key then pure none
          else repository (fun tables => .ok (tables.reserveArtifactDeletion {
              id := record.id
              runId := record.runId
              logicalKey := record.key
              uri := actual.key
              digest := actual.digest
              now := reservationTime
              requestedAt := reservationTime
              reason := audit.reason})) >>= fun reserved =>
            match reserved with
            | none => pure none
            | some reserved =>
              settle (metadataFromRecord platform reserved) >>= fun reservedMetadata =>
              if exactlyEquivalent reservedMetadata actual then pure (some reservedMetadata) else throw conflict

def finalizeDeletion (expected : ArtifactMetadata) (audit : ArtifactDeletionAudit) : Routine Storage StorageError Unit :=
  if audit.key ≠ expected.key then throw deletionIntegrity
  else settle (parseArtifactKey expected.key) >>= fun parts =>
    settle (logicalKey parts) >>= fun logical =>
    reading (fun tables => tables.getArtifactByRunKey parts.runId logical) >>= fun record =>
    match record with
    | none => pure ()
    | some record =>
      settle (metadataFromRecord platform record) >>= fun actual =>
      if ¬ exactlyEquivalent actual expected then throw conflict
      else repository (fun tables => tables.finalizeArtifactDeletion {
          id := record.id
          runId := record.runId
          logicalKey := record.key
          uri := actual.key
          digest := actual.digest
          deletedAt := audit.deletedAt
          reason := audit.reason}) >>= fun _ => pure ()

end DomainManifest

/-! ### In memory -/

abbrev Identity : Type := String × String × String

structure MemoryManifest where
  values : OrderedMap Identity ArtifactMetadata := .empty
  tombstones : List Identity := []
  pending : List Identity := []
  writeLeases : OrderedMap Identity ArtifactWriteLease := .empty

def identity (parts : KeyParts) : Checked Identity :=
  logicalKey parts >>= fun logical => .ok (parts.projectId,parts.runId,logical)

namespace MemoryManifest
variable (manifest : MemoryManifest)

def gone (id : Identity) : Bool := manifest.tombstones.contains id || manifest.pending.contains id

def claim (input : ArtifactMetadata) : Checked (ArtifactMetadata × MemoryManifest) :=
  validateArtifactMetadata platform input >>= fun metadata =>
  identity metadata.toKeyParts >>= fun id =>
  if manifest.gone id then .error deleted
  else match manifest.values.get? id with
  | some existing => if equivalent existing metadata then .ok (existing,manifest) else .error conflict
  | none => .ok (metadata,{manifest with values := manifest.values.set id metadata})

def beginWrite (input : ArtifactMetadata) (lease : ArtifactWriteLease) : Checked (ArtifactMetadata × MemoryManifest) :=
  validateArtifactMetadata platform input >>= fun metadata =>
  identity metadata.toKeyParts >>= fun id =>
  if manifest.gone id then .error deleted
  else if (manifest.writeLeases.get? id).any fun current => current.leaseId ≠ lease.leaseId && lease.now < current.expiresAt then
    .error conflict
  else if (manifest.values.get? id).any fun existing => !equivalent existing metadata then .error conflict
  else
    let stored := (manifest.values.get? id).getD metadata
    .ok (stored,{manifest with values := manifest.values.set id stored,writeLeases := manifest.writeLeases.set id lease})

def finishWrite (expected : ArtifactMetadata) (leaseId : String) : Checked (Unit × MemoryManifest) :=
  identity expected.toKeyParts >>= fun id =>
  if (manifest.writeLeases.get? id).map ArtifactWriteLease.leaseId = some leaseId then
    .ok ((),{manifest with writeLeases := manifest.writeLeases.erase id})
  else .ok ((),manifest)

def get (scope : ArtifactScope) (key : String) : Checked (Option ArtifactMetadata) :=
  artifactKeyMatchesScope key scope >>= fun inScope =>
  if ¬ inScope then .error outOfScope
  else parseArtifactKey key >>= fun parts =>
    identity parts >>= fun id =>
    match manifest.values.get? id with
    | none => .ok none
    | some value => identity value.toKeyParts >>= fun filed =>
      if manifest.gone filed then .ok none else .ok (if value.key = key then some value else none)

def listed (scope : ArtifactScope) (request : ArtifactManifestListRequest) (metadata : ArtifactMetadata) : Bool :=
  !(identity metadata.toKeyParts).toOption.any manifest.gone && metadata.projectId = scope.projectId &&
    metadata.runId = scope.runId && metadata.stepId = scope.stepId &&
    (request.artifactPrefix.all fun start => start.toList.isPrefixOf metadata.artifactId.toList) &&
    request.after.all (· < metadata.key)

def list (request : ArtifactManifestListRequest) : Checked ArtifactManifestListPage :=
  normalizeArtifactScope request.scope >>= fun normalized =>
  let found := (manifest.values.values.filter (manifest.listed normalized request)).insertionSort
    fun left right => left.key ≤ right.key
  let page := found.take request.limit
  .ok {items := page,nextAfter := if found.length ≤ request.limit then none else page.getLast?.map ArtifactMetadata.key}

def listExpired (before : Instant) (limit : Nat) : ArtifactExpiredManifestPage :=
  {
    items := ((manifest.values.values.filter fun value =>
      !(identity value.toKeyParts).toOption.any (manifest.tombstones.contains ·) && value.expiresAt ≤ before).insertionSort
        fun left right => left.expiresAt ≤ right.expiresAt).take limit
    invalidCount := 0}

def reserveDeletion (scope : ArtifactScope) (key : String) (audit : ArtifactDeletionAudit) (reservationTime : Instant) :
    Checked (Option ArtifactMetadata × MemoryManifest) :=
  if audit.key ≠ key then .error conflict
  else artifactKeyMatchesScope key scope >>= fun inScope =>
    if ¬ inScope then .error conflict
    else parseArtifactKey key >>= fun parts =>
      identity parts >>= fun id =>
      if manifest.tombstones.contains id then .ok (none,manifest)
      else match manifest.values.get? id with
      | none => .ok (none,manifest)
      | some existing =>
        if existing.key ≠ key ∨ ((manifest.writeLeases.get? id).any fun lease => reservationTime < lease.expiresAt) = true then
          .ok (none,manifest)
        else .ok (some existing,{manifest with
          pending := if manifest.pending.contains id then manifest.pending else manifest.pending ++ [id]})

def finalizeDeletion (expected : ArtifactMetadata) (audit : ArtifactDeletionAudit) : Checked (Unit × MemoryManifest) :=
  if audit.key ≠ expected.key then .error conflict
  else identity expected.toKeyParts >>= fun id =>
    match manifest.values.get? id with
    | none => .error conflict
    | some existing =>
      if ¬ exactlyEquivalent existing expected then .error conflict
      else if ¬ manifest.pending.contains id then .error conflict
      else .ok ((),{manifest with
        pending := manifest.pending.filter (· ≠ id)
        tombstones := if manifest.tombstones.contains id then manifest.tombstones else manifest.tombstones ++ [id]})

end MemoryManifest
end

end AgentOS.Artifacts
