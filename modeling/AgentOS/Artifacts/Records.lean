import AgentOS.Artifacts.Metadata

/-! The artifact rows of the in-memory repository, with the write lease and the deletion state of each. -/
namespace AgentOS.Artifacts
open Library

inductive DeletionState where
  | active
  | pending
  | deleted
  deriving DecidableEq

structure ArtifactRecord where
  id : String
  runId : String
  key : String
  mediaType : Option String := none
  sizeBytes : Option Int := none
  digest : String
  uri : Option String := none
  retentionClass : Option String := none
  createdAt : Instant
  cleanupAt : Option Instant := none
  deletedAt : Option Instant := none
  deletionReason : Option String := none
  deletionState : Option DeletionState := none
  deletionRequestedAt : Option Instant := none
  writeLeaseId : Option String := none
  writeLeaseExpiresAt : Option Instant := none
  manifestVersion : Option String := none

structure ArtifactWriteClaimRequest where
  artifact : ArtifactRecord
  leaseId : String
  now : Instant
  expiresAt : Instant

structure ArtifactDeletionReservationRequest where
  id : String
  runId : String
  logicalKey : String
  uri : String
  digest : String
  now : Instant
  requestedAt : Instant
  reason : String

structure ArtifactDeletionFinalizationRequest where
  id : String
  runId : String
  logicalKey : String
  uri : String
  digest : String
  deletedAt : Instant
  reason : String

/-- The runs, each with its project, the rows by their identifier, and the identifiers by run and key. -/
structure ArtifactTables where
  runs : OrderedMap String String := .empty
  artifacts : OrderedMap String ArtifactRecord := .empty
  artifactKeys : OrderedMap (String × String) String := .empty

def assertValidArtifact (artifact : ArtifactRecord) : Checked Unit :=
  if artifact.sizeBytes.all isNonNegativeSafeInteger then .ok ()
  else .error (.other "sizeBytes must be a non-negative safe integer")

def immutableArtifactMatches (existing requested : ArtifactRecord) : Bool :=
  existing.id = requested.id && existing.runId = requested.runId && existing.key = requested.key &&
    existing.uri = requested.uri && existing.digest = requested.digest && existing.mediaType = requested.mediaType &&
    existing.sizeBytes = requested.sizeBytes && existing.retentionClass = requested.retentionClass &&
    existing.createdAt = requested.createdAt && existing.cleanupAt = requested.cleanupAt &&
    existing.manifestVersion = requested.manifestVersion

def ArtifactRecord.leased (record : ArtifactRecord) (now : Instant) : Bool :=
  record.writeLeaseId.isSome && record.writeLeaseExpiresAt.any (now < ·)

namespace ArtifactTables
variable (tables : ArtifactTables)

def requireRun (runId : String) : Checked Unit :=
  if (tables.runs.get? runId).isSome then .ok () else .error (.other ("Run " ++ runId ++ " not found"))

def requireArtifact (id : String) : Checked ArtifactRecord :=
  match tables.artifacts.get? id with
  | some existing => .ok existing
  | none => .error (.other ("Artifact " ++ id ++ " not found"))

def insertArtifact (artifact : ArtifactRecord) : Checked (ArtifactRecord × ArtifactTables) :=
  if (tables.artifacts.get? artifact.id).isSome then .error (.other ("Artifact " ++ artifact.id ++ " already exists"))
  else .ok (artifact,{tables with
    artifacts := tables.artifacts.set artifact.id artifact
    artifactKeys := tables.artifactKeys.set (artifact.runId,artifact.key) artifact.id})

def claimArtifact (artifact : ArtifactRecord) : Checked (ArtifactRecord × ArtifactTables) :=
  tables.requireRun artifact.runId >>= fun _ =>
  assertValidArtifact artifact >>= fun _ =>
  match tables.artifactKeys.get? (artifact.runId,artifact.key) with
  | some existingId => tables.requireArtifact existingId >>= fun existing => .ok (existing,tables)
  | none => tables.insertArtifact artifact

def heldByAnother (existing : ArtifactRecord) (leaseId : String) (now : Instant) : Bool :=
  existing.writeLeaseId.any (· ≠ leaseId) && existing.writeLeaseExpiresAt.any (now < ·)

def claimArtifactForWrite (request : ArtifactWriteClaimRequest) : Checked (ArtifactRecord × ArtifactTables) :=
  let artifact := request.artifact
  tables.requireRun artifact.runId >>= fun _ =>
  assertValidArtifact artifact >>= fun _ =>
  if Workflow.trim request.leaseId = "" ∨ request.expiresAt ≤ request.now then .error (.other "artifact write lease is invalid")
  else match tables.artifactKeys.get? (artifact.runId,artifact.key) with
  | none => tables.insertArtifact {artifact with
      deletionState := some .active
      writeLeaseId := some request.leaseId
      writeLeaseExpiresAt := some request.expiresAt}
  | some existingId => tables.requireArtifact existingId >>= fun existing =>
    if ¬ immutableArtifactMatches existing artifact ∨ existing.deletionState ≠ some .active ∨
        heldByAnother existing request.leaseId request.now then .ok (existing,tables)
    else
      let updated := {existing with writeLeaseId := some request.leaseId,writeLeaseExpiresAt := some request.expiresAt}
      .ok (updated,{tables with artifacts := tables.artifacts.set existing.id updated})

def releaseArtifactWriteLease (id leaseId : String) : Checked (Unit × ArtifactTables) :=
  tables.requireArtifact id >>= fun existing =>
  if existing.writeLeaseId ≠ some leaseId then .ok ((),tables)
  else .ok ((),{tables with
    artifacts := tables.artifacts.set id {existing with writeLeaseId := none,writeLeaseExpiresAt := none}})

def getArtifactByRunKey (runId key : String) : Option ArtifactRecord :=
  (tables.artifactKeys.get? (runId,key)).bind tables.artifacts.get?

def listArtifactsByRunKey (runId keyPrefix : String) (afterKey : Option String) (limit : Nat) : List ArtifactRecord :=
  ((tables.artifacts.values.filter fun artifact =>
    artifact.runId = runId && artifact.deletedAt = none && artifact.manifestVersion = some "artifact-manifest-v1" &&
      artifact.deletionState = some .active && keyPrefix.toList.isPrefixOf artifact.key.toList &&
      afterKey.all (· < artifact.key)).insertionSort fun left right => left.key ≤ right.key).take limit

def dueBefore (left right : ArtifactRecord) : Prop :=
  left.cleanupAt.getD 0 < right.cleanupAt.getD 0 ∨ (left.cleanupAt.getD 0 = right.cleanupAt.getD 0 ∧ left.id ≤ right.id)

instance : DecidableRel dueBefore := fun _ _ => inferInstanceAs (Decidable (_ ∨ _))

def listArtifactsDueForCleanup (before : Instant) (limit : Nat) : List ArtifactRecord :=
  ((tables.artifacts.values.filter fun artifact =>
    artifact.manifestVersion = some "artifact-manifest-v1" && artifact.deletedAt = none &&
      (artifact.deletionState = some .active || artifact.deletionState = some .pending) &&
      artifact.cleanupAt.any (· ≤ before)).insertionSort dueBefore).take limit

def reserveArtifactDeletion (request : ArtifactDeletionReservationRequest) : Option ArtifactRecord × ArtifactTables :=
  match tables.artifacts.get? request.id with
  | none => (none,tables)
  | some existing =>
    if existing.runId ≠ request.runId ∨ existing.key ≠ request.logicalKey ∨ existing.uri ≠ some request.uri ∨
        existing.digest ≠ request.digest ∨ existing.manifestVersion ≠ some "artifact-manifest-v1" ∨
        existing.deletionState = some .deleted ∨ existing.deletedAt ≠ none ∨ existing.leased request.now = true then (none,tables)
    else match existing.deletionState with
    | some .pending => (some existing,tables)
    | some .active =>
      let updated := {existing with
        deletionState := some .pending
        deletionRequestedAt := some request.requestedAt
        deletionReason := some request.reason}
      (some updated,{tables with artifacts := tables.artifacts.set existing.id updated})
    | _ => (none,tables)

def finalizeArtifactDeletion (request : ArtifactDeletionFinalizationRequest) : Checked (ArtifactRecord × ArtifactTables) :=
  tables.requireArtifact request.id >>= fun existing =>
  if existing.runId ≠ request.runId ∨ existing.key ≠ request.logicalKey ∨ existing.uri ≠ some request.uri ∨
      existing.digest ≠ request.digest ∨ existing.manifestVersion ≠ some "artifact-manifest-v1" then
    .error (.other "Artifact deletion identity does not match")
  else match existing.deletionState with
  | some .deleted => .ok (existing,tables)
  | some .pending =>
    let updated := {existing with
      deletionState := some .deleted
      deletedAt := some request.deletedAt
      deletionReason := some (existing.deletionReason.getD request.reason)}
    .ok (updated,{tables with artifacts := tables.artifacts.set existing.id updated})
  | _ => .error (.other "Artifact deletion was not reserved")

end ArtifactTables

end AgentOS.Artifacts
