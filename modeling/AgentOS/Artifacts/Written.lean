import AgentOS.Artifacts.Rows
import AgentOS.Dates

/-! Metadata and rows with their timestamps as they are written: what a put produces, what is validated, and how a row
is made of metadata and read back, whichever way its timestamps are spelled. -/
namespace AgentOS.Artifacts.Written

structure ArtifactMetadata extends KeyParts where
  key : String
  mediaType : String
  sizeBytes : Int
  retentionClass : String
  createdAt : String
  expiresAt : String

structure ArtifactValue extends ArtifactMetadata where
  bytes : ByteArray

structure ArtifactPutRequest where
  scope : ArtifactScope
  artifactId : String
  version : Nat
  digest : Option String := none
  bytes : ByteArray
  mediaType : String
  retentionClass : Option String := none
  expiresAt : Option String := none

structure ArtifactRecord where
  id : String
  runId : String
  key : String
  mediaType : Option String := none
  sizeBytes : Option Int := none
  digest : String
  uri : Option String := none
  retentionClass : Option String := none
  createdAt : String
  cleanupAt : Option String := none
  deletionState : Option DeletionState := none
  manifestVersion : Option String := none

/-- Only a canonical text passes, whatever else the language can read. -/
def timestamp (value label : String) : Checked String :=
  match canonicalTime value with
  | none => .error (.validation (label ++ " must be canonical ISO-8601"))
  | some _ => .ok value

/-- A date's `toISOString`, which throws for what no date holds. -/
def dateText (at_ : Int) : Checked String := if isTime at_ then .ok (toISOString at_) else .error (.other "Invalid time value")

section
variable (platform : Platform)

def expiryText (requested : Option String) (now retentionMaxMs : Int) : Checked String :=
  match requested with
  | none => dateText (now + retentionMaxMs)
  | some text => if text = "" then dateText (now + retentionMaxMs) else timestamp text "expiresAt"

def prepareArtifactPut (request : ArtifactPutRequest) (now : Int) (maxBytes : Int) : Checked ArtifactValue :=
  if ¬ (isSafeInteger maxBytes = true ∧ 1 ≤ maxBytes) then .error (.validation "maxBytes must be a positive integer")
  else if request.bytes.size > maxBytes then .error (.validation "artifact is too large")
  else normalizeArtifactMediaType platform request.mediaType >>= fun mediaType =>
    (if isTextMediaType mediaType then validateText request.bytes else .ok ()) >>= fun _ =>
    let digest := platform.sha256 request.bytes
    if request.digest.any (· ≠ digest) then .error (.validation "artifact digest does not match bytes")
    else
      let retentionClass := request.retentionClass.getD "working"
      match RETENTION_MILLISECONDS retentionClass with
      | none => .error (.validation "artifact retention class is invalid")
      | some retentionMaxMs =>
        dateText now >>= fun createdAt =>
        expiryText request.expiresAt now retentionMaxMs >>= fun expiresAt =>
        if (canonicalTime expiresAt).any (fun expiresMs => expiresMs ≤ now || now + retentionMaxMs < expiresMs) then
          .error (.validation ("artifact retention exceeds " ++ retentionClass ++ " maximum"))
        else
          normalizeArtifactScope request.scope >>= fun scope =>
          segment request.artifactId "artifactId" >>= fun artifactId =>
          positiveVersion request.version >>= fun version =>
          let parts : KeyParts := {scope with artifactId,version,digest}
          buildArtifactKey parts >>= fun key =>
          .ok {parts with
            key := key
            bytes := request.bytes
            mediaType := mediaType
            sizeBytes := request.bytes.size
            retentionClass := retentionClass
            createdAt := createdAt
            expiresAt := expiresAt}

def validateArtifactMetadata (metadata : ArtifactMetadata) : Checked ArtifactMetadata :=
  parseArtifactKey metadata.key >>= fun parts =>
  if parts ≠ metadata.toKeyParts then .error (.validation "artifact metadata does not match key")
  else if ¬ isNonNegativeSafeInteger metadata.sizeBytes then .error (.validation "artifact size is invalid")
  else match RETENTION_MILLISECONDS metadata.retentionClass with
    | none => .error (.validation "artifact retention class is invalid")
    | some retentionMs =>
      normalizeArtifactMediaType platform metadata.mediaType >>= fun _ =>
      match canonicalTime metadata.createdAt,canonicalTime metadata.expiresAt with
      | none,_ => .error (.validation "createdAt must be canonical ISO-8601")
      | some _,none => .error (.validation "expiresAt must be canonical ISO-8601")
      | some createdAt,some expiresAt =>
        if expiresAt ≤ createdAt ∨ createdAt + retentionMs < expiresAt then
          .error (.validation "artifact retention window is invalid")
        else .ok metadata

def readTimestamp (value : String) : Checked IsoTimestamp :=
  match isoTimestamp value with
  | .error _ => .error (.other "timestamp must be an ISO 8601 string")
  | .ok stamp => .ok stamp

/-- The canonical text of a row's timestamp. What is finer than a millisecond is left as it is. -/
def metadataTimestamp (value : String) : Checked String :=
  readTimestamp value >>= fun stamp =>
  if stamp.epochMicroseconds % 1000 ≠ 0 then .ok value else dateText (stamp.epochMicroseconds / 1000)

def metadataFromRecord (record : ArtifactRecord) : Checked ArtifactMetadata :=
  match record.uri, record.mediaType, record.sizeBytes, record.cleanupAt, record.retentionClass with
  | some uri, some mediaType, some sizeBytes, some cleanupAt, some retentionClass =>
    if record.manifestVersion ≠ some "artifact-manifest-v1" ∨ record.deletionState = none then .error incompleteManifest
    else
      parseArtifactKey uri >>= fun parts =>
      metadataTimestamp record.createdAt >>= fun createdAt =>
      metadataTimestamp cleanupAt >>= fun expiresAt =>
      validateArtifactMetadata platform {parts with
        key := uri
        mediaType := mediaType
        sizeBytes := sizeBytes
        retentionClass := retentionClass
        createdAt := createdAt
        expiresAt := expiresAt} >>= fun metadata =>
      logicalKey metadata.toKeyParts >>= fun logical =>
      recordId platform metadata.toKeyParts >>= fun id =>
      persistenceId "artifact" id >>= fun id =>
      if record.runId ≠ metadata.runId ∨ record.key ≠ logical ∨ record.digest ≠ metadata.digest ∨ record.id ≠ id then
        .error manifestIdentity
      else .ok metadata
  | _, _, _, _, _ => .error incompleteManifest

def recordFromMetadata (metadata : ArtifactMetadata) : Checked ArtifactRecord :=
  validateArtifactMetadata platform metadata >>= fun _ =>
  recordId platform metadata.toKeyParts >>= fun text =>
  persistenceId "artifact" text >>= fun id =>
  persistenceId "run" metadata.runId >>= fun runId =>
  logicalKey metadata.toKeyParts >>= fun key =>
  readTimestamp metadata.createdAt >>= fun createdAt =>
  readTimestamp metadata.expiresAt >>= fun cleanupAt =>
  .ok {
    id := id
    runId := runId
    key := key
    mediaType := some metadata.mediaType
    sizeBytes := some metadata.sizeBytes
    digest := metadata.digest
    uri := some metadata.key
    retentionClass := some metadata.retentionClass
    createdAt := createdAt.text
    cleanupAt := some cleanupAt.text
    manifestVersion := some "artifact-manifest-v1"
    deletionState := some .active}

end

end AgentOS.Artifacts.Written
