import AgentOS.Domain
import AgentOS.Library.OrderedMap
import Mathlib.Data.List.Infix
import Mathlib.Data.List.Sort

/-! The artifact store: values under their scope, name and version, each written
once. A digest is the hexadecimal text the hash makes of the bytes. -/
namespace AgentOS
open Library

structure ArtifactScope where
  projectId : String
  runId : String
  stepId : String
  deriving DecidableEq

structure ArtifactSlot extends ArtifactScope where
  artifactId : String
  version : Nat
  deriving DecidableEq

structure ArtifactMetadata extends ArtifactSlot where
  digest : String
  mediaType : String
  sizeBytes : Nat
  retentionClass : String
  createdAt : Instant
  expiresAt : Instant
  deriving DecidableEq

structure Artifact extends ArtifactMetadata where
  bytes : String
  deriving DecidableEq

structure ArtifactPutRequest where
  slot : ArtifactSlot
  digest : Option String := none
  bytes : String
  mediaType : String
  retentionClass : String := "working"

def DEFAULT_ARTIFACT_MAX_BYTES : Nat := 16 * 1024 * 1024

def RETENTION_MILLISECONDS : String → Option Int
  | "source-bundle" => some ((24 * 60 - 15) * 60 * 1000)
  | "cloud-session-upload" => some ((24 * 60 - 15) * 60 * 1000)
  | "working" => some (30 * 24 * 60 * 60 * 1000)
  | _ => none

abbrev ArtifactStore : Type := OrderedMap ArtifactSlot Artifact

namespace ArtifactStore

def prepareArtifactPut (sha256 : String → String) (request : ArtifactPutRequest) (now : Instant) : Except Fault Artifact :=
  let digest := sha256 request.bytes
  if request.bytes.utf8ByteSize > DEFAULT_ARTIFACT_MAX_BYTES then .error (.error "artifact is too large")
  else if request.digest.any (· ≠ digest) then .error (.error "artifact digest does not match bytes")
  else match RETENTION_MILLISECONDS request.retentionClass with
    | none => .error (.error "artifact retention class is invalid")
    | some retentionMaxMs => .ok {request.slot with
        digest
        mediaType := request.mediaType
        sizeBytes := request.bytes.utf8ByteSize
        retentionClass := request.retentionClass
        createdAt := now
        expiresAt := now + retentionMaxMs
        bytes := request.bytes}

theorem prepareArtifactPut_ok {sha256 : String → String} {request : ArtifactPutRequest} {now : Instant} {prepared : Artifact}
    (ok : prepareArtifactPut sha256 request now = .ok prepared) : prepared.toArtifactSlot = request.slot ∧
      prepared.bytes = request.bytes ∧ prepared.digest = sha256 request.bytes ∧
      request.bytes.utf8ByteSize ≤ DEFAULT_ARTIFACT_MAX_BYTES := by
  unfold prepareArtifactPut at ok
  dsimp only at ok
  split at ok
  · cases ok
  rename_i small
  split at ok
  · cases ok
  split at ok
  · cases ok
  · cases ok
    exact ⟨rfl,rfl,rfl,by omega⟩

def equivalent (left right : ArtifactMetadata) : Bool :=
  left.digest = right.digest && left.mediaType = right.mediaType && left.sizeBytes = right.sizeBytes &&
    left.retentionClass = right.retentionClass

def put (store : ArtifactStore) (sha256 : String → String) (request : ArtifactPutRequest) (now : Instant) :
    Except Fault (ArtifactMetadata × ArtifactStore) := do
  let prepared ← prepareArtifactPut sha256 request now
  match store.get? request.slot with
  | none => .ok (prepared.toArtifactMetadata,store.set request.slot prepared)
  | some existing =>
    if equivalent existing.toArtifactMetadata prepared.toArtifactMetadata then .ok (existing.toArtifactMetadata,store)
    else .error (.service "artifact_conflict" "artifact version already exists with different content or metadata" 409)

/-- A stored value that is no larger than allowed and has the digest it was stored with. -/
def read (store : ArtifactStore) (sha256 : String → String) (metadata : ArtifactMetadata) (maxBytes : Option Nat) :
    Except Fault (Option Artifact) :=
  match (store.get? metadata.toArtifactSlot).filter fun stored => stored.digest = metadata.digest with
  | none => .ok none
  | some stored =>
    if maxBytes.any (stored.bytes.utf8ByteSize > ·) then
      .error (.service "artifact_too_large" "artifact exceeds read limit" 413)
    else if sha256 stored.bytes ≠ stored.digest then
      .error (.service "artifact_integrity_error" "artifact failed integrity verification" 500)
    else .ok (some stored)

/-- The first artifacts of a scope whose names start so, and whether there are more. -/
def list (store : ArtifactStore) (scope : ArtifactScope) (artifactPrefix : String) (limit : Nat) :
    List ArtifactMetadata × Bool :=
  let found := (store.values.filter fun artifact =>
    artifact.toArtifactScope = scope && artifactPrefix.toList.isPrefixOf artifact.artifactId.toList).insertionSort
      fun left right => left.artifactId ≤ right.artifactId
  ((found.take limit).map Artifact.toArtifactMetadata,limit < found.length)

end ArtifactStore
end AgentOS
