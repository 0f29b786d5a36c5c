import AgentOS.Artifacts.Keys
import AgentOS.Workflow.Run

/-! What an artifact store keeps of an artifact: its key, what its bytes are and how long they stay. -/
namespace AgentOS.Artifacts
open Library

structure ArtifactMetadata extends KeyParts where
  key : String
  mediaType : String
  sizeBytes : Int
  retentionClass : String
  createdAt : Instant
  expiresAt : Instant
  deriving DecidableEq

/-- What the platform computes: digests, in hexadecimal, and lower case letters. -/
structure Platform where
  sha256 : ByteArray → String
  toLowerCase : String → String

def TEXT_MEDIA_TYPES : List String :=
  ["application/json","application/x-ndjson","application/xml","application/junit+xml","application/vnd.agentos.patch+json"]

def BINARY_MEDIA_TYPES : List String :=
  ["application/octet-stream","application/zip","application/gzip","application/x-tar"]

def baseType (mediaType : String) : String := String.ofList (mediaType.toList.takeWhile (· ≠ ';'))

def isTextMediaType (mediaType : String) : Bool :=
  "text/".toList.isPrefixOf (baseType mediaType).toList || TEXT_MEDIA_TYPES.contains (baseType mediaType)

section
variable (platform : Platform)

def normalizeArtifactMediaType (value : String) : Checked String :=
  let normalized := platform.toLowerCase (Workflow.trim value)
  let base := baseType normalized
  if ¬ (normalized = base ∨ normalized = base ++ "; charset=utf-8") ∨
      ¬ (isTextMediaType base = true ∨ BINARY_MEDIA_TYPES.contains base = true) ∨ base = "text/html" ∨ base = "text/javascript" then
    .error (.validation "artifact media type is not allowed")
  else .ok normalized

def validateText (bytes : ByteArray) : Checked Unit :=
  match String.fromUTF8? bytes with
  | none => .error (.validation "text artifact must contain valid UTF-8")
  | some text =>
    if text.toList.contains '\x00' then .error (.validation "text artifact contains a NUL byte") else .ok ()

def validateArtifactMetadata (metadata : ArtifactMetadata) : Checked ArtifactMetadata :=
  parseArtifactKey metadata.key >>= fun parts =>
  if parts ≠ metadata.toKeyParts then .error (.validation "artifact metadata does not match key")
  else if ¬ isNonNegativeSafeInteger metadata.sizeBytes then .error (.validation "artifact size is invalid")
  else match RETENTION_MILLISECONDS metadata.retentionClass with
    | none => .error (.validation "artifact retention class is invalid")
    | some retentionMs =>
      normalizeArtifactMediaType platform metadata.mediaType >>= fun _ =>
      if metadata.expiresAt ≤ metadata.createdAt ∨ metadata.createdAt + retentionMs < metadata.expiresAt then
        .error (.validation "artifact retention window is invalid")
      else .ok metadata

/-- Well-formed metadata: its key is that of its parts, and its bytes stay no longer than their class allows. -/
structure ArtifactMetadata.Valid (metadata : ArtifactMetadata) : Prop where
  parts : metadata.toKeyParts.Valid
  key : metadata.key = metadata.keyText
  size : isNonNegativeSafeInteger metadata.sizeBytes = true
  mediaType : ∃ normalized, normalizeArtifactMediaType platform metadata.mediaType = .ok normalized
  retention : ∃ retentionMs, RETENTION_MILLISECONDS metadata.retentionClass = some retentionMs ∧
    metadata.createdAt < metadata.expiresAt ∧ metadata.expiresAt ≤ metadata.createdAt + retentionMs

variable {platform}

theorem validateArtifactMetadata_ok_iff {metadata found : ArtifactMetadata} :
    validateArtifactMetadata platform metadata = .ok found ↔ metadata.Valid platform ∧ metadata = found := by
  unfold validateArtifactMetadata
  rw [bind_ok]
  constructor
  · rintro ⟨parts,parsed,ok⟩
    obtain ⟨valid,key⟩ := parseArtifactKey_ok_iff.mp parsed
    split at ok
    · cases ok
    rename_i same
    rw [not_not] at same
    split at ok
    · cases ok
    rename_i size
    rw [not_not] at size
    split at ok
    · cases ok
    · rename_i retentionMs retention
      obtain ⟨normalized,mediaType,ok⟩ := bind_ok.mp ok
      split at ok
      · cases ok
      · rename_i window
        cases ok
        subst same
        obtain ⟨opens,closes⟩ := not_or.mp window
        exact ⟨⟨valid,key.symm,size,⟨_,mediaType⟩,_,retention,not_le.mp opens,not_lt.mp closes⟩,rfl⟩
  · rintro ⟨valid,rfl⟩
    obtain ⟨retentionMs,retention,opens,closes⟩ := valid.retention
    obtain ⟨normalized,mediaType⟩ := valid.mediaType
    refine ⟨metadata.toKeyParts,parseArtifactKey_ok_iff.mpr ⟨valid.parts,valid.key.symm⟩,?_⟩
    rw [if_neg (not_not.mpr rfl),if_neg (not_not.mpr valid.size),retention]
    exact bind_ok.mpr ⟨_,mediaType,if_neg (not_or.mpr ⟨not_le.mpr opens,not_lt.mpr closes⟩)⟩

end

end AgentOS.Artifacts
