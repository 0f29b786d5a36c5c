import AgentOS.Artifacts.Manifest
import Mathlib.Data.List.TakeWhile

/-! How a row shows the metadata it was made of, and which rows stand for the entries of a manifest kept in memory. -/
namespace AgentOS.Artifacts
open Library

def KeyParts.logical (parts : KeyParts) : String := logicalText parts.stepId parts.artifactId parts.version

def KeyParts.identity (parts : KeyParts) : Identity := (parts.projectId,parts.runId,parts.logical)

section
variable (platform : Platform)

def idOf (parts : KeyParts) : String :=
  "artifact_" ++ platform.sha256 (identityText parts.projectId parts.runId parts.logical).toUTF8

def plainRow (metadata : ArtifactMetadata) : ArtifactRecord where
  id := idOf platform metadata.toKeyParts
  runId := metadata.runId
  key := metadata.logical
  mediaType := some metadata.mediaType
  sizeBytes := some metadata.sizeBytes
  digest := metadata.digest
  uri := some metadata.key
  retentionClass := some metadata.retentionClass
  createdAt := metadata.createdAt
  cleanupAt := some metadata.expiresAt
  manifestVersion := some "artifact-manifest-v1"
  deletionState := some .active

structure Shows (record : ArtifactRecord) (metadata : ArtifactMetadata) : Prop where
  id : record.id = idOf platform metadata.toKeyParts
  run : record.runId = metadata.runId
  key : record.key = metadata.logical
  uri : record.uri = some metadata.key
  digest : record.digest = metadata.digest
  mediaType : record.mediaType = some metadata.mediaType
  size : record.sizeBytes = some metadata.sizeBytes
  retention : record.retentionClass = some metadata.retentionClass
  created : record.createdAt = metadata.createdAt
  cleanup : record.cleanupAt = some metadata.expiresAt
  version : record.manifestVersion = some "artifact-manifest-v1"

end

variable {platform : Platform} {parts other : KeyParts} {metadata : ArtifactMetadata} {record : ArtifactRecord}

theorem logicalKey_ok_iff {logical : String} : logicalKey parts = .ok logical ↔
    (isSegment parts.stepId = true ∧ isSegment parts.artifactId = true ∧ isVersion parts.version = true) ∧
      parts.logical = logical := artifactLogicalKey_ok_iff

theorem KeyParts.Valid.logicalKey (valid : parts.Valid) : logicalKey parts = .ok parts.logical :=
  logicalKey_ok_iff.mpr ⟨⟨valid.step,valid.artifact,valid.version⟩,rfl⟩

theorem identity_ok_iff {id : Identity} : identity parts = .ok id ↔
    (isSegment parts.stepId = true ∧ isSegment parts.artifactId = true ∧ isVersion parts.version = true) ∧ parts.identity = id := by
  unfold identity
  rw [bind_ok]
  constructor
  · rintro ⟨logical,named,ok⟩
    obtain ⟨valid,rfl⟩ := logicalKey_ok_iff.mp named
    exact ⟨valid,Except.ok.inj ok⟩
  · rintro ⟨valid,rfl⟩
    exact ⟨_,logicalKey_ok_iff.mpr ⟨valid,rfl⟩,rfl⟩

theorem KeyParts.Valid.identified (valid : parts.Valid) : Artifacts.identity parts = .ok parts.identity :=
  identity_ok_iff.mpr ⟨⟨valid.step,valid.artifact,valid.version⟩,rfl⟩

theorem recordId_ok_iff {id : String} : recordId platform parts = .ok id ↔
    (isSegment parts.stepId = true ∧ isSegment parts.artifactId = true ∧ isVersion parts.version = true) ∧
      idOf platform parts = id := by
  unfold recordId
  rw [bind_ok]
  constructor
  · rintro ⟨logical,named,ok⟩
    obtain ⟨valid,rfl⟩ := logicalKey_ok_iff.mp named
    exact ⟨valid,Except.ok.inj ok⟩
  · rintro ⟨valid,rfl⟩
    exact ⟨_,logicalKey_ok_iff.mpr ⟨valid,rfl⟩,rfl⟩

variable {char : Char} {kind value : String} {rest : List Char}

theorem trim_visible {text : String} (starts : text.toList = char::rest)
    (visible : Workflow.isSpace char = false) : Workflow.trim text ≠ "" := by
  intro blank
  unfold Workflow.trim at blank
  have nothing := congrArg String.toList blank
  rw [starts,List.dropWhile_cons_of_neg (by simp [visible]),String.toList_ofList,String.toList_empty,List.reverse_eq_nil_iff]
    at nothing
  have space := List.dropWhile_eq_nil_iff.mp nothing char (by simp)
  rw [visible] at space
  cases space

theorem isSpace_of_alphanum (plain : char.isAlphanum = true) : Workflow.isSpace char = false := by
  simp only [Char.isAlphanum,isAlpha_eq,isUpper_eq,isLower_eq,Char.isDigit,Bool.or_eq_true,Bool.and_eq_true,
    decide_eq_true_eq,UInt32.le_iff_toNat_le,ge_iff_le] at plain
  have bounds : 48 ≤ char.val.toNat ∧ char.val.toNat ≤ 122 := by
    rcases plain with (⟨low,high⟩ | ⟨low,high⟩) | ⟨low,high⟩
    · exact ⟨le_trans (by decide) low,high.trans (by decide)⟩
    · exact ⟨le_trans (by decide) low,high.trans (by decide)⟩
    · exact ⟨low,high.trans (by decide)⟩
  simp only [Workflow.isSpace,List.mem_cons,List.not_mem_nil,or_false,← UInt32.toNat_inj,UInt32.le_iff_toNat_le,
    Bool.or_eq_false_iff,decide_eq_false_iff_not,Bool.and_eq_false_iff]
  constructor
  · rintro (same | same | same | same | same | same | same | same | same | same | same | same | same | same) <;>
      rw [same] at bounds <;> revert bounds <;> decide
  · left
    intro high
    have far : 8192 ≤ char.val.toNat := high
    omega

theorem persistenceId_visible (starts : value.toList = char::rest)
    (plain : char.isAlphanum = true) : persistenceId kind value = .ok value :=
  if_neg (trim_visible starts (isSpace_of_alphanum plain))

theorem persistenceId_segment (valid : isSegment value = true) : persistenceId kind value = .ok value := by
  simp only [isSegment,Bool.and_eq_true] at valid
  obtain ⟨first,head,plain⟩ := (Option.any_eq_true _ _).mp valid.1.1.1.2
  obtain ⟨rest,starts⟩ := List.head?_eq_some_iff.mp head
  exact persistenceId_visible starts plain

theorem idOf_persistent : persistenceId "artifact" (idOf platform parts) = .ok (idOf platform parts) := by
  have starts : ("artifact_" : String).toList = 'a'::"rtifact_".toList := by rfl
  unfold idOf
  exact persistenceId_visible (by rw [String.toList_append,starts,List.cons_append]) (by decide)

theorem recordFromMetadata_valid (valid : metadata.Valid platform) :
    recordFromMetadata platform metadata = .ok (plainRow platform metadata) := by
  refine bind_ok.mpr ⟨_,validateArtifactMetadata_ok_iff.mpr ⟨valid,rfl⟩,?_⟩
  refine bind_ok.mpr ⟨_,recordId_ok_iff.mpr ⟨⟨valid.parts.step,valid.parts.artifact,valid.parts.version⟩,rfl⟩,?_⟩
  refine bind_ok.mpr ⟨_,idOf_persistent,bind_ok.mpr ⟨_,persistenceId_segment valid.parts.run,?_⟩⟩
  exact bind_ok.mpr ⟨_,valid.parts.logicalKey,rfl⟩

theorem shows_plainRow : Shows platform (plainRow platform metadata) metadata :=
  ⟨rfl,rfl,rfl,rfl,rfl,rfl,rfl,rfl,rfl,rfl,rfl⟩

theorem immutableArtifactMatches_iff :
    immutableArtifactMatches record (plainRow platform metadata) = true ↔ Shows platform record metadata := by
  simp only [immutableArtifactMatches,Bool.and_eq_true,decide_eq_true_eq]
  constructor
  · rintro ⟨⟨⟨⟨⟨⟨⟨⟨⟨⟨id,run⟩,key⟩,uri⟩,digest⟩,mediaType⟩,size⟩,retention⟩,created⟩,cleanup⟩,version⟩
    exact ⟨id,run,key,uri,digest,mediaType,size,retention,created,cleanup,version⟩
  · rintro ⟨id,run,key,uri,digest,mediaType,size,retention,created,cleanup,version⟩
    exact ⟨⟨⟨⟨⟨⟨⟨⟨⟨⟨id,run⟩,key⟩,uri⟩,digest⟩,mediaType⟩,size⟩,retention⟩,created⟩,cleanup⟩,version⟩

theorem Shows.metadataFromRecord (shown : Shows platform record metadata) (valid : metadata.Valid platform)
    (kept : record.deletionState ≠ none) : metadataFromRecord platform record = .ok metadata := by
  unfold Artifacts.metadataFromRecord
  rw [shown.uri,shown.mediaType,shown.size,shown.cleanup,shown.retention]
  dsimp only
  rw [if_neg (by simp [shown.version,kept]),shown.created]
  refine bind_ok.mpr ⟨_,parseArtifactKey_ok_iff.mpr ⟨valid.parts,valid.key.symm⟩,?_⟩
  refine bind_ok.mpr ⟨metadata,validateArtifactMetadata_ok_iff.mpr ⟨valid,rfl⟩,?_⟩
  refine bind_ok.mpr ⟨_,valid.parts.logicalKey,?_⟩
  refine bind_ok.mpr ⟨_,recordId_ok_iff.mpr ⟨⟨valid.parts.step,valid.parts.artifact,valid.parts.version⟩,rfl⟩,?_⟩
  exact if_neg (by simp [shown.id,shown.run,shown.key,shown.digest])

theorem identity_of_idOf (collisionFree : Function.Injective platform.sha256) (valid : parts.Valid) (valid' : other.Valid)
    (same : idOf platform parts = idOf platform other) : parts.identity = other.identity := by
  have nul : segmentChar '\x00' = false := by decide
  have separator : ("\x00" : String).toList = ['\x00'] := by rfl
  have texts := congrArg String.toList same
  unfold idOf at texts
  rw [String.toList_append,String.toList_append] at texts
  have digests := String.toList_injective (List.append_cancel_left texts)
  have characters := congrArg String.toList (String.toByteArray_inj.mp (collisionFree digests))
  unfold identityText at characters
  rw [String.toList_append,String.toList_append,String.toList_append,String.toList_append,String.toList_append,
    String.toList_append,String.toList_append,String.toList_append,separator,List.append_assoc,List.append_assoc,
    List.append_assoc,List.append_assoc,List.append_assoc,List.append_assoc] at characters
  obtain ⟨project,afterProject⟩ :=
    Joined.inj_of_heads (not_mem_of_segment valid.project nul) (not_mem_of_segment valid'.project nul) characters
  obtain ⟨run,logical⟩ := Joined.inj_of_heads (not_mem_of_segment valid.run nul) (not_mem_of_segment valid'.run nul) afterProject
  unfold KeyParts.identity
  rw [String.toList_injective project,String.toList_injective run,String.toList_injective logical]

end AgentOS.Artifacts
