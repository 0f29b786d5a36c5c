import AgentOS.Artifacts.Written
import AgentOS.Artifacts.Stores

/-! Metadata that a put produces survives its storage: it passes validation, its row is read back as the same metadata
whichever way the row's timestamps are spelled, and a row with another identity is refused. -/
namespace AgentOS.Artifacts.Written
open Library

def written (metadata : Artifacts.ArtifactMetadata) : ArtifactMetadata where
  toKeyParts := metadata.toKeyParts
  key := metadata.key
  mediaType := metadata.mediaType
  sizeBytes := metadata.sizeBytes
  retentionClass := metadata.retentionClass
  createdAt := toISOString metadata.createdAt
  expiresAt := toISOString metadata.expiresAt

def rowOf (platform : Platform) (metadata : ArtifactMetadata) : ArtifactRecord where
  id := idOf platform metadata.toKeyParts
  runId := metadata.runId
  key := metadata.logical
  mediaType := some metadata.mediaType
  sizeBytes := some metadata.sizeBytes
  digest := metadata.digest
  uri := some metadata.key
  retentionClass := some metadata.retentionClass
  createdAt := metadata.createdAt
  cleanupAt := some metadata.expiresAt
  manifestVersion := some "artifact-manifest-v1"
  deletionState := some .active

section
variable {platform : Platform} {metadata : Artifacts.ArtifactMetadata}

theorem validate_written (created : isTime metadata.createdAt = true) (expires : isTime metadata.expiresAt = true) :
    validateArtifactMetadata platform (written metadata) = (Artifacts.validateArtifactMetadata platform metadata).map written := by
  have first : canonicalTime (written metadata).createdAt = some metadata.createdAt := canonicalTime_toISOString created
  have last : canonicalTime (written metadata).expiresAt = some metadata.expiresAt := canonicalTime_toISOString expires
  have key : (written metadata).key = metadata.key := rfl
  have retention : (written metadata).retentionClass = metadata.retentionClass := rfl
  have mediaType : (written metadata).mediaType = metadata.mediaType := rfl
  unfold validateArtifactMetadata Artifacts.validateArtifactMetadata
  rw [first,last,key,retention,mediaType]
  simp only [bind,Except.bind]
  cases parseArtifactKey metadata.key with
  | error fault => rfl
  | ok parts =>
    dsimp only
    by_cases same : parts ≠ metadata.toKeyParts
    · have same' : parts ≠ (written metadata).toKeyParts := same
      rw [if_pos same,if_pos same']
      rfl
    have same' : ¬ parts ≠ (written metadata).toKeyParts := same
    rw [if_neg same,if_neg same']
    by_cases size : ¬ isNonNegativeSafeInteger metadata.sizeBytes = true
    · have size' : ¬ isNonNegativeSafeInteger (written metadata).sizeBytes = true := size
      rw [if_pos size,if_pos size']
      rfl
    have size' : ¬¬ isNonNegativeSafeInteger (written metadata).sizeBytes = true := size
    rw [if_neg size,if_neg size']
    cases RETENTION_MILLISECONDS metadata.retentionClass with
    | none => rfl
    | some retentionMs =>
      cases normalizeArtifactMediaType platform metadata.mediaType with
      | error fault => rfl
      | ok mediaType =>
        dsimp only
        split
        · rfl
        · rfl

theorem validate_written_valid (valid : metadata.Valid platform) (created : isTime metadata.createdAt = true)
    (expires : isTime metadata.expiresAt = true) : validateArtifactMetadata platform (written metadata) = .ok (written metadata) := by
  rw [validate_written created expires,validateArtifactMetadata_ok_iff.mpr ⟨valid,rfl⟩]
  rfl

/-! ### Rows -/

theorem readTimestamp_ok {value : String} {stamp : IsoTimestamp} (ok : readTimestamp value = .ok stamp) : stamp.text = value := by
  unfold readTimestamp at ok
  split at ok
  · cases ok
  · rename_i found read
    cases ok
    unfold isoTimestamp at read
    split at read
    · cases read
    · split at read
      · cases read
        rfl
      · cases read

structure Names (value : String) (at_ : Int) : Prop where
  stamp : ∃ stamp, readTimestamp value = .ok stamp ∧ stamp.epochMicroseconds = at_ * 1000

section
variable {at_ : Int} (low : 0 ≤ at_) (high : at_ ≤ LAST_TIMESTAMP)
include low high

theorem names_canonical : Names (toISOString at_) at_ := by
  obtain ⟨year,year'⟩ := year_le_iff low
  obtain ⟨stamp,read,micro⟩ := isoTimestamp_toISOString year (year'.mpr high)
  refine ⟨stamp,?_,micro⟩
  unfold readTimestamp
  rw [read]

theorem isTime_of_early : isTime at_ = true := by
  unfold LAST_TIMESTAMP at high
  simp only [isTime,Bool.and_eq_true,decide_eq_true_eq]
  unfold MAX_TIME
  omega

end

theorem metadataTimestamp_names {value : String} {at_ : Int} (names : Names value at_) (time : isTime at_ = true) :
    metadataTimestamp value = .ok (toISOString at_) := by
  obtain ⟨stamp,read,micro⟩ := names.stamp
  unfold metadataTimestamp
  refine bind_ok.mpr ⟨stamp,read,?_⟩
  rw [micro,if_neg (by omega),Int.mul_ediv_cancel _ (by omega)]
  exact if_pos time

theorem recordFromMetadata_written (valid : metadata.Valid platform) (created : 0 ≤ metadata.createdAt)
    (created' : metadata.createdAt ≤ LAST_TIMESTAMP) (expires : 0 ≤ metadata.expiresAt)
    (expires' : metadata.expiresAt ≤ LAST_TIMESTAMP) :
    recordFromMetadata platform (written metadata) = .ok (rowOf platform (written metadata)) := by
  obtain ⟨first,readFirst,_⟩ := (names_canonical created created').stamp
  obtain ⟨last,readLast,_⟩ := (names_canonical expires expires').stamp
  refine bind_ok.mpr ⟨_,validate_written_valid valid (isTime_of_early created created') (isTime_of_early expires expires'),?_⟩
  refine bind_ok.mpr ⟨_,recordId_ok_iff.mpr ⟨⟨valid.parts.step,valid.parts.artifact,valid.parts.version⟩,rfl⟩,?_⟩
  refine bind_ok.mpr ⟨_,idOf_persistent,bind_ok.mpr ⟨_,persistenceId_segment valid.parts.run,?_⟩⟩
  refine bind_ok.mpr ⟨_,valid.parts.logicalKey,bind_ok.mpr ⟨first,readFirst,bind_ok.mpr ⟨last,readLast,?_⟩⟩⟩
  rw [readTimestamp_ok readFirst,readTimestamp_ok readLast]
  rfl

theorem recordFromMetadata_late (late : LAST_TIMESTAMP < metadata.expiresAt) :
    ∃ error, recordFromMetadata platform (written metadata) = .error error := by
  cases made : recordFromMetadata platform (written metadata) with
  | error error => exact ⟨error,rfl⟩
  | ok record =>
    obtain ⟨_,_,made⟩ := bind_ok.mp made
    obtain ⟨_,_,made⟩ := bind_ok.mp made
    obtain ⟨_,_,made⟩ := bind_ok.mp made
    obtain ⟨_,_,made⟩ := bind_ok.mp made
    obtain ⟨_,_,made⟩ := bind_ok.mp made
    obtain ⟨_,_,made⟩ := bind_ok.mp made
    obtain ⟨stamp,read,_⟩ := bind_ok.mp made
    have positive : (0 : Int) ≤ metadata.expiresAt := by
      unfold LAST_TIMESTAMP at late
      omega
    obtain ⟨_,year⟩ := year_le_iff positive
    have impossible := @isoTimestamp_late metadata.expiresAt (by omega)
    unfold readTimestamp at read
    have text : (written metadata).expiresAt = toISOString metadata.expiresAt := rfl
    rw [text,impossible] at read
    cases read

/-! ### Reading rows -/

/-- One spelling of a timestamp for another, with as many digits and whatever offset, of the same instant. -/
def Rerenders (value other : String) : Prop :=
  ∃ stamp stamp', readTimestamp value = .ok stamp ∧ readTimestamp other = .ok stamp' ∧
    stamp.epochMicroseconds = stamp'.epochMicroseconds

theorem Names.rerendered {value other : String} {at_ : Int} (names : Names value at_) (rerenders : Rerenders value other) :
    Names other at_ := by
  obtain ⟨stamp,read,micro⟩ := names.stamp
  obtain ⟨first,second,readFirst,readSecond,same⟩ := rerenders
  rw [read] at readFirst
  cases readFirst
  exact ⟨second,readSecond,same ▸ micro⟩

/-- The row as the repository gives it back: its timestamps may be spelled in another way. -/
inductive GivenBack (row : ArtifactRecord) : ArtifactRecord → Prop
  | rendered {createdAt cleanupAt cleanupAt' : String} (created : Rerenders row.createdAt createdAt)
    (cleanup : row.cleanupAt = some cleanupAt) (cleans : Rerenders cleanupAt cleanupAt') :
    GivenBack row {row with createdAt := createdAt,cleanupAt := some cleanupAt'}

structure Identified (platform : Platform) (record : ArtifactRecord) (parts : KeyParts) : Prop where
  valid : parts.Valid
  uri : record.uri = some parts.keyText
  run : record.runId = parts.runId
  key : record.key = parts.logical
  digest : record.digest = parts.digest
  id : record.id = idOf platform parts

theorem metadataFromRecord_ok {record : ArtifactRecord} {uri mediaType cleanupAt retentionClass createdAt expiresAt : String}
    {sizeBytes : Int} {state : DeletionState} {parts : KeyParts} {found : ArtifactMetadata} (hasUri : record.uri = some uri)
    (hasMediaType : record.mediaType = some mediaType) (hasSize : record.sizeBytes = some sizeBytes)
    (hasCleanup : record.cleanupAt = some cleanupAt) (hasRetention : record.retentionClass = some retentionClass)
    (version : record.manifestVersion = some "artifact-manifest-v1") (hasState : record.deletionState = some state)
    (parsed : parseArtifactKey uri = .ok parts) (created : metadataTimestamp record.createdAt = .ok createdAt)
    (cleaned : metadataTimestamp cleanupAt = .ok expiresAt)
    (validated : validateArtifactMetadata platform {parts with
      key := uri
      mediaType := mediaType
      sizeBytes := sizeBytes
      retentionClass := retentionClass
      createdAt := createdAt
      expiresAt := expiresAt} = .ok found)
    (valid : found.toKeyParts.Valid) (run : record.runId = found.runId) (key : record.key = found.logical)
    (digest : record.digest = found.digest) (id : record.id = idOf platform found.toKeyParts) :
    metadataFromRecord platform record = .ok found := by
  unfold metadataFromRecord
  rw [hasUri,hasMediaType,hasSize,hasCleanup,hasRetention,version,hasState]
  dsimp only
  rw [if_neg (by simp)]
  refine bind_ok.mpr ⟨parts,parsed,bind_ok.mpr ⟨_,created,bind_ok.mpr ⟨_,cleaned,bind_ok.mpr ⟨found,validated,?_⟩⟩⟩⟩
  refine bind_ok.mpr ⟨_,valid.logicalKey,?_⟩
  refine bind_ok.mpr ⟨_,recordId_ok_iff.mpr ⟨⟨valid.step,valid.artifact,valid.version⟩,rfl⟩,bind_ok.mpr ⟨_,idOf_persistent,?_⟩⟩
  rw [run,key,digest,id]
  exact if_neg (by simp)

theorem metadataFromRecord_given {given : ArtifactRecord} (valid : metadata.Valid platform) (created : 0 ≤ metadata.createdAt)
    (created' : metadata.createdAt ≤ LAST_TIMESTAMP) (expires : 0 ≤ metadata.expiresAt)
    (expires' : metadata.expiresAt ≤ LAST_TIMESTAMP) (back : GivenBack (rowOf platform (written metadata)) given) :
    metadataFromRecord platform given = .ok (written metadata) := by
  cases back with
  | rendered first cleanup last =>
    have expiry : toISOString metadata.expiresAt = _ := Option.some.inj cleanup
    subst expiry
    have early := isTime_of_early created created'
    have late := isTime_of_early expires expires'
    have readFirst := metadataTimestamp_names ((names_canonical created created').rerendered first) early
    have readLast := metadataTimestamp_names ((names_canonical expires expires').rerendered last) late
    have parsed : parseArtifactKey metadata.key = .ok metadata.toKeyParts := parseArtifactKey_ok_iff.mpr ⟨valid.parts,valid.key.symm⟩
    have validated : validateArtifactMetadata platform {metadata.toKeyParts with
        key := metadata.key
        mediaType := metadata.mediaType
        sizeBytes := metadata.sizeBytes
        retentionClass := metadata.retentionClass
        createdAt := toISOString metadata.createdAt
        expiresAt := toISOString metadata.expiresAt} = .ok (written metadata) := validate_written_valid valid early late
    refine metadataFromRecord_ok rfl rfl rfl rfl rfl rfl rfl parsed readFirst readLast validated valid.parts ?_ ?_ ?_ ?_
    · rfl
    · rfl
    · rfl
    · rfl

theorem validate_same {metadata found : ArtifactMetadata} (ok : validateArtifactMetadata platform metadata = .ok found) :
    found = metadata := by
  obtain ⟨parts,_,ok⟩ := bind_ok.mp ok
  split at ok
  · cases ok
  split at ok
  · cases ok
  split at ok
  · cases ok
  obtain ⟨_,_,ok⟩ := bind_ok.mp ok
  split at ok
  · cases ok
  · cases ok
  · split at ok
    · cases ok
    · cases ok
      rfl

theorem identified_of_ok {record : ArtifactRecord} {found : ArtifactMetadata} (ok : metadataFromRecord platform record = .ok found) :
    ∃ parts, Identified platform record parts := by
  unfold metadataFromRecord at ok
  split at ok
  · rename_i uri mediaType sizeBytes cleanupAt retentionClass hasUri _ _ _ _
    split at ok
    · cases ok
    obtain ⟨parts,parsed,ok⟩ := bind_ok.mp ok
    obtain ⟨_,_,ok⟩ := bind_ok.mp ok
    obtain ⟨_,_,ok⟩ := bind_ok.mp ok
    obtain ⟨metadata,validated,ok⟩ := bind_ok.mp ok
    obtain rfl := validate_same validated
    obtain ⟨logical,named,ok⟩ := bind_ok.mp ok
    obtain ⟨id,identified,ok⟩ := bind_ok.mp ok
    obtain ⟨id',persistent,ok⟩ := bind_ok.mp ok
    obtain ⟨valid,rfl⟩ := parseArtifactKey_ok_iff.mp parsed
    obtain ⟨_,rfl⟩ := logicalKey_ok_iff.mp named
    obtain ⟨_,rfl⟩ := recordId_ok_iff.mp identified
    rw [idOf_persistent] at persistent
    cases persistent
    split at ok
    · cases ok
    · rename_i same
      simp only [not_or,not_not] at same
      exact ⟨parts,valid,hasUri,same.1,same.2.1,same.2.2.1,same.2.2.2⟩
  · cases ok

inductive ChangedAlone (row : ArtifactRecord) : ArtifactRecord → Prop
  | run {runId : String} (other : runId ≠ row.runId) : ChangedAlone row {row with runId := runId}
  | key {key : String} (other : key ≠ row.key) : ChangedAlone row {row with key := key}
  | digest {digest : String} (other : digest ≠ row.digest) : ChangedAlone row {row with digest := digest}
  | uri {uri : Option String} (other : uri ≠ row.uri) : ChangedAlone row {row with uri := uri}
  | id {id : String} (other : id ≠ row.id) : ChangedAlone row {row with id := id}

def Collide (platform : Platform) (parts other : KeyParts) : Prop :=
  identityText parts.projectId parts.runId parts.logical ≠ identityText other.projectId other.runId other.logical ∧
    idOf platform parts = idOf platform other

theorem changed_refused {row changed : ArtifactRecord} {parts : KeyParts} (identified : Identified platform row parts)
    (alone : ChangedAlone row changed) (apart : ∀ other : KeyParts, changed.uri = some other.keyText → ¬ Collide platform parts other) :
    ∃ error, metadataFromRecord platform changed = .error error := by
  cases found : metadataFromRecord platform changed with
  | error error => exact ⟨error,rfl⟩
  | ok metadata =>
    obtain ⟨other,known⟩ := identified_of_ok found
    have sameParts : changed.uri = row.uri → other = parts := by
      intro same
      have texts := known.uri
      rw [same,identified.uri] at texts
      exact keyText_injective known.valid identified.valid (Option.some.inj texts).symm
    cases alone with
    | run different =>
      obtain rfl := sameParts rfl
      exact absurd (known.run.trans identified.run.symm) different
    | key different =>
      obtain rfl := sameParts rfl
      exact absurd (known.key.trans identified.key.symm) different
    | digest different =>
      obtain rfl := sameParts rfl
      exact absurd (known.digest.trans identified.digest.symm) different
    | id different =>
      obtain rfl := sameParts rfl
      exact absurd (known.id.trans identified.id.symm) different
    | uri different =>
      have run : other.runId = parts.runId := known.run.symm.trans identified.run
      have key : other.logical = parts.logical := known.key.symm.trans identified.key
      have digest : other.digest = parts.digest := known.digest.symm.trans identified.digest
      have id : idOf platform parts = idOf platform other := identified.id.symm.trans known.id
      obtain ⟨step,artifact,version⟩ := logicalText_injective known.valid.step known.valid.artifact identified.valid.step
        identified.valid.artifact key
      have texts : identityText parts.projectId parts.runId parts.logical = identityText other.projectId other.runId other.logical := by
        by_contra differ
        exact apart other known.uri ⟨differ,id⟩
      rw [run,key] at texts
      have chars := congrArg String.toList texts
      unfold identityText at chars
      simp only [String.toList_append,List.append_assoc,List.append_cancel_right_eq] at chars
      have project := String.toList_injective chars
      have same : other = parts := by
        obtain ⟨⟨project',run',step'⟩,artifact',version',digest'⟩ := other
        obtain ⟨⟨project'',run'',step''⟩,artifact'',version'',digest''⟩ := parts
        simp_all
      exact absurd (known.uri.trans (same ▸ identified.uri.symm)) different

/-! ### What a put produces -/

/-- Lower-casing twice is lower-casing once, and neither makes white space nor removes it. -/
structure Lowers (platform : Platform) : Prop where
  again : ∀ text, platform.toLowerCase (platform.toLowerCase text) = platform.toLowerCase text
  trims : ∀ text, Workflow.trim (platform.toLowerCase text) = platform.toLowerCase (Workflow.trim text)

theorem dropWhile_again {α : Type} (test : α → Bool) (items : List α) : (items.dropWhile test).dropWhile test = items.dropWhile test := by
  induction items with
  | nil => rfl
  | cons item items ih =>
    by_cases held : test item = true
    · rw [List.dropWhile_cons_of_pos held,ih]
    · rw [List.dropWhile_cons_of_neg held,List.dropWhile_cons_of_neg held]

theorem dropWhile_reverse_head {α : Type} (test : α → Bool) (items : List α) :
    ((items.dropWhile test).reverse.dropWhile test).reverse.dropWhile test = ((items.dropWhile test).reverse.dropWhile test).reverse := by
  cases left : (items.dropWhile test).reverse.dropWhile test with
  | nil => rfl
  | cons last others =>
    obtain ⟨first,rest,shape⟩ : ∃ first rest, (last :: others).reverse = first :: rest :=
      List.exists_cons_of_ne_nil (by simp)
    have starts : (last :: others) <:+ (items.dropWhile test).reverse := left ▸ List.dropWhile_suffix test
    have begins : (last :: others).reverse <+: items.dropWhile test := by
      have turned := List.reverse_prefix.mpr starts
      rwa [List.reverse_reverse] at turned
    obtain ⟨tail,whole⟩ := begins
    rw [shape,List.cons_append] at whole
    have stays : ¬ test first = true := by
      intro held
      have again := dropWhile_again test items
      rw [← whole,List.dropWhile_cons_of_pos held] at again
      have shorter := congrArg List.length again
      have bound := (List.dropWhile_suffix test (l := rest ++ tail)).length_le
      simp only [List.length_cons] at shorter
      omega
    rw [shape,List.dropWhile_cons_of_neg stays]

theorem trim_again (text : String) : Workflow.trim (Workflow.trim text) = Workflow.trim text := by
  unfold Workflow.trim
  simp only [String.toList_ofList,dropWhile_reverse_head,List.reverse_reverse,dropWhile_again]

theorem normalizeArtifactMediaType_again {value normalized : String} (lowers : Lowers platform)
    (ok : normalizeArtifactMediaType platform value = .ok normalized) : normalizeArtifactMediaType platform normalized = .ok normalized := by
  have same : normalized = platform.toLowerCase (Workflow.trim value) := by
    unfold normalizeArtifactMediaType at ok
    dsimp only at ok
    split at ok
    · cases ok
    · exact (Except.ok.inj ok).symm
  have fixed : platform.toLowerCase (Workflow.trim normalized) = platform.toLowerCase (Workflow.trim value) := by
    rw [same,lowers.trims,trim_again,lowers.again]
  unfold normalizeArtifactMediaType at ok ⊢
  rw [fixed]
  exact ok

def expiry (request : ArtifactPutRequest) (now : Int) : Option Int :=
  let atMost := (RETENTION_MILLISECONDS (request.retentionClass.getD "working")).map (now + ·)
  match request.expiresAt with
  | none => atMost
  | some text => if text = "" then atMost else canonicalTime text

theorem dateText_ok_iff {at_ : Int} {text : String} : dateText at_ = .ok text ↔ isTime at_ = true ∧ toISOString at_ = text := by
  unfold dateText
  split <;> simp_all

variable {request : ArtifactPutRequest}

theorem expiryText_ok {now retentionMaxMs : Int} {text : String}
    (retention : RETENTION_MILLISECONDS (request.retentionClass.getD "working") = some retentionMaxMs)
    (ok : expiryText request.expiresAt now retentionMaxMs = .ok text) :
    ∃ at_, expiry request now = some at_ ∧ isTime at_ = true ∧ toISOString at_ = text := by
  unfold expiryText at ok
  unfold expiry
  rw [retention]
  cases requested : request.expiresAt with
  | none =>
    rw [requested] at ok
    obtain ⟨time,text⟩ := dateText_ok_iff.mp ok
    exact ⟨_,rfl,time,text⟩
  | some asked =>
    rw [requested] at ok
    dsimp only at ok ⊢
    by_cases empty : asked = ""
    · rw [if_pos empty] at ok ⊢
      obtain ⟨time,text⟩ := dateText_ok_iff.mp ok
      exact ⟨_,rfl,time,text⟩
    · rw [if_neg empty] at ok ⊢
      unfold timestamp at ok
      split at ok
      · cases ok
      · rename_i at_ found
        cases ok
        exact ⟨at_,found,canonicalTime_some found⟩

theorem prepareArtifactPut_ok {now maxBytes : Int} {value : ArtifactValue} (lowers : Lowers platform)
    (ok : prepareArtifactPut platform request now maxBytes = .ok value) :
    ∃ metadata : Artifacts.ArtifactMetadata, metadata.Valid platform ∧ metadata.createdAt = now ∧ isTime now = true ∧
      expiry request now = some metadata.expiresAt ∧ isTime metadata.expiresAt = true ∧
      value.toArtifactMetadata = written metadata := by
  unfold prepareArtifactPut at ok
  split at ok
  · cases ok
  rename_i limit
  rw [not_not] at limit
  split at ok
  · cases ok
  rename_i fits
  obtain ⟨mediaType,normalized,ok⟩ := bind_ok.mp ok
  obtain ⟨_,_,ok⟩ := bind_ok.mp ok
  dsimp only at ok
  split at ok
  · cases ok
  split at ok
  · cases ok
  rename_i retentionMaxMs retention
  obtain ⟨createdAt,created,ok⟩ := bind_ok.mp ok
  obtain ⟨expiresAt,expires,ok⟩ := bind_ok.mp ok
  split at ok
  · cases ok
  rename_i window
  obtain ⟨scope,normal,ok⟩ := bind_ok.mp ok
  obtain ⟨artifactId,named,ok⟩ := bind_ok.mp ok
  obtain ⟨version,numbered,ok⟩ := bind_ok.mp ok
  obtain ⟨key,built,ok⟩ := bind_ok.mp ok
  obtain ⟨valid,rfl⟩ := buildArtifactKey_ok_iff.mp built
  obtain ⟨nowTime,rfl⟩ := dateText_ok_iff.mp created
  obtain ⟨at_,expiring,time,rfl⟩ := expiryText_ok retention expires
  rw [canonicalTime_toISOString time] at window
  simp only [Option.any_some,Bool.or_eq_true,decide_eq_true_eq,not_or,not_le,not_lt] at window
  cases ok
  let made : Artifacts.ArtifactMetadata := {scope with
    artifactId := artifactId
    version := version
    digest := platform.sha256 request.bytes
    key := KeyParts.keyText {scope with artifactId,version,digest := platform.sha256 request.bytes}
    mediaType := mediaType
    sizeBytes := request.bytes.size
    retentionClass := request.retentionClass.getD "working"
    createdAt := now
    expiresAt := at_}
  have size : isNonNegativeSafeInteger request.bytes.size = true := by
    simp only [isNonNegativeSafeInteger,isSafeInteger,Bool.and_eq_true,decide_eq_true_eq] at limit ⊢
    omega
  have wellFormed : made.Valid platform :=
    ⟨valid,rfl,size,⟨mediaType,normalizeArtifactMediaType_again lowers normalized⟩,retentionMaxMs,retention,window.1,window.2⟩
  exact ⟨made,wellFormed,rfl,nowTime,expiring,time,rfl⟩

/-- Metadata that passes validation, has a row that is read back as it, and gives its row to no other artifact. -/
structure Survives (platform : Platform) (metadata : ArtifactMetadata) : Prop where
  validates : validateArtifactMetadata platform metadata = .ok metadata
  stored : ∃ row, recordFromMetadata platform metadata = .ok row ∧ metadataFromRecord platform row = .ok metadata ∧
    ∀ given, GivenBack row given → metadataFromRecord platform given = .ok metadata ∧
      ∀ changed, ChangedAlone given changed →
        (∀ other : KeyParts, changed.uri = some other.keyText → ¬ Collide platform metadata.toKeyParts other) →
          ∃ error, metadataFromRecord platform changed = .error error

theorem identified_given {row given : ArtifactRecord} {parts : KeyParts} (identified : Identified platform row parts)
    (back : GivenBack row given) : Identified platform given parts := by
  cases back
  exact ⟨identified.valid,identified.uri,identified.run,identified.key,identified.digest,identified.id⟩

theorem rowOf_identified (valid : metadata.Valid platform) :
    Identified platform (rowOf platform (written metadata)) metadata.toKeyParts :=
  ⟨valid.parts,congrArg some valid.key,rfl,rfl,rfl,rfl⟩

theorem rerenders_canonical {at_ : Int} (low : 0 ≤ at_) (high : at_ ≤ LAST_TIMESTAMP) :
    Rerenders (toISOString at_) (toISOString at_) := by
  obtain ⟨stamp,read,_⟩ := (names_canonical low high).stamp
  exact ⟨stamp,stamp,read,read,rfl⟩

theorem written_survives (valid : metadata.Valid platform) (created : 0 ≤ metadata.createdAt)
    (created' : metadata.createdAt ≤ LAST_TIMESTAMP) (expires : 0 ≤ metadata.expiresAt)
    (expires' : metadata.expiresAt ≤ LAST_TIMESTAMP) : Survives platform (written metadata) where
  validates := validate_written_valid valid (isTime_of_early created created') (isTime_of_early expires expires')
  stored := by
    have itself : GivenBack (rowOf platform (written metadata)) (rowOf platform (written metadata)) :=
      .rendered (rerenders_canonical created created') rfl (rerenders_canonical expires expires')
    refine ⟨_,recordFromMetadata_written valid created created' expires expires',?_,fun given back => ⟨?_,fun changed alone apart => ?_⟩⟩
    · exact metadataFromRecord_given valid created created' expires expires' itself
    · exact metadataFromRecord_given valid created created' expires expires' back
    · exact changed_refused (identified_given (rowOf_identified valid) back) alone apart

/-- What is put before the year 10000 survives its storage if it also expires before. -/
theorem stored_metadata_survives_iff {request : ArtifactPutRequest} {now maxBytes : Int} {value : ArtifactValue}
    (lowers : Lowers platform) (early : 0 ≤ now) (late : now ≤ LAST_TIMESTAMP)
    (prepared : prepareArtifactPut platform request now maxBytes = .ok value) :
    Survives platform value.toArtifactMetadata ↔ ∃ at_, expiry request now = some at_ ∧ at_ ≤ LAST_TIMESTAMP := by
  obtain ⟨metadata,valid,rfl,_,expiring,_,made⟩ := prepareArtifactPut_ok lowers prepared
  obtain ⟨_,_,after_,_⟩ := valid.retention
  have expires : (0 : Int) ≤ metadata.expiresAt := le_trans early (le_of_lt after_)
  rw [made,expiring]
  constructor
  · rintro ⟨_,row,stored,_⟩
    refine ⟨_,rfl,?_⟩
    by_contra beyond
    obtain ⟨error,refused⟩ := @recordFromMetadata_late platform metadata (not_le.mp beyond)
    rw [refused] at stored
    cases stored
  · rintro ⟨_,found,bound⟩
    cases found
    exact written_survives valid early late expires bound

end

/-! ### Requests around the end of the calendar -/

def shipped : ArtifactPutRequest where
  scope := {projectId := "p",runId := "r",stepId := "s"}
  artifactId := "bundle"
  version := 1
  bytes := ⟨#[65]⟩
  mediaType := "application/zip"

def knownDigest (bytes : ByteArray) : String :=
  if bytes.data = #[65] then "559aead08264d5795d3909718cdd05abd49572e84fe55590eef31a88a08fdffd" else samplePlatform.sha256 bytes

def lowerAscii : Platform := {sha256 := knownDigest,toLowerCase := samplePlatform.toLowerCase}

theorem toLower_cases (char : Char) :
    char.toLower = char ∨ 65 ≤ char.val.toNat ∧ char.val.toNat ≤ 90 ∧ char.toLower.val.toNat = char.val.toNat + 32 := by
  unfold Char.toLower
  split
  · rename_i upper
    right
    have between : ('a'.val - 'A'.val : UInt32).toNat = 32 := by decide
    have start : ('A' : Char).val.toNat = 65 := by decide
    have finish : ('Z' : Char).val.toNat = 90 := by decide
    simp only [ge_iff_le,UInt32.le_iff_toNat_le] at upper
    refine ⟨by omega,by omega,?_⟩
    rw [UInt32.toNat_add,between]
    omega
  · exact .inl rfl

theorem isSpace_letter {char : Char} (low : 65 ≤ char.val.toNat) (high : char.val.toNat ≤ 122) : Workflow.isSpace char = false := by
  simp only [Workflow.isSpace,Bool.or_eq_false_iff,Bool.and_eq_false_iff,decide_eq_false_iff_not,List.mem_cons,List.not_mem_nil,
    or_false,← UInt32.toNat_inj,UInt32.le_iff_toNat_le,UInt32.toNat_ofNat]
  refine ⟨?_,?_⟩
  all_goals omega

theorem isSpace_toLower (char : Char) : Workflow.isSpace char.toLower = Workflow.isSpace char := by
  obtain same | ⟨low,high,lower⟩ := toLower_cases char
  · rw [same]
  · rw [@isSpace_letter char (by omega) (by omega),isSpace_letter (by omega) (by omega)]

theorem toLower_again (char : Char) : char.toLower.toLower = char.toLower := by
  obtain same | ⟨low,high,lower⟩ := toLower_cases char
  · rw [same,same]
  · obtain same' | ⟨_,high',_⟩ := toLower_cases char.toLower
    · exact same'
    · omega

theorem lowerAscii_lowers : Lowers lowerAscii where
  again text := by
    unfold lowerAscii samplePlatform
    simp only [String.toList_ofList,List.map_map]
    congr 2
    funext char
    exact toLower_again char
  trims text := by
    have spaces : Workflow.isSpace ∘ Char.toLower = Workflow.isSpace := funext isSpace_toLower
    unfold Workflow.trim lowerAscii samplePlatform
    simp only [String.toList_ofList,List.dropWhile_map,← List.map_reverse,spaces]

/-- What is put at the epoch survives. -/
theorem shipped_survives : ∃ value, prepareArtifactPut lowerAscii shipped 0 100 = .ok value ∧
    (Survives lowerAscii value.toArtifactMetadata ↔ ∃ at_, expiry shipped 0 = some at_ ∧ at_ ≤ LAST_TIMESTAMP) := by
  obtain ⟨value,made⟩ : ∃ value, prepareArtifactPut lowerAscii shipped 0 100 = .ok value := exists_ok (by decide +kernel)
  exact ⟨value,made,stored_metadata_survives_iff lowerAscii_lowers (by decide) (by decide) made⟩

/-- What is put in the last millisecond of the year 9999, for thirty days, has no row. -/
theorem shipped_late_lost : ∃ value, prepareArtifactPut lowerAscii shipped LAST_TIMESTAMP 100 = .ok value ∧
    ¬ Survives lowerAscii value.toArtifactMetadata := by
  obtain ⟨value,made⟩ : ∃ value, prepareArtifactPut lowerAscii shipped LAST_TIMESTAMP 100 = .ok value := exists_ok (by decide +kernel)
  refine ⟨value,made,?_⟩
  obtain ⟨metadata,_,_,_,expiring,_,written⟩ := prepareArtifactPut_ok lowerAscii_lowers made
  have expires : LAST_TIMESTAMP + 2592000000 = metadata.expiresAt := Option.some.inj expiring
  obtain ⟨error,refused⟩ := @recordFromMetadata_late lowerAscii metadata (by omega)
  rintro ⟨_,row,stored,_⟩
  rw [written,refused] at stored
  cases stored

end AgentOS.Artifacts.Written
