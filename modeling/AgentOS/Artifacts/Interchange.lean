import AgentOS.Artifacts.Simulation

/-! Where the two manifest stores answer alike. Each operation of the one is matched by the same operation of the other;
the two fall apart at a call that only one of them takes. -/
namespace AgentOS.Artifacts
open Library Routine

def Matches {α : Type} (platform : Platform) (manifest : MemoryManifest) (ended : Checked α × Storage)
    (answer : Checked (α × MemoryManifest)) : Prop :=
  match ended.1, answer with
  | .ok value, .ok (value',after) => value = value' ∧ Simulates platform ended.2.tables after
  | .error _, .error _ => Simulates platform ended.2.tables manifest
  | _, _ => False

section
variable {α β : Type} {platform : Platform} {storage : Storage} {manifest : MemoryManifest} {metadata : ArtifactMetadata}

variable {record : ArtifactRecord} {rest : β → Routine Storage StorageError α} {lease : ArtifactWriteLease}

variable {key : String} {input : ArtifactMetadata} {value : β} {answer : Checked β} {id other : Identity}

theorem matches_settle {rest' : β → Checked (α × MemoryManifest)} (simulates : Simulates platform storage.tables manifest)
    (later : ∀ value, answer = .ok value → Matches platform manifest ((rest value).exec storage) (rest' value)) :
    Matches platform manifest ((settle answer >>= rest).exec storage) (answer >>= rest') := by
  cases answer with
  | error error => exact simulates
  | ok value => exact later value rfl

theorem exec_settled (ok : answer = .ok value) : (settle answer >>= rest).exec storage = (rest value).exec storage := by
  rw [ok]
  rfl

variable {action : ArtifactTables → Checked (β × ArtifactTables)} {expected : ArtifactMetadata} {tables : ArtifactTables}
  {id : Identity} {scope : ArtifactScope}

theorem exec_repository (ok : action storage.tables = .ok (value,tables)) :
    (repository action >>= rest).exec storage = (rest value).exec {storage with tables := tables} := by
  rw [exec_bind]
  unfold repository
  rw [exec_atomic,ok]

theorem exec_repository_last (ok : action storage.tables = .ok (value,tables)) :
    (repository action).exec storage = (.ok value,{storage with tables := tables}) := by
  unfold repository
  rw [exec_atomic,ok]

theorem exec_reading {view : ArtifactTables → β} :
    (reading view >>= rest).exec storage = (rest (view storage.tables)).exec storage := exec_repository rfl

theorem exec_project {rest : Unit → Routine Storage StorageError α} (valid : metadata.Valid platform)
    (inProject : storage.tables.runs.get? metadata.runId = some metadata.projectId) :
    (DomainManifest.requireProject metadata >>= rest).exec storage = (rest ()).exec storage := by
  rw [exec_bind]
  unfold DomainManifest.requireProject
  rw [exec_settled (persistenceId_segment valid.parts.run),exec_reading,inProject,if_neg (not_not.mpr rfl)]
  rfl

theorem equivalent_refl : equivalent metadata metadata = true := by simp [equivalent]

/-! ### Rows that are claimed -/

theorem requireRun_ok (inProject : storage.tables.runs.get? metadata.runId = some metadata.projectId) :
    storage.tables.requireRun metadata.runId = .ok () := by
  unfold ArtifactTables.requireRun
  rw [inProject]
  rfl

theorem assertValidArtifact_ok (valid : metadata.Valid platform)
    (size : record.sizeBytes = some metadata.sizeBytes) : assertValidArtifact record = .ok () := by
  unfold assertValidArtifact
  rw [size,Option.all_some,valid.size]
  rfl

theorem insertArtifact_new (simulates : Simulates platform storage.tables manifest)
    (collisionFree : Function.Injective platform.sha256) (valid : metadata.Valid platform)
    (none_ : manifest.values.get? metadata.identity = none) (shown : Shows platform record metadata) :
    storage.tables.insertArtifact record = .ok (record,{storage.tables with
      artifacts := storage.tables.artifacts.set record.id record
      artifactKeys := storage.tables.artifactKeys.set (record.runId,record.key) record.id}) := by
  unfold ArtifactTables.insertArtifact
  rw [shown.id,simulates.unstored collisionFree valid.parts none_]
  rfl

theorem requireArtifact_ok {id : String} (stored : storage.tables.artifacts.get? id = some record) :
    storage.tables.requireArtifact id = .ok record := by
  unfold ArtifactTables.requireArtifact
  rw [stored]

theorem claimable {later : Checked α} (valid : metadata.Valid platform)
    (inProject : storage.tables.runs.get? metadata.runId = some metadata.projectId) :
    (storage.tables.requireRun (plainRow platform metadata).runId >>= fun _ =>
      assertValidArtifact (plainRow platform metadata) >>= fun _ => later) = later := by
  have run : storage.tables.requireRun (plainRow platform metadata).runId = .ok () := requireRun_ok inProject
  have size : assertValidArtifact (plainRow platform metadata) = .ok () := assertValidArtifact_ok valid rfl
  rw [run,size]
  rfl

theorem claimArtifact_new (simulates : Simulates platform storage.tables manifest)
    (collisionFree : Function.Injective platform.sha256) (valid : metadata.Valid platform)
    (inProject : storage.tables.runs.get? metadata.runId = some metadata.projectId)
    (none_ : manifest.values.get? metadata.identity = none) :
    storage.tables.claimArtifact (plainRow platform metadata) = .ok (plainRow platform metadata,{storage.tables with
      artifacts := storage.tables.artifacts.set (plainRow platform metadata).id (plainRow platform metadata)
      artifactKeys := storage.tables.artifactKeys.set ((plainRow platform metadata).runId,(plainRow platform metadata).key)
        (plainRow platform metadata).id}) := by
  have key : storage.tables.artifactKeys.get? ((plainRow platform metadata).runId,(plainRow platform metadata).key) = none := by
    have found := simulates.keys metadata.toKeyParts inProject
    rwa [none_] at found
  unfold ArtifactTables.claimArtifact
  rw [claimable valid inProject,key]
  exact insertArtifact_new simulates collisionFree valid none_ shows_plainRow

theorem claimArtifact_present {existing : ArtifactMetadata}
    (simulates : Simulates platform storage.tables manifest) (valid : metadata.Valid platform)
    (inProject : storage.tables.runs.get? metadata.runId = some metadata.projectId)
    (held : manifest.values.get? metadata.identity = some existing)
    (stored : storage.tables.artifacts.get? (idOf platform existing.toKeyParts) = some record) :
    storage.tables.claimArtifact (plainRow platform metadata) = .ok (record,storage.tables) := by
  have key : storage.tables.artifactKeys.get? ((plainRow platform metadata).runId,(plainRow platform metadata).key) =
      some (idOf platform existing.toKeyParts) := by
    have found := simulates.keys metadata.toKeyParts inProject
    rwa [held] at found
  unfold ArtifactTables.claimArtifact
  rw [claimable valid inProject,key]
  dsimp only
  rw [requireArtifact_ok stored]
  rfl

theorem Simulates.unknown (simulates : Simulates platform tables manifest)
    (none_ : manifest.values.get? id = none) : manifest.gone id = false ∧ manifest.writeLeases.get? id = none := by
  constructor
  · by_contra gone
    have known := simulates.known id (.inl (by simpa using gone))
    rw [none_] at known
    cases known
  · by_contra leased
    have known := simulates.known id (.inr (Option.isSome_iff_ne_none.mpr leased))
    rw [none_] at known
    cases known

theorem state_of_not_gone (active : manifest.gone id = false) : manifest.state id = .active := by
  rw [MemoryManifest.gone_iff_state] at active
  simpa using active

theorem row_of_active {lease : Option ArtifactWriteLease} (shown : Shows platform record metadata)
    (active : manifest.state metadata.identity = .active) (state : record.deletionState = some .active)
    (kept : record.deletedAt = none) (leased : manifest.writeLeases.get? metadata.identity = lease)
    (leaseId : record.writeLeaseId = lease.map ArtifactWriteLease.leaseId)
    (leaseEnd : record.writeLeaseExpiresAt = lease.map ArtifactWriteLease.expiresAt) : Row platform manifest metadata record := by
  refine ⟨shown,by rw [state,active],?_,by rw [leased,leaseId],by rw [leased,leaseEnd]⟩
  rw [kept,active]
  rfl

theorem claim_matches (simulates : Simulates platform storage.tables manifest) (collisionFree : Function.Injective platform.sha256)
    (inProject : storage.tables.runs.get? input.runId = some input.projectId) :
    Matches platform manifest ((DomainManifest.claim platform input).exec storage) (manifest.claim platform input) := by
  unfold DomainManifest.claim MemoryManifest.claim
  refine matches_settle simulates fun metadata ok => ?_
  obtain ⟨valid,rfl⟩ := validateArtifactMetadata_ok_iff.mp ok
  rw [exec_project valid inProject,exec_settled (recordFromMetadata_valid valid),valid.parts.identified]
  change Matches platform manifest _ (if manifest.gone input.identity then _ else _)
  cases held : manifest.values.get? input.identity with
  | none =>
    obtain ⟨active,unleased⟩ := simulates.unknown held
    have active' : MemoryManifest.state {manifest with values := manifest.values.set input.identity input} input.identity =
        .active := state_of_not_gone active
    have row := row_of_active (@shows_plainRow platform input) active' rfl rfl unleased rfl rfl
    rw [exec_repository (claimArtifact_new simulates collisionFree valid inProject held),
      if_neg (by rw [row.gone]; exact Bool.eq_false_iff.mp active),exec_settled (row.read valid),if_pos equivalent_refl,
      if_neg (by simp [active])]
    exact ⟨rfl,simulates.insert collisionFree valid inProject held _ (fun _ _ => rfl) row⟩
  | some existing =>
    obtain ⟨record,_,stored,row⟩ := simulates.present inProject held
    obtain ⟨found,same,_⟩ := simulates.filed _ _ held
    rw [exec_repository (claimArtifact_present simulates valid inProject held stored),row.gone,same]
    split
    · exact simulates
    · rw [exec_settled (row.read found)]
      dsimp only
      split
      · exact ⟨rfl,simulates⟩
      · exact simulates

/-! ### Writes -/

structure ArtifactWriteLease.WellFormed (lease : ArtifactWriteLease) : Prop where
  named : Workflow.trim lease.leaseId ≠ ""
  lasting : lease.now < lease.expiresAt

/-- What stands in the way of a write: a deletion, another writer's lease, other content. -/
def MemoryManifest.refuses (manifest : MemoryManifest) (metadata : ArtifactMetadata) (lease : ArtifactWriteLease) : Bool :=
  manifest.gone metadata.identity ||
    ((manifest.writeLeases.get? metadata.identity).any fun current =>
      current.leaseId ≠ lease.leaseId && lease.now < current.expiresAt) ||
    (manifest.values.get? metadata.identity).any fun existing => !equivalent existing metadata

def leasedRow (platform : Platform) (metadata : ArtifactMetadata) (lease : ArtifactWriteLease) : ArtifactRecord :=
  {plainRow platform metadata with
    deletionState := some .active
    writeLeaseId := some lease.leaseId
    writeLeaseExpiresAt := some lease.expiresAt}

def writeClaim (platform : Platform) (metadata : ArtifactMetadata) (lease : ArtifactWriteLease) : ArtifactWriteClaimRequest where
  artifact := plainRow platform metadata
  leaseId := lease.leaseId
  now := lease.now
  expiresAt := lease.expiresAt

section
variable (simulates : Simulates platform storage.tables manifest)
include simulates

theorem claimArtifactForWrite_new (collisionFree : Function.Injective platform.sha256) (valid : metadata.Valid platform)
    (inProject : storage.tables.runs.get? metadata.runId = some metadata.projectId)
    (none_ : manifest.values.get? metadata.identity = none) (wellFormed : lease.WellFormed) :
    storage.tables.claimArtifactForWrite (writeClaim platform metadata lease) =
      .ok (leasedRow platform metadata lease,{storage.tables with
        artifacts := storage.tables.artifacts.set (leasedRow platform metadata lease).id (leasedRow platform metadata lease)
        artifactKeys := storage.tables.artifactKeys.set
          ((leasedRow platform metadata lease).runId,(leasedRow platform metadata lease).key)
          (leasedRow platform metadata lease).id}) := by
  have key : storage.tables.artifactKeys.get? ((plainRow platform metadata).runId,(plainRow platform metadata).key) = none := by
    have found := simulates.keys metadata.toKeyParts inProject
    rwa [none_] at found
  have shown : Shows platform (leasedRow platform metadata lease) metadata := ⟨rfl,rfl,rfl,rfl,rfl,rfl,rfl,rfl,rfl,rfl,rfl⟩
  unfold ArtifactTables.claimArtifactForWrite writeClaim
  dsimp only
  rw [claimable valid inProject,if_neg (not_or.mpr ⟨wellFormed.named,not_le.mpr wellFormed.lasting⟩),key]
  exact insertArtifact_new simulates collisionFree valid none_ shown

theorem claimArtifactForWrite_present (valid : metadata.Valid platform)
    (inProject : storage.tables.runs.get? metadata.runId = some metadata.projectId)
    (held : manifest.values.get? metadata.identity = some metadata)
    (stored : storage.tables.artifacts.get? (idOf platform metadata.toKeyParts) = some record)
    (row : Row platform manifest metadata record) (active : manifest.state metadata.identity = .active)
    (wellFormed : lease.WellFormed) : storage.tables.claimArtifactForWrite (writeClaim platform metadata lease) =
      if ArtifactTables.heldByAnother record lease.leaseId lease.now then .ok (record,storage.tables)
      else .ok ({record with writeLeaseId := some lease.leaseId,writeLeaseExpiresAt := some lease.expiresAt},{storage.tables with
        artifacts := storage.tables.artifacts.set (idOf platform metadata.toKeyParts)
          {record with writeLeaseId := some lease.leaseId,writeLeaseExpiresAt := some lease.expiresAt}}) := by
  have key : storage.tables.artifactKeys.get? ((plainRow platform metadata).runId,(plainRow platform metadata).key) =
      some (idOf platform metadata.toKeyParts) := by
    have found := simulates.keys metadata.toKeyParts inProject
    rwa [held] at found
  unfold ArtifactTables.claimArtifactForWrite writeClaim
  dsimp only
  rw [claimable valid inProject,if_neg (not_or.mpr ⟨wellFormed.named,not_le.mpr wellFormed.lasting⟩),key]
  dsimp only
  rw [requireArtifact_ok stored]
  have matched : immutableArtifactMatches record (plainRow platform metadata) = true :=
    immutableArtifactMatches_iff.mpr row.toShows
  change (if _ then _ else _) = _
  simp only [matched,row.state,active,not_true,false_or,ne_eq,row.id]

end

theorem Row.heldByAnother (row : Row platform manifest metadata record) :
    ArtifactTables.heldByAnother record lease.leaseId lease.now = (manifest.writeLeases.get? metadata.identity).any fun current =>
        current.leaseId ≠ lease.leaseId && lease.now < current.expiresAt := by
  unfold ArtifactTables.heldByAnother
  rw [row.leaseId,row.leaseEnd]
  cases manifest.writeLeases.get? metadata.identity <;> rfl

theorem claimArtifactForWrite_illFormed (valid : metadata.Valid platform)
    (inProject : storage.tables.runs.get? metadata.runId = some metadata.projectId) (illFormed : ¬ lease.WellFormed) :
    storage.tables.claimArtifactForWrite (writeClaim platform metadata lease) = .error (.other "artifact write lease is invalid") := by
  unfold ArtifactTables.claimArtifactForWrite writeClaim
  dsimp only
  rw [claimable valid inProject,if_pos]
  by_contra lasting
  obtain ⟨named,lasting⟩ := not_or.mp lasting
  exact illFormed ⟨named,not_le.mp lasting⟩

theorem exec_repository_error {error : StorageError} (fails : action storage.tables = .error error) :
    (repository action >>= rest).exec storage = (.error error,storage) := by
  rw [exec_bind]
  unfold repository
  rw [exec_atomic,fails]

theorem beginWrite_matches (simulates : Simulates platform storage.tables manifest)
    (collisionFree : Function.Injective platform.sha256) (inProject : storage.tables.runs.get? input.runId = some input.projectId)
    (leasable : input.Valid platform → manifest.refuses input lease = false → lease.WellFormed) :
    Matches platform manifest ((DomainManifest.beginWrite platform input lease).exec storage)
      (manifest.beginWrite platform input lease) := by
  unfold DomainManifest.beginWrite MemoryManifest.beginWrite
  refine matches_settle simulates fun metadata ok => ?_
  obtain ⟨valid,rfl⟩ := validateArtifactMetadata_ok_iff.mp ok
  rw [exec_project valid inProject,exec_settled valid.parts.logicalKey,exec_reading,valid.parts.identified]
  change Matches platform manifest _ (if manifest.gone input.identity then _ else _)
  cases held : manifest.values.get? input.identity with
  | none =>
    obtain ⟨active,unleased⟩ := simulates.unknown held
    have wellFormed := leasable valid (by simp [MemoryManifest.refuses,active,unleased,held])
    have active' : MemoryManifest.state {manifest with
        values := manifest.values.set input.identity input
        writeLeases := manifest.writeLeases.set input.identity lease} input.identity = .active := state_of_not_gone active
    have shown : Shows platform (leasedRow platform input lease) input := ⟨rfl,rfl,rfl,rfl,rfl,rfl,rfl,rfl,rfl,rfl,rfl⟩
    have row := row_of_active shown active' rfl rfl (by rw [OrderedMap.get?_set,if_pos rfl]) rfl rfl
    have fresh : DomainManifest.authoritative platform input none = .ok input := rfl
    rw [simulates.absent inProject held,exec_settled fresh,exec_settled (recordFromMetadata_valid valid),
      exec_repository (claimArtifactForWrite_new simulates collisionFree valid inProject held wellFormed),
      if_neg (by rw [row.gone]; exact Bool.eq_false_iff.mp active),exec_settled (row.read valid),
      if_neg (not_not.mpr equivalent_refl),if_neg (by simp [leasedRow]),if_neg (by simp [active]),unleased,
      if_neg (by simp),if_neg (by simp)]
    refine ⟨rfl,simulates.insert collisionFree valid inProject held _ (fun id other => ?_) row⟩
    rw [OrderedMap.get?_set,if_neg other]
  | some existing =>
    obtain ⟨record,found,stored,row⟩ := simulates.present inProject held
    obtain ⟨validThere,same,inProjectThere⟩ := simulates.filed _ _ held
    have heldThere : manifest.values.get? existing.identity = some existing := same ▸ held
    have authoritative : DomainManifest.authoritative platform input (some record) =
        if manifest.gone input.identity then .error deleted
        else if equivalent existing input then .ok existing else .error conflict := by
      unfold DomainManifest.authoritative
      dsimp only
      rw [row.gone,row.read validThere,same]
      rfl
    rw [found,authoritative]
    by_cases gone : manifest.gone input.identity = true
    · rw [if_pos gone,if_pos gone]
      exact simulates
    rw [if_neg gone,if_neg gone]
    by_cases alike : equivalent existing input = true
    · have settled : (if equivalent existing input = true then Except.ok existing else .error conflict : Checked ArtifactMetadata) =
          .ok existing := if_pos alike
      have other : ¬ (some existing).any (fun found => !equivalent found input) = true := by simpa using alike
      have another := @Row.heldByAnother platform manifest existing record lease row
      rw [exec_settled settled,exec_settled (recordFromMetadata_valid validThere),if_neg other]
      rw [← same] at another
      by_cases wellFormed : lease.WellFormed
      · have active := state_of_not_gone (Bool.eq_false_iff.mpr (same ▸ gone))
        have claimed := claimArtifactForWrite_present simulates validThere inProjectThere heldThere stored row active wellFormed
        rw [another] at claimed
        by_cases held' : ((manifest.writeLeases.get? input.identity).any fun current =>
            current.leaseId ≠ lease.leaseId && lease.now < current.expiresAt) = true
        · rw [if_pos held'] at claimed
          have notMine : record.writeLeaseId ≠ some lease.leaseId := by
            rw [row.leaseId,← same]
            obtain ⟨current,there,differs⟩ := (Option.any_eq_true _ _).mp held'
            simp only [Bool.and_eq_true,decide_eq_true_eq] at differs
            simpa [there] using differs.1
          rw [exec_repository claimed,if_neg (by rw [row.gone,← same]; exact gone),exec_settled (row.read validThere),
            if_neg (not_not.mpr equivalent_refl),if_pos notMine,if_pos held']
          exact simulates
        · rw [if_neg held'] at claimed
          have active' : MemoryManifest.state {manifest with
              values := manifest.values.set input.identity existing
              writeLeases := manifest.writeLeases.set input.identity lease} existing.identity = .active := active
          have kept : record.deletedAt = none := by
            have undeleted := row.deletedAt
            rw [active] at undeleted
            simpa using undeleted
          have row' := @row_of_active platform _ existing
            {record with writeLeaseId := some lease.leaseId,writeLeaseExpiresAt := some lease.expiresAt} (some lease)
            ⟨row.id,row.run,row.key,row.uri,row.digest,row.mediaType,row.size,row.retention,row.created,row.cleanup,row.version⟩
            active' (by rw [← active]; exact row.state) kept (by rw [OrderedMap.get?_set,if_pos same.symm]) rfl rfl
          rw [exec_repository claimed,if_neg (by rw [row'.gone,← same]; exact gone),exec_settled (row'.read validThere),
            if_neg (not_not.mpr equivalent_refl),if_neg (not_not.mpr rfl),if_neg held']
          refine ⟨rfl,simulates.replace collisionFree heldThere (OrderedMap.set_eq_self held) (fun id differs => ⟨rfl,?_⟩)
            simulates.apart row'⟩
          rw [← same] at differs
          exact (OrderedMap.get?_set _ _ _ _).trans (if_neg differs)
      · have refused : manifest.refuses input lease = true := by
          by_contra free
          exact wellFormed (leasable valid (Bool.eq_false_iff.mpr free))
        have held' : ((manifest.writeLeases.get? input.identity).any fun current =>
            current.leaseId ≠ lease.leaseId && lease.now < current.expiresAt) = true := by
          unfold MemoryManifest.refuses at refused
          rw [held,Bool.or_eq_true,Bool.or_eq_true] at refused
          rcases refused with (impossible | held') | impossible
          · exact absurd impossible gone
          · exact held'
          · exact absurd impossible other
        rw [exec_repository_error (claimArtifactForWrite_illFormed validThere inProjectThere wellFormed),if_pos held']
        exact simulates
    · have refused : (if equivalent existing input = true then Except.ok existing else .error conflict : Checked ArtifactMetadata) =
          .error conflict := if_neg alike
      rw [refused]
      have other : (some existing).any (fun found => !equivalent found input) = true := by simpa using alike
      rw [if_pos other]
      split <;> exact simulates

theorem idOf_of_identity {parts other : KeyParts} (same : parts.identity = other.identity) :
    idOf platform parts = idOf platform other := by
  unfold KeyParts.identity at same
  simp only [Prod.mk.injEq] at same
  unfold idOf
  rw [same.1,same.2.1,same.2.2]

theorem finishWrite_matches (simulates : Simulates platform storage.tables manifest)
    (collisionFree : Function.Injective platform.sha256) {leaseId : String}
    (filed : ∀ id, identity expected.toKeyParts = .ok id → (manifest.values.get? id).isSome) :
    Matches platform manifest ((DomainManifest.finishWrite platform expected leaseId).exec storage)
      (manifest.finishWrite expected leaseId) := by
  unfold DomainManifest.finishWrite MemoryManifest.finishWrite
  cases named : identity expected.toKeyParts with
  | error error =>
    cases recorded : recordId platform expected.toKeyParts with
    | error other => exact simulates
    | ok id =>
      obtain ⟨valid,_⟩ := recordId_ok_iff.mp recorded
      rw [identity_ok_iff.mpr ⟨valid,rfl⟩] at named
      cases named
  | ok id =>
    obtain ⟨metadata,held⟩ := Option.isSome_iff_exists.mp (filed _ named)
    obtain ⟨valid,rfl⟩ := identity_ok_iff.mp named
    obtain ⟨record,stored,row⟩ := simulates.rows _ _ held
    obtain ⟨validThere,same,_⟩ := simulates.filed _ _ held
    have heldThere : manifest.values.get? metadata.identity = some metadata := same ▸ held
    rw [← @idOf_of_identity platform _ _ same] at stored
    rw [exec_settled (recordId_ok_iff.mpr ⟨valid,rfl⟩),exec_settled idOf_persistent]
    have leases := row.leaseId
    rw [← same] at leases
    change Matches platform manifest _ (if _ then _ else _)
    by_cases mine : (manifest.writeLeases.get? expected.identity).map ArtifactWriteLease.leaseId = some leaseId
    · have released : storage.tables.releaseArtifactWriteLease (idOf platform expected.toKeyParts) leaseId =
          .ok ((),{storage.tables with
            artifacts := storage.tables.artifacts.set (idOf platform expected.toKeyParts)
              {record with writeLeaseId := none,writeLeaseExpiresAt := none}}) := by
        unfold ArtifactTables.releaseArtifactWriteLease
        rw [requireArtifact_ok stored]
        exact if_neg (not_not.mpr (leases.trans mine))
      have erased : (manifest.writeLeases.erase expected.identity).get? metadata.identity = none := by
        rw [← same,OrderedMap.get?_erase,if_pos rfl]
      have row' : Row platform {manifest with writeLeases := manifest.writeLeases.erase expected.identity} metadata
          {record with writeLeaseId := none,writeLeaseExpiresAt := none} := by
        refine ⟨⟨row.id,row.run,row.key,row.uri,row.digest,row.mediaType,row.size,row.retention,row.created,row.cleanup,
          row.version⟩,row.state,row.deletedAt,?_,?_⟩
        · exact (congrArg (Option.map ArtifactWriteLease.leaseId) erased).symm
        · exact (congrArg (Option.map ArtifactWriteLease.expiresAt) erased).symm
      rw [exec_repository_last released,if_pos mine,@idOf_of_identity platform _ _ same]
      refine ⟨rfl,simulates.replace collisionFree heldThere rfl (fun id differs => ⟨rfl,?_⟩) simulates.apart row'⟩
      rw [← same] at differs
      exact (OrderedMap.get?_erase _ _ _).trans (if_neg differs)
    · have kept : storage.tables.releaseArtifactWriteLease (idOf platform expected.toKeyParts) leaseId = .ok ((),storage.tables) := by
        unfold ArtifactTables.releaseArtifactWriteLease
        rw [requireArtifact_ok stored]
        exact if_pos (by rw [leases]; exact mine)
      rw [exec_repository_last kept,if_neg mine]
      exact ⟨rfl,simulates⟩

/-! ### Reads -/

theorem matches_normalized {rest : ArtifactScope → Routine Storage StorageError α}
    {rest' : Bool → Checked (α × MemoryManifest)} (simulates : Simulates platform storage.tables manifest)
    (later : ScopeValid scope →
      Matches platform manifest ((rest scope).exec storage) (artifactKeyMatchesScope key scope >>= rest')) :
    Matches platform manifest ((settle (normalizeArtifactScope scope) >>= rest).exec storage)
      (artifactKeyMatchesScope key scope >>= rest') := by
  cases normalized : normalizeArtifactScope scope with
  | ok found =>
    obtain ⟨valid,rfl⟩ := normalizeArtifactScope_ok_iff.mp normalized
    exact later valid
  | error error =>
    cases matched : artifactKeyMatchesScope key scope with
    | error other => exact simulates
    | ok inScope =>
      obtain ⟨_,_,_,valid,_⟩ := artifactKeyMatchesScope_ok_iff.mp matched
      rw [normalizeArtifactScope_ok_iff.mpr ⟨valid,rfl⟩] at normalized
      cases normalized

theorem parts_of_key {parts : KeyParts} (valid : parts.Valid) (there : metadata.Valid platform)
    (same : metadata.key = parts.keyText) : metadata.toKeyParts = parts :=
  keyText_injective there.parts valid (there.key.symm.trans same)

theorem ok_bind {ε α β : Type} (value : α) (rest : α → Except ε β) : (Except.ok value >>= rest) = rest value := rfl

theorem get_matches (simulates : Simulates platform storage.tables manifest)
    (inProject : storage.tables.runs.get? scope.runId = some scope.projectId)
    (sameContent : ∀ parts : KeyParts, parts.Valid → parts.keyText = key → manifest.gone parts.identity = false →
      ∀ metadata, manifest.values.get? parts.identity = some metadata → metadata.key = key) :
    Matches platform manifest ((DomainManifest.get platform scope key).exec storage)
      (manifest.get scope key >>= fun found => .ok (found,manifest)) := by
  unfold DomainManifest.get MemoryManifest.get
  rw [bind_assoc]
  refine matches_normalized simulates fun scopeValid => matches_settle simulates fun inScope matched => ?_
  obtain ⟨parts,valid,rfl,_,rfl⟩ := artifactKeyMatchesScope_ok_iff.mp matched
  by_cases within : parts.toArtifactScope = scope
  · subst within
    rw [if_neg (by simp),if_neg (by simp),exec_settled (parseArtifactKey_ok_iff.mpr ⟨valid,rfl⟩),
      exec_settled valid.logicalKey,exec_reading,parseArtifactKey_ok_iff.mpr ⟨valid,rfl⟩]
    change Matches platform manifest _ ((Artifacts.identity parts >>= _) >>= _)
    rw [valid.identified,ok_bind]
    cases held : manifest.values.get? parts.identity with
    | none =>
      rw [simulates.absent inProject held]
      exact ⟨rfl,simulates⟩
    | some metadata =>
      obtain ⟨record,found,_,row⟩ := simulates.present inProject held
      obtain ⟨there,same,_⟩ := simulates.filed _ _ held
      rw [found]
      dsimp only
      rw [there.parts.identified,row.gone,ok_bind]
      by_cases gone : manifest.gone metadata.identity = true
      · rw [if_pos gone,if_pos gone]
        exact ⟨rfl,simulates⟩
      · have key := sameContent parts valid rfl (by rw [same]; exact Bool.eq_false_iff.mpr gone) metadata held
        have alike := parts_of_key valid there key
        rw [if_neg gone,if_neg gone,exec_settled (row.read there),if_pos key,if_neg]
        · exact ⟨rfl,simulates⟩
        · rw [← alike]
          simp [there.key]
  · rw [if_pos (by simp [within]),if_pos (by simp [within])]
    exact simulates

/-! ### Deletions -/

def reservation (record : ArtifactRecord) (metadata : ArtifactMetadata) (audit : ArtifactDeletionAudit) (time : Instant) :
    ArtifactDeletionReservationRequest where
  id := record.id
  runId := record.runId
  logicalKey := record.key
  uri := metadata.key
  digest := metadata.digest
  now := time
  requestedAt := time
  reason := audit.reason

theorem Row.leased (row : Row platform manifest metadata record) (now : Instant) :
    record.leased now = (manifest.writeLeases.get? metadata.identity).any fun lease => now < lease.expiresAt := by
  unfold ArtifactRecord.leased
  rw [row.leaseId,row.leaseEnd]
  cases manifest.writeLeases.get? metadata.identity <;> rfl

def reservedRow (record : ArtifactRecord) (audit : ArtifactDeletionAudit) (time : Instant) : ArtifactRecord :=
  {record with
    deletionState := some .pending
    deletionRequestedAt := some time
    deletionReason := some audit.reason}

theorem reserveArtifactDeletion_row {audit : ArtifactDeletionAudit} {time : Instant} (row : Row platform manifest metadata record)
    (stored : storage.tables.artifacts.get? (idOf platform metadata.toKeyParts) = some record)
    (kept : manifest.state metadata.identity ≠ .deleted) :
    storage.tables.reserveArtifactDeletion (reservation record metadata audit time) =
      if ((manifest.writeLeases.get? metadata.identity).any fun lease => time < lease.expiresAt) = true then (none,storage.tables)
      else if manifest.state metadata.identity = .pending then (some record,storage.tables)
      else (some (reservedRow record audit time),{storage.tables with
        artifacts := storage.tables.artifacts.set (idOf platform metadata.toKeyParts) (reservedRow record audit time)}) := by
  have undeleted : record.deletedAt = none := by
    have deletedAt := row.deletedAt
    rw [decide_eq_false kept] at deletedAt
    simpa using deletedAt
  unfold ArtifactTables.reserveArtifactDeletion reservation
  dsimp only
  rw [row.id,stored]
  dsimp only
  by_cases leased : ((manifest.writeLeases.get? metadata.identity).any fun lease => time < lease.expiresAt) = true
  · rw [if_pos (by simp [row.leased,leased]),if_pos leased]
  · rw [if_neg (by simp [row.leased,row.uri,row.digest,row.version,row.state,undeleted,leased,kept]),if_neg leased,row.state]
    cases state : manifest.state metadata.identity with
    | active =>
      rw [if_neg (by simp),row.id]
      unfold reservedRow
      rw [row.id]
    | pending => rw [if_pos rfl]
    | deleted => exact absurd state kept

theorem MemoryManifest.state_of_pending (kept : manifest.state id ≠ .deleted)
    (asked : manifest.pending.contains id = true) : manifest.state id = .pending := by
  unfold MemoryManifest.state at kept ⊢
  by_cases gone : manifest.tombstones.contains id = true
  · exact absurd (if_pos gone) kept
  · rw [if_neg gone,if_pos asked]

theorem MemoryManifest.state_of_unasked (unasked : ¬ manifest.pending.contains id = true) : manifest.state id ≠ .pending := by
  unfold MemoryManifest.state
  rw [if_neg unasked]
  split <;> simp

theorem state_pended (kept : manifest.state id ≠ .deleted) :
    MemoryManifest.state {manifest with pending := manifest.pending ++ [id]} other =
      if other = id then .pending else manifest.state other := by
  unfold MemoryManifest.state at kept ⊢
  by_cases same : other = id
  · subst same
    have untouched : ¬ manifest.tombstones.contains other = true := fun gone => kept (if_pos gone)
    rw [if_neg untouched,if_pos rfl,if_pos (by simp)]
  · rw [if_neg same]
    simp [same]

theorem Row.reserved (row : Row platform manifest metadata record)
    (kept : manifest.state metadata.identity ≠ .deleted) (audit : ArtifactDeletionAudit) (time : Instant) :
    Row platform {manifest with pending := manifest.pending ++ [metadata.identity]} metadata (reservedRow record audit time) := by
  have undeleted := row.deletedAt
  rw [decide_eq_false kept] at undeleted
  refine ⟨⟨row.id,row.run,row.key,row.uri,row.digest,row.mediaType,row.size,row.retention,row.created,row.cleanup,
    row.version⟩,?_,?_,row.leaseId,row.leaseEnd⟩
  · rw [state_pended kept,if_pos rfl]
    rfl
  · rw [state_pended kept,if_pos rfl]
    exact undeleted

theorem exactlyEquivalent_refl : exactlyEquivalent metadata metadata = true := by simp [exactlyEquivalent,equivalent]

theorem reserveDeletion_matches (simulates : Simulates platform storage.tables manifest)
    (collisionFree : Function.Injective platform.sha256) {audit : ArtifactDeletionAudit}
    {time : Instant} (inProject : storage.tables.runs.get? scope.runId = some scope.projectId) :
    Matches platform manifest ((DomainManifest.reserveDeletion platform scope key audit time).exec storage)
      (manifest.reserveDeletion scope key audit time) := by
  unfold DomainManifest.reserveDeletion MemoryManifest.reserveDeletion
  by_cases audited : audit.key = key
  · simp only [audited,ne_eq,not_true,if_false]
    refine matches_normalized simulates fun scopeValid => matches_settle simulates fun inScope matched => ?_
    obtain ⟨parts,valid,rfl,_,rfl⟩ := artifactKeyMatchesScope_ok_iff.mp matched
    by_cases within : parts.toArtifactScope = scope
    · subst within
      rw [if_neg (by simp),if_neg (by simp),exec_settled (parseArtifactKey_ok_iff.mpr ⟨valid,rfl⟩),
        exec_settled valid.logicalKey,exec_reading,parseArtifactKey_ok_iff.mpr ⟨valid,rfl⟩]
      change Matches platform manifest _ (Artifacts.identity parts >>= _)
      rw [valid.identified,ok_bind]
      cases held : manifest.values.get? parts.identity with
      | none =>
        rw [simulates.absent inProject held]
        by_cases gone : manifest.tombstones.contains parts.identity = true
        · rw [if_pos gone]
          exact ⟨rfl,simulates⟩
        · rw [if_neg gone]
          exact ⟨rfl,simulates⟩
      | some metadata =>
        obtain ⟨record,found,stored,row⟩ := simulates.present inProject held
        obtain ⟨there,same,_⟩ := simulates.filed _ _ held
        have heldThere : manifest.values.get? metadata.identity = some metadata := same ▸ held
        rw [found,same,MemoryManifest.deleted_iff_state]
        dsimp only
        rw [row.state]
        by_cases kept : manifest.state metadata.identity = .deleted
        · rw [if_pos (by rw [kept]),if_pos (by simp [kept])]
          exact ⟨rfl,simulates⟩
        rw [if_neg (by simp [kept]),if_neg (by simp [kept]),exec_settled (row.read there)]
        by_cases key : metadata.key = parts.keyText
        · rw [if_neg (not_not.mpr key)]
          have reserved := @reserveArtifactDeletion_row platform storage manifest metadata record audit time row stored kept
          by_cases leased : ((manifest.writeLeases.get? metadata.identity).any fun lease => time < lease.expiresAt) = true
          · rw [if_pos leased] at reserved
            rw [exec_repository (congrArg Except.ok reserved),if_pos (.inr leased)]
            exact ⟨rfl,simulates⟩
          · rw [if_neg leased] at reserved
            rw [if_neg (not_or.mpr ⟨not_not.mpr key,leased⟩)]
            by_cases asked : manifest.pending.contains metadata.identity = true
            · have pending : manifest.state metadata.identity = .pending := MemoryManifest.state_of_pending kept asked
              rw [if_pos pending] at reserved
              rw [exec_repository (congrArg Except.ok reserved),if_pos asked]
              dsimp only
              rw [exec_settled (row.read there),if_pos exactlyEquivalent_refl]
              exact ⟨rfl,simulates⟩
            · have notPending : manifest.state metadata.identity ≠ .pending := MemoryManifest.state_of_unasked asked
              have row' := row.reserved kept audit time
              rw [if_neg notPending] at reserved
              rw [exec_repository (congrArg Except.ok reserved),if_neg asked]
              dsimp only
              rw [exec_settled (row'.read there),if_pos exactlyEquivalent_refl]
              refine ⟨rfl,simulates.replace collisionFree heldThere rfl (fun id differs => ⟨?_,rfl⟩) ?_ row'⟩
              · rw [state_pended kept,if_neg differs]
              · intro id gone
                have different : id ≠ metadata.identity := by
                  rintro rfl
                  have gone' : manifest.tombstones.contains metadata.identity = true := gone
                  rw [MemoryManifest.deleted_iff_state] at gone'
                  exact kept (by simpa using gone')
                have unasked := simulates.apart id gone
                simpa [different] using unasked
        · rw [if_pos key,if_pos (.inl key)]
          exact ⟨rfl,simulates⟩
    · rw [if_pos (by simp [within]),if_pos (by simp [within])]
      exact simulates
  · simp only [audited,ne_eq,not_false_eq_true,if_true]
    cases normalizeArtifactScope scope <;> exact simulates

theorem exactlyEquivalent_iff {other : ArtifactMetadata} : exactlyEquivalent metadata other = true ↔ metadata = other := by
  constructor
  · intro same
    simp only [exactlyEquivalent,equivalent,Bool.and_eq_true,decide_eq_true_eq] at same
    obtain ⟨⟨⟨⟨⟨⟨⟨⟨⟨⟨⟨key,digest⟩,mediaType⟩,size⟩,retention⟩,project⟩,run⟩,step⟩,artifact⟩,version⟩,created⟩,expires⟩ := same
    rcases metadata with ⟨⟨⟨_,_,_⟩,_,_,_⟩,_,_,_,_,_,_⟩
    rcases other with ⟨⟨⟨_,_,_⟩,_,_,_⟩,_,_,_,_,_,_⟩
    subst key digest mediaType size retention project run step artifact version created expires
    rfl
  · rintro rfl
    exact exactlyEquivalent_refl

theorem finalizeDeletion_refused {audit : ArtifactDeletionAudit} (other : manifest.values.get? expected.identity ≠ some expected) :
    ∃ error, manifest.finalizeDeletion expected audit = .error error := by
  unfold MemoryManifest.finalizeDeletion
  by_cases audited : audit.key = expected.key
  · rw [if_neg (not_not.mpr audited)]
    cases named : identity expected.toKeyParts with
    | error error => exact ⟨error,rfl⟩
    | ok id =>
      obtain ⟨_,rfl⟩ := identity_ok_iff.mp named
      dsimp only [bind,Except.bind]
      cases held : manifest.values.get? expected.identity with
      | none => exact ⟨_,rfl⟩
      | some existing =>
        refine ⟨conflict,if_pos fun same => other ?_⟩
        rw [held,exactlyEquivalent_iff.mp same]
  · exact ⟨conflict,if_pos audited⟩

def finalRow (record : ArtifactRecord) (audit : ArtifactDeletionAudit) : ArtifactRecord :=
  {record with
    deletionState := some .deleted
    deletedAt := some audit.deletedAt
    deletionReason := some (record.deletionReason.getD audit.reason)}

def finalization (record : ArtifactRecord) (metadata : ArtifactMetadata) (audit : ArtifactDeletionAudit) :
    ArtifactDeletionFinalizationRequest where
  id := record.id
  runId := record.runId
  logicalKey := record.key
  uri := metadata.key
  digest := metadata.digest
  deletedAt := audit.deletedAt
  reason := audit.reason

theorem finalizeArtifactDeletion_row {audit : ArtifactDeletionAudit} (row : Row platform manifest metadata record)
    (stored : storage.tables.artifacts.get? (idOf platform metadata.toKeyParts) = some record)
    (kept : manifest.state metadata.identity ≠ .deleted) :
    storage.tables.finalizeArtifactDeletion (finalization record metadata audit) =
      if manifest.state metadata.identity = .pending then .ok (finalRow record audit,{storage.tables with
        artifacts := storage.tables.artifacts.set (idOf platform metadata.toKeyParts) (finalRow record audit)})
      else .error (.other "Artifact deletion was not reserved") := by
  unfold ArtifactTables.finalizeArtifactDeletion finalization
  dsimp only
  rw [row.id,requireArtifact_ok stored]
  dsimp only [bind,Except.bind]
  rw [if_neg (by simp [row.uri,row.digest,row.version]),row.state]
  cases state : manifest.state metadata.identity with
  | active => rw [if_neg (by simp)]
  | pending =>
    rw [if_pos rfl]
    unfold finalRow
    dsimp only
    rw [row.id]
  | deleted => exact absurd state kept

theorem state_buried :
    MemoryManifest.state {manifest with pending := manifest.pending.filter (· ≠ id),tombstones := manifest.tombstones ++ [id]} other =
      if other = id then .deleted else manifest.state other := by
  unfold MemoryManifest.state
  by_cases same : other = id
  · subst same
    rw [if_pos (by simp),if_pos rfl]
  · rw [if_neg same]
    simp [same]

theorem Row.buried (row : Row platform manifest metadata record) (audit : ArtifactDeletionAudit) : Row platform {manifest with
      pending := manifest.pending.filter (· ≠ metadata.identity)
      tombstones := manifest.tombstones ++ [metadata.identity]} metadata (finalRow record audit) := by
  refine ⟨⟨row.id,row.run,row.key,row.uri,row.digest,row.mediaType,row.size,row.retention,row.created,row.cleanup,
    row.version⟩,?_,?_,row.leaseId,row.leaseEnd⟩
  · rw [state_buried,if_pos rfl]
    rfl
  · rw [state_buried,if_pos rfl]
    rfl

theorem finalizeDeletion_entry {audit : ArtifactDeletionAudit} (valid : metadata.Valid platform)
    (held : manifest.values.get? metadata.identity = some metadata) (kept : manifest.state metadata.identity ≠ .deleted)
    (audited : audit.key = metadata.key) : manifest.finalizeDeletion metadata audit =
      if manifest.pending.contains metadata.identity = true then .ok ((),{manifest with
        pending := manifest.pending.filter (· ≠ metadata.identity)
        tombstones := manifest.tombstones ++ [metadata.identity]})
      else .error conflict := by
  have untombed : ¬ manifest.tombstones.contains metadata.identity = true := by
    rw [MemoryManifest.deleted_iff_state]
    simpa using kept
  unfold MemoryManifest.finalizeDeletion
  rw [if_neg (not_not.mpr audited),valid.parts.identified]
  dsimp only [bind,Except.bind]
  rw [held]
  dsimp only
  rw [if_neg (not_not.mpr exactlyEquivalent_refl),if_neg untombed]
  by_cases asked : manifest.pending.contains metadata.identity = true
  · rw [if_neg (not_not.mpr asked),if_pos asked]
  · rw [if_pos asked,if_neg asked]

theorem finalizeDeletion_matches (simulates : Simulates platform storage.tables manifest)
    (collisionFree : Function.Injective platform.sha256) {audit : ArtifactDeletionAudit}
    (inProject : storage.tables.runs.get? expected.runId = some expected.projectId)
    (filed : ∀ parts : KeyParts, parts.Valid → parts.keyText = expected.key → audit.key = expected.key →
      storage.tables.runs.get? parts.runId = some parts.projectId ∧ ∃ metadata, manifest.values.get? parts.identity = some metadata ∧
          (metadata = expected → manifest.state parts.identity ≠ .deleted)) :
    Matches platform manifest ((DomainManifest.finalizeDeletion platform expected audit).exec storage)
      (manifest.finalizeDeletion expected audit) := by
  by_cases audited : audit.key = expected.key
  · unfold DomainManifest.finalizeDeletion
    rw [if_neg (not_not.mpr audited)]
    cases parsed : parseArtifactKey expected.key with
    | error error =>
      have other : manifest.values.get? expected.identity ≠ some expected := by
        intro held
        obtain ⟨there,_,_⟩ := simulates.filed _ _ held
        rw [parseArtifactKey_ok_iff.mpr ⟨there.parts,there.key.symm⟩] at parsed
        cases parsed
      obtain ⟨_,refused⟩ := @finalizeDeletion_refused manifest expected audit other
      rw [refused]
      exact simulates
    | ok parts =>
      obtain ⟨valid,key⟩ := parseArtifactKey_ok_iff.mp parsed
      obtain ⟨inProject,metadata,held,unburied⟩ := filed parts valid key audited
      obtain ⟨record,found,stored,row⟩ := simulates.present inProject held
      obtain ⟨there,same,_⟩ := simulates.filed _ _ held
      rw [exec_settled rfl,exec_settled valid.logicalKey,exec_reading,found]
      dsimp only
      rw [exec_settled (row.read there)]
      by_cases exactly : metadata = expected
      · subst exactly
        have kept : manifest.state metadata.identity ≠ .deleted := same ▸ unburied rfl
        have heldThere : manifest.values.get? metadata.identity = some metadata := same ▸ held
        have finalized := @finalizeArtifactDeletion_row platform storage manifest metadata record audit row stored kept
        rw [if_neg (not_not.mpr exactlyEquivalent_refl),finalizeDeletion_entry there heldThere kept audited]
        by_cases asked : manifest.pending.contains metadata.identity = true
        · rw [if_pos (MemoryManifest.state_of_pending kept asked)] at finalized
          rw [exec_repository finalized,if_pos asked]
          refine ⟨rfl,simulates.replace collisionFree heldThere rfl (fun id differs => ⟨?_,rfl⟩) ?_ (row.buried audit)⟩
          · rw [state_buried,if_neg differs]
          · intro id gone
            by_cases mine : id = metadata.identity
            · simp [mine]
            · have gone' : manifest.tombstones.contains id = true := by simpa [mine] using gone
              have unasked := simulates.apart id gone'
              simpa [mine] using unasked
        · rw [if_neg (MemoryManifest.state_of_unasked asked)] at finalized
          rw [exec_repository_error finalized,if_neg asked]
          exact simulates
      · have other : manifest.values.get? expected.identity ≠ some expected := by
          intro heldThere
          obtain ⟨thereToo,_,_⟩ := simulates.filed _ _ heldThere
          have alike := parts_of_key valid thereToo key.symm
          rw [alike,held] at heldThere
          exact exactly (Option.some.inj heldThere)
        obtain ⟨_,refused⟩ := @finalizeDeletion_refused manifest expected audit other
        rw [refused,if_pos (by simpa [exactlyEquivalent_iff] using exactly)]
        exact simulates
  · unfold DomainManifest.finalizeDeletion MemoryManifest.finalizeDeletion
    rw [if_pos audited,if_pos audited]
    exact simulates

end
end AgentOS.Artifacts
