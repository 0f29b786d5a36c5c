import AgentOS.Artifacts.Rows

/-! Rows that stand for the entries of a manifest kept in memory, and what keeps them so: a new row for a new entry,
and a row and its entry that change together. -/
namespace AgentOS.Artifacts
open Library
open OrderedMap (get?_set get?_set_some)

def MemoryManifest.state (manifest : MemoryManifest) (id : Identity) : DeletionState :=
  if manifest.tombstones.contains id then .deleted else if manifest.pending.contains id then .pending else .active

section
variable (platform : Platform)

/-- The row shows the metadata, and has the lease and the deletion state of its entry. -/
structure Row (manifest : MemoryManifest) (metadata : ArtifactMetadata) (record : ArtifactRecord) : Prop
    extends Shows platform record metadata where
  state : record.deletionState = some (manifest.state metadata.identity)
  deletedAt : record.deletedAt.isSome = decide (manifest.state metadata.identity = .deleted)
  leaseId : record.writeLeaseId = (manifest.writeLeases.get? metadata.identity).map ArtifactWriteLease.leaseId
  leaseEnd : record.writeLeaseExpiresAt = (manifest.writeLeases.get? metadata.identity).map ArtifactWriteLease.expiresAt

structure Simulates (tables : ArtifactTables) (manifest : MemoryManifest) : Prop where
  filed : ∀ id metadata, manifest.values.get? id = some metadata → metadata.Valid platform ∧ id = metadata.identity ∧
    tables.runs.get? metadata.runId = some metadata.projectId
  rows : ∀ id metadata, manifest.values.get? id = some metadata → ∃ record,
    tables.artifacts.get? (idOf platform metadata.toKeyParts) = some record ∧ Row platform manifest metadata record
  keys : ∀ parts : KeyParts, tables.runs.get? parts.runId = some parts.projectId →
    tables.artifactKeys.get? (parts.runId,parts.logical) =
      (manifest.values.get? parts.identity).map fun metadata => idOf platform metadata.toKeyParts
  order : tables.artifacts.entries.map Prod.fst =
    manifest.values.values.map fun metadata => idOf platform metadata.toKeyParts
  known : ∀ id, manifest.gone id = true ∨ (manifest.writeLeases.get? id).isSome → (manifest.values.get? id).isSome
  apart : ∀ id, manifest.tombstones.contains id = true → manifest.pending.contains id = false

end

variable {platform : Platform} {tables : ArtifactTables} {manifest : MemoryManifest} {metadata : ArtifactMetadata}
  {record : ArtifactRecord} {parts : KeyParts}

namespace MemoryManifest

theorem gone_iff_state {id : Identity} : manifest.gone id = decide (manifest.state id ≠ .active) := by
  unfold gone state
  cases manifest.tombstones.contains id <;> cases manifest.pending.contains id <;> rfl

theorem deleted_iff_state {id : Identity} : manifest.tombstones.contains id = decide (manifest.state id = .deleted) := by
  unfold state
  cases manifest.tombstones.contains id <;> cases manifest.pending.contains id <;> rfl

end MemoryManifest

theorem Row.gone (row : Row platform manifest metadata record) : record.gone = manifest.gone metadata.identity := by
  unfold ArtifactRecord.gone
  rw [row.deletedAt,row.state,MemoryManifest.gone_iff_state]
  cases manifest.state metadata.identity <;> rfl

theorem Row.transfer {other : MemoryManifest} (row : Row platform manifest metadata record)
    (state : other.state metadata.identity = manifest.state metadata.identity)
    (lease : other.writeLeases.get? metadata.identity = manifest.writeLeases.get? metadata.identity) :
    Row platform other metadata record :=
  ⟨row.toShows,by rw [state]; exact row.state,by rw [state]; exact row.deletedAt,by rw [lease]; exact row.leaseId,
    by rw [lease]; exact row.leaseEnd⟩

theorem Row.read (row : Row platform manifest metadata record) (valid : metadata.Valid platform) :
    metadataFromRecord platform record = .ok metadata := row.toShows.metadataFromRecord valid (by rw [row.state]; simp)

namespace Simulates

section
variable (simulates : Simulates platform tables manifest)
include simulates

section
variable (inProject : tables.runs.get? parts.runId = some parts.projectId)
include inProject

theorem absent (none_ : manifest.values.get? parts.identity = none) : tables.getArtifactByRunKey parts.runId parts.logical = none := by
  unfold ArtifactTables.getArtifactByRunKey
  rw [simulates.keys parts inProject,none_]
  rfl

theorem present (held : manifest.values.get? parts.identity = some metadata) : ∃ record,
      tables.getArtifactByRunKey parts.runId parts.logical = some record ∧
        tables.artifacts.get? (idOf platform metadata.toKeyParts) = some record ∧ Row platform manifest metadata record := by
  obtain ⟨record,stored,row⟩ := simulates.rows _ _ held
  refine ⟨record,?_,stored,row⟩
  unfold ArtifactTables.getArtifactByRunKey
  rw [simulates.keys parts inProject,held]
  exact stored

end

section
variable (collisionFree : Function.Injective platform.sha256)
include collisionFree

theorem unstored (valid : parts.Valid) (none_ : manifest.values.get? parts.identity = none) :
    tables.artifacts.get? (idOf platform parts) = none := by
  by_contra stored
  have inside := (tables.artifacts.mem_keys (idOf platform parts)).mpr (Option.isSome_iff_ne_none.mpr stored)
  rw [simulates.order] at inside
  obtain ⟨other,listed,same⟩ := List.mem_map.mp inside
  obtain ⟨id,held⟩ := (manifest.values.mem_values other).mp listed
  obtain ⟨otherValid,rfl,_⟩ := simulates.filed _ _ held
  have identities := identity_of_idOf collisionFree otherValid.parts valid same
  rw [identities,none_] at held
  cases held

theorem idOf_inj {id other : Identity} {first second : ArtifactMetadata} (held : manifest.values.get? id = some first)
    (held' : manifest.values.get? other = some second)
    (same : idOf platform first.toKeyParts = idOf platform second.toKeyParts) : id = other := by
  obtain ⟨valid,rfl,_⟩ := simulates.filed _ _ held
  obtain ⟨valid',rfl,_⟩ := simulates.filed _ _ held'
  exact identity_of_idOf collisionFree valid.parts valid'.parts same

theorem insert (valid : metadata.Valid platform) (inProject : tables.runs.get? metadata.runId = some metadata.projectId)
    (none_ : manifest.values.get? metadata.identity = none) (leases : OrderedMap Identity ArtifactWriteLease)
    (others : ∀ id, id ≠ metadata.identity → leases.get? id = manifest.writeLeases.get? id)
    (row : Row platform {manifest with values := manifest.values.set metadata.identity metadata,writeLeases := leases} metadata
      record) :
    Simulates platform {tables with
        artifacts := tables.artifacts.set record.id record
        artifactKeys := tables.artifactKeys.set (record.runId,record.key) record.id}
      {manifest with values := manifest.values.set metadata.identity metadata,writeLeases := leases} := by
  have id : record.id = idOf platform metadata.toKeyParts := row.id
  have fresh := simulates.unstored collisionFree valid.parts none_
  refine ⟨?_,?_,?_,?_,?_,simulates.apart⟩
  · intro id found held
    rcases get?_set_some held with ⟨rfl,rfl⟩ | ⟨_,held⟩
    · exact ⟨valid,rfl,inProject⟩
    · exact simulates.filed id found held
  · intro id found held
    rcases get?_set_some held with ⟨rfl,rfl⟩ | ⟨other,held⟩
    · exact ⟨record,by simp [get?_set,row.id],row⟩
    · obtain ⟨old,stored,oldRow⟩ := simulates.rows id found held
      obtain ⟨_,rfl,_⟩ := simulates.filed _ _ held
      refine ⟨old,?_,oldRow.transfer rfl (others _ other)⟩
      rw [get?_set,if_neg]
      · exact stored
      · rw [row.id]
        intro same
        rw [same,fresh] at stored
        cases stored
  · intro parts project
    rw [get?_set,get?_set]
    by_cases same : parts.identity = metadata.identity
    · have same' := same
      unfold KeyParts.identity at same
      simp only [Prod.mk.injEq] at same
      rw [if_pos same',if_pos (by rw [row.run,row.key,same.2.1,same.2.2]),row.id]
      rfl
    · rw [if_neg same,if_neg]
      · exact simulates.keys parts project
      · rw [row.run,row.key,Prod.mk.injEq]
        rintro ⟨run,logical⟩
        have project' : some parts.projectId = some metadata.projectId := by rw [← project,← inProject,run]
        exact same (by unfold KeyParts.identity; rw [Option.some.inj project',run,logical])
  · rw [OrderedMap.keys_set,OrderedMap.values_set_new _ none_,row.id,fresh,simulates.order]
    simp
  · intro id known
    rw [get?_set]
    by_cases same : id = metadata.identity
    · rw [if_pos same]
      rfl
    · rw [if_neg same]
      apply simulates.known
      rcases known with gone | leased
      · exact .inl gone
      · rw [others id same] at leased
        exact .inr leased

theorem replace {changed : MemoryManifest} (held : manifest.values.get? metadata.identity = some metadata)
    (values : changed.values = manifest.values) (others : ∀ id, id ≠ metadata.identity → changed.state id = manifest.state id ∧
      changed.writeLeases.get? id = manifest.writeLeases.get? id)
    (apart : ∀ id, changed.tombstones.contains id = true → changed.pending.contains id = false)
    (row : Row platform changed metadata record) :
    Simulates platform {tables with artifacts := tables.artifacts.set (idOf platform metadata.toKeyParts) record} changed := by
  obtain ⟨current,stored,_⟩ := simulates.rows _ _ held
  refine ⟨?_,?_,?_,?_,?_,apart⟩
  · rw [values]
    exact simulates.filed
  · rw [values]
    intro id found there
    rw [get?_set]
    by_cases same : id = metadata.identity
    · subst same
      rw [held] at there
      cases there
      rw [if_pos rfl]
      exact ⟨record,rfl,row⟩
    · obtain ⟨old,kept,oldRow⟩ := simulates.rows id found there
      rw [if_neg fun equal => same (simulates.idOf_inj collisionFree there held equal)]
      obtain ⟨_,rfl,_⟩ := simulates.filed _ _ there
      obtain ⟨state,lease⟩ := others _ same
      exact ⟨old,kept,oldRow.transfer state lease⟩
  · rw [values]
    exact simulates.keys
  · rw [OrderedMap.keys_set,stored,values]
    exact simulates.order
  · rw [values]
    intro id known
    by_cases same : id = metadata.identity
    · rw [same,held]
      rfl
    · obtain ⟨state,lease⟩ := others id same
      apply simulates.known
      rw [MemoryManifest.gone_iff_state,state,lease,← MemoryManifest.gone_iff_state] at known
      exact known

end

end

end Simulates

end AgentOS.Artifacts
