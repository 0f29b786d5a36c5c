import AgentOS.Artifacts.Interchange
import AgentOS.Pages

/-! The listing of a manifest, which gives its own cursors, and the listings of the repository together. -/
namespace AgentOS.Pages
open Library Artifacts

/-! ### Rows by run and key -/

def rowsOf (tables : ArtifactTables) (runId keyPrefix : String) : List ArtifactRecord :=
  (tables.artifacts.values.filter (ofRunKey runId keyPrefix)).insertionSort fun left right => left.key ≤ right.key

theorem byKey_strict : Paging.Strict fun left right : ArtifactRecord => decide (left.key < right.key) where
  asymmetric := by
    intro left right before
    exact decide_eq_false (String.lt_asymm (of_decide_eq_true before))
  weakly := by
    intro first second third notBefore notBefore'
    have upTo := String.not_lt.mp (of_decide_eq_false notBefore)
    have upTo' := String.not_lt.mp (of_decide_eq_false notBefore')
    exact decide_eq_false (String.not_lt.mpr (String.le_trans upTo upTo'))

theorem byKey_weak (left right : ArtifactRecord) : left.key ≤ right.key ↔ decide (right.key < left.key) = false := by
  rw [decide_eq_false_iff_not,String.not_lt]

section
variable {tables : ArtifactTables} {runId keyPrefix : String}

theorem keys_apart (sound : Sound tables) : (tables.artifacts.values.filter (ofRunKey runId keyPrefix)).Pairwise
    fun left right => left.key ≠ right.key := by
  refine ((rows_apart sound).filter _).imp_of_mem fun {left right} inside inside' differ same => differ.2 ?_
  rw [run_of_mem inside,run_of_mem inside',same]

theorem apart_by_key (sound : Sound tables) : (tables.artifacts.values.filter (ofRunKey runId keyPrefix)).Pairwise
    fun left right => decide (left.key < right.key) = true ∨ decide (right.key < left.key) = true :=
  (keys_apart sound).imp fun {left right} differ => by
    rw [decide_eq_true_eq,decide_eq_true_eq]
    by_contra neither
    obtain ⟨after,before⟩ := not_or.mp neither
    exact differ (String.le_antisymm (String.not_lt.mp before) (String.not_lt.mp after))

theorem rowsOf_sorted (sound : Sound tables) : (rowsOf tables runId keyPrefix).Pairwise fun left right => left.key < right.key :=
  (byKey_strict.sorted _ byKey_weak (apart_by_key sound)).imp of_decide_eq_true

theorem mem_rowsOf {row : ArtifactRecord} : row ∈ rowsOf tables runId keyPrefix ↔
    row ∈ tables.artifacts.values ∧ ofRunKey runId keyPrefix row = true := by
  unfold rowsOf
  rw [List.mem_insertionSort,List.mem_filter]

theorem listArtifactsByRunKey_after (sound : Sound tables) {read rest : List ArtifactRecord}
    (split : rowsOf tables runId keyPrefix = read ++ rest) (limit : Nat) :
    tables.listArtifactsByRunKey runId keyPrefix (read.getLast?.map ArtifactRecord.key) limit = rest.take limit := by
  refine congrArg (List.take limit) ?_
  exact byKey_strict.sorted_after _ byKey_weak (apart_by_key sound) split fun row => Option.all_map ..

end

/-! ### Manifests -/

section
variable {platform : Platform} {storage : Storage} {scope : ArtifactScope} {artifactPrefix : Option String}
  {reading : ArtifactRecord → Artifacts.ArtifactMetadata}

def keyPrefixOf (scope : ArtifactScope) (artifactPrefix : Option String) : String :=
  "artifact-manifest/v1/" ++ scope.stepId ++ "/" ++ artifactPrefix.getD ""

def namedAs (artifactPrefix : Option String) (metadata : Artifacts.ArtifactMetadata) : Bool :=
  artifactPrefix.all fun start => start.toList.isPrefixOf metadata.artifactId.toList

def Entries (platform : Platform) (rows : List ArtifactRecord) (scope : ArtifactScope)
    (reading : ArtifactRecord → Artifacts.ArtifactMetadata) : Prop :=
  ∀ row ∈ rows, metadataFromRecord platform row = .ok (reading row) ∧ (reading row).toArtifactScope = scope

def shown (artifactPrefix : Option String) (reading : ArtifactRecord → Artifacts.ArtifactMetadata) (rows : List ArtifactRecord) :
    List Artifacts.ArtifactMetadata := (rows.map reading).filter (namedAs artifactPrefix)

variable {rows : List ArtifactRecord} {row : ArtifactRecord}

theorem row_of_metadata {metadata : Artifacts.ArtifactMetadata}
    (ok : metadataFromRecord platform row = .ok metadata) : metadata.Valid platform ∧ row.key = metadata.logical := by
  unfold metadataFromRecord at ok
  split at ok
  · split at ok
    · cases ok
    · obtain ⟨parts,_,ok⟩ := bind_ok.mp ok
      obtain ⟨found,valid,ok⟩ := bind_ok.mp ok
      obtain ⟨logical,named,ok⟩ := bind_ok.mp ok
      obtain ⟨id,_,ok⟩ := bind_ok.mp ok
      split at ok
      · cases ok
      · rename_i own
        cases ok
        obtain ⟨valid,same⟩ := validateArtifactMetadata_ok_iff.mp valid
        rw [same] at valid
        refine ⟨valid,?_⟩
        rw [valid.parts.logicalKey] at named
        cases named
        exact not_not.mp fun differs => own (.inr (.inl differs))
  · cases ok

theorem mapM_reading (entries : Entries platform rows scope reading) :
    rows.mapM (metadataFromRecord platform) = .ok (rows.map reading) := by
  induction rows with
  | nil => rfl
  | cons row rows ih =>
    rw [List.mapM_cons,(entries row List.mem_cons_self).1,ih fun other inside => entries other (List.mem_cons_of_mem _ inside)]
    rfl

theorem pageItems_reading (entries : Entries platform rows scope reading) :
    DomainManifest.pageItems scope artifactPrefix (rows.map reading) = .ok (shown artifactPrefix reading rows) := by
  unfold DomainManifest.pageItems
  rw [if_neg]
  · rfl
  intro outside
  obtain ⟨metadata,inside,differs⟩ := List.any_eq_true.mp outside
  obtain ⟨row,listed,rfl⟩ := List.mem_map.mp inside
  have own := (entries row listed).2
  rw [← own] at differs
  simp at differs

theorem logicalAfter_reading (scopeValid : ScopeValid scope)
    (entry : metadataFromRecord platform row = .ok (reading row) ∧ (reading row).toArtifactScope = scope) :
    DomainManifest.logicalAfter scope (some (reading row).key) = .ok (some row.key) := by
  obtain ⟨valid,key⟩ := row_of_metadata entry.1
  refine bind_ok.mpr ⟨true,artifactKeyMatchesScope_ok_iff.mpr ⟨_,valid.parts,valid.key.symm,scopeValid,?_⟩,?_⟩
  · rw [decide_eq_true entry.2]
  · rw [if_neg (by simp)]
    refine bind_ok.mpr ⟨_,parseArtifactKey_ok_iff.mpr ⟨valid.parts,valid.key.symm⟩,?_⟩
    rw [valid.parts.logicalKey,key]
    rfl

theorem list_page (sound : Sound storage.tables) (scopeValid : ScopeValid scope)
    (entries : Entries platform (rowsOf storage.tables scope.runId (keyPrefixOf scope artifactPrefix)) scope reading)
    {read rest : List ArtifactRecord} (split : rowsOf storage.tables scope.runId (keyPrefixOf scope artifactPrefix) = read ++ rest)
    (limit : Nat) : ((DomainManifest.list platform {
        scope := scope
        artifactPrefix := artifactPrefix
        after := read.getLast?.map fun row => (reading row).key
        limit := limit}).exec storage).1 =
      .ok ⟨shown artifactPrefix reading (rest.take limit),
        if rest.length ≤ limit then none else (rest.take limit).getLast?.map fun row => (reading row).key⟩ := by
  have after : DomainManifest.logicalAfter scope (read.getLast?.map fun row => (reading row).key) =
      .ok (read.getLast?.map ArtifactRecord.key) := by
    cases final : read.getLast? with
    | none => rfl
    | some row =>
      refine logicalAfter_reading scopeValid (entries row ?_)
      rw [split]
      exact List.mem_append_left _ (List.mem_of_getLast? final)
  have normalized := normalizeArtifactScope_ok_iff.mpr ⟨scopeValid,rfl⟩
  have keyPrefix : ∀ after, DomainManifest.logicalPrefix {
      scope := scope
      artifactPrefix := artifactPrefix
      after := after
      limit := limit} = .ok (keyPrefixOf scope artifactPrefix) := by
    intro after
    unfold DomainManifest.logicalPrefix
    rw [normalized]
    rfl
  have page : Entries platform (rest.take limit) scope reading := by
    intro row inside
    refine entries row ?_
    rw [split]
    exact List.mem_append_right _ (List.mem_of_mem_take inside)
  have cut : (rest.take (limit + 1)).take limit = rest.take limit := by
    rw [List.take_take,Nat.min_eq_left (Nat.le_succ _)]
  have short : (rest.take (limit + 1)).length ≤ limit ↔ rest.length ≤ limit := by
    rw [List.length_take]
    omega
  unfold DomainManifest.list
  rw [exec_settled normalized,exec_settled (keyPrefix _),exec_settled after,exec_reading,listArtifactsByRunKey_after sound split]
  dsimp only
  rw [cut,exec_settled (mapM_reading page),exec_settled (pageItems_reading page)]
  simp only [short,List.getLast?_map,Option.map_map]
  rfl

/-- Followed by the cursors it gives, with any limits that are not zero, a manifest's listing is whole, in order and without
repetition, and the end is reached. -/
structure ManifestListing (platform : Platform) (storage : Storage) (scope : ArtifactScope) (artifactPrefix : Option String)
    (listing : List Artifacts.ArtifactMetadata) : Prop where
  read : ∀ limits : Nat → Nat, (∀ turn, 0 < limits turn) → ∀ turns,
    (rowsOf storage.tables scope.runId (keyPrefixOf scope artifactPrefix)).length < turns →
    Paging.readLinked (fun after limit => ((DomainManifest.list platform {
      scope := scope
      artifactPrefix := artifactPrefix
      after := after
      limit := limit}).exec storage).1.toOption.map fun page => (page.items,page.nextAfter)) turns limits none = some listing
  inOrder : listing.Pairwise fun left right => left.logical < right.logical
  once : listing.Nodup
  whole : ∀ metadata, metadata ∈ listing ↔ namedAs artifactPrefix metadata = true ∧ ∃ row ∈ storage.tables.artifacts.values,
    ofRunKey scope.runId (keyPrefixOf scope artifactPrefix) row = true ∧ metadataFromRecord platform row = .ok metadata

theorem manifest_listing (sound : Sound storage.tables) (scopeValid : ScopeValid scope)
    (entries : Entries platform (rowsOf storage.tables scope.runId (keyPrefixOf scope artifactPrefix)) scope reading) :
    ∃ listing, ManifestListing platform storage scope artifactPrefix listing := by
  have inOrder : (shown artifactPrefix reading (rowsOf storage.tables scope.runId (keyPrefixOf scope artifactPrefix))).Pairwise
      fun left right => left.logical < right.logical := by
    refine List.Pairwise.filter _ (List.pairwise_map.mpr ?_)
    refine (rowsOf_sorted sound).imp_of_mem fun {left right} inside inside' before => ?_
    rwa [← (row_of_metadata (entries left inside).1).2,← (row_of_metadata (entries right inside').1).2]
  refine ⟨_,?_,inOrder,?_,?_⟩
  · intro limits positive turns enough
    refine @Paging.readLinked_rest _ _ _ _ _ (fun row => (reading row).key) (shown artifactPrefix reading) ?_ _ [] _ limits turns ?_
      (List.nil_append _).symm enough
    · intro first second
      unfold shown
      rw [List.map_append,List.filter_append]
    · intro read rest turn split
      refine ⟨limits turn,positive turn,?_⟩
      rw [list_page sound scopeValid entries split]
      rfl
  · refine inOrder.imp fun {left right} before (same : left = right) => ?_
    rw [same] at before
    exact String.lt_irrefl _ before
  · intro metadata
    unfold shown
    rw [List.mem_filter,and_comm]
    refine and_congr_right fun _ => ?_
    rw [List.mem_map]
    constructor
    · rintro ⟨row,inside,rfl⟩
      obtain ⟨stored,wanted⟩ := mem_rowsOf.mp inside
      exact ⟨row,stored,wanted,(entries row inside).1⟩
    · rintro ⟨row,stored,wanted,ok⟩
      have inside := mem_rowsOf.mpr ⟨stored,wanted⟩
      refine ⟨row,inside,?_⟩
      rw [(entries row inside).1] at ok
      exact Except.ok.inj ok

end

/-! ### All listings -/

/-- Every listing that takes a cursor can be read to its end. A listing of runs from the latest takes none. -/
structure ListingsPartition (repository : Repository) (tables : ArtifactTables) : Prop where
  runs : ∀ filter : RunListFilter, filter.order ≠ some .desc → ∃ listing, Listing
    (fun after limit => (listRuns repository {filter with after := after,limit := limit}).toOption)
    (fun run => ⟨run.createdAt,run.id⟩) Accepted
    (fun left right => compareTimestamped left.createdAt left.id right.createdAt right.id)
    (fun run => run ∈ repository.runs.values ∧
      (filter.projectId.all (run.projectId = ·) && filter.status.all (run.status = ·)) = true) listing
  latestFirst : ∀ filter : RunListFilter, filter.order = some .desc → filter.after.isSome →
    listRuns repository filter = .error (.other "descending run listing does not support cursors")
  events : ∀ runId, ∃ listing, Listing (fun after limit => (listEvents repository runId ⟨after,limit⟩).toOption)
    Event.sequence Accepted (fun left right => (left.sequence : Int) - right.sequence)
    (fun event => event ∈ repository.events.values ∧ decide (event.runId = runId) = true) listing
  artifacts : ∀ runId, ∃ listing, Listing (fun after limit => (listArtifacts tables runId ⟨after,limit⟩).toOption)
    (fun artifact => ⟨artifact.createdAt,artifact.id⟩) Accepted
    (fun left right => compareTimestamped left.createdAt left.id right.createdAt right.id)
    (fun artifact => artifact ∈ tables.artifacts.values ∧ decide (artifact.runId = runId) = true) listing
  artifactsByRunKey : ∀ runId keyPrefix, ∃ listing, Listing
    (fun after limit => some (listArtifactsByRunKey tables runId keyPrefix after limit)) ArtifactRecord.key (0 < ·)
    (fun left right => compareOpaqueText left.key right.key)
    (fun artifact => artifact ∈ tables.artifacts.values ∧ ofRunKey runId keyPrefix artifact = true) listing
  manifests : ∀ platform (storage : Storage), storage.tables = tables → ∀ scope artifactPrefix reading, ScopeValid scope →
    Entries platform (rowsOf tables scope.runId (keyPrefixOf scope artifactPrefix)) scope reading →
    ∃ listing, ManifestListing platform storage scope artifactPrefix listing

end AgentOS.Pages
