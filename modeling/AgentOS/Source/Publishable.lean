import AgentOS.Gate.SchemaRules
import AgentOS.Source.Snapshot
import AgentOS.Library.Replay

/-! Whether a run can load and publish what was ingested for it. Ingestion, loading
and publication each have limits and a grammar of paths of their own. -/
namespace AgentOS.Source
open Library Workflow Gate Json

/-! ### Ingestion -/

theorem admitted_ok {entry : GitTreeEntry} {isFile : Bool} (ok : admitted entry = .ok isFile) :
    isUnsafePath entry.path = false ∧ isFile = decide (entry.type = .blob) := by
  unfold admitted at ok
  split at ok
  · cases ok
  rename_i safe
  split at ok
  · cases ok
  split at ok
  · cases ok
  rename_i linked
  simp only [not_or] at linked
  refine ⟨Bool.eq_false_of_not_eq_true safe,?_⟩
  split at ok
  · rename_i directory
    cases ok
    rw [directory]
    rfl
  rename_i file
  split at ok
  · cases ok
  · cases ok
    cases type : entry.type with
    | blob => rfl
    | tree => exact absurd type file
    | commit => exact absurd type linked.2.2

theorem blobEntries_ok {entries files : List GitTreeEntry} (ok : blobEntries entries = .ok files) :
    (∀ entry ∈ entries, isUnsafePath entry.path = false) ∧ files = entries.filter fun entry => entry.type = .blob := by
  induction entries generalizing files with
  | nil =>
    cases ok
    exact ⟨(fun _ impossible => nomatch impossible),rfl⟩
  | cons entry entries ih =>
    unfold blobEntries at ok
    cases first : admitted entry with
    | error fault =>
      rw [first] at ok
      cases ok
    | ok isFile =>
      cases later : blobEntries entries with
      | error fault =>
        rw [first,later] at ok
        cases ok
      | ok rest =>
        rw [first,later] at ok
        cases ok
        obtain ⟨safe,kind⟩ := admitted_ok first
        obtain ⟨allSafe,same⟩ := ih later
        refine ⟨fun other inside => ?_,?_⟩
        · rcases List.mem_cons.mp inside with rfl | inside
          · exact safe
          · exact allSafe other inside
        · rw [same,List.filter_cons,kind]

theorem blobText_ok {blob : GitBlob} {total : Nat} {content : String} (ok : blobText blob total = .ok content) :
    blob.text = some content := by
  unfold blobText failed at ok
  split at ok
  · cases ok
  split at ok
  · cases ok
  split at ok
  · cases ok
  · rename_i text same
    split at ok
    · cases ok
    · cases ok
      exact same

variable {files : List SourceFile} {entries : List GitTreeEntry} {treeSha : String}

theorem readFiles_ok {blob : String → GitBlob} {seen : List String} {total : Nat}
    (ok : readFiles blob seen total entries = .ok files) :
    List.Forall₂ (fun entry file => file.path = entry.path ∧ (blob entry.sha).text = some file.content) entries files := by
  induction entries generalizing seen total files with
  | nil =>
    cases ok
    exact .nil
  | cons entry entries ih =>
    unfold readFiles at ok
    split at ok
    · cases ok
    cases first : blobText (blob entry.sha) total with
    | error fault =>
      rw [first] at ok
      cases ok
    | ok content =>
      cases later : readFiles blob (entry.path::seen) (total + (blob entry.sha).size) entries with
      | error fault =>
        rw [first] at ok
        simp only [bind,Except.bind,later] at ok
        cases ok
      | ok rest =>
        rw [first] at ok
        simp only [bind,Except.bind,later] at ok
        cases ok
        exact .cons ⟨rfl,blobText_ok first⟩ (ih later)

theorem forall₂_left {α β : Type} {relates : α → β → Prop} {lefts : List α} {rights : List β}
    (related : List.Forall₂ relates lefts rights) : ∀ left ∈ lefts, ∃ right ∈ rights, relates left right := by
  induction related with
  | nil => exact fun _ impossible => nomatch impossible
  | cons here _ ih =>
    intro left inside
    rcases List.mem_cons.mp inside with rfl | inside
    · exact ⟨_,List.mem_cons_self,here⟩
    · obtain ⟨right,listed,relates⟩ := ih left inside
      exact ⟨right,List.mem_cons_of_mem _ listed,relates⟩

structure Snapshot (client : GitHubClient) (tree : GitTree) (files : List SourceFile) : Prop where
  number : files.length ≤ MAX_SOURCE_FILES
  paths : ∀ file ∈ files, isUnsafePath file.path = false
  texts : ∀ file ∈ files, ∃ entry ∈ tree.entries, entry.type = .blob ∧ (client.blob entry.sha).text = some file.content
  files : ∀ entry ∈ tree.entries, entry.type = .blob → ∃ file ∈ files, (client.blob entry.sha).text = some file.content

theorem snapshotFiles_ok {env : SourceEnvironment} {client : GitHubClient} {tree : GitTree}
    (ok : snapshotFiles env client tree = .ok files) : Snapshot client tree files := by
  unfold snapshotFiles at ok
  split at ok
  · cases ok
  split at ok
  · cases ok
  cases listing : blobEntries tree.entries with
  | error fault =>
    rw [listing] at ok
    cases ok
  | ok entries =>
    rw [listing] at ok
    simp only [bind,Except.bind] at ok
    split at ok
    · cases ok
    rename_i number
    obtain ⟨safe,same⟩ := blobEntries_ok listing
    have read := readFiles_ok ok
    have member : ∀ entry, entry ∈ entries.insertionSort (fun left right => env.before left.path right.path) ↔
        entry ∈ tree.entries ∧ entry.type = .blob := by
      intro entry
      rw [List.mem_insertionSort,same,List.mem_filter,decide_eq_true_eq]
    have size := read.length_eq
    rw [List.length_insertionSort] at size
    refine ⟨by omega,fun file inside => ?_,fun file inside => ?_,fun entry listed blob => ?_⟩
    · obtain ⟨entry,listed,path,_⟩ := forall₂_left read.flip file inside
      rw [path]
      exact safe entry ((member entry).mp listed).1
    · obtain ⟨entry,listed,_,text⟩ := forall₂_left read.flip file inside
      exact ⟨entry,((member entry).mp listed).1,((member entry).mp listed).2,text⟩
    · obtain ⟨file,inside,_,text⟩ := forall₂_left read entry ((member entry).mpr ⟨listed,blob⟩)
      exact ⟨file,inside,text⟩

/-! ### The bundle -/

theorem canonicalizeItems_map (items : List Json) : canonicalizeItems items = items.map canonicalize := by
  induction items with
  | nil => rfl
  | cons item items ih => rw [canonicalizeItems,ih,List.map_cons]

def canonicalFile (file : SourceFile) : Json :=
  .obj [("content",.str file.content),("mode",.str (modeText file.executable)),("path",.str file.path)]

def canonicalRepository (binding : SourceBinding) : Json :=
  .obj [("name",.str binding.name),("owner",.str binding.owner),("repositoryId",.num binding.repositoryId)]

theorem canonicalize_file (file : SourceFile) : (fileJson file).canonicalize = canonicalFile file := by
  have mode : compareCanonicalKeys "mode" "content" = false := by decide +kernel
  have content : compareCanonicalKeys "path" "content" = false := by decide +kernel
  have path : compareCanonicalKeys "path" "mode" = false := by decide +kernel
  simp [fileJson,canonicalFile,canonicalize,canonicalizeFields,List.insertionSort,List.orderedInsert,mode,content,path]

theorem canonicalize_bundle (binding : SourceBinding) (treeSha : String) (files : List SourceFile) :
    (bundleBody binding treeSha files).canonicalize =
      .obj [("baseBranch",.str binding.baseBranch),("files",.arr (files.map canonicalFile)),
        ("repository",canonicalRepository binding),("repositorySha",.str binding.repositorySha),
        ("treeSha",.str treeSha),("version",.str "source-bundle-v1")] := by
  have lower : ∀ pair ∈ [("treeSha","files"),("repositorySha","files"),("repository","baseBranch"),("repository","files"),
      ("version","baseBranch"),("version","files"),("version","repository"),("version","repositorySha"),("version","treeSha"),
      ("owner","name")], compareCanonicalKeys pair.1 pair.2 = false := by decide +kernel
  have upper : ∀ pair ∈ [("repositorySha","treeSha"),("baseBranch","files"),("repository","repositorySha"),
      ("owner","repositoryId"),("name","repositoryId")], compareCanonicalKeys pair.1 pair.2 = true := by decide +kernel
  simp only [List.forall_mem_cons,List.not_mem_nil,false_implies,implies_true,and_true] at lower upper
  simp [bundleBody,canonicalRepository,canonicalize,canonicalizeFields,canonicalizeItems_map,canonicalize_file,
    List.insertionSort,List.orderedInsert,lower,upper,Function.comp_def]

theorem fileSchema_canonical {file : SourceFile} (path : sized 1 1024 file.path = true)
    (content : sized 0 1000000 file.content = true) : fileSchema (canonicalFile file) = some file := by
  obtain ⟨_,executable,_⟩ := file
  cases executable <;>
    simp_all [fileSchema,canonicalFile,modeText,strictObject,Shape.strict,Shape.known,Shape.readAll,textWhere,oneOf,text,
      textAt,Json.string?]

theorem fileSchema_sized {file read : SourceFile} (ok : fileSchema (canonicalFile file) = some read) :
    sized 0 1000000 file.content = true := by
  unfold fileSchema canonicalFile at ok
  obtain ⟨fields,readFields,_⟩ := Option.bind_eq_some_iff.mp ok
  have content : textAt fields "content" = file.content ∧ sized 0 1000000 file.content = true :=
    textAt_same readFields (by decide) (by simp) (by simp)
  exact content.2

structure Fits (binding : SourceBinding) (treeSha : String) : Prop where
  owner : sized 1 100 binding.owner = true
  name : sized 1 100 binding.name = true
  repositoryId : isSafeInteger binding.repositoryId = true ∧ 0 < binding.repositoryId
  baseBranch : sized 1 255 binding.baseBranch = true
  repositorySha : isCommitSha binding.repositorySha = true
  treeSha : isCommitSha treeSha = true

theorem githubRepositorySchema_canonical {binding : SourceBinding} (fits : Fits binding treeSha) :
    ∃ fields, githubRepositorySchema (canonicalRepository binding) = some fields := by
  have owner := fits.owner
  have name := fits.name
  have safe := fits.repositoryId.1
  have positive := fits.repositoryId.2
  simp [githubRepositorySchema,canonicalRepository,strictObject,Shape.strict,Shape.known,Shape.readAll,textWhere,numberWhere,
    owner,name,safe,positive]

theorem githubRepositorySchema_fits {binding : SourceBinding} {fields : List (String × Json)}
    (ok : githubRepositorySchema (canonicalRepository binding) = some fields) :
    sized 1 100 binding.owner = true ∧ sized 1 100 binding.name = true ∧
      isSafeInteger binding.repositoryId = true ∧ 0 < binding.repositoryId := by
  have owner : textAt fields "owner" = binding.owner ∧ sized 1 100 binding.owner = true :=
    textAt_same ok (by decide) (by simp) (by simp)
  have name : textAt fields "name" = binding.name ∧ sized 1 100 binding.name = true :=
    textAt_same ok (by decide) (by simp) (by simp)
  obtain ⟨_,same,strictly⟩ := strictObject_eq_some.mp ok
  cases same
  have listed : {name := "repositoryId",check := numberWhere fun id => 0 < id} ∈ ([
      {name := "owner",check := textWhere (sized 1 100)},{name := "name",check := textWhere (sized 1 100)},
      {name := "repositoryId",check := numberWhere fun id => 0 < id}] : List (Shape.Field Json)) := by simp
  obtain ⟨checked,checks⟩ := @Shape.readAll_checked _ _ _ _ (Shape.strict_eq_some_iff.mp strictly).2 _ listed
    (.num binding.repositoryId) (by simp)
  change numberWhere (fun id => 0 < id) (.num binding.repositoryId) = some checked at checks
  simp only [numberWhere] at checks
  split at checks
  · rename_i allowed
    simp only [Bool.and_eq_true,decide_eq_true_eq] at allowed
    exact ⟨owner.2,name.2,allowed⟩
  · cases checks

theorem localRepositorySchema_canonical (binding : SourceBinding) : localRepositorySchema (canonicalRepository binding) = none := by
  simp [localRepositorySchema,canonicalRepository,strictObject,Shape.strict,Shape.known]

theorem mapM_isSome {α : Type} {read : Json → Option α} {items : List Json} {values : List α}
    (answered : items.mapM read = some values) : ∀ item ∈ items, ∃ value, read item = some value := by
  induction items generalizing values with
  | nil => exact fun _ impossible => nomatch impossible
  | cons first items ih =>
    rw [List.mapM_cons] at answered
    obtain ⟨value,reads,rest⟩ := Option.bind_eq_some_iff.mp answered
    obtain ⟨others,readRest,_⟩ := Option.bind_eq_some_iff.mp rest
    intro item inside
    rcases List.mem_cons.mp inside with rfl | inside
    · exact ⟨value,reads⟩
    · exact ih readRest item inside

theorem sourceBundleSchema_iff {binding : SourceBinding}
    (number : files.length ≤ 5000) (paths : ∀ file ∈ files, sized 1 1024 file.path = true) :
    (∃ body, sourceBundleSchema (bundleBody binding treeSha files).canonicalize = some body ∧
      body.repositorySha = binding.repositorySha) ↔ Fits binding treeSha ∧ ∀ file ∈ files, sized 0 1000000 file.content = true := by
  rw [canonicalize_bundle]
  constructor
  · intro answered
    obtain ⟨body,read,_⟩ := answered
    unfold sourceBundleSchema at read
    obtain ⟨fields,readFields,read⟩ := Option.bind_eq_some_iff.mp read
    obtain ⟨repository,readRepository,read⟩ := Option.bind_eq_some_iff.mp read
    obtain ⟨contents,readFiles,_⟩ := Option.bind_eq_some_iff.mp read
    have baseBranch : textAt fields "baseBranch" = binding.baseBranch ∧ sized 1 255 binding.baseBranch = true :=
      textAt_same readFields (by decide) (by simp) (by simp)
    have repositorySha : textAt fields "repositorySha" = binding.repositorySha ∧ isCommitSha binding.repositorySha = true :=
      textAt_same readFields (by decide) (by simp) (by simp)
    have tree : textAt fields "treeSha" = treeSha ∧ isCommitSha treeSha = true :=
      textAt_same readFields (by decide) (by simp) (by simp)
    obtain ⟨_,same,strictly⟩ := strictObject_eq_some.mp readFields
    cases same
    have reading := (Shape.strict_eq_some_iff.mp strictly).2
    have repositoryThere : Shape.lookup fields "repository" = some (canonicalRepository binding) :=
      @Shape.readAll_lookup _ _ _ _ (by decide) reading {name := "repository",check := anything} (by simp)
    have filesThere : Shape.lookup fields "files" = some (.arr (files.map canonicalFile)) :=
      @Shape.readAll_lookup _ _ _ _ (by decide) reading {name := "files",check := anything} (by simp)
    rw [repositoryThere,Option.bind_some,localRepositorySchema_canonical,Option.or_none] at readRepository
    rw [filesThere,Option.bind_some] at readFiles
    obtain ⟨owner,name,id⟩ := githubRepositorySchema_fits readRepository
    refine ⟨⟨owner,name,id,baseBranch.2,repositorySha.2,tree.2⟩,fun file inside => ?_⟩
    simp only [listOf] at readFiles
    split at readFiles
    · obtain ⟨_,reads⟩ := mapM_isSome readFiles _ (List.mem_map_of_mem inside)
      exact fileSchema_sized reads
    · cases readFiles
  · intro conditions
    obtain ⟨fits,contents⟩ := conditions
    obtain ⟨repository,readRepository⟩ := githubRepositorySchema_canonical fits
    have again : ∀ file ∈ files, fileSchema (canonicalFile file) = some file := fun file inside =>
      fileSchema_canonical (paths file inside) (contents file inside)
    have readFiles : listOf 0 5000 fileSchema (.arr (files.map canonicalFile)) = some files := by
      rw [listOf_json again,if_pos ⟨Nat.zero_le _,number⟩]
    simp [sourceBundleSchema,strictObject,Shape.strict,Shape.known,Shape.readAll,literal,anything,textWhere,
      fits.baseBranch,fits.repositorySha,fits.treeSha,readRepository,readFiles,textAt,Json.string?]

/-! ### Loading -/

section
variable {env : SourceEnvironment} {store after : ArtifactStore} {binding : SourceBinding} {metadata : ArtifactMetadata}
  {text : String}

/-- Nothing is stored in the source's scope yet. -/
def Unstored (store : ArtifactStore) (scope : ArtifactScope) : Prop :=
  ∀ slot artifact, store.get? slot = some artifact → slot.toArtifactScope ≠ scope ∧ artifact.toArtifactScope ≠ scope

section
variable (unstored : Unstored store (sourceScope binding))
  (ok : store.put env.sha256 (bundlePut binding text) env.now = .ok (metadata,after))
include unstored ok

theorem stored_bundle : after.list (sourceScope binding) "bundle" 2 = ([metadata],false) ∧
      ∃ artifact, after.read env.sha256 metadata (some (16 * 1024 * 1024)) = .ok (some artifact) ∧ artifact.bytes = text := by
  have free : store.get? (bundlePut binding text).slot = none := by
    cases held : store.get? (bundlePut binding text).slot with
    | none => rfl
    | some artifact => exact absurd rfl (unstored _ artifact held).1
  have others : store.values.filter (fun artifact => artifact.toArtifactScope = sourceScope binding &&
      "bundle".toList.isPrefixOf artifact.artifactId.toList) = [] := by
    rw [List.filter_eq_nil_iff]
    intro artifact inside
    obtain ⟨slot,found⟩ := (OrderedMap.mem_values _ _).mp inside
    simp [(unstored slot artifact found).2]
  unfold ArtifactStore.put at ok
  cases preparing : ArtifactStore.prepareArtifactPut env.sha256 (bundlePut binding text) env.now with
  | error fault =>
    rw [preparing] at ok
    cases ok
  | ok prepared =>
    rw [preparing] at ok
    simp only [bind,Except.bind,free] at ok
    cases ok
    obtain ⟨slot,bytes,digest,small⟩ := ArtifactStore.prepareArtifactPut_ok preparing
    have scope : prepared.toArtifactScope = sourceScope binding := congrArg ArtifactSlot.toArtifactScope slot
    have name : prepared.artifactId = "bundle" := congrArg ArtifactSlot.artifactId slot
    constructor
    · unfold ArtifactStore.list
      rw [OrderedMap.values_set_new _ free,List.filter_append,others]
      simp [scope,name]
    · refine ⟨prepared,?_,bytes⟩
      have fits : ¬ 16777216 < prepared.bytes.utf8ByteSize := by
        rw [bytes]
        exact Nat.not_lt.mpr small
      unfold ArtifactStore.read
      have kept : (some prepared).filter (fun stored => stored.digest = prepared.digest) = some prepared := by
        simp [Option.filter]
      have same : ¬ env.sha256 prepared.bytes ≠ prepared.digest := by
        rw [bytes,digest]
        exact Decidable.not_not.mpr rfl
      rw [OrderedMap.get?_set,if_pos slot,kept]
      dsimp only
      rw [if_neg (by simpa using fits),if_neg same]

theorem loadSource_iff : (∃ loaded, loadSource env after (sourceScope binding) binding.repositorySha = .ok loaded) ↔
      ∃ body, (env.parseJson text).bind sourceBundleSchema = some body ∧ body.repositorySha = binding.repositorySha := by
  obtain ⟨listed,artifact,reads,bytes⟩ := stored_bundle unstored ok
  unfold loadSource
  rw [listed]
  simp only [reads,bytes,bind,Except.bind]
  cases parsed : (env.parseJson text).bind sourceBundleSchema with
  | none => simp
  | some body =>
    dsimp only
    by_cases same : body.repositorySha = binding.repositorySha
    · rw [if_neg (Decidable.not_not.mpr same)]
      exact ⟨fun _ => ⟨body,rfl,same⟩,fun _ => ⟨_,rfl⟩⟩
    · rw [if_pos same]
      simp [failed,same]

end

end

/-! ### Publication -/

theorem treeIndex_iff {index : OrderedMap String GitTreeEntry} : (∃ indexed, treeIndex index entries = .ok indexed) ↔
      (∀ entry ∈ entries, wellFormedPath entry.path = true ∧ index.get? (lowerCase entry.path) = none) ∧
      (entries.map fun entry => lowerCase entry.path).Nodup := by
  induction entries generalizing index with
  | nil => simp [treeIndex]
  | cons entry entries ih =>
    unfold treeIndex
    cases normal : normalizedPath entry.path with
    | none =>
      have malformed : ¬ wellFormedPath entry.path = true := by
        intro formed
        rw [normalizedPath_eq_some.mpr ⟨formed,rfl⟩] at normal
        cases normal
      simp [failed,malformed]
    | some key =>
      obtain ⟨formed,rfl⟩ := normalizedPath_eq_some.mp normal
      cases taken : index.get? (lowerCase entry.path) with
      | some other => simp [failed,taken]
      | none =>
        dsimp only
        rw [if_neg (by simp [taken]),ih]
        have held : ∀ other : GitTreeEntry, (index.set (lowerCase entry.path) entry).get? (lowerCase other.path) = none ↔
            lowerCase other.path ≠ lowerCase entry.path ∧ index.get? (lowerCase other.path) = none := by
          intro other
          rw [OrderedMap.get?_set]
          split <;> simp_all
        simp only [held,List.forall_mem_cons,formed,taken,List.map_cons,List.nodup_cons,List.mem_map]
        constructor
        · intro conditions
          refine ⟨⟨⟨trivial,trivial⟩,fun other inside => ⟨(conditions.1 other inside).1,(conditions.1 other inside).2.2⟩⟩,?_,
            conditions.2⟩
          rintro ⟨other,inside,same⟩
          exact (conditions.1 other inside).2.1 same
        · intro conditions
          refine ⟨fun other inside => ⟨(conditions.1.2 other inside).1,fun same => conditions.2.1 ⟨other,inside,same⟩,
            (conditions.1.2 other inside).2⟩,conditions.2.2⟩

/-! ### From ingestion to publication -/

/-- What loading and publication ask of the tree, besides what ingestion asks. -/
structure Publishable (binding : SourceBinding) (client : GitHubClient) : Prop where
  fits : Fits binding (baseTree binding client).sha
  contents : ∀ entry ∈ (baseTree binding client).entries, entry.type = .blob → ∀ text,
    (client.blob entry.sha).text = some text → units text ≤ 1000000
  paths : ∀ entry ∈ (baseTree binding client).entries, wellFormedPath entry.path = true
  distinct : ((baseTree binding client).entries.map fun entry => lowerCase entry.path).Nodup

theorem units_pos {text : String} (written : text ≠ "") : 1 ≤ units text := by
  cases chars : text.toList with
  | nil => exact absurd (String.toList_eq_nil_iff.mp chars) written
  | cons char rest =>
    unfold units
    rw [chars,List.map_cons,List.sum_cons]
    split <;> omega

/-- What was ingested is loaded, and its tree indexed, exactly when the tree is publishable. -/
theorem ingested_source_publishable_iff {env : SourceEnvironment} {store after : ArtifactStore} {binding : SourceBinding}
    {client : GitHubClient} {metadata : ArtifactMetadata} (unstored : Unstored store (sourceScope binding))
    (readsAgain : ∀ files, snapshotFiles env client (baseTree binding client) = .ok files →
      env.parseJson (canonicalJsonValue (bundleBody binding (baseTree binding client).sha files)) =
        some (bundleBody binding (baseTree binding client).sha files).canonicalize)
    (ingested : ensure env store binding client = .ok (metadata,after)) :
    ((∃ loaded, loadSource env after (sourceScope binding) binding.repositorySha = .ok loaded) ∧
      ∃ index, treeIndex .empty (baseTree binding client).entries = .ok index) ↔ Publishable binding client := by
  unfold ensure at ingested
  cases checked : checkRepository binding client with
  | error fault =>
    rw [checked] at ingested
    cases ingested
  | ok _ =>
    cases snapshot : snapshotFiles env client (baseTree binding client) with
    | error fault =>
      simp only [checked,snapshot,bind,Except.bind] at ingested
      cases ingested
    | ok files =>
      simp only [checked,snapshot,bind,Except.bind] at ingested
      split at ingested
      · cases ingested
      obtain ⟨number,safe,texts,all⟩ := snapshotFiles_ok snapshot
      have paths : ∀ file ∈ files, sized 1 1024 file.path = true := by
        intro file inside
        have path := safe file inside
        simp only [isUnsafePath,Bool.or_eq_false_iff,decide_eq_false_iff_not] at path
        simp only [sized,Bool.and_eq_true,decide_eq_true_eq]
        exact ⟨units_pos path.1.1.1.1.1,by omega⟩
      rw [loadSource_iff unstored ingested,readsAgain files snapshot,Option.bind_some,sourceBundleSchema_iff number paths,
        treeIndex_iff]
      simp only [OrderedMap.get?_empty,and_true]
      constructor
      · rintro ⟨⟨fits,contents⟩,formed,distinct⟩
        refine ⟨fits,fun entry listed blob text same => ?_,formed,distinct⟩
        obtain ⟨file,inside,held⟩ := all entry listed blob
        rw [same,Option.some.injEq] at held
        have content := contents file inside
        simp only [sized,Bool.and_eq_true,decide_eq_true_eq] at content
        rw [held]
        exact content.2
      · intro publishable
        refine ⟨⟨publishable.fits,fun file inside => ?_⟩,publishable.paths,publishable.distinct⟩
        obtain ⟨entry,listed,blob,same⟩ := texts file inside
        simp only [sized,Bool.and_eq_true,decide_eq_true_eq]
        exact ⟨Nat.zero_le _,publishable.contents entry listed blob _ same⟩

/-! ### Two trees -/

def commitName : String := String.ofList (List.replicate 40 'c')
def treeName : String := String.ofList (List.replicate 40 'd')

def notesBinding : SourceBinding where
  projectId := "project-1"
  runId := "run-1"
  repositorySha := commitName
  baseBranch := "main"
  owner := "acme"
  name := "notes"
  repositoryId := 7

def textFile (path : String) : GitTreeEntry := {path,mode := .regular,type := .blob,sha := path}

variable (paths : List String)

def notesTree : GitTree := {sha := treeName,entries := paths.map textFile}

def notesClient (paths : List String) : GitHubClient where
  repositoryId := 7
  fullName := "acme/notes"
  reference := fun _ => some commitName
  commit := fun _ => (commitName,treeName)
  tree := fun _ => notesTree paths
  blob := fun _ => {size := 4,text := some "text"}

def notesFiles : List SourceFile := paths.map fun path => {path,executable := false,content := "text"}

def notesEnvironment (paths : List String) : SourceEnvironment where
  sha256 := id
  parseJson := fun text =>
    if text = canonicalJsonValue (bundleBody notesBinding treeName (notesFiles paths)) then
      some (bundleBody notesBinding treeName (notesFiles paths)).canonicalize
    else none
  before := fun left right => left ≤ right
  now := 0

theorem notes_read : (notesEnvironment paths).parseJson
      (canonicalJsonValue (bundleBody notesBinding (baseTree notesBinding (notesClient paths)).sha (notesFiles paths))) =
      some (bundleBody notesBinding (baseTree notesBinding (notesClient paths)).sha (notesFiles paths)).canonicalize := by
  have same : (baseTree notesBinding (notesClient paths)).sha = treeName := rfl
  rw [same]
  unfold notesEnvironment
  simp only [if_true]

def ingestedNotes : Except Fault (ArtifactMetadata × ArtifactStore) :=
  ensure (notesEnvironment paths) .empty notesBinding (notesClient paths)

theorem plain_tree_publishable : ∃ metadata after, ingestedNotes ["src/a.md","src/b.md"] = .ok (metadata,after) ∧
      (∃ loaded, loadSource (notesEnvironment ["src/a.md","src/b.md"]) after (sourceScope notesBinding) commitName = .ok loaded) ∧
      ∃ index, treeIndex .empty (notesTree ["src/a.md","src/b.md"]).entries = .ok index := by
  have unstored : Unstored .empty (sourceScope notesBinding) := fun _ _ impossible => nomatch impossible
  have snapshot : snapshotFiles (notesEnvironment ["src/a.md","src/b.md"]) (notesClient ["src/a.md","src/b.md"])
      (notesTree ["src/a.md","src/b.md"]) = .ok (notesFiles ["src/a.md","src/b.md"]) := by decide +kernel
  obtain ⟨⟨metadata,after⟩,ingested⟩ : ∃ answer, ingestedNotes ["src/a.md","src/b.md"] = .ok answer := Library.exists_ok (by decide +kernel)
  refine ⟨metadata,after,ingested,(ingested_source_publishable_iff unstored ?_ ingested).mpr ?_⟩
  · intro files same
    change snapshotFiles (notesEnvironment ["src/a.md","src/b.md"]) (notesClient ["src/a.md","src/b.md"])
      (notesTree ["src/a.md","src/b.md"]) = .ok files at same
    rw [snapshot,Except.ok.injEq] at same
    subst same
    exact notes_read _
  · refine ⟨⟨by decide +kernel,by decide +kernel,by decide +kernel,by decide +kernel,by decide +kernel,by decide +kernel⟩,?_,
      by decide +kernel,by decide +kernel⟩
    intro entry _ _ text same
    change some "text" = some text at same
    cases same
    decide

/-- A tree with `Notes.md` and `notes.md` is ingested and loaded, and refused when the
run is published, whatever the run changed. -/
theorem case_variants_unpublishable : ∃ metadata after, ingestedNotes ["Notes.md","notes.md"] = .ok (metadata,after) ∧
      (loadSource (notesEnvironment ["Notes.md","notes.md"]) after (sourceScope notesBinding) commitName).isOk = true ∧
      treeIndex .empty (notesTree ["Notes.md","notes.md"]).entries =
        .error (.error "Repository contains a case-insensitive path collision") := by
  have loaded : (ingestedNotes ["Notes.md","notes.md"]).toOption.all (fun answer =>
      (loadSource (notesEnvironment ["Notes.md","notes.md"]) answer.2 (sourceScope notesBinding) commitName).isOk) = true := by
    decide +kernel
  obtain ⟨answer,ingested⟩ : ∃ answer, ingestedNotes ["Notes.md","notes.md"] = .ok answer := Library.exists_ok (by decide +kernel)
  rw [ingested] at loaded
  exact ⟨answer.1,answer.2,ingested,loaded,by decide +kernel⟩

end AgentOS.Source
