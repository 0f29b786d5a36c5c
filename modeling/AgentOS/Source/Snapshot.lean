import AgentOS.Artifacts
import AgentOS.Gate.Materialize
import AgentOS.Gate.Schemas

/-! Source snapshots: a repository's tree is ingested as one bundle, the bundle is
loaded when its run executes, and the tree is indexed when the run is published. -/
namespace AgentOS.Source
open Library Workflow Gate

def MAX_SOURCE_FILES : Nat := 5000
def MAX_SOURCE_FILE_BYTES : Nat := 1024 * 1024
def MAX_SOURCE_TOTAL_BYTES : Nat := 16 * 1024 * 1024
def MAX_SOURCE_BUNDLE_BYTES : Nat := 24 * 1024 * 1024

inductive EntryType where
  | blob
  | tree
  | commit
  deriving DecidableEq

inductive Mode where
  | regular
  | executable
  | symlink
  | submodule
  | directory
  deriving DecidableEq

structure GitTreeEntry where
  path : String
  mode : Mode
  type : EntryType
  sha : String
  deriving DecidableEq

structure GitTree where
  sha : String
  truncated : Bool := false
  entries : List GitTreeEntry

/-- A blob's size in bytes, and its text where the bytes are UTF-8. -/
structure GitBlob where
  size : Nat
  text : Option String

structure GitHubClient where
  repositoryId : Int
  fullName : String
  reference : String → Option String
  commit : String → String × String
  tree : String → GitTree
  blob : String → GitBlob

structure SourceBinding where
  projectId : String
  runId : String
  repositorySha : String
  baseBranch : String
  owner : String
  name : String
  repositoryId : Int

/-- What the two services take from the language: digests, the reading of JSON text,
the order of `localeCompare` and the time. -/
structure SourceEnvironment where
  sha256 : String → String
  parseJson : String → Option Json
  before : String → String → Bool
  now : Instant

def failed {α : Type} (message : String) : Except Fault α := .error (.error message)

/-! ### Ingestion -/

def unsafeSegment (segment : Segment) : Bool := segment = [] || segment = ['.'] || segment = ['.','.']

def isUnsafePath (path : String) : Bool :=
  path = "" || units path > 1024 || path.toList.head? = some '/' || path.toList.contains '\\' ||
    path.toList.contains '\x00' || (parts path).any unsafeSegment

def admitted (entry : GitTreeEntry) : Except Fault Bool :=
  if isUnsafePath entry.path then failed "source snapshot contains an unsafe path"
  else if entry.path = ".gitmodules" then failed "source snapshot contains unsupported submodule configuration"
  else if entry.mode = .symlink ∨ entry.mode = .submodule ∨ entry.type = .commit then
    failed "source snapshot contains a symlink or submodule"
  else if entry.type = .tree then .ok false
  else if entry.mode ≠ .regular ∧ entry.mode ≠ .executable then
    failed "source snapshot contains an unsupported tree entry"
  else .ok true

def blobEntries : List GitTreeEntry → Except Fault (List GitTreeEntry)
  | [] => .ok []
  | entry::entries => do
    let isFile ← admitted entry
    let rest ← blobEntries entries
    .ok (if isFile then entry::rest else rest)

def blobText (blob : GitBlob) (total : Nat) : Except Fault String :=
  if blob.size > MAX_SOURCE_FILE_BYTES then failed "source snapshot file exceeds size limit"
  else if total + blob.size > MAX_SOURCE_TOTAL_BYTES then failed "source snapshot exceeds total size limit"
  else match blob.text with
    | none => failed "source snapshot contains a binary file"
    | some text => if text.toList.contains '\x00' then failed "source snapshot contains a binary file" else .ok text

def readFiles (blob : String → GitBlob) : List String → Nat → List GitTreeEntry → Except Fault (List SourceFile)
  | _,_,[] => .ok []
  | seen,total,entry::entries =>
    if entry.path ∈ seen then failed "source snapshot contains duplicate paths"
    else do
      let content ← blobText (blob entry.sha) total
      let rest ← readFiles blob (entry.path::seen) (total + (blob entry.sha).size) entries
      .ok ({path := entry.path,executable := entry.mode = .executable,content}::rest)

def fileJson (file : SourceFile) : Json :=
  .obj [("path",.str file.path),("mode",.str (modeText file.executable)),("content",.str file.content)]

variable (binding : SourceBinding)

def bundleBody (treeSha : String) (files : List SourceFile) : Json :=
  .obj [("version",.str "source-bundle-v1"),
    ("repository",.obj [("owner",.str binding.owner),("name",.str binding.name),("repositoryId",.num binding.repositoryId)]),
    ("baseBranch",.str binding.baseBranch),("repositorySha",.str binding.repositorySha),("treeSha",.str treeSha),
    ("files",.arr (files.map fileJson))]

def sourceScope : ArtifactScope :=
  {projectId := binding.projectId,runId := binding.runId,stepId := "source"}

def bundlePut (binding : SourceBinding) (text : String) : ArtifactPutRequest where
  slot := {sourceScope binding with artifactId := "bundle",version := 1}
  bytes := text
  mediaType := "application/json"
  retentionClass := "source-bundle"

def checkRepository (client : GitHubClient) : Except Fault Unit :=
  if client.repositoryId ≠ binding.repositoryId ∨ client.fullName ≠ binding.owner ++ "/" ++ binding.name then
    failed "source snapshot repository binding mismatch"
  else if client.reference binding.baseBranch ≠ some binding.repositorySha then failed "source snapshot base SHA is stale"
  else if (client.commit binding.repositorySha).1 ≠ binding.repositorySha then
    failed "source snapshot commit binding mismatch"
  else .ok ()

def baseTree (client : GitHubClient) : GitTree :=
  client.tree (client.commit binding.repositorySha).2

section
variable (env : SourceEnvironment)

def snapshotFiles (client : GitHubClient) (tree : GitTree) : Except Fault (List SourceFile) :=
  if tree.truncated then failed "source snapshot tree is truncated"
  else if tree.entries.length > MAX_SOURCE_FILES * 2 then failed "source snapshot tree exceeds entry limit"
  else do
    let entries ← blobEntries tree.entries
    if entries.length > MAX_SOURCE_FILES then failed "source snapshot exceeds file limit"
    else readFiles client.blob [] 0 (entries.insertionSort fun left right => env.before left.path right.path)

def ensure (store : ArtifactStore) (binding : SourceBinding) (client : GitHubClient) :
    Except Fault (ArtifactMetadata × ArtifactStore) := do
  checkRepository binding client
  let tree := baseTree binding client
  let files ← snapshotFiles env client tree
  let text := canonicalJsonValue (bundleBody binding tree.sha files)
  if byteLength text > MAX_SOURCE_BUNDLE_BYTES then
    failed "source snapshot bundle exceeds managed resource size limit"
  else store.put env.sha256 (bundlePut binding text) env.now

/-! ### Loading -/

def fileSchema (raw : Json) : Option SourceFile := do
  let fields ← strictObject [
    {name := "path",check := textWhere (sized 1 1024)},
    {name := "mode",check := oneOf ["100644","100755"]},
    {name := "content",check := textWhere (sized 0 1000000)}] raw
  some {path := textAt fields "path",executable := textAt fields "mode" = "100755",content := textAt fields "content"}

def githubRepositorySchema (raw : Json) : Option (List (String × Json)) :=
  strictObject [
    {name := "owner",check := textWhere (sized 1 100)},
    {name := "name",check := textWhere (sized 1 100)},
    {name := "repositoryId",check := numberWhere fun id => 0 < id}] raw

def isRepositoryName (name : String) : Bool :=
  1 ≤ name.length && name.length ≤ 100 && name.toList.head? ≠ some '.' && !endsWith ".git" (lowerCase name) &&
    name.toList.all fun char => char.isAlphanum || char ∈ ['.','_','-']

def localRepositorySchema (raw : Json) : Option (List (String × Json)) :=
  strictObject [
    {name := "kind",check := literal (.str "local")},
    {name := "owner",check := literal (.str "local")},
    {name := "name",check := textWhere isRepositoryName}] raw

structure SourceBundle where
  repositorySha : String
  treeSha : String
  files : List SourceFile
  deriving DecidableEq

def sourceBundleSchema (raw : Json) : Option SourceBundle := do
  let fields ← strictObject [
    {name := "version",check := literal (.str "source-bundle-v1")},
    {name := "repository",check := anything},
    {name := "baseBranch",check := textWhere (sized 1 255)},
    {name := "repositorySha",check := textWhere isCommitSha},
    {name := "treeSha",check := textWhere isCommitSha},
    {name := "files",check := anything}] raw
  let _ ← (Shape.lookup fields "repository").bind fun repository =>
    (githubRepositorySchema repository).or (localRepositorySchema repository)
  let files ← (Shape.lookup fields "files").bind (listOf 0 5000 fileSchema)
  some {repositorySha := textAt fields "repositorySha",treeSha := textAt fields "treeSha",files}

def loadSource (store : ArtifactStore) (scope : ArtifactScope) (repositorySha : String) :
    Except Fault (ArtifactMetadata × SourceBundle) :=
  match store.list scope "bundle" 2 with
  | ([metadata],_) => do
    match ← store.read env.sha256 metadata (some (16 * 1024 * 1024)) with
    | none => failed "source bundle object is missing"
    | some value => match (env.parseJson value.bytes).bind sourceBundleSchema with
      | none => .error (.thrown [{}])
      | some body =>
        if body.repositorySha ≠ repositorySha then failed "source bundle repository binding mismatch"
        else .ok (metadata,body)
  | _ => failed "run must have exactly one source bundle"

end

/-! ### Publication -/

def treeIndex : OrderedMap String GitTreeEntry → List GitTreeEntry → Except Fault (OrderedMap String GitTreeEntry)
  | index,[] => .ok index
  | index,entry::entries => match normalizedPath entry.path with
    | none => failed ("Malformed repository path: " ++ quoted entry.path)
    | some key =>
      if (index.get? key).isSome then failed "Repository contains a case-insensitive path collision"
      else treeIndex (index.set key entry) entries

end AgentOS.Source
