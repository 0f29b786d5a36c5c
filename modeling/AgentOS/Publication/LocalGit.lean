import AgentOS.Publication.Publishers
import AgentOS.Publication.Policy
import AgentOS.Publication.Store

/-! The local publisher: a publication is a commit on a branch of its own in a repository on disk. -/
namespace AgentOS.Publication.LocalGit
open Library Gate Source Routine

/-! ### Git -/

structure GitCommit where
  tree : String
  parent : String
  message : String
  date : Int

structure TreeLine where
  mode : Mode
  sha : String
  name : String

/-- The names that git gives to contents, what it lists of a commit and which references it accepts. -/
structure GitObjects where
  hashObject : String → String
  mktree : List TreeLine → String
  commitTree : GitCommit → String
  lsTree : String → OrderedMap String TreeEntry
  validRef : String → Bool

variable (entries : List (List Segment × TreeEntry))

def directoryNames : List Segment :=
  (entries.filterMap fun entry => match entry.1 with
    | name::_::_ => some name
    | _ => none).eraseDups

def under (name : Segment) (entries : List (List Segment × TreeEntry)) : List (List Segment × TreeEntry) :=
  entries.filterMap fun entry => match entry.1 with
    | first::second::rest => if first = name then some (second::rest,entry.2) else none
    | _ => none

def fileLines : List TreeLine :=
  entries.filterMap fun entry => match entry.1 with
    | [name] => some ⟨entry.2.mode,entry.2.sha,String.ofList name⟩
    | _ => none

/-- A directory's tree after those of its directories, as deep as its paths go. -/
def writeTree (mktree : List TreeLine → String) : Nat → List (List Segment × TreeEntry) → Except PublisherFault String
  | 0,_ => rejected "git returned a malformed tree SHA"
  | depth+1,entries => do
    let directories ← (directoryNames entries).mapM fun name => do
      let sha ← writeTree mktree depth (under name entries)
      return ⟨.directory,sha,String.ofList name⟩
    let sha := mktree (directories ++ fileLines entries)
    if isCommitSha sha then return sha else rejected "git returned a malformed tree SHA"

def pathsOf (entries : OrderedMap String TreeEntry) : List (List Segment × TreeEntry) :=
  entries.entries.map fun entry => (parts entry.1,entry.2)

def depthOf : Nat := (entries.map fun entry => entry.1.length).foldl max 0 + 1

/-! ### The repository and the store -/

structure Desk where
  store : PublicationStore
  /-- The branches, each with its commit. -/
  refs : OrderedMap String String
  tick : Nat := 0

structure LocalGitPublisherOptions where
  verifier : AttestationVerifier
  policy : PublicationPolicySnapshot
  /-- Where the repository is, when it is contained in the workspaces' root. -/
  repository : Except PublisherFault String
  clock : Nat → Instant

abbrev Action (α : Type) := Routine Desk PublisherFault α

def now (clock : Nat → Instant) : Action Instant :=
  atomic fun desk => (.ok (clock desk.tick),{desk with tick := desk.tick + 1})

def claim (input : PublicationClaim) (at_ : Instant) : Action PublicationRecord :=
  atomic fun desk => ((desk.store.claim input at_).1,{desk with store := (desk.store.claim input at_).2})

def save (key : String) (expectedRevision : Nat) (patch : Patch) : Action PublicationRecord :=
  atomic fun desk => ((desk.store.save key expectedRevision patch).1,
    {desk with store := (desk.store.save key expectedRevision patch).2})

def get (key : String) : Action (Option PublicationRecord) := atomic fun desk => (.ok (desk.store.get key),desk)

def revParse (branch : String) : Action String :=
  atomic fun desk => match desk.refs.get? branch with
    | some sha => (.ok sha,desk)
    | none => (.error (.localGit "git command failed"),desk)

/-- `update-ref` with an empty old value: the branch is made, never moved. -/
def updateRef (objects : GitObjects) (branch sha : String) : Action Unit :=
  atomic fun desk =>
    if objects.validRef branch ∧ (desk.refs.get? branch).isNone then (.ok (),{desk with refs := desk.refs.set branch sha})
    else (.error (.localGit "git command failed"),desk)

/-! ### Publishing -/

def basename (path : String) : String := String.ofList ((parts path).getLast?.getD [])

def commitMessage (runId : String) : String := "Agent OS: " ++ runId

def collision {α : Type} (message : String) : Except PublisherFault α := .error (.publisher .collision message)

def storeConflict {α : Type} (message : String) : Except PublisherFault α := .error (.publisher .storeConflict message)

def checkPolicy (crypto : Crypto) (policy : PublicationPolicySnapshot) (manifest : PublicationManifestBody) :
    Except PublisherFault Unit :=
  match canonicalPublicationPolicyDigest crypto.sha256 policy with
  | .error fault => .error fault
  | .ok digest =>
    if digest ≠ manifest.policyDigest then rejected "publication policy digest mismatch"
    else match evaluatePublicationPolicy manifest.changes policy with
      | .ok _ => .ok ()
      | .error (.publisher code message) => .error (.publisher code message)
      | .error (.error message) => rejected message
      | .error (.localGit message) => rejected message

def claimOf (crypto : Crypto) (parsed : ParsedPublicationManifest) : Except PublisherFault PublicationClaim :=
  match publicationKey crypto parsed.manifest parsed.manifestDigest with
  | .error fault => .error fault
  | .ok key => (bindingKey crypto parsed.manifest).map fun binding =>
    {key,bindingKey := binding,projectId := parsed.manifest.projectId,runId := parsed.manifest.runId,repositoryId := 1
     manifestDigest := parsed.manifestDigest,policyDigest := parsed.manifest.policyDigest
     baseSha := parsed.manifest.expectedBase.sha,branch := branchForRun parsed.manifest.runId parsed.manifestDigest}

def blobShasOf (objects : GitObjects) (changes : List Change) : Except PublisherFault (List (String × String)) :=
  (changes.filterMap fun change => match change with
    | .write _ path _ content => some (path,objects.hashObject content)
    | .delete _ => none).mapM fun blob =>
      if isCommitSha blob.2 then .ok blob else rejected "git returned a malformed blob SHA"

def newTreeOf (objects : GitObjects) (manifest : PublicationManifestBody) : Except PublisherFault String := do
  let entries ← applyChanges (objects.lsTree manifest.expectedBase.sha) manifest.changes
    (blobsOf objects.hashObject manifest.changes)
  writeTree objects.mktree (depthOf (pathsOf entries)) (pathsOf entries)

def commitOf (manifest : PublicationManifestBody) (tree : String) (issuedAt : Instant) : GitCommit where
  tree := tree
  parent := manifest.expectedBase.sha
  message := commitMessage manifest.runId
  date := issuedAt / 1000

structure Contents where
  blobShas : List (String × String)
  treeSha : String
  commitSha : String

def contentsOf (objects : GitObjects) (parsed : ParsedPublicationManifest) : Except PublisherFault Contents := do
  let blobShas ← blobShasOf objects parsed.manifest.changes
  let treeSha ← newTreeOf objects parsed.manifest
  let commitSha := objects.commitTree (commitOf parsed.manifest treeSha parsed.authorization.issuedAt)
  if isCommitSha commitSha then return {blobShas,treeSha,commitSha}
  else rejected "git returned a malformed commit SHA"

section
variable (crypto : Crypto) (objects : GitObjects) (options : LocalGitPublisherOptions)

def checkpoint (key : String) (record : PublicationRecord) (patch : Patch) : Action PublicationRecord :=
  if phaseAtLeast record.phase patch.phase then pure record
  else do
    let at_ ← now options.clock
    save key record.revision {patch with updatedAt := at_}

def bindCommit (key : String) (record : PublicationRecord) (commitSha : String) : Action PublicationRecord :=
  if phaseAtLeast record.phase .commitCreated then
    match record.commitSha with
    | none => settle (storeConflict "Durable commit checkpoint is missing")
    | some recorded =>
      if recorded = commitSha then pure record else settle (collision "Publication commit binding changed")
  else checkpoint options key record {phase := .commitCreated,commitSha := some commitSha,updatedAt := 0}

def createBranch (branch commitSha : String) : Action Unit := do
  match ← outcome (updateRef objects branch commitSha) with
  | .ok _ => pure ()
  | .error fault =>
    match ← outcome (revParse branch) with
    | .error _ => settle (.error fault)
    | .ok existing => if existing = commitSha then pure () else settle (collision "Publication branch already exists")

def isStoreConflict : PublisherFault → Bool
  | .publisher .storeConflict _ => true
  | _ => false

def saveReconcilingConflicts (key : String) (expectedRevision : Nat) (branch commitSha : String) (patch : Patch) :
    Action PublicationRecord := do
  match ← outcome (save key expectedRevision patch) with
  | .ok saved => pure saved
  | .error fault =>
    if isStoreConflict fault then do
      let current ← get key
      let refSha ← outcome (revParse branch)
      match current,refSha with
      | some current,.ok refSha =>
        if refSha = commitSha ∧ current.commitSha = some commitSha ∧ phaseAtLeast current.phase patch.phase then pure current
        else settle (.error fault)
      | _,_ => settle (.error fault)
    else settle (.error fault)

def resultAt (repo branch commitSha : String) : LocalPublicationResult where
  branch := branch
  commitSha := commitSha
  repositoryUrl := "file://" ++ repo

def completed (record : PublicationRecord) : Except PublisherFault LocalPublicationResult :=
  match record.commitSha with
  | none => storeConflict "Completed publication record is malformed"
  | some commitSha =>
    if isCommitSha commitSha then options.repository.map fun repo => resultAt repo record.branch commitSha
    else storeConflict "Completed publication record is malformed"

def repositoryOf (manifest : PublicationManifestBody) : Except PublisherFault String :=
  match options.repository with
  | .error fault => .error fault
  | .ok repo =>
    if .localGit (basename repo) = manifest.repository then .ok repo
    else rejected "Local repository name does not match the manifest"

def writeOut (key : String) (record : PublicationRecord) (repo branch : String) (contents : Contents) : Action LocalPublicationResult := do
  let record ← checkpoint options key record {phase := .blobsCreated,blobShas := some contents.blobShas,updatedAt := 0}
  let record ← checkpoint options key record {phase := .treeCreated,treeSha := some contents.treeSha,updatedAt := 0}
  let record ← bindCommit options key record contents.commitSha
  createBranch objects branch contents.commitSha
  let refAt ← now options.clock
  let _ ← saveReconcilingConflicts key record.revision branch contents.commitSha
    {phase := .refCreated,commitSha := some contents.commitSha,updatedAt := refAt}
  pure (resultAt repo branch contents.commitSha)

def unfinished (parsed : ParsedPublicationManifest) (key : String) (record : PublicationRecord) : Action LocalPublicationResult := do
  let repo ← settle (repositoryOf options parsed.manifest)
  let base ← revParse parsed.manifest.expectedBase.branch
  if base = parsed.manifest.expectedBase.sha then do
    let contents ← settle (contentsOf objects parsed)
    writeOut objects options key record repo (branchForRun parsed.manifest.runId parsed.manifestDigest) contents
  else settle (rejected "Publication base changed")

def execute (input : PublicationInput) : Action LocalPublicationResult := do
  let at_ ← now options.clock
  let parsed ← settle (prepared crypto options.verifier input at_)
  settle (checkPolicy crypto options.policy parsed.manifest)
  let claimed ← settle (claimOf crypto parsed)
  let claimedAt ← now options.clock
  let record ← claim claimed claimedAt
  if phaseAtLeast record.phase .refCreated then settle (completed options record)
  else unfinished objects options parsed claimed.key record

end

end AgentOS.Publication.LocalGit
