import AgentOS.Publication.Publishers
import AgentOS.Publication.Policy
import AgentOS.Publication.Store

/-! The GitHub publisher: a publication is a commit, a branch that holds it and a draft pull request.
Any call may fail before or after it took effect, and a publication is taken up from its record. -/
namespace AgentOS.Publication.GitHub
open Library Gate Source Routine

/-! ### GitHub -/

structure RepositoryIdentity where
  number : Nat
  fullName : String
  defaultBranch : String

structure RemoteCommit where
  treeSha : String
  parents : List String
  message : String

structure PullRequest where
  number : Nat
  url : String
  draft : Bool
  opened : Bool
  title : String
  head : String
  headSha : String
  base : String
  baseSha : String
  headRepositoryId : Nat
  baseRepositoryId : Nat
  body : String

structure CommitInput where
  message : String
  tree : String
  parents : List String
  date : Instant

/-- The names that GitHub gives to contents and to pull requests, and the trees behind them. -/
structure GitHubNames where
  blob : String → String
  tree : String → List (String × Option TreeEntry) → String
  commit : CommitInput → String
  url : Nat → String
  listing : String → GitTree

structure Remote where
  repository : RepositoryIdentity
  refs : OrderedMap String String
  commits : OrderedMap String RemoteCommit
  pulls : List PullRequest
  nextNumber : Nat
  /-- The branches that were made. -/
  madeRefs : List String
  /-- The pull requests that were made, each by its head. -/
  madePulls : List String

def Remote.openPulls (remote : Remote) (head base : String) : List PullRequest :=
  remote.pulls.filter fun pull => pull.opened && pull.head = head && pull.base = base

structure Cloud where
  store : PublicationStore
  remote : Remote
  tick : Nat := 0

def Cloud.ticked (cloud : Cloud) : Cloud := {cloud with tick := cloud.tick + 1}

inductive Outage where
  | none
  | refused
  | lost

structure Environment where
  selectedRepositories : List PublicationRepository
  verifier : AttestationVerifier
  names : GitHubNames
  clock : Nat → Instant
  outage : Nat → Outage
  policy : Nat → PublicationPolicySnapshot
  cancelRequested : Nat → Bool

abbrev Action (α : Type) := Routine Cloud PublisherFault α

def unavailable : PublisherFault := .publisher .unavailable "GitHub operation failed"

section
variable (crypto : Crypto) (env : Environment)

def now : Action Instant := atomic fun cloud => (.ok (env.clock cloud.tick),cloud.ticked)

def call {α : Type} (step : Cloud → Except PublisherFault α × Cloud) : Action α :=
  atomic fun cloud => match env.outage cloud.tick with
    | .none => step cloud.ticked
    | .refused => (.error unavailable,cloud.ticked)
    | .lost => (.error unavailable,(step cloud.ticked).2)

def ask {α : Type} (answer : Cloud → Except PublisherFault α) : Action α := call env fun cloud => (answer cloud,cloud)

/-! ### The store's calls -/

def claim (input : PublicationClaim) (at_ : Instant) : Action PublicationRecord :=
  call env fun cloud => ((cloud.store.claim input at_).1,{cloud with store := (cloud.store.claim input at_).2})

def save (key : String) (expectedRevision : Nat) (patch : Patch) : Action PublicationRecord :=
  call env fun cloud => ((cloud.store.save key expectedRevision patch).1,
    {cloud with store := (cloud.store.save key expectedRevision patch).2})

def get (key : String) : Action (Option PublicationRecord) := ask env fun cloud => .ok (cloud.store.get key)

/-! ### The client's calls -/

def getRepository : Action RepositoryIdentity := ask env fun cloud => .ok cloud.remote.repository

def getReference (branch : String) : Action (Option String) := ask env fun cloud => .ok (cloud.remote.refs.get? branch)

def getCommit (sha : String) : Action RemoteCommit :=
  ask env fun cloud => match cloud.remote.commits.get? sha with
    | some commit => .ok commit
    | none => .error unavailable

def getTree (sha : String) : Action GitTree := ask env fun _ => .ok (env.names.listing sha)

def createBlob (content : String) : Action String := ask env fun _ => .ok (env.names.blob content)

def createTree (baseTree : String) (entries : List (String × Option TreeEntry)) : Action String :=
  ask env fun _ => .ok (env.names.tree baseTree entries)

def createCommit (input : CommitInput) : Action String :=
  call env fun cloud => (.ok (env.names.commit input),{cloud with remote := {cloud.remote with
    commits := cloud.remote.commits.set (env.names.commit input) ⟨input.tree,input.parents,input.message⟩}})

def createReference (branch sha : String) : Action Unit :=
  call env fun cloud =>
    if (cloud.remote.refs.get? branch).isSome then (.error unavailable,cloud)
    else (.ok (),{cloud with remote := {cloud.remote with
      refs := cloud.remote.refs.set branch sha,madeRefs := branch::cloud.remote.madeRefs}})

def listOpenPullRequests (head base : String) : Action (List PullRequest) :=
  ask env fun cloud =>
    if (cloud.remote.openPulls head base).all PullRequest.draft then .ok (cloud.remote.openPulls head base)
    else .error unavailable

def Remote.newPull (remote : Remote) (title head headSha base baseSha body : String) : PullRequest where
  number := remote.nextNumber
  url := env.names.url remote.nextNumber
  draft := true
  opened := true
  title := title
  head := head
  headSha := headSha
  base := base
  baseSha := baseSha
  headRepositoryId := remote.repository.number
  baseRepositoryId := remote.repository.number
  body := body

/-- A second open pull request for one head and base is refused, and one of missing branches. -/
def createDraftPullRequest (title head base body : String) : Action PullRequest :=
  call env fun cloud => match cloud.remote.refs.get? head,cloud.remote.refs.get? base with
    | some headSha,some baseSha =>
      if (cloud.remote.openPulls head base).isEmpty then
        let pull := cloud.remote.newPull env title head headSha base baseSha body
        (.ok pull,{cloud with remote := {cloud.remote with
          pulls := cloud.remote.pulls ++ [pull],nextNumber := cloud.remote.nextNumber + 1
          madePulls := head::cloud.remote.madePulls}})
      else (.error unavailable,cloud)
    | _,_ => (.error unavailable,cloud)

/-! ### Names -/

def slugChar (char : Char) : Bool := char.isLower || char.isDigit || char = '.' || char = '_' || char = '-'

def edgeChar (char : Char) : Bool := char = '.' || char = '-'

def slug (runId : String) : String :=
  let dashed := ((runId.toList.map Char.toLower).splitBy fun left right => slugChar left == slugChar right).flatMap
    fun group => if group.all slugChar then group else ['-']
  String.ofList ((((dashed.dropWhile edgeChar).reverse.dropWhile edgeChar).reverse).take 80)

def branchForRun (runId : String) : String :=
  "agentos/" ++ (if slug runId = "" then "run" else slug runId) ++ "-" ++ String.ofList ((crypto.sha256 runId).toList.take 8)

def commitMessage (runId manifestDigest baseSha : String) : String :=
  "Agent OS run " ++ runId ++ "\n\nAgentOS-Run: " ++ runId ++ "\nAgentOS-Manifest: " ++ manifestDigest ++ "\nAgentOS-Base: " ++ baseSha

def prMarker (runId manifestDigest baseSha : String) : String :=
  "<!-- agentos:run=" ++ runId ++ ";manifest=" ++ manifestDigest ++ ";base=" ++ baseSha ++ " -->"

def prTitle (runId : String) : String := "Agent OS: " ++ runId

def prBody (marker : String) : String := marker ++ "\n\nAutomated draft. Review and merge manually."

/-! ### Checks -/

def collision {α : Type} (message : String) : Except PublisherFault α := .error (.publisher .collision message)

def storeConflict {α : Type} (message : String) : Except PublisherFault α := .error (.publisher .storeConflict message)

def ensure (condition : Prop) [Decidable condition] (otherwise : Except PublisherFault Unit) : Action Unit :=
  if condition then pure () else settle otherwise

def validateSha (value label : String) : Except PublisherFault String :=
  if isCommitSha value then .ok value else rejected ("GitHub returned a malformed " ++ label)

def storedSha (value : Option String) (label : String) : Except PublisherFault String :=
  match value with
  | none => storeConflict ("Durable " ++ label ++ " checkpoint is missing")
  | some sha => validateSha sha label

def writtenPaths (changes : List Change) : List String :=
  changes.filterMap fun change => match change with
    | .write _ path _ _ => some path
    | .delete _ => none

def storedBlobShas (value : Option (List (String × String))) (changes : List Change) : Except PublisherFault (List (String × String)) :=
  match value with
  | none => storeConflict "Durable blob checkpoint does not match the manifest"
  | some shas =>
    if (writtenPaths changes).isPerm (shas.map Prod.fst) then
      if shas.all fun entry => isCommitSha entry.2 then .ok shas else rejected "GitHub returned a malformed blob SHA"
    else storeConflict "Durable blob checkpoint does not match the manifest"

def ownerName : PublicationRepository → String × Nat
  | .github owner name _ repositoryId => (owner ++ "/" ++ name,repositoryId)
  | .localGit _ => ("",0)

def validateRepository (actual : RepositoryIdentity) (expected : PublicationRepository) (expectedBranch : String) :
    Except PublisherFault Unit :=
  if actual.number ≠ (ownerName expected).2 ∨ lowerCase actual.fullName ≠ lowerCase (ownerName expected).1 ∨
      actual.defaultBranch ≠ expectedBranch then rejected "GitHub repository identity or default branch changed"
  else .ok ()

def ownedCommit (commit : RemoteCommit) (message treeSha baseSha : String) : Bool :=
  commit.message = message && commit.treeSha = treeSha && commit.parents = [baseSha]

structure Target where
  manifest : PublicationManifestBody
  manifestDigest : String
  claim : PublicationClaim

namespace Target

section
variable (target : Target)

def base : String := target.manifest.expectedBase.branch

def baseSha : String := target.manifest.expectedBase.sha

def branch : String := target.claim.branch

def key : String := target.claim.key

def message : String :=
  commitMessage target.manifest.runId target.manifestDigest target.baseSha

def marker : String :=
  prMarker target.manifest.runId target.manifestDigest target.baseSha

end

end Target

def ownedPullRequest (target : Target) (pull : PullRequest) (commitSha : String) : Bool :=
  let repositoryId := (ownerName target.manifest.repository).2
  pull.draft && pull.opened && pull.title = prTitle target.manifest.runId && pull.head = target.branch &&
    pull.headSha = commitSha && pull.base = target.base && pull.baseSha = target.baseSha &&
    pull.headRepositoryId = repositoryId && pull.baseRepositoryId = repositoryId &&
    pull.body = prBody target.marker && startsWith target.marker pull.body

variable (manifest : PublicationManifestBody)

/-- The resolved policy, where it is the manifest's and lets the changes pass. -/
def resolvedPolicy (resolved : PublicationPolicySnapshot) : Except PublisherFault PublicationPolicySnapshot :=
  match normalizePublicationPolicySnapshot resolved with
  | .error _ => rejected "Resolved publication policy is invalid"
  | .ok policy =>
    match canonicalPublicationPolicyDigest crypto.sha256 policy with
    | .error _ => rejected "Resolved publication policy is invalid"
    | .ok digest =>
      if digest ≠ manifest.policyDigest then rejected "Resolved publication policy digest does not match"
      else match evaluatePublicationPolicy manifest.changes policy with
        | .error _ => rejected "Resolved publication policy is invalid"
        | .ok _ => .ok policy

def claimOf (manifestDigest : String) : Except PublisherFault PublicationClaim :=
  match publicationKey crypto manifest manifestDigest with
  | .error fault => .error fault
  | .ok key => (bindingKey crypto manifest).map fun binding =>
    {key,bindingKey := binding,projectId := manifest.projectId,runId := manifest.runId
     repositoryId := (ownerName manifest.repository).2,manifestDigest,policyDigest := manifest.policyDigest
     baseSha := manifest.expectedBase.sha,branch := branchForRun crypto manifest.runId}

/-! ### Cancelling -/

def cancelledFault {α : Type} : Except PublisherFault α := .error (.publisher .cancelled "Publication was cancelled")

def pullPatch (pull : Option PullRequest) (phase : PublicationPhase) : Patch :=
  {phase,pullRequest := pull.map fun pull => (pull.number,pull.url),updatedAt := 0}

def checkpoint (key : String) (revision : Nat) (patch : Patch) : Action PublicationRecord := do
  let at_ ← now env
  save env key revision {patch with updatedAt := at_}

section
variable (target : Target)

def cancelledMeanwhile (current : PublicationRecord) (pull : Option PullRequest) : Action Unit :=
  match pull with
  | none => settle cancelledFault
  | some pull =>
    if current.pullRequestNumber.isSome ∧ (current.pullRequestNumber ≠ some pull.number ∨
        current.pullRequestUrl ≠ some pull.url ∨ current.draft = false) then
      settle (collision "Cancelled publication PR binding changed")
    else if current.pullRequestNumber = none then do
      let _ ← checkpoint env target.key current.revision (pullPatch (some pull) .cancelled)
      settle cancelledFault
    else settle cancelledFault

def cancelWhenAsked (record : PublicationRecord) (succeeded : Bool) (pull : Option PullRequest) : Action Unit := do
  let asked ← ask env fun cloud => .ok (env.cancelRequested cloud.tick)
  if asked then
    if succeeded then settle (collision "Completed publication cannot be cancelled")
    else do
      let _ ← checkpoint env target.key record.revision (pullPatch pull .cancelled)
      settle cancelledFault
  else pure ()

def cancelIfRequested (record : PublicationRecord) (pull : Option PullRequest) : Action Unit := do
  match ← get env target.key with
  | some current =>
    if current.phase = .cancelled then cancelledMeanwhile env target current pull
    else cancelWhenAsked env target current (current.phase = .succeeded) pull
  | none => cancelWhenAsked env target record false pull

/-! ### A publication that succeeded -/

def ownsOnly (pulls : List PullRequest) (number : Nat) (url commitSha : String) : Bool :=
  match pulls with
  | [pull] => pull.number = number && pull.url = url && ownedPullRequest target pull commitSha
  | _ => false

def confirm (treeSha commitSha : String) (number : Nat) (url : String) : Action PublicationResult := do
  let remoteRef ← getReference env target.branch
  ensure (remoteRef = some commitSha) (collision "Completed publication branch binding changed")
  let remoteCommit ← getCommit env commitSha
  ensure (ownedCommit remoteCommit target.message treeSha target.baseSha)
    (collision "Completed publication commit binding changed")
  let pulls ← listOpenPullRequests env target.branch target.base
  let refAfter ← getReference env target.branch
  ensure (refAfter = some commitSha ∧ ownsOnly target pulls number url commitSha)
    (collision "Completed draft pull request binding changed")
  pure ⟨target.branch,commitSha,number,url⟩

def completed (record : PublicationRecord) : Action PublicationResult :=
  match record.treeSha,record.commitSha,record.pullRequestNumber,record.pullRequestUrl,record.draft with
  | some treeSha,some commitSha,some number,some url,true => confirm env target treeSha commitSha number url
  | _,_,_,_,_ => settle (storeConflict "Completed publication record is malformed")

end

/-! ### The commit -/

def authorize (parsed : ParsedPublicationManifest) : Action Unit := do
  let at_ ← now env
  settle (verifyAuthorization crypto parsed env.verifier at_ .githubPublisher)

def baseTree (target : Target) (policy : PublicationPolicySnapshot) : Action (String × OrderedMap String GitTreeEntry) := do
  let baseCommit ← getCommit env target.baseSha
  let treeSha ← settle (validateSha baseCommit.treeSha "base tree SHA")
  let tree ← getTree env treeSha
  ensure (tree.sha = treeSha) (rejected "GitHub returned a mismatched base tree")
  ensure (tree.truncated = false) (rejected "Repository tree response was truncated")
  let index ← settle (validateChangesAgainstTree target.manifest.changes tree.entries policy.allowedModes)
  pure (treeSha,index)

def createBlobs (parsed : ParsedPublicationManifest) : List Change → Action (List (String × String))
  | [] => pure []
  | .delete _::changes => createBlobs parsed changes
  | .write _ path _ content::changes => do
    authorize crypto env parsed
    let answered ← createBlob env content
    let sha ← settle (validateSha answered "blob SHA")
    let rest ← createBlobs parsed changes
    pure ((path,sha)::rest)

def blobsPhase (target : Target) (parsed : ParsedPublicationManifest) (record : PublicationRecord) :
    Action (PublicationRecord × List (String × String)) :=
  if phaseAtLeast record.phase .blobsCreated then do
    let shas ← settle (storedBlobShas record.blobShas target.manifest.changes)
    pure (record,shas)
  else do
    let shas ← createBlobs crypto env parsed target.manifest.changes
    let record ← checkpoint env target.key record.revision {phase := .blobsCreated,blobShas := some shas,updatedAt := 0}
    pure (record,shas)

def treeEntries (existing : OrderedMap String GitTreeEntry) (shas : List (String × String)) (changes : List Change) :
    Except PublisherFault (List (String × Option TreeEntry)) :=
  if changes.all fun change => match change with
      | .delete path => (existing.get? (lowerCase path)).isSome
      | .write _ _ _ _ => true then
    .ok (requestEntries (fun path => shas.lookup path) changes)
  else rejected "Delete target disappeared"

section
variable (target : Target) (parsed : ParsedPublicationManifest) (record : PublicationRecord)

def treePhase (shas : List (String × String))
    (base : Option (String × OrderedMap String GitTreeEntry)) : Action (PublicationRecord × String) :=
  if phaseAtLeast record.phase .treeCreated then do
    let treeSha ← settle (storedSha record.treeSha "tree SHA")
    pure (record,treeSha)
  else match base with
    | none => settle (storeConflict "Base tree checkpoint is unavailable")
    | some (baseTreeSha,existing) => do
      let entries ← settle (treeEntries existing shas target.manifest.changes)
      authorize crypto env parsed
      let created ← createTree env baseTreeSha entries
      let treeSha ← settle (validateSha created "created tree SHA")
      let record ← checkpoint env target.key record.revision {phase := .treeCreated,treeSha := some treeSha,updatedAt := 0}
      pure (record,treeSha)

def commitPhase (treeSha : String) : Action (PublicationRecord × String) :=
  if phaseAtLeast record.phase .commitCreated then do
    let commitSha ← settle (storedSha record.commitSha "commit SHA")
    pure (record,commitSha)
  else do
    authorize crypto env parsed
    let created ← createCommit env {message := target.message,tree := treeSha,parents := [target.baseSha]
                                    date := parsed.authorization.issuedAt}
    let commitSha ← settle (validateSha created "created commit SHA")
    let record ← checkpoint env target.key record.revision {phase := .commitCreated,commitSha := some commitSha,updatedAt := 0}
    pure (record,commitSha)

end

/-! ### The branch -/

def ownedReference : Except PublisherFault Unit := collision "Publication branch is owned by a different commit"

def makeReference (target : Target) (parsed : ParsedPublicationManifest) (commitSha : String) : Action Unit := do
  let attempt : Action Unit := do
    authorize crypto env parsed
    createReference env target.branch commitSha
  match ← outcome attempt with
  | .ok _ => pure ()
  | .error fault =>
    match ← getReference env target.branch with
    | none => settle (.error fault)
    | some sha => ensure (sha = commitSha) ownedReference

def referencePhase (target : Target) (parsed : ParsedPublicationManifest) (record : PublicationRecord) (commitSha : String) :
    Action Unit :=
  if phaseAtLeast record.phase .refCreated then pure ()
  else do
    ask env fun _ => .ok ()
    cancelIfRequested env target record none
    let beforeRepository ← getRepository env
    settle (validateRepository beforeRepository target.manifest.repository target.base)
    let beforeBase ← getReference env target.base
    match ← getReference env target.branch with
    | none => do
      ensure (beforeBase = some target.baseSha) (rejected "Publication base changed before reference creation")
      makeReference crypto env target parsed commitSha
    | some sha => ensure (sha = commitSha) ownedReference
    let afterRepository ← getRepository env
    settle (validateRepository afterRepository target.manifest.repository target.base)

def referenceChecks (target : Target) (record : PublicationRecord) (treeSha commitSha : String) : Action PublicationRecord := do
  let afterRef ← getReference env target.branch
  ensure (afterRef = some commitSha) (collision "Publication branch binding changed")
  let remoteCommit ← getCommit env commitSha
  ensure (ownedCommit remoteCommit target.message treeSha target.baseSha)
    (collision "Publication commit does not have the trusted binding")
  if phaseAtLeast record.phase .refCreated then pure record
  else checkpoint env target.key record.revision {phase := .refCreated,commitSha := some commitSha,updatedAt := 0}

/-- The base branch is still at the manifest's commit, unless the pull request is on record. -/
def baseUnmoved (target : Target) (record : PublicationRecord) (message : String) : Action Unit :=
  if phaseAtLeast record.phase .prCreated then pure ()
  else do
    let current ← getReference env target.base
    ensure (current = some target.baseSha) (rejected message)

/-! ### The pull request -/

def onlyPull (pulls : List PullRequest) : Action (Option PullRequest) := do
  ensure (pulls.length ≤ 1) (collision "Multiple pull requests claim the publication branch")
  pure pulls.head?

section
variable (target : Target)

def makePull (parsed : ParsedPublicationManifest) : Action PullRequest := do
  let attempt : Action PullRequest := do
    authorize crypto env parsed
    createDraftPullRequest env (prTitle target.manifest.runId) target.branch target.base (prBody target.marker)
  match ← outcome attempt with
  | .ok pull => pure pull
  | .error fault =>
    let pulls ← listOpenPullRequests env target.branch target.base
    match ← onlyPull pulls with
    | some pull => pure pull
    | none => settle (.error fault)

def pullPhase (parsed : ParsedPublicationManifest) (record : PublicationRecord) (commitSha : String) : Action PullRequest := do
  let pulls ← listOpenPullRequests env target.branch target.base
  match ← onlyPull pulls with
  | some pull => pure pull
  | none => do
    ensure (phaseAtLeast record.phase .prCreated = false) (collision "Durable pull request is no longer open")
    let beforeBase ← getReference env target.base
    ensure (beforeBase = some target.baseSha) (rejected "Publication base changed before pull request creation")
    let beforeRef ← getReference env target.branch
    ensure (beforeRef = some commitSha) (collision "Publication branch changed before pull request creation")
    cancelIfRequested env target record none
    makePull crypto env target parsed

def bindPull (record : PublicationRecord) (commitSha : String) (pull : PullRequest) : Action PublicationRecord :=
  if phaseAtLeast record.phase .prCreated then do
    ensure (record.pullRequestNumber = some pull.number ∧ record.pullRequestUrl = some pull.url ∧ record.draft = true)
      (collision "Durable pull request binding changed")
    pure record
  else do
    cancelIfRequested env target record (some pull)
    let checkpointBase ← getReference env target.base
    ensure (checkpointBase = some target.baseSha) (rejected "Publication base changed before pull request checkpoint")
    let checkpointRef ← getReference env target.branch
    ensure (checkpointRef = some commitSha) (collision "Publication branch changed before pull request checkpoint")
    checkpoint env target.key record.revision (pullPatch (some pull) .prCreated)

def finish (parsed : ParsedPublicationManifest) (record : PublicationRecord) (commitSha : String) : Action PublicationResult := do
  baseUnmoved env target record "Publication base changed after reference creation"
  cancelIfRequested env target record none
  let pull ← pullPhase crypto env target parsed record commitSha
  baseUnmoved env target record "Publication base changed after pull request response"
  let refAfter ← getReference env target.branch
  ensure (refAfter = some commitSha) (collision "Publication branch changed after pull request response")
  ensure (ownedPullRequest target pull commitSha) (collision "Pull request is not owned by this publication")
  cancelIfRequested env target record (some pull)
  let record ← bindPull env target record commitSha pull
  cancelIfRequested env target record (some pull)
  let _ ← checkpoint env target.key record.revision {phase := .succeeded,updatedAt := 0}
  pure ⟨target.branch,commitSha,pull.number,pull.url⟩

/-! ### Publishing -/

def writeOut (parsed : ParsedPublicationManifest) (policy : PublicationPolicySnapshot)
    (record : PublicationRecord) : Action PublicationResult := do
  let base ← if phaseAtLeast record.phase .treeCreated then pure none else some <$> baseTree env target policy
  let (record,shas) ← blobsPhase crypto env target parsed record
  let (record,treeSha) ← treePhase crypto env target parsed record shas base
  let (record,commitSha) ← commitPhase crypto env target parsed record treeSha
  referencePhase crypto env target parsed record commitSha
  let record ← referenceChecks env target record treeSha commitSha
  finish crypto env target parsed record commitSha

def publishWith (parsed : ParsedPublicationManifest) (policy : PublicationPolicySnapshot)
    (record : PublicationRecord) : Action PublicationResult := do
  ask env fun _ => .ok ()
  let repository ← getRepository env
  settle (validateRepository repository target.manifest.repository target.base)
  let baseRef ← getReference env target.base
  if record.phase = .succeeded then completed env target record
  else do
    ensure (phaseAtLeast record.phase .prCreated = true ∨ baseRef = some target.baseSha)
      (rejected "Publication base SHA is stale")
    writeOut crypto env target parsed policy record

end

def resolvePolicy : Action PublicationPolicySnapshot := do
  match ← outcome (ask env fun cloud => .ok (env.policy cloud.tick)) with
  | .ok resolved => settle (resolvedPolicy crypto manifest resolved)
  | .error _ => settle (rejected "Resolved publication policy is invalid")

def execute (input : PublicationInput) : Action PublicationResult := do
  let at_ ← now env
  let parsed ← settle (prepared crypto env.selectedRepositories env.verifier input at_)
  let policy ← resolvePolicy crypto env parsed.manifest
  let claimed ← settle (claimOf crypto parsed.manifest parsed.manifestDigest)
  let claimedAt ← now env
  let record ← claim env claimed claimedAt
  ensure (record.phase ≠ .cancelled) cancelledFault
  publishWith crypto env ⟨parsed.manifest,parsed.manifestDigest,claimed⟩ parsed policy record

end

end AgentOS.Publication.GitHub
