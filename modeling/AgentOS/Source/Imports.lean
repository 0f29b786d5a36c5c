import AgentOS.Instants

/-! Sources of projects: what a project is imported from, kept under the project, under the key of the source and under the id of its
repository, with the requests that were answered. -/
namespace AgentOS.Imports
open Library
open OrderedMap (get?_set)

structure Project where
  id : String
  name : String
  repository : Option String := none
  createdAt : String
  updatedAt : String
  deriving DecidableEq

structure GitHubRepository where
  repositoryUrl : String
  owner : String
  name : String
  repositoryId : Int
  readerInstallationId : Int
  publisherInstallationId : Option Int := none
  deriving DecidableEq

inductive SourceKind where
  | github (repository : GitHubRepository)
  | local_ (localPath : String)
  deriving DecidableEq

structure ProjectSource where
  projectId : String
  sourceKey : String
  defaultBranch : String
  createdAt : String
  updatedAt : String
  kind : SourceKind
  deriving DecidableEq

def ProjectSource.repositoryId? (source : ProjectSource) : Option Int :=
  match source.kind with
  | .github repository => some repository.repositoryId
  | .local_ _ => none

structure ProjectSourceImportRequest where
  idempotencyKey : String
  fingerprint : String

structure ProjectSourceImportResult where
  project : Project
  source : ProjectSource
  created : Bool
  deriving DecidableEq

structure AnsweredRequest where
  fingerprint : String
  sourceKey : String
  projectId : String
  deriving DecidableEq

structure SourceTables where
  projects : OrderedMap String Project := .empty
  projectSources : OrderedMap String ProjectSource := .empty
  projectSourceKeys : OrderedMap String String := .empty
  githubRepositoryIds : OrderedMap Int String := .empty
  projectSourceImportRequests : OrderedMap String AnsweredRequest := .empty
  deriving DecidableEq

/-! ### Checks -/

def MAX_BRANCH_LENGTH : Nat := 255
def MAX_SOURCE_TEXT : Nat := 4096

def boundedText (value field : String) (maximum : Nat) : Except Fault Unit :=
  if utf16Length value = 0 ∨ utf16Length value > maximum ∨ '\x00' ∈ value.toList then
    .error (.error (field ++ " must be between 1 and " ++ toString maximum ++ " characters"))
  else .ok ()

def positiveSafeInteger (value : Int) (field : String) : Except Fault Unit :=
  if isSafeInteger value = false ∨ value ≤ 0 then .error (.error (field ++ " must be a positive safe integer")) else .ok ()

def timestamp (value : String) : Except Fault Unit := (Instants.isoTimestamp value).map fun _ => ()

def assertPersistenceTimestamps (project : Project) : Except Fault Unit := do
  timestamp project.createdAt
  timestamp project.updatedAt

def assertValidProjectSourceImportRequest (request : ProjectSourceImportRequest) : Except Fault Unit := do
  boundedText request.idempotencyKey "idempotencyKey" 200
  boundedText request.fingerprint "fingerprint" 512

variable (toLowerCase : String → String)

/-- The lower case of a text is the language's own. -/
def githubProjectSourceKey (owner name : String) : String :=
  "github:" ++ toLowerCase owner ++ "/" ++ toLowerCase name

def localProjectSourceKey (localPath : String) : String := "local:" ++ localPath

def assertLocalSource (sourceKey localPath : String) : Except Fault Unit :=
  if localPath.toList.head? ≠ some '/' ∨ utf16Length localPath > MAX_SOURCE_TEXT ∨ '\x00' ∈ localPath.toList ∨
      (localPath.toList.splitOn '/').any fun part => part = ['.'] ∨ part = ['.', '.'] then
    .error (.error "localPath must be an absolute canonical path")
  else if sourceKey ≠ localProjectSourceKey localPath then .error (.error "sourceKey does not match local repository identity")
  else .ok ()

def assertGitHubSource (sourceKey : String) (repository : GitHubRepository) : Except Fault Unit := do
  boundedText repository.owner "owner" 100
  boundedText repository.name "name" 100
  positiveSafeInteger repository.repositoryId "repositoryId"
  positiveSafeInteger repository.readerInstallationId "readerInstallationId"
  match repository.publisherInstallationId with
  | some publisherInstallationId => positiveSafeInteger publisherInstallationId "publisherInstallationId"
  | none => .ok ()
  if repository.repositoryUrl ≠ "https://github.com/" ++ repository.owner ++ "/" ++ repository.name then
    .error (.error "repositoryUrl must match GitHub repository identity")
  else if sourceKey ≠ githubProjectSourceKey toLowerCase repository.owner repository.name then
    .error (.error "sourceKey does not match GitHub repository identity")
  else .ok ()

def assertValidProjectSource (source : ProjectSource) : Except Fault Unit := do
  boundedText source.sourceKey "sourceKey" MAX_SOURCE_TEXT
  boundedText source.defaultBranch "defaultBranch" MAX_BRANCH_LENGTH
  timestamp source.createdAt
  timestamp source.updatedAt
  match source.kind with
  | .local_ localPath => assertLocalSource source.sourceKey localPath
  | .github repository => assertGitHubSource toLowerCase source.sourceKey repository

/-! ### Importing -/

/-- What the language and its digests give: the lower case of a text, and SHA-256 in hexadecimal. -/
structure Platform where
  toLowerCase : String → String
  digest : String → String

structure ImportCall where
  project : Project
  source : ProjectSource
  request : Option ProjectSourceImportRequest := none
  failBeforeCommit : Option Fault := none

def identityConflict : Fault := .error "Repository identity is already attached to another project source"

def requireEntry {α : Type} (map : OrderedMap String α) (id kind : String) : Except Fault α :=
  match map.get? id with
  | none => .error (.error (kind ++ " " ++ id ++ " not found"))
  | some value => .ok value

/-- The request of a call, implied by the source where none is given. -/
def effectiveRequest (platform : Platform) (call : ImportCall) : ProjectSourceImportRequest :=
  let implicitFingerprint := platform.digest call.source.sourceKey
  call.request.getD {idempotencyKey := "implicit:" ++ implicitFingerprint,fingerprint := implicitFingerprint}

def checkCall (platform : Platform) (call : ImportCall) : Except Fault Unit := do
  if call.source.projectId ≠ call.project.id then .error (.error "project source projectId must match project id")
  else do
    assertPersistenceTimestamps call.project
    assertValidProjectSource platform.toLowerCase call.source
    assertValidProjectSourceImportRequest (effectiveRequest platform call)

def sameIdentity (source attachedSource : ProjectSource) : Except Fault Unit :=
  match source.kind with
  | .local_ _ => .ok ()
  | .github repository =>
    if attachedSource.repositoryId? ≠ some repository.repositoryId then .error identityConflict else .ok ()

def checkAttached (tables : SourceTables) (source : ProjectSource) : Except Fault Unit :=
  match source.kind, tables.projectSourceKeys.get? source.sourceKey with
  | .github _, some projectId => do
    let attachedSource ← requireEntry tables.projectSources projectId "Project source"
    sameIdentity source attachedSource
  | _, _ => .ok ()

def entriesOf (tables : SourceTables) (projectId : String) : Except Fault (Project × ProjectSource) := do
  let project ← requireEntry tables.projects projectId "Project"
  let source ← requireEntry tables.projectSources projectId "Project source"
  .ok (project,source)

def replayImport (tables : SourceTables) (request : ProjectSourceImportRequest) (source : ProjectSource) (replay : AnsweredRequest) :
    Except Fault ProjectSourceImportResult :=
  if replay.fingerprint ≠ request.fingerprint ∨ replay.sourceKey ≠ source.sourceKey then
    .error (.idempotencyConflict ("Project source import " ++ request.idempotencyKey ++ " already exists with different content"))
  else (entriesOf tables replay.projectId).map fun entries => {project := entries.1,source := entries.2,created := false}

def answered (tables : SourceTables) (request : ProjectSourceImportRequest) (sourceKey projectId : String) : SourceTables :=
  let answer : AnsweredRequest := {fingerprint := request.fingerprint,sourceKey,projectId}
  {tables with projectSourceImportRequests := tables.projectSourceImportRequests.set request.idempotencyKey answer}

def kept (tables : SourceTables) (project : Project) : OrderedMap String Project :=
  match tables.projects.get? project.id with
  | none => tables.projects.set project.id project
  | some _ => tables.projects

def attached (tables : SourceTables) (project : Project) (source : ProjectSource) : SourceTables :=
  {tables with
    projects := kept tables project
    projectSources := tables.projectSources.set project.id source
    projectSourceKeys := tables.projectSourceKeys.set source.sourceKey project.id
    githubRepositoryIds := match source.repositoryId? with
      | some repositoryId => tables.githubRepositoryIds.set repositoryId project.id
      | none => tables.githubRepositoryIds}

def repositoryTaken (tables : SourceTables) (source : ProjectSource) : Bool :=
  match source.repositoryId? with
  | some repositoryId => (tables.githubRepositoryIds.get? repositoryId).isSome
  | none => false

def importExisting (call : ImportCall) (request : ProjectSourceImportRequest) (projectId : String) (tables : SourceTables) :
    Except Fault ProjectSourceImportResult × SourceTables :=
  match entriesOf tables projectId with
  | .error fault => (.error fault,tables)
  | .ok entries => match sameIdentity call.source entries.2, call.failBeforeCommit with
    | .error fault, _ => (.error fault,tables)
    | .ok (), some fault => (.error fault,tables)
    | .ok (), none => (.ok {project := entries.1,source := entries.2,created := false},
        answered tables request call.source.sourceKey projectId)

def importNew (call : ImportCall) (request : ProjectSourceImportRequest) (tables : SourceTables) :
    Except Fault ProjectSourceImportResult × SourceTables :=
  if repositoryTaken tables call.source then (.error identityConflict,tables)
  else if (tables.projectSources.get? call.project.id).isSome then
    (.error (.error ("Project " ++ call.project.id ++ " already has a source")),tables)
  else match call.failBeforeCommit with
    | some fault => (.error fault,tables)
    | none =>
      let existingProject := tables.projects.get? call.project.id
      (.ok {project := existingProject.getD call.project,source := call.source,created := existingProject.isNone},
        answered (attached tables call.project call.source) request call.source.sourceKey call.project.id)

def importChecked (call : ImportCall) (request : ProjectSourceImportRequest) (tables : SourceTables) :
    Except Fault ProjectSourceImportResult × SourceTables :=
  match tables.projectSourceImportRequests.get? request.idempotencyKey with
  | some replay => (replayImport tables request call.source replay,tables)
  | none => match tables.projectSourceKeys.get? call.source.sourceKey with
    | some projectId => importExisting call request projectId tables
    | none => importNew call request tables

def importProjectSource (platform : Platform) (call : ImportCall) (tables : SourceTables) :
    Except Fault ProjectSourceImportResult × SourceTables :=
  match checkCall platform call >>= fun _ => checkAttached tables call.source with
  | .error fault => (.error fault,tables)
  | .ok () => importChecked call (effectiveRequest platform call) tables

def getProjectSource (tables : SourceTables) (projectId : String) : Option ProjectSource := tables.projectSources.get? projectId

def getProjectSourceByKey (tables : SourceTables) (sourceKey : String) : Except Fault (Option ProjectSource) :=
  match tables.projectSourceKeys.get? sourceKey with
  | none => .ok none
  | some projectId => (requireEntry tables.projectSources projectId "Project source").map some

def writeProject (project : Project) (tables : SourceTables) : SourceTables :=
  {tables with projects := tables.projects.set project.id project}

/-! ### What an import does -/

/-- The tables agree: what is attached is found under its project, its key and its repository, and so is what was answered. -/
structure Consistent (tables : SourceTables) : Prop where
  named : ∀ id project, tables.projects.get? id = some project → project.id = id
  owned : ∀ id source, tables.projectSources.get? id = some source → source.projectId = id ∧
    (∃ project, tables.projects.get? id = some project) ∧ tables.projectSourceKeys.get? source.sourceKey = some id ∧
      ∀ repositoryId, source.repositoryId? = some repositoryId → tables.githubRepositoryIds.get? repositoryId = some id
  keyed : ∀ sourceKey id, tables.projectSourceKeys.get? sourceKey = some id →
    ∃ source, tables.projectSources.get? id = some source ∧ source.sourceKey = sourceKey
  numbered : ∀ repositoryId id, tables.githubRepositoryIds.get? repositoryId = some id →
    ∃ source, tables.projectSources.get? id = some source ∧ source.repositoryId? = some repositoryId
  answered : ∀ key answer, tables.projectSourceImportRequests.get? key = some answer →
    tables.projectSourceKeys.get? answer.sourceKey = some answer.projectId

section
variable {platform : Platform} {call : ImportCall} {tables after : SourceTables} {answer : Except Fault ProjectSourceImportResult}

variable {projectId : String}

theorem entriesOf_ok {entries : Project × ProjectSource} : entriesOf tables projectId = .ok entries ↔
    tables.projects.get? projectId = some entries.1 ∧ tables.projectSources.get? projectId = some entries.2 := by
  unfold entriesOf requireEntry
  cases tables.projects.get? projectId with
  | none => simp [Bind.bind,Except.bind]
  | some project =>
    cases tables.projectSources.get? projectId with
    | none => simp [Bind.bind,Except.bind]
    | some source =>
      obtain ⟨first,second⟩ := entries
      simp [Bind.bind,Except.bind]

theorem sameIdentity_ok {source attachedSource : ProjectSource} : sameIdentity source attachedSource = .ok () ↔
    ∀ repositoryId, source.repositoryId? = some repositoryId → attachedSource.repositoryId? = some repositoryId := by
  unfold sameIdentity ProjectSource.repositoryId?
  cases source.kind with
  | local_ localPath => simp
  | github repository =>
    dsimp only
    constructor
    · intro same repositoryId given
      cases given
      by_contra other
      rw [if_pos other] at same
      cases same
    · intro same
      rw [if_neg (not_not.mpr (same _ rfl))]

/-- How a call comes out: it fails and leaves all as it is, it was answered before, its key is attached, or it attaches its source. -/
inductive Comes (call : ImportCall) (request : ProjectSourceImportRequest) (tables : SourceTables) :
    Except Fault ProjectSourceImportResult → SourceTables → Prop where
  | failed (fault : Fault) : Comes call request tables (.error fault) tables
  | replayed {replay : AnsweredRequest} {project : Project} {source : ProjectSource}
    (held : tables.projectSourceImportRequests.get? request.idempotencyKey = some replay)
    (fingerprint : replay.fingerprint = request.fingerprint) (sourceKey : replay.sourceKey = call.source.sourceKey)
    (project_ : tables.projects.get? replay.projectId = some project)
    (source_ : tables.projectSources.get? replay.projectId = some source) :
    Comes call request tables (.ok ⟨project,source,false⟩) tables
  | existing {projectId : String} {project : Project} {source : ProjectSource}
    (fresh : tables.projectSourceImportRequests.get? request.idempotencyKey = none)
    (key : tables.projectSourceKeys.get? call.source.sourceKey = some projectId)
    (project_ : tables.projects.get? projectId = some project) (source_ : tables.projectSources.get? projectId = some source) :
    Comes call request tables (.ok ⟨project,source,false⟩) (answered tables request call.source.sourceKey projectId)
  | new (fresh : tables.projectSourceImportRequests.get? request.idempotencyKey = none)
    (free : tables.projectSourceKeys.get? call.source.sourceKey = none) (untaken : repositoryTaken tables call.source = false)
    (bare : tables.projectSources.get? call.project.id = none) :
    Comes call request tables
      (.ok ⟨(tables.projects.get? call.project.id).getD call.project,call.source,(tables.projects.get? call.project.id).isNone⟩)
      (answered (attached tables call.project call.source) request call.source.sourceKey call.project.id)

variable {request : ProjectSourceImportRequest}

section
variable (fresh : tables.projectSourceImportRequests.get? request.idempotencyKey = none)
include fresh

theorem importExisting_comes (key : tables.projectSourceKeys.get? call.source.sourceKey = some projectId)
    (ended : importExisting call request projectId tables = (answer,after)) : Comes call request tables answer after := by
  unfold importExisting at ended
  cases found : entriesOf tables projectId with
  | error fault =>
    rw [found] at ended
    cases ended
    exact .failed fault
  | ok entries =>
    rw [found] at ended
    dsimp only at ended
    obtain ⟨project,source⟩ := entriesOf_ok.mp found
    split at ended
    · cases ended
      exact .failed _
    · cases ended
      exact .failed _
    · cases ended
      exact .existing fresh key project source

theorem importNew_comes (free : tables.projectSourceKeys.get? call.source.sourceKey = none) (ended : importNew call request tables = (answer,after)) :
    Comes call request tables answer after := by
  unfold importNew at ended
  split at ended
  · cases ended
    exact .failed _
  rename_i untaken
  split at ended
  · cases ended
    exact .failed _
  rename_i bare
  split at ended
  · cases ended
    exact .failed _
  · cases ended
    exact .new fresh free (by simpa using untaken) (by simpa using bare)

end

theorem importChecked_comes (ended : importChecked call request tables = (answer,after)) : Comes call request tables answer after := by
  unfold importChecked at ended
  cases held : tables.projectSourceImportRequests.get? request.idempotencyKey with
  | some replay =>
    rw [held] at ended
    cases ended
    unfold replayImport
    split
    · exact .failed _
    · rename_i same
      cases found : entriesOf tables replay.projectId with
      | error fault => exact .failed fault
      | ok entries =>
        obtain ⟨project,source⟩ := entriesOf_ok.mp found
        simp only [not_or,not_not] at same
        exact .replayed held same.1 same.2 project source
  | none =>
    rw [held] at ended
    cases key : tables.projectSourceKeys.get? call.source.sourceKey with
    | some projectId =>
      rw [key] at ended
      exact importExisting_comes held key ended
    | none =>
      rw [key] at ended
      exact importNew_comes held key ended

theorem import_comes (ended : importProjectSource platform call tables = (answer,after)) :
    Comes call (effectiveRequest platform call) tables answer after ∧
      ∀ result, answer = .ok result → checkCall platform call = .ok () ∧ checkAttached tables call.source = .ok () := by
  unfold importProjectSource at ended
  cases checked : checkCall platform call >>= fun _ => checkAttached tables call.source with
  | error fault =>
    rw [checked] at ended
    cases ended
    exact ⟨.failed fault,fun _ impossible => nomatch impossible⟩
  | ok _ =>
    rw [checked] at ended
    obtain ⟨_,accepted,free⟩ := Library.bind_ok.mp checked
    exact ⟨importChecked_comes ended,fun _ _ => ⟨accepted,free⟩⟩

theorem Comes.failed_same {fault : Fault} (comes : Comes call request tables (.error fault) after) : after = tables := by
  cases comes
  rfl

theorem get?_kept (tables : SourceTables) (project : Project) (id : String) : (kept tables project).get? id =
    if id = project.id then some ((tables.projects.get? id).getD project) else tables.projects.get? id := by
  by_cases same : id = project.id
  · subst same
    unfold kept
    rw [if_pos rfl]
    cases held : tables.projects.get? project.id with
    | none => exact (get?_set _ _ _ _).trans (if_pos rfl)
    | some found => exact held
  · rw [if_neg same]
    unfold kept
    split
    · rw [get?_set,if_neg same]
    · rfl

theorem Comes.sources (comes : Comes call request tables answer after) (id : String) :
    after.projectSources.get? id = tables.projectSources.get? id ∨
      tables.projectSources.get? id = none ∧ id = call.project.id ∧ after.projectSources.get? id = some call.source := by
  cases comes with
  | failed | replayed | existing => exact .inl rfl
  | new fresh free untaken bare =>
    change (tables.projectSources.set call.project.id call.source).get? id = _ ∨
      _ ∧ _ ∧ (tables.projectSources.set call.project.id call.source).get? id = _
    rw [get?_set]
    split
    · rename_i same
      exact .inr ⟨same ▸ bare,same,rfl⟩
    · exact .inl rfl

theorem repositoryTaken_false (untaken : repositoryTaken tables call.source = false) {repositoryId : Int}
    (given : call.source.repositoryId? = some repositoryId) : tables.githubRepositoryIds.get? repositoryId = none := by
  unfold repositoryTaken at untaken
  rw [given] at untaken
  simpa using untaken

theorem attached_consistent (consistent : Consistent tables) (own : call.source.projectId = call.project.id)
    (free : tables.projectSourceKeys.get? call.source.sourceKey = none) (untaken : repositoryTaken tables call.source = false)
    (bare : tables.projectSources.get? call.project.id = none) : Consistent (attached tables call.project call.source) := by
  have repositories (repositoryId : Int) : (attached tables call.project call.source).githubRepositoryIds.get? repositoryId =
      if call.source.repositoryId? = some repositoryId then some call.project.id else tables.githubRepositoryIds.get? repositoryId := by
    unfold attached
    cases given : call.source.repositoryId? with
    | none => rfl
    | some own =>
      dsimp only
      rw [get?_set]
      simp only [Option.some.injEq,eq_comm]
  constructor
  · intro id project held
    change (kept tables call.project).get? id = some project at held
    rw [get?_kept] at held
    split at held
    · rename_i here
      cases stored : tables.projects.get? id with
      | none =>
        rw [stored] at held
        cases held
        exact here.symm
      | some found =>
        rw [stored] at held
        cases held
        exact consistent.named id found stored
    · exact consistent.named id project held
  · intro id source held
    change (tables.projectSources.set _ _).get? id = some source at held
    rw [get?_set] at held
    split at held
    · rename_i here
      cases held
      subst here
      refine ⟨own,⟨_,(get?_kept _ _ _).trans (if_pos rfl)⟩,(get?_set _ _ _ _).trans (if_pos rfl),fun repositoryId given => ?_⟩
      rw [repositories,if_pos given]
    · rename_i other
      obtain ⟨projectId,project,key,numbers⟩ := consistent.owned id source held
      refine ⟨projectId,?_,?_,fun repositoryId given => ?_⟩
      · obtain ⟨project,stored⟩ := project
        exact ⟨project,(get?_kept _ _ _).trans ((if_neg other).trans stored)⟩
      · change (tables.projectSourceKeys.set _ _).get? source.sourceKey = some id
        rw [get?_set,if_neg]
        · exact key
        · intro same
          rw [same,free] at key
          cases key
      · rw [repositories,if_neg]
        · exact numbers repositoryId given
        · intro taken
          have absent := repositoryTaken_false untaken taken
          rw [numbers repositoryId given] at absent
          cases absent
  · intro sourceKey id held
    change (tables.projectSourceKeys.set _ _).get? sourceKey = some id at held
    change ∃ source, (tables.projectSources.set _ _).get? id = some source ∧ _
    rw [get?_set] at held
    split at held
    · rename_i here
      cases held
      exact ⟨call.source,(get?_set _ _ _ _).trans (if_pos rfl),here.symm⟩
    · obtain ⟨source,stored,same⟩ := consistent.keyed sourceKey id held
      refine ⟨source,?_,same⟩
      rw [get?_set,if_neg]
      · exact stored
      · intro here
        rw [here,bare] at stored
        cases stored
  · intro repositoryId id held
    rw [repositories] at held
    change ∃ source, (tables.projectSources.set _ _).get? id = some source ∧ _
    split at held
    · rename_i given
      cases held
      exact ⟨call.source,(get?_set _ _ _ _).trans (if_pos rfl),given⟩
    · obtain ⟨source,stored,same⟩ := consistent.numbered repositoryId id held
      refine ⟨source,?_,same⟩
      rw [get?_set,if_neg]
      · exact stored
      · intro here
        rw [here,bare] at stored
        cases stored
  · intro key answer held
    have old := consistent.answered key answer held
    change (tables.projectSourceKeys.set _ _).get? answer.sourceKey = some answer.projectId
    rw [get?_set,if_neg]
    · exact old
    · intro same
      rw [same,free] at old
      cases old

theorem answered_consistent (consistent : Consistent tables) {sourceKey projectId : String}
    (key : tables.projectSourceKeys.get? sourceKey = some projectId) : Consistent (answered tables request sourceKey projectId) := by
  refine ⟨consistent.named,consistent.owned,consistent.keyed,consistent.numbered,fun other answer held => ?_⟩
  change (tables.projectSourceImportRequests.set _ _).get? other = _ at held
  rw [get?_set] at held
  split at held
  · cases held
    exact key
  · exact consistent.answered other answer held

theorem Comes.consistent (consistent : Consistent tables)
    (own : call.source.projectId = call.project.id) (comes : Comes call request tables answer after) : Consistent after := by
  cases comes with
  | failed | replayed => exact consistent
  | existing fresh key project source => exact answered_consistent consistent key
  | new fresh free untaken bare =>
    apply answered_consistent (attached_consistent consistent own free untaken bare)
    exact (get?_set _ _ _ _).trans (if_pos rfl)

theorem checkCall_own (accepted : checkCall platform call = .ok ()) : call.source.projectId = call.project.id := by
  unfold checkCall at accepted
  split at accepted
  · cases accepted
  · rename_i same
    exact not_not.mp same

theorem checkAttached_ok {source : ProjectSource} : checkAttached tables source = .ok () ↔
    ∀ repositoryId projectId, source.repositoryId? = some repositoryId → tables.projectSourceKeys.get? source.sourceKey = some projectId →
      ∃ attachedSource, tables.projectSources.get? projectId = some attachedSource ∧ attachedSource.repositoryId? = some repositoryId := by
  unfold checkAttached
  have repository? : source.repositoryId? = match source.kind with
      | .github repository => some repository.repositoryId
      | .local_ _ => none := rfl
  cases kind : source.kind with
  | local_ localPath => simp [repository?,kind]
  | github repository =>
    cases key : tables.projectSourceKeys.get? source.sourceKey with
    | none => simp
    | some projectId =>
      unfold requireEntry
      cases held : tables.projectSources.get? projectId with
      | none => simp [repository?,kind,held,Bind.bind,Except.bind]
      | some attachedSource =>
        simp only [held]
        change sameIdentity source attachedSource = .ok () ↔ _
        rw [sameIdentity_ok]
        simp [repository?,kind,held]

end

/-! ### Runs -/

/-- An import, or a write of a project that is not about its source. -/
inductive Step (platform : Platform) (before : SourceTables) : SourceTables → Prop where
  | imported (call : ImportCall) : Step platform before (importProjectSource platform call before).2
  | written (project : Project) : Step platform before (writeProject project before)

/-- The request was answered with the project's source, whose repository is the one that was asked for. -/
structure AnsweredWith (tables : SourceTables) (request : ProjectSourceImportRequest) (asked : ProjectSource) (projectId : String)
    (source : ProjectSource) : Prop where
  recorded : tables.projectSourceImportRequests.get? request.idempotencyKey = some ⟨request.fingerprint,asked.sourceKey,projectId⟩
  holds : tables.projectSources.get? projectId = some source
  identity : ∀ repositoryId, asked.repositoryId? = some repositoryId → source.repositoryId? = some repositoryId

section
variable {platform : Platform} {call : ImportCall} {tables before after : SourceTables} {answer : Except Fault ProjectSourceImportResult}

theorem Step.consistent (step : Step platform before after) (consistent : Consistent before) : Consistent after := by
  cases step with
  | imported call =>
    obtain ⟨comes,accepted⟩ := import_comes (Prod.eta (importProjectSource platform call before)).symm
    cases ended : (importProjectSource platform call before).1 with
    | ok result =>
      exact comes.consistent consistent (checkCall_own (accepted result ended).1)
    | error fault =>
      rw [ended] at comes
      rw [comes.failed_same]
      exact consistent
  | written project =>
    refine ⟨?_,?_,consistent.keyed,consistent.numbered,consistent.answered⟩
    · intro id found held
      change (before.projects.set project.id project).get? id = some found at held
      rw [get?_set] at held
      split at held
      · rename_i here
        cases held
        exact here.symm
      · exact consistent.named id found held
    · intro id source held
      obtain ⟨projectId,⟨found,stored⟩,rest⟩ := consistent.owned id source held
      refine ⟨projectId,?_,rest⟩
      change ∃ project_, (before.projects.set project.id project).get? id = some project_
      rw [get?_set]
      split
      · exact ⟨project,rfl⟩
      · exact ⟨found,stored⟩

variable {result : ProjectSourceImportResult} {source : ProjectSource} {projectId : String}

theorem Step.holds (step : Step platform before after) {id : String}
    (held : before.projectSources.get? id = some source) : after.projectSources.get? id = some source := by
  cases step with
  | imported call =>
    obtain same | ⟨bare,_,_⟩ := (import_comes (Prod.eta (importProjectSource platform call before)).symm).1.sources id
    · exact same.trans held
    · rw [bare] at held
      cases held
  | written project => exact held

theorem Step.recorded (step : Step platform before after) {key : String} {found : AnsweredRequest}
    (held : before.projectSourceImportRequests.get? key = some found) : after.projectSourceImportRequests.get? key = some found := by
  have answering {request : ProjectSourceImportRequest} {tables : SourceTables} {sourceKey projectId : String}
      (fresh : before.projectSourceImportRequests.get? request.idempotencyKey = none)
      (same : tables.projectSourceImportRequests = before.projectSourceImportRequests) :
      (answered tables request sourceKey projectId).projectSourceImportRequests.get? key = some found := by
    change (tables.projectSourceImportRequests.set _ _).get? key = some found
    rw [same,get?_set,if_neg]
    · exact held
    · intro here
      rw [here,fresh] at held
      cases held
  cases step with
  | imported call =>
    have comes := (import_comes (Prod.eta (importProjectSource platform call before)).symm).1
    generalize (importProjectSource platform call before).2 = after at comes ⊢
    generalize (importProjectSource platform call before).1 = answer at comes
    cases comes with
    | failed | replayed => exact held
    | existing fresh => exact answering fresh rfl
    | new fresh => exact answering fresh rfl
  | written project => exact held

theorem AnsweredWith.later {request : ProjectSourceImportRequest} {asked source : ProjectSource}
    (given : AnsweredWith before request asked projectId source) (steps : Relation.ReflTransGen (Step platform) before after) :
    AnsweredWith after request asked projectId source := by
  induction steps with
  | refl => exact given
  | tail _ step ih => exact ⟨step.recorded ih.recorded,step.holds ih.holds,ih.identity⟩

theorem Consistent.steps (consistent : Consistent before) (steps : Relation.ReflTransGen (Step platform) before after) :
    Consistent after := by
  induction steps with
  | refl => exact consistent
  | tail _ step ih => exact step.consistent ih

theorem import_answered (consistent : Consistent tables) (ended : importProjectSource platform call tables = (.ok result,after)) :
    AnsweredWith after (effectiveRequest platform call) call.source result.project.id result.source := by
  obtain ⟨comes,checks⟩ := import_comes ended
  obtain ⟨accepted,free⟩ := checks result rfl
  have identity {projectId : String} {source : ProjectSource}
      (key : tables.projectSourceKeys.get? call.source.sourceKey = some projectId)
      (held : tables.projectSources.get? projectId = some source) : ∀ repositoryId, call.source.repositoryId? = some repositoryId →
        source.repositoryId? = some repositoryId := by
    intro repositoryId given
    obtain ⟨found,at_,same⟩ := checkAttached_ok.mp free repositoryId projectId given key
    cases held.symm.trans at_
    exact same
  cases comes with
  | @replayed replay project source held fingerprint sourceKey stored attachedSource =>
    have id : project.id = replay.projectId := consistent.named _ project stored
    have key := consistent.answered _ replay held
    rw [sourceKey] at key
    refine ⟨?_,id ▸ attachedSource,identity key attachedSource⟩
    rw [held,id,← fingerprint,← sourceKey]
  | @existing projectId project source fresh key stored attachedSource =>
    have id : project.id = projectId := consistent.named _ project stored
    rw [id]
    exact ⟨(get?_set _ _ _ _).trans (if_pos rfl),attachedSource,identity key attachedSource⟩
  | new fresh free_ untaken bare =>
    have id : ((tables.projects.get? call.project.id).getD call.project).id = call.project.id := by
      cases stored : tables.projects.get? call.project.id with
      | none => rfl
      | some project => exact consistent.named _ project stored
    rw [id]
    exact ⟨(get?_set _ _ _ _).trans (if_pos rfl),(get?_set _ _ _ _).trans (if_pos rfl),fun _ given => given⟩

theorem AnsweredWith.again {again : ImportCall} (consistent : Consistent tables)
    (given : AnsweredWith tables (effectiveRequest platform again) again.source projectId source)
    (accepted : checkCall platform again = .ok ()) :
    ∃ project, importProjectSource platform again tables = (.ok ⟨project,source,false⟩,tables) ∧ project.id = projectId := by
  have key := consistent.answered _ _ given.recorded
  obtain ⟨_,⟨project,stored⟩,_⟩ := consistent.owned projectId source given.holds
  refine ⟨project,?_,consistent.named _ project stored⟩
  have free : checkAttached tables again.source = .ok () := by
    apply checkAttached_ok.mpr
    intro repositoryId other asked keyed
    cases key.symm.trans keyed
    exact ⟨source,given.holds,given.identity repositoryId asked⟩
  have found : entriesOf tables projectId = .ok (project,source) := entriesOf_ok.mpr ⟨stored,given.holds⟩
  unfold importProjectSource
  rw [accepted]
  change (match checkAttached tables again.source with | .error fault => _ | .ok () => _) = _
  rw [free]
  dsimp only
  unfold importChecked
  rw [given.recorded]
  dsimp only
  unfold replayImport
  rw [if_neg (by simp),found]
  rfl

theorem Consistent.empty : Consistent {} := by
  constructor <;> intro _ _ held <;> cases held

/-- Each project has one source, each key and each repository one project, and the three indexes say the same. -/
structure OneToOne (tables : SourceTables) : Prop where
  owned : ∀ id source, getProjectSource tables id = some source → source.projectId = id
  keys : ∀ sourceKey id, tables.projectSourceKeys.get? sourceKey = some id ↔
    ∃ source, getProjectSource tables id = some source ∧ source.sourceKey = sourceKey
  repositories : ∀ repositoryId id, tables.githubRepositoryIds.get? repositoryId = some id ↔
    ∃ source, getProjectSource tables id = some source ∧ source.repositoryId? = some repositoryId
  found : ∀ sourceKey, ∃ found, getProjectSourceByKey tables sourceKey = .ok found ∧
    ∀ source, found = some source ↔ getProjectSource tables source.projectId = some source ∧ source.sourceKey = sourceKey

theorem Consistent.found (consistent : Consistent tables) (sourceKey : String) :
    ∃ found, getProjectSourceByKey tables sourceKey = .ok found ∧
      ∀ source, found = some source ↔ getProjectSource tables source.projectId = some source ∧ source.sourceKey = sourceKey := by
  unfold getProjectSourceByKey getProjectSource
  cases key : tables.projectSourceKeys.get? sourceKey with
  | none =>
    refine ⟨none,rfl,fun source => ⟨nofun,fun ⟨held,same⟩ => ?_⟩⟩
    have keyed := (consistent.owned _ source held).2.2.1
    rw [same,key] at keyed
    cases keyed
  | some id =>
    obtain ⟨attachedSource,held,same⟩ := consistent.keyed sourceKey id key
    refine ⟨some attachedSource,?_,fun source => ⟨fun here => ?_,fun ⟨stored,own⟩ => ?_⟩⟩
    · simp only [requireEntry,held]
      rfl
    · cases here
      rw [(consistent.owned id attachedSource held).1]
      exact ⟨held,same⟩
    · have keyed := (consistent.owned _ source stored).2.2.1
      rw [own,key] at keyed
      cases keyed
      exact held.symm.trans stored

theorem Consistent.oneToOne (consistent : Consistent tables) : OneToOne tables := by
  refine ⟨fun id source held => (consistent.owned id source held).1,fun sourceKey id => ⟨consistent.keyed sourceKey id,?_⟩,
    fun repositoryId id => ⟨consistent.numbered repositoryId id,?_⟩,consistent.found⟩
  · intro ⟨source,held,same⟩
    rw [← same]
    exact (consistent.owned id source held).2.2.1
  · intro ⟨source,held,given⟩
    exact (consistent.owned id source held).2.2.2 repositoryId given

/-- The call asks again for what another asked: the same identity, key and fingerprint, in a call that is as well formed. -/
structure Replays (platform : Platform) (call again : ImportCall) : Prop where
  sourceKey : again.source.sourceKey = call.source.sourceKey
  repository : again.source.repositoryId? = call.source.repositoryId?
  request : effectiveRequest platform again = effectiveRequest platform call
  accepted : checkCall platform call = .ok () → checkCall platform again = .ok ()

theorem import_replayed {later : SourceTables} {again : ImportCall} (consistent : Consistent tables)
    (ended : importProjectSource platform call tables = (.ok result,after))
    (steps : Relation.ReflTransGen (Step platform) after later) (replays : Replays platform call again) :
    ∃ project, importProjectSource platform again later = (.ok ⟨project,result.source,false⟩,later) ∧ project.id = result.project.id := by
  have first : Step platform tables after := by
    rw [show after = (importProjectSource platform call tables).2 by rw [ended]]
    exact .imported call
  have given := (import_answered consistent ended).later steps
  have asked : AnsweredWith later (effectiveRequest platform again) again.source result.project.id result.source := by
    refine ⟨?_,given.holds,?_⟩
    · rw [replays.request,replays.sourceKey]
      exact given.recorded
    · rw [replays.repository]
      exact given.identity
  exact asked.again ((first.consistent consistent).steps steps) (replays.accepted ((import_comes ended).2 result rfl).1)

/-- In whatever order projects are imported and written, sources stay one to one; an import that fails changes nothing, none replaces
an attached source, and one that succeeded can be replayed. -/
theorem imports_one_to_one (reached : Relation.ReflTransGen (Step platform) {} tables) : OneToOne tables ∧
    ∀ call answer after, importProjectSource platform call tables = (answer,after) →
      (∀ fault, answer = .error fault → after = tables) ∧
      (∀ id source, getProjectSource tables id = some source → getProjectSource after id = some source) ∧
      ∀ result, answer = .ok result → ∀ later, Relation.ReflTransGen (Step platform) after later →
        ∀ again, Replays platform call again → ∃ project,
          importProjectSource platform again later = (.ok ⟨project,result.source,false⟩,later) ∧ project.id = result.project.id := by
  have consistent := Consistent.empty.steps reached
  refine ⟨consistent.oneToOne,fun call answer after ended => ⟨?_,?_,?_⟩⟩
  · intro fault failed
    subst failed
    exact (import_comes ended).1.failed_same
  · intro id source held
    rw [show after = (importProjectSource platform call tables).2 by rw [ended]]
    exact (Step.imported call).holds held
  · intro result succeeded later steps again replays
    subst succeeded
    exact import_replayed consistent ended steps replays

end

/-! ### A run -/

def nodePlatform : Platform where
  toLowerCase text := String.ofList (text.toList.map Char.toLower)
  digest text := if text = "local:/workspaces/passerine" then
    "3ac602520dda8acf8239e5a208b08142626a0e26609ac9029c8132a8657cf498" else ""

def importedAt : String := "2026-07-31T10:00:00.000Z"

def localImport : ImportCall where
  project := {id := "project-1",name := "Passerine",createdAt := importedAt,updatedAt := importedAt}
  source := ⟨"project-1","local:/workspaces/passerine","main",importedAt,importedAt,.local_ "/workspaces/passerine"⟩

theorem local_import_replayed : OneToOne (importProjectSource nodePlatform localImport {}).2 ∧
    (∃ result, (importProjectSource nodePlatform localImport {}).1 = .ok result ∧ result.created = true) ∧
    ∃ project, importProjectSource nodePlatform localImport (importProjectSource nodePlatform localImport {}).2 =
      (.ok ⟨project,localImport.source,false⟩,(importProjectSource nodePlatform localImport {}).2) ∧ project.id = "project-1" := by
  have first : importProjectSource nodePlatform localImport {} =
      (.ok ⟨localImport.project,localImport.source,true⟩,(importProjectSource nodePlatform localImport {}).2) := by decide +kernel
  have steps : Relation.ReflTransGen (Step nodePlatform) {} (importProjectSource nodePlatform localImport {}).2 :=
    .single (.imported localImport)
  refine ⟨(imports_one_to_one steps).1,⟨_,congrArg Prod.fst first,rfl⟩,?_⟩
  exact ((imports_one_to_one .refl).2 localImport _ _ first).2.2 _ rfl _ .refl localImport ⟨rfl,rfl,rfl,id⟩

end AgentOS.Imports
