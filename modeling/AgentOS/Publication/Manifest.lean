import AgentOS.Source.Snapshot

/-! Publication manifests: what a run publishes, the grammar of its paths and the digest that binds it. -/
namespace AgentOS.Publication
open Gate Source

inductive PublicationRepository where
  | github (owner name : String) (installationId repositoryId : Nat)
  | localGit (name : String)
  deriving DecidableEq

structure ExpectedBase where
  branch : String
  sha : String

inductive EvidenceKind where
  | testReport
  | policyReport
  deriving DecidableEq

structure EvidenceItem where
  kind : EvidenceKind
  artifactDigest : String
  deriving DecidableEq

structure PublicationManifestBody where
  projectId : String
  runId : String
  stepId : String
  repository : PublicationRepository
  expectedBase : ExpectedBase
  configDigest : String
  policyDigest : String
  sourceSnapshotDigest : String
  testEvidence : List EvidenceItem
  changes : List Change

/-! ### JSON -/

def PublicationRepository.json : PublicationRepository → Json
  | .github owner name installationId repositoryId =>
    .obj [("owner",.str owner),("name",.str name),("installationId",.num installationId),("repositoryId",.num repositoryId)]
  | .localGit name => .obj [("kind",.str "local"),("owner",.str "local"),("name",.str name)]

def ExpectedBase.json (base : ExpectedBase) : Json := .obj [("branch",.str base.branch),("sha",.str base.sha)]

def EvidenceKind.text : EvidenceKind → String
  | .testReport => "test-report"
  | .policyReport => "policy-report"

def EvidenceItem.json (item : EvidenceItem) : Json :=
  .obj [("kind",.str item.kind.text),("artifactDigest",.str item.artifactDigest)]

def evidenceJson (items : List EvidenceItem) : Json := .arr (items.map EvidenceItem.json)

def PublicationManifestBody.json (manifest : PublicationManifestBody) : Json :=
  .obj [("version",.str "publication-manifest-v1"),("projectId",.str manifest.projectId),("runId",.str manifest.runId),
    ("stepId",.str manifest.stepId),("repository",manifest.repository.json),("expectedBase",manifest.expectedBase.json),
    ("configDigest",.str manifest.configDigest),("policyDigest",.str manifest.policyDigest),
    ("sourceSnapshotDigest",.str manifest.sourceSnapshotDigest),("testEvidence",evidenceJson manifest.testEvidence),
    ("changes",.arr (manifest.changes.map Change.json))]

/-! ### Schemas -/

def isOwner (owner : String) : Bool :=
  let inner := owner.toList.dropLast.tail
  owner.toList.head?.any Char.isAlphanum && owner.toList.getLast?.any Char.isAlphanum && owner.length ≤ 39 &&
    inner.all fun char => char.isAlphanum || char = '-'

def containsText (part text : String) : Bool := text.toList.tails.any part.toList.isPrefixOf

def isBranch (branch : String) : Bool :=
  sized 1 244 branch && !startsWith "/" branch && !endsWith "." branch && !containsText ".." branch &&
    !containsText "//" branch && !containsText "@\x7b" branch && !containsText "\\" branch &&
    branch.toList.all fun char => 0x20 < char.val && char.val ≠ 0x7f && char ∉ "~^:?*[]".toList

def PublicationRepository.valid : PublicationRepository → Bool
  | .github owner name installationId repositoryId =>
    isOwner owner && isRepositoryName name && 0 < installationId && isSafeInteger installationId &&
      0 < repositoryId && isSafeInteger repositoryId
  | .localGit name => isRepositoryName name

def ExpectedBase.valid (base : ExpectedBase) : Bool := isBranch base.branch && isCommitSha base.sha

def PublicationManifestBody.valid (manifest : PublicationManifestBody) : Bool :=
  isIdentifier manifest.projectId && isIdentifier manifest.runId && isIdentifier manifest.stepId &&
    manifest.repository.valid && manifest.expectedBase.valid && isDigest manifest.configDigest &&
    isDigest manifest.policyDigest && isDigest manifest.sourceSnapshotDigest &&
    1 ≤ manifest.testEvidence.length && manifest.testEvidence.length ≤ 20 &&
    manifest.testEvidence.all (fun item => isDigest item.artifactDigest) &&
    1 ≤ manifest.changes.length && manifest.changes.length ≤ PUBLICATION_MAX_FILES &&
    manifest.changes.all fun change => sized 1 1024 change.path

/-! ### Protected paths -/

inductive GlobPart where
  | letter (char : Char)
  /-- `*` -/
  | segment
  /-- `**` -/
  | anything
  /-- `**/` -/
  | directories

def globParts : List Char → List GlobPart
  | '*':: '*':: '/'::pattern => .directories::globParts pattern
  | '*':: '*'::pattern => .anything::globParts pattern
  | '*'::pattern => .segment::globParts pattern
  | char::pattern => .letter char::globParts pattern
  | [] => []

def matchesParts : List GlobPart → List Char → Bool
  | [],path => path.isEmpty
  | .letter _::_,[] => false
  | .letter char::rest,next::path => char.toLower = next.toLower && matchesParts rest path
  | .segment::rest,path =>
    (List.range (path.length + 1)).any fun count => !(path.take count).contains '/' && matchesParts rest (path.drop count)
  | .anything::rest,path => (List.range (path.length + 1)).any fun count => matchesParts rest (path.drop count)
  | .directories::rest,path => matchesParts rest path ||
    (List.range path.length).any fun count => path[count]? = some '/' && matchesParts rest (path.drop (count + 1))

def globMatches (pattern path : String) : Bool := matchesParts (globParts pattern.toList) path.toList

def DEFAULT_PROTECTED_PATHS : List String :=
  [".git",".git/**",".github/workflows",".github/workflows/**","CODEOWNERS","**/CODEOWNERS",".gitmodules",".env*",
    "**/.env*","agentos/**","agentos"]

def protectedPath (path : String) : Bool := (DEFAULT_PROTECTED_PATHS ++ [".git/**"]).any fun pattern => globMatches pattern path

/-! ### Parsing -/

inductive PublisherErrorCode where
  | rejected
  | collision
  | cancelled
  | unavailable
  | storeConflict
  deriving DecidableEq

inductive PublisherFault where
  | publisher (code : PublisherErrorCode) (message : String)
  | error (message : String)
  | localGit (message : String)
  deriving DecidableEq

def normalizeRepositoryPath (path : String) : Except PublisherFault String :=
  match normalizeRepositoryPathSyntax path with
  | none => .error (.error ("Malformed repository path: " ++ quoted path))
  | some normalized => if protectedPath normalized then .error (.error ("Protected repository path: " ++ path)) else .ok normalized

def assertWellFormedText (value path : String) : Except PublisherFault Unit :=
  if value.toList.contains '\x00' then .error (.error ("Binary content is forbidden for " ++ path)) else .ok ()

def shapeCollision (left right : String) : Bool := startsWith (right ++ "/") left || startsWith (left ++ "/") right

/-- The checks of a written change beside the folded paths written and the bytes counted before it. -/
def checkWrite (written : List String) (bytes : Nat) (path content : String) : Except PublisherFault Unit :=
  if written.any (shapeCollision (lowerCase path)) then .error (.error ("File and directory shape collision: " ++ path))
  else match assertWellFormedText content path with
    | .error fault => .error fault
    | .ok _ =>
      if byteLength content > PUBLICATION_MAX_FILE_BYTES then .error (.error ("File exceeds publication size limit: " ++ path))
      else if bytes + byteLength content > PUBLICATION_MAX_TOTAL_BYTES then
        .error (.error "Publication exceeds aggregate size limit")
      else .ok ()

/-- The checks of the changes: the folded paths seen so far, those of them that are written, and the bytes so far. -/
def checkChanges : List String → List String → Nat → List Change → Except PublisherFault Unit
  | _,_,_,[] => .ok ()
  | seen,written,bytes,change::changes =>
    match normalizeRepositoryPath change.path with
    | .error fault => .error fault
    | .ok path =>
      if lowerCase path ∈ seen then .error (.error ("Case-insensitive path collision: " ++ path))
      else match change with
        | .delete _ => checkChanges (lowerCase path::seen) written bytes changes
        | .write _ _ _ content =>
          match checkWrite written bytes path content with
          | .error fault => .error fault
          | .ok _ => checkChanges (lowerCase path::seen) (lowerCase path::written) (bytes + byteLength content) changes

theorem normalizeRepositoryPath_ok {path normalized : String} (ok : normalizeRepositoryPath path = .ok normalized) :
    normalized = path := by
  unfold normalizeRepositoryPath normalizeRepositoryPathSyntax at ok
  split at ok
  · cases ok
  · rename_i found
    split at found
    · cases found
      split at ok
      · cases ok
      · cases ok
        rfl
    · cases found

def writtenBy (change : Change) (written : List String) : List String :=
  match change with
  | .write _ path _ _ => lowerCase path::written
  | .delete _ => written

def bytesBy (change : Change) (bytes : Nat) : Nat :=
  match change with
  | .write _ _ _ content => bytes + byteLength content
  | .delete _ => bytes

structure Admitted (seen written : List String) (bytes : Nat) (change : Change) : Prop where
  path : normalizeRepositoryPath change.path = .ok change.path
  fresh : lowerCase change.path ∉ seen
  write : ∀ operation path executable content, change = .write operation path executable content →
    checkWrite written bytes path content = .ok ()

theorem checkChanges_cons {seen written : List String} {bytes : Nat} {change : Change} {changes : List Change} :
    checkChanges seen written bytes (change::changes) = .ok () ↔ Admitted seen written bytes change ∧
      checkChanges (lowerCase change.path::seen) (writtenBy change written) (bytesBy change bytes) changes = .ok () := by
  rw [checkChanges]
  cases normal : normalizeRepositoryPath change.path with
  | error fault =>
    constructor
    · intro ok
      cases ok
    · rintro ⟨admitted,_⟩
      rw [admitted.path] at normal
      cases normal
  | ok path =>
    obtain rfl := normalizeRepositoryPath_ok normal
    by_cases known : lowerCase change.path ∈ seen
    · simp only [if_pos known]
      constructor
      · intro ok
        cases ok
      · rintro ⟨admitted,_⟩
        exact absurd known admitted.fresh
    simp only [if_neg known]
    cases change with
    | delete path =>
      constructor
      · intro rest
        exact ⟨⟨normal,known,by simp⟩,rest⟩
      · exact And.right
    | write operation path executable content =>
      simp only [Change.path] at normal known ⊢
      cases formed : checkWrite written bytes path content with
      | error fault =>
        constructor
        · intro ok
          cases ok
        · rintro ⟨admitted,_⟩
          have fine := admitted.write _ _ _ _ rfl
          rw [formed] at fine
          cases fine
      | ok _ =>
        constructor
        · intro rest
          refine ⟨⟨normal,known,?_⟩,rest⟩
          intro operation' path' executable' content' same
          cases same
          exact formed
        · exact And.right

/-! ### The digest -/

def changesByPath (left right : Change) : Prop := Json.compareCanonicalKeys (lowerCase left.path) (lowerCase right.path)

instance : DecidableRel changesByPath := fun _ _ => inferInstanceAs (Decidable (_ = true))

def evidenceKey (item : EvidenceItem) : String := item.kind.text ++ ":" ++ item.artifactDigest

def evidenceByKey (left right : EvidenceItem) : Prop := Json.compareCanonicalKeys (evidenceKey left) (evidenceKey right)

instance : DecidableRel evidenceByKey := fun _ _ => inferInstanceAs (Decidable (_ = true))

inductive Digested where
  | manifest (body : PublicationManifestBody)
  | evidence (items : List EvidenceItem)

def canonicalManifestValue : Digested → Json
  | .manifest body => PublicationManifestBody.json {body with
      changes := body.changes.insertionSort changesByPath
      testEvidence := body.testEvidence.insertionSort evidenceByKey}
  | .evidence items => evidenceJson items

def canonicalPublicationManifestDigest (sha256 : String → String) (value : Digested) : String :=
  sha256 (canonicalJsonValue (canonicalManifestValue value))

end AgentOS.Publication
