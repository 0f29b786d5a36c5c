import AgentOS.Publication.Authorization
import AgentOS.Publication.BaseTree

/-! The two publishers: the keys and branches of a publication, and what each checks before it first waits. -/
namespace AgentOS.Publication
open Gate

section
variable (crypto : Crypto)

def verifyAuthorization (parsed : ParsedPublicationManifest) (verifier : AttestationVerifier) (now : Instant)
    (audience : Audience) : Except PublisherFault Unit :=
  match validatePublicationAuthorization crypto parsed verifier now audience with
  | .ok _ => .ok ()
  | .error _ => rejected "Publication authorization is invalid or expired"

variable {parsed : ParsedPublicationManifest} {input : PublicationInput} {now : Instant}

theorem verifyAuthorization_ok {verifier : AttestationVerifier}
    {audience : Audience} : verifyAuthorization crypto parsed verifier now audience = .ok () ↔
      ∃ claims, validatePublicationAuthorization crypto parsed verifier now audience = .ok claims := by
  unfold verifyAuthorization
  cases validatePublicationAuthorization crypto parsed verifier now audience <;> simp [rejected]

def keyOf (segments : List String) : String := crypto.sha256 ("\x00".intercalate segments)

/-! ### The GitHub publisher -/

namespace GitHub

structure PublicationResult where
  branch : String
  commitSha : String
  pullRequestNumber : Nat
  pullRequestUrl : String

def wrongPublisher {α : Type} : Except PublisherFault α := rejected "local publications must use the local publisher"

def publicationKey (manifest : PublicationManifestBody) (digest : String) : Except PublisherFault String :=
  match manifest.repository with
  | .localGit _ => wrongPublisher
  | .github _ _ _ repositoryId =>
    .ok (keyOf crypto [manifest.projectId,manifest.runId,toString repositoryId,manifest.policyDigest,digest])

theorem publicationKey_github {manifest : PublicationManifestBody} {digest owner name : String}
    {installationId repositoryId : Nat} (repository : manifest.repository = .github owner name installationId repositoryId) :
    publicationKey crypto manifest digest =
      .ok (keyOf crypto [manifest.projectId,manifest.runId,toString repositoryId,manifest.policyDigest,digest]) := by
  unfold publicationKey
  rw [repository]

def bindingKey (manifest : PublicationManifestBody) : Except PublisherFault String :=
  match manifest.repository with
  | .localGit _ => wrongPublisher
  | .github _ _ _ repositoryId => .ok (keyOf crypto [manifest.projectId,manifest.runId,toString repositoryId])

def sameRepository : PublicationRepository → PublicationRepository → Bool
  | .github owner name installationId repositoryId,.github owner' name' installationId' repositoryId' =>
    lowerCase owner = lowerCase owner' && lowerCase name = lowerCase name' && installationId = installationId' &&
      repositoryId = repositoryId'
  | _,_ => false

/-- The checks of `prepare` before it asks for the policy. -/
def prepared (selectedRepositories : List PublicationRepository) (verifier : AttestationVerifier) (input : PublicationInput)
    (now : Instant) : Except PublisherFault ParsedPublicationManifest :=
  match parsePublicationManifest crypto input with
  | .error fault => .error fault
  | .ok parsed =>
    match parsed.manifest.repository with
    | .localGit _ => wrongPublisher
    | repository =>
      if selectedRepositories.any fun candidate => sameRepository candidate repository then
        match verifyAuthorization crypto parsed verifier now .githubPublisher with
        | .error fault => .error fault
        | .ok _ => .ok parsed
      else rejected "Repository is not selected for publication"

end GitHub

/-! ### The local publisher -/

namespace LocalGit

structure LocalPublicationResult where
  branch : String
  commitSha : String
  repositoryUrl : String

def wrongPublisher {α : Type} : Except PublisherFault α :=
  rejected "GitHub publications must use the trusted GitHub publisher"

def publicationKey (manifest : PublicationManifestBody) (digest : String) : Except PublisherFault String :=
  match manifest.repository with
  | .github _ _ _ _ => wrongPublisher
  | .localGit name =>
    .ok (keyOf crypto ["local-git-publisher",manifest.projectId,manifest.runId,name,manifest.policyDigest,digest])

def bindingKey (manifest : PublicationManifestBody) : Except PublisherFault String :=
  match manifest.repository with
  | .github _ _ _ _ => wrongPublisher
  | .localGit _ => .ok (keyOf crypto ["local-git-publisher",manifest.projectId,manifest.runId])

def branchForRun (runId manifestDigest : String) : String :=
  "agentos/" ++ runId ++ "-" ++ String.ofList (manifestDigest.toList.take 8)

/-- The checks of `execute` before the policy's. -/
def prepared (verifier : AttestationVerifier) (input : PublicationInput) (now : Instant) :
    Except PublisherFault ParsedPublicationManifest :=
  match parsePublicationManifest crypto input with
  | .error fault => .error fault
  | .ok parsed =>
    match parsed.manifest.repository with
    | .github _ _ _ _ => wrongPublisher
    | .localGit _ =>
      match verifyAuthorization crypto parsed verifier now .localGitPublisher with
      | .error fault => .error fault
      | .ok _ => .ok parsed

end LocalGit

/-! ### Either publisher -/

inductive Publisher where
  | github (selectedRepositories : List PublicationRepository) (verifier : AttestationVerifier)
  | localGit (verifier : AttestationVerifier)

namespace Publisher

def audience : Publisher → Audience
  | .github _ _ => .githubPublisher
  | .localGit _ => .localGitPublisher

def verifier : Publisher → AttestationVerifier
  | .github _ verifier => verifier
  | .localGit verifier => verifier

def publicationKey : Publisher → PublicationManifestBody → String → Except PublisherFault String
  | .github _ _ => GitHub.publicationKey crypto
  | .localGit _ => LocalGit.publicationKey crypto

def prepared : Publisher → PublicationInput → Instant → Except PublisherFault ParsedPublicationManifest
  | .github selectedRepositories verifier => GitHub.prepared crypto selectedRepositories verifier
  | .localGit verifier => LocalGit.prepared crypto verifier

def Authorizes (publisher : Publisher) (input : PublicationInput) (now : Instant) : Prop :=
  ∃ parsed claims, parsePublicationManifest crypto input = .ok parsed ∧
    validatePublicationAuthorization crypto parsed publisher.verifier now publisher.audience = .ok claims

end Publisher

section
variable {selectedRepositories : List PublicationRepository} {verifier : AttestationVerifier}

theorem GitHub.prepared_ok (ok : GitHub.prepared crypto selectedRepositories verifier input now = .ok parsed) :
    parsePublicationManifest crypto input = .ok parsed ∧ verifyAuthorization crypto parsed verifier now .githubPublisher = .ok () := by
  unfold GitHub.prepared at ok
  cases found : parsePublicationManifest crypto input with
  | error fault =>
    rw [found] at ok
    cases ok
  | ok parsed' =>
    rw [found] at ok
    dsimp only at ok
    split at ok
    · cases ok
    split at ok
    · cases verified : verifyAuthorization crypto parsed' verifier now .githubPublisher with
      | error fault =>
        rw [verified] at ok
        cases ok
      | ok done =>
        rw [verified] at ok
        cases ok
        exact ⟨rfl,verified⟩
    · cases ok

theorem GitHub.prepared_of {owner name : String} {installationId repositoryId : Nat} (ok : parsePublicationManifest crypto input = .ok parsed)
    (repository : parsed.manifest.repository = .github owner name installationId repositoryId)
    (selected : selectedRepositories.any fun candidate => sameRepository candidate (.github owner name installationId repositoryId))
    (verified : verifyAuthorization crypto parsed verifier now .githubPublisher = .ok ()) :
    GitHub.prepared crypto selectedRepositories verifier input now = .ok parsed := by
  unfold GitHub.prepared
  rw [ok]
  dsimp only
  rw [repository]
  dsimp only
  rw [if_pos selected,verified]

end

section
variable {verifier : AttestationVerifier} (ok : LocalGit.prepared crypto verifier input now = .ok parsed)
include ok

theorem LocalGit.prepared_ok : parsePublicationManifest crypto input = .ok parsed ∧
      verifyAuthorization crypto parsed verifier now .localGitPublisher = .ok () := by
  unfold LocalGit.prepared at ok
  cases found : parsePublicationManifest crypto input with
  | error fault =>
    rw [found] at ok
    cases ok
  | ok parsed' =>
    rw [found] at ok
    dsimp only at ok
    split at ok
    · cases ok
    · cases verified : verifyAuthorization crypto parsed' verifier now .localGitPublisher with
      | error fault =>
        rw [verified] at ok
        cases ok
      | ok done =>
        rw [verified] at ok
        cases ok
        exact ⟨rfl,verified⟩

theorem LocalGit.prepared_repository : ∃ name, parsed.manifest.repository = .localGit name := by
  have found := (LocalGit.prepared_ok crypto ok).1
  unfold LocalGit.prepared at ok
  rw [found] at ok
  dsimp only at ok
  split at ok
  · cases ok
  · rename_i name same
    exact ⟨name,same⟩

end

theorem LocalGit.prepared_of {verifier : AttestationVerifier} {name : String} (ok : parsePublicationManifest crypto input = .ok parsed)
    (repository : parsed.manifest.repository = .localGit name)
    (verified : verifyAuthorization crypto parsed verifier now .localGitPublisher = .ok ()) :
    LocalGit.prepared crypto verifier input now = .ok parsed := by
  unfold LocalGit.prepared
  rw [ok]
  dsimp only
  rw [repository]
  dsimp only
  rw [verified]

theorem Publisher.prepared_authorizes {publisher : Publisher} (ok : publisher.prepared crypto input now = .ok parsed) :
    publisher.Authorizes crypto input now := by
  cases publisher with
  | github selectedRepositories verifier =>
    obtain ⟨found,verified⟩ := GitHub.prepared_ok crypto ok
    obtain ⟨claims,passed⟩ := (verifyAuthorization_ok crypto).mp verified
    exact ⟨parsed,claims,found,passed⟩
  | localGit verifier =>
    obtain ⟨found,verified⟩ := LocalGit.prepared_ok crypto ok
    obtain ⟨claims,passed⟩ := (verifyAuthorization_ok crypto).mp verified
    exact ⟨parsed,claims,found,passed⟩

end

end AgentOS.Publication
