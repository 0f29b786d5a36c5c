import AgentOS.Publication.Manifest

/-! Publication authorizations: signed claims that bind a manifest to a publisher for a while. -/
namespace AgentOS.Publication
open Gate

/-- The digests and signatures that the language provides. -/
structure Crypto where
  sha256 : String → String
  hmac : String → String → String

inductive Audience where
  | githubPublisher
  | localGitPublisher

def Audience.text : Audience → String
  | .githubPublisher => "github-publisher"
  | .localGitPublisher => "local-git-publisher"

structure PublicationAuthorizationClaims where
  audience : Audience
  projectId : String
  runId : String
  stepId : String
  repository : PublicationRepository
  expectedBase : ExpectedBase
  configDigest : String
  policyDigest : String
  sourceSnapshotDigest : String
  testEvidenceDigest : String
  manifestDigest : String
  nonce : String
  expiresAt : Instant

namespace PublicationAuthorizationClaims

section
variable (claims : PublicationAuthorizationClaims)

def binding : List (String × Json) :=
  [("purpose",.str "publish-draft-pr"),("audience",.str claims.audience.text),("projectId",.str claims.projectId),
    ("runId",.str claims.runId),("stepId",.str claims.stepId),("repository",claims.repository.json),
    ("expectedBase",claims.expectedBase.json),("configDigest",.str claims.configDigest),
    ("policyDigest",.str claims.policyDigest),("sourceSnapshotDigest",.str claims.sourceSnapshotDigest),
    ("testEvidenceDigest",.str claims.testEvidenceDigest),("manifestDigest",.str claims.manifestDigest)]

def json : Json :=
  .obj (claims.binding ++ [("nonce",.str claims.nonce),("expiresAt",.timestamp claims.expiresAt)])

def valid : Bool :=
  isIdentifier claims.projectId && isIdentifier claims.runId && isIdentifier claims.stepId && claims.repository.valid &&
    claims.expectedBase.valid && isDigest claims.configDigest && isDigest claims.policyDigest &&
    isDigest claims.sourceSnapshotDigest && isDigest claims.testEvidenceDigest && isDigest claims.manifestDigest &&
    isIdentifier claims.nonce

end

end PublicationAuthorizationClaims

structure SignedAttestation where
  version : Nat := 1
  keyId : String
  kind : String
  subject : String
  claims : PublicationAuthorizationClaims
  claimHash : String
  issuedAt : Instant
  signature : String

def SignedAttestation.valid (attestation : SignedAttestation) : Bool :=
  attestation.version = 1 && sized 1 128 attestation.keyId && attestation.kind = "github-publication" &&
    sized 1 512 attestation.subject && attestation.claims.valid && isDigest attestation.claimHash &&
    isDigest attestation.signature

/-! ### Issuing and verifying -/

section Attestation
variable (crypto : Crypto)

def hashClaims (claims : PublicationAuthorizationClaims) : String := crypto.sha256 (canonicalJsonValue claims.json)

def signaturePayload (version : Nat) (keyId kind subject claimHash : String) (issuedAt : Instant) : String :=
  canonicalJsonValue (.obj [("version",.num version),("keyId",.str keyId),("kind",.str kind),("subject",.str subject),
    ("claimHash",.str claimHash),("issuedAt",.timestamp issuedAt)])

def derivePurposeKey (secret kind : String) : String := crypto.hmac secret ("agentos-attestation-purpose:v1\x00" ++ kind)

def sign (purposeKey payload : String) : String := crypto.hmac purposeKey payload

structure AttestationKey where
  keyId : String
  secret : String

def issue (kind : String) (key : AttestationKey) (subject : String) (claims : PublicationAuthorizationClaims)
    (issuedAt : Instant) : SignedAttestation where
  keyId := key.keyId
  kind := kind
  subject := subject
  claims := claims
  claimHash := hashClaims crypto claims
  issuedAt := issuedAt
  signature := sign crypto (derivePurposeKey crypto key.secret kind)
    (signaturePayload 1 key.keyId kind subject (hashClaims crypto claims) issuedAt)

structure AttestationVerifier where
  kind : String
  keys : List AttestationKey

def AttestationVerifier.verify (verifier : AttestationVerifier) (attestation : SignedAttestation) (subject : String) :
    Option PublicationAuthorizationClaims :=
  if attestation.version ≠ 1 ∨ attestation.kind ≠ verifier.kind ∨ attestation.subject ≠ subject then none
  else match verifier.keys.find? fun key => key.keyId = attestation.keyId with
    | none => none
    | some key =>
      if hashClaims crypto attestation.claims ≠ attestation.claimHash then none
      else
        let payload := signaturePayload 1 attestation.keyId attestation.kind attestation.subject attestation.claimHash
          attestation.issuedAt
        if isDigest attestation.signature ∧
            attestation.signature = sign crypto (derivePurposeKey crypto key.secret verifier.kind) payload then
          some attestation.claims
        else none

end Attestation

/-! ### The publication input -/

structure PublicationInput where
  manifest : PublicationManifestBody
  authorization : SignedAttestation

structure ParsedPublicationManifest where
  manifest : PublicationManifestBody
  manifestDigest : String
  authorization : SignedAttestation

section
variable (crypto : Crypto)

def parsePublicationManifest (input : PublicationInput) : Except PublisherFault ParsedPublicationManifest :=
  if !input.manifest.valid || !input.authorization.valid then .error (.error "Invalid input")
  else do
    checkChanges [] [] 0 input.manifest.changes
    return {manifest := input.manifest
            manifestDigest := canonicalPublicationManifestDigest crypto.sha256 (.manifest input.manifest)
            authorization := input.authorization}

section
variable (manifest : PublicationManifestBody) (manifestDigest : String)

def authorizationSubject : String :=
  manifest.projectId ++ ":" ++ manifest.runId ++ ":" ++ manifestDigest

def expectedClaims (audience : Audience) (nonce : String) (expiresAt : Instant) : PublicationAuthorizationClaims where
  audience := audience
  projectId := manifest.projectId
  runId := manifest.runId
  stepId := manifest.stepId
  repository := manifest.repository
  expectedBase := manifest.expectedBase
  configDigest := manifest.configDigest
  policyDigest := manifest.policyDigest
  sourceSnapshotDigest := manifest.sourceSnapshotDigest
  testEvidenceDigest := canonicalPublicationManifestDigest crypto.sha256 (.evidence manifest.testEvidence)
  manifestDigest := manifestDigest
  nonce := nonce
  expiresAt := expiresAt

end

def PUBLICATION_AUTHORIZATION_MAX_TTL_MS : Int := 15 * 60 * 1000

def validatePublicationAuthorization (parsed : ParsedPublicationManifest) (verifier : AttestationVerifier) (now : Instant)
    (audience : Audience) : Except PublisherFault PublicationAuthorizationClaims :=
  match verifier.verify crypto parsed.authorization (authorizationSubject parsed.manifest parsed.manifestDigest) with
  | none => .error (.error "Publication authorization is invalid")
  | some claims =>
    let expected := expectedClaims crypto parsed.manifest parsed.manifestDigest audience claims.nonce claims.expiresAt
    let issuedAt := parsed.authorization.issuedAt
    if !claims.valid || canonicalJsonValue (.obj claims.binding) ≠ canonicalJsonValue (.obj expected.binding) then
      .error (.error "Publication authorization is invalid")
    else if claims.expiresAt ≤ now then .error (.error "Publication authorization has expired")
    else if claims.expiresAt ≤ issuedAt ∨ claims.expiresAt - issuedAt > PUBLICATION_AUTHORIZATION_MAX_TTL_MS then
      .error (.error "Publication authorization validity window is invalid")
    else if issuedAt > now + 60000 then .error (.error "Publication authorization is not yet valid")
    else .ok claims

end

end AgentOS.Publication
