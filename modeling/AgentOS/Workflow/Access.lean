import AgentOS.Workflow.Session

/-! The access of a session as the production handler prepares it: the files it
mounts and a capability for the run's artifacts. Every artifact call made with a
capability is counted against its quota. -/
namespace AgentOS.Workflow
open Library Routine AgentOS.Action

/-! ### Capabilities -/

def ARTIFACT_CAPABILITY_MAX_LIFETIME_MS : Int := 60 * 60 * 1000

def ARTIFACT_CAPABILITY_MAX_FUTURE_MS : Int := 5 * 60 * 1000

def DEFAULT_ARTIFACT_MAX_BYTES : Int := 16 * 1024 * 1024

def isSafeCharacter (char : Char) : Bool := char.isAlphanum || char ∈ ['.','_','-']

def safeClaim (value : String) : Bool :=
  (value.toList.head?.any Char.isAlphanum) && value.toList.all isSafeCharacter && value.length ≤ 128 &&
    ¬ Outbox.includes value ".."

def invalidClaim (claims : ArtifactCapabilityClaims) (now : Instant) : Option String :=
  if ¬ safeClaim claims.audience then some "audience is invalid"
  else if ¬ safeClaim claims.purpose then some "purpose is invalid"
  else if ¬ safeClaim claims.projectId then some "projectId is invalid"
  else if ¬ safeClaim claims.runId then some "runId is invalid"
  else if ¬ safeClaim claims.stepId then some "stepId is invalid"
  else if claims.keyPrefix.any (¬ safeClaim ·) then some "prefix is invalid"
  else if ¬ isSafeInteger claims.maxBytes ∨ claims.maxBytes < 1 ∨ claims.maxBytes > DEFAULT_ARTIFACT_MAX_BYTES then
    some "maxBytes is invalid"
  else if ¬ isSafeInteger claims.maxCalls ∨ claims.maxCalls < 1 ∨
      claims.maxCalls > Repository.ARTIFACT_CAPABILITY_MAX_CALLS then some "maxCalls is invalid"
  else if ¬ isSafeInteger claims.maxCumulativeBytes ∨ claims.maxCumulativeBytes < 1 ∨
      claims.maxCumulativeBytes > Repository.ARTIFACT_CAPABILITY_MAX_CUMULATIVE_BYTES then
    some "maxCumulativeBytes is invalid"
  else if claims.methods = [] then some "methods must not be empty"
  else if ¬ claims.methods.Nodup then some "Artifact capability method is invalid"
  else if claims.notBefore > now + ARTIFACT_CAPABILITY_MAX_FUTURE_MS then
    some "Artifact capability notBefore is too far in the future"
  else if claims.expiresAt ≤ claims.notBefore ∨
      claims.expiresAt - min claims.notBefore now > ARTIFACT_CAPABILITY_MAX_LIFETIME_MS then
    some "Artifact capability lifetime is invalid"
  else none

/-- The capability of a step's session. Its nonce is a digest of the access key alone. -/
def artifactCapability (request : AccessRequest) (issuedAt : Instant) : ArtifactCapabilityClaims where
  purpose := "agent-artifact-access"
  audience := "artifact-mcp"
  methods := [.get,.put,.list]
  projectId := request.workflow.projectId
  runId := request.workflow.runId
  stepId := request.logicalStepId
  maxBytes := 1000000
  maxCalls := 1000
  maxCumulativeBytes := 16 * 1024 * 1024
  notBefore := issuedAt
  expiresAt := issuedAt + 59 * 60000
  nonce := .str request.idempotencyKey

/-- Signs a capability. What was signed is the one thing that verifies later. -/
def issueCapability (claims : ArtifactCapabilityClaims) (issuedAt : Instant) : Action Unit :=
  match invalidClaim claims issuedAt with
  | some reason => throw (.error reason)
  | none => atomic fun world => (.ok (),world.log (.capabilityIssued claims))

/-! ### Preparation -/

/-- What the preparation of an access finds outside: whether its role's sessions
run in this process, what keeps it from being prepared, and what provisions it. -/
structure AccessPreparation where
  staged : FeatureRole → Bool := fun _ => false
  unavailable : Nat → AccessRequest → Option Fault := fun _ _ => none
  provisioned : Nat → AccessRequest → List FileResource × List String := fun _ _ => ([],[])

def stageOrUpload (env : Environment) (preparation : AccessPreparation) (request : AccessRequest) :
    Action RuntimeAccess := do
  let (resources,credentialRefs) ← ask env fun tick => preparation.provisioned tick request
  pure {resources := resources,credentialRefs := credentialRefs,ephemeral := preparation.staged request.role}

def prepareRuntimeAccess (env : Environment) (preparation : AccessPreparation) (request : AccessRequest) :
    Action RuntimeAccess := do
  match ← ask env fun tick => preparation.unavailable tick request with
  | some fault => throw fault
  | none =>
    if request.role = .verification then stageOrUpload env preparation request
    else do
      let issuedAt ← now env
      issueCapability (artifactCapability request issuedAt) issuedAt
      stageOrUpload env preparation request

/-! ### Artifact calls -/

def claimsFingerprint (claims : ArtifactCapabilityClaims) : Fingerprint :=
  .arr [.str claims.purpose,.str claims.audience,.arr (claims.methods.map method),.str claims.projectId,.str claims.runId,
    .str claims.stepId,claims.keyPrefix.elim .null .str,.num claims.maxBytes,.num claims.maxCalls,
    .num claims.maxCumulativeBytes,.timestamp claims.notBefore,.timestamp claims.expiresAt,claims.nonce]
where
  method : ArtifactCapabilityMethod → Json
    | .get => .str "artifact.get"
    | .put => .str "artifact.put"
    | .list => .str "artifact.list"

def quotaRequest (claims : ArtifactCapabilityClaims) (bytes : Int) (now : Instant) : ArtifactCapabilityQuotaRequest where
  purpose := claims.purpose
  audience := claims.audience
  nonce := claims.nonce
  fingerprint := claimsFingerprint claims
  bytes := bytes
  maxCalls := claims.maxCalls
  maxCumulativeBytes := claims.maxCumulativeBytes
  notBefore := claims.notBefore
  expiresAt := claims.expiresAt
  now := now

def covers (claims : ArtifactCapabilityClaims) (method : ArtifactCapabilityMethod) (bytes : Int) (now : Instant) : Bool :=
  claims.notBefore ≤ now && now < claims.expiresAt && method ∈ claims.methods && isSafeInteger bytes && 0 ≤ bytes &&
    bytes ≤ claims.maxBytes

section
variable (env : Environment) (claims : ArtifactCapabilityClaims)

def verifyCapability (method : ArtifactCapabilityMethod) (bytes : Int) : Action Unit :=
  call env fun at_ world =>
    if .capabilityIssued claims ∈ world.journal ∧ covers claims method bytes at_ then (.ok (),world)
    else (.error (.service "artifact_capability_denied" "artifact capability denied" 403),world)

def consumeQuota (bytes : Int) : Action Unit :=
  call env fun at_ world => match world.repository.consumeArtifactCapabilityQuota (quotaRequest claims bytes at_) with
    | .error fault => (.error fault,world)
    | .ok (allowed,repository) =>
      let counted := World.log {world with repository := repository} (.artifactCalled claims bytes at_ allowed)
      (if allowed then .ok () else .error (.service "artifact_quota_exhausted" "artifact capability quota exhausted" 429),
        counted)

/-- An agent's call of an artifact tool, as far as its capability is concerned. -/
def callArtifact (method : ArtifactCapabilityMethod) (bytes : Int) : Action Unit := do
  verifyCapability env claims method bytes
  consumeQuota env claims bytes

end

end AgentOS.Workflow
