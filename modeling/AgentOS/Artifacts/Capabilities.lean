import AgentOS.Artifacts.Tokens
import AgentOS.Artifacts.Written
import AgentOS.Workflow.Access

/-! Artifact capabilities as they are passed around: claims signed into a text, and the text verified against the keys of a
ring, a time and what is asked for. -/
namespace AgentOS.Artifacts.Capabilities
open Library Tokens

inductive CapabilityFault where
  | error (message : String)
  | denied (message : String)

abbrev Answer (α : Type) : Type := Except CapabilityFault α

def denied : CapabilityFault := .denied "artifact capability denied"

structure ArtifactCapabilityClaims where
  purpose : String
  audience : String
  methods : List String
  projectId : String
  runId : String
  stepId : String
  keyPrefix : Option String := none
  maxBytes : Int
  maxCalls : Int
  maxCumulativeBytes : Int
  expiresAt : String
  notBefore : String
  nonce : String
  deriving DecidableEq

structure ArtifactCapabilityVerification where
  purpose : String
  audience : String
  method : Option String := none
  now : Option Int := none
  projectId : Option String := none
  runId : Option String := none
  stepId : Option String := none
  artifactId : Option String := none
  bytes : Option Int := none

/-! ### Keys -/

def isSafe (value : String) : Bool :=
  value.toList.head?.any Char.isAlphanum && value.toList.all Workflow.isSafeCharacter && decide (value.length ≤ 128)

def isNonce (value : String) : Bool :=
  value.toList.all (fun char => char.isAlphanum || char = '_' || char = '-') && decide (16 ≤ value.length ∧ value.length ≤ 128)

def METHODS : List String := ["artifact.get","artifact.put","artifact.list"]

def keySecret (value : KeySecret) : Answer (List UInt8) :=
  if value.read.length < 32 then .error (.error "Artifact capability secret must contain at least 32 bytes") else .ok value.read

def configuredKey (key : SigningKey) : Answer (String × List UInt8) :=
  if ¬ isSafe key.keyId then .error (.error "Artifact capability keyId is invalid")
  else keySecret key.secret >>= fun secret => .ok (key.keyId,secret)

def capability : TokenKind where
  tag := "aoc1"
  domain := "agentos-artifact-capability:v1\x00"

/-! ### Claims -/

def iso (value label : String) : Answer Int :=
  match canonicalTime value with
  | none => .error (.error (label ++ " must be canonical ISO-8601"))
  | some milliseconds => .ok milliseconds

def safeClaim (value label : String) : Answer String :=
  if ¬ isSafe value ∨ Outbox.includes value ".." ∨ value.toList.head? = some '.' then .error (.error (label ++ " is invalid"))
  else .ok value

def boundedClaim (value most : Int) (label : String) : Answer Int :=
  if ¬ isSafeInteger value ∨ value < 1 ∨ most < value then .error (.error (label ++ " is invalid")) else .ok value

variable (claims : ArtifactCapabilityClaims)

def normalizeClaims (now : Int) : Answer ArtifactCapabilityClaims :=
  safeClaim claims.audience "audience" >>= fun _ =>
  safeClaim claims.purpose "purpose" >>= fun _ =>
  safeClaim claims.projectId "projectId" >>= fun _ =>
  safeClaim claims.runId "runId" >>= fun _ =>
  safeClaim claims.stepId "stepId" >>= fun _ =>
  (match claims.keyPrefix with
    | none => .ok ""
    | some start => safeClaim start "prefix") >>= fun _ =>
  if ¬ isNonce claims.nonce then .error (.error "nonce is invalid")
  else
    boundedClaim claims.maxBytes Workflow.DEFAULT_ARTIFACT_MAX_BYTES "maxBytes" >>= fun _ =>
    boundedClaim claims.maxCalls Repository.ARTIFACT_CAPABILITY_MAX_CALLS "maxCalls" >>= fun _ =>
    boundedClaim claims.maxCumulativeBytes Repository.ARTIFACT_CAPABILITY_MAX_CUMULATIVE_BYTES "maxCumulativeBytes" >>= fun _ =>
    if claims.methods = [] then .error (.error "methods must not be empty")
    else if ¬ claims.methods.Nodup ∨ claims.methods.any (¬ METHODS.contains ·) then
      .error (.error "Artifact capability method is invalid")
    else
      iso claims.expiresAt "expiresAt" >>= fun expires =>
      iso claims.notBefore "notBefore" >>= fun notBefore =>
      if now + Workflow.ARTIFACT_CAPABILITY_MAX_FUTURE_MS < notBefore then
        .error (.error "Artifact capability notBefore is too far in the future")
      else if expires ≤ notBefore ∨ Workflow.ARTIFACT_CAPABILITY_MAX_LIFETIME_MS < expires - min notBefore now then
        .error (.error "Artifact capability lifetime is invalid")
      else .ok claims

/-! ### Issuing -/

def claimsFields : List (String × Json) :=
  [("purpose",.str claims.purpose),("audience",.str claims.audience),("methods",.arr (claims.methods.map .str)),
    ("projectId",.str claims.projectId),("runId",.str claims.runId),("stepId",.str claims.stepId)] ++
  (claims.keyPrefix.toList.map fun start => ("prefix",.str start)) ++
  [("maxBytes",.num claims.maxBytes),("maxCalls",.num claims.maxCalls),("maxCumulativeBytes",.num claims.maxCumulativeBytes),
    ("expiresAt",.str claims.expiresAt),("notBefore",.str claims.notBefore),("nonce",.str claims.nonce)]

def payloadFields (issuedAt : String) : List (String × Json) :=
  [("version",.num 1),("issuedAt",.str issuedAt),("claims",.obj (claimsFields claims))]

variable (hmac : Hmac)

def issue (key : String × List UInt8) (claims : ArtifactCapabilityClaims) (now : Int) : Answer String :=
  normalizeClaims claims now >>= fun normalized =>
  if ¬ isTime now then .error (.error "Invalid time value")
  else .ok (capability.token hmac key.1 key.2 (canonicalJsonValue (.obj (payloadFields normalized (toISOString now)))))

/-! ### Verifying -/

/-- Claims as they are read from a payload. What has another type than its claim has is no claim. -/
def claimsOf (value : Json) : Option ArtifactCapabilityClaims :=
  let text (name : String) := (value.field? name).bind Json.string?
  let number (name : String) := (value.field? name).bind Json.number?
  text "purpose" >>= fun purpose =>
  text "audience" >>= fun audience =>
  (match value.field? "methods" with
    | some (.arr items) => items.mapM Json.string?
    | _ => none) >>= fun methods =>
  text "projectId" >>= fun projectId =>
  text "runId" >>= fun runId =>
  text "stepId" >>= fun stepId =>
  (match value.field? "prefix" with
    | none => some none
    | some start => start.string?.map some) >>= fun keyPrefix =>
  number "maxBytes" >>= fun maxBytes =>
  number "maxCalls" >>= fun maxCalls =>
  number "maxCumulativeBytes" >>= fun maxCumulativeBytes =>
  text "expiresAt" >>= fun expiresAt =>
  text "notBefore" >>= fun notBefore =>
  text "nonce" >>= fun nonce =>
  some {purpose,audience,methods,projectId,runId,stepId,keyPrefix,maxBytes,maxCalls,maxCumulativeBytes,expiresAt,notBefore,nonce}

def parsePayload (encoded : String) (now : Int) : Answer ArtifactCapabilityClaims :=
  match ((decodePart encoded).bind decodeText).bind Json.parse with
  | none => .error denied
  | some value => match value.field? "version",(value.field? "issuedAt").bind Json.string?,value.field? "claims" with
    | some (.num 1),some issuedAt,some (.obj fields) => match canonicalTime issuedAt with
      | none => .error denied
      | some issued =>
        if now + Workflow.ARTIFACT_CAPABILITY_MAX_FUTURE_MS < issued then .error (.denied "artifact capability is from the future")
        else match claimsOf (.obj fields) with
          | none => .error denied
          | some claims => match normalizeClaims claims issued with
            | .error _ => .error denied
            | .ok claims => .ok claims
    | _,_,_ => .error denied

def configuredKeys (keys : List SigningKey) (known : OrderedMap String (List UInt8)) : Answer (OrderedMap String (List UInt8)) :=
  match keys with
  | [] => .ok known
  | key::keys => configuredKey key >>= fun (keyId,secret) =>
    if (known.get? keyId).isSome then .error (.error ("Duplicate artifact capability keyId: " ++ keyId))
    else configuredKeys keys (known.set keyId secret)

def createArtifactCapabilityVerifier (keys : List SigningKey) : Answer (OrderedMap String (List UInt8)) :=
  if keys = [] then .error (.error "At least one artifact capability key is required") else configuredKeys keys OrderedMap.empty

def mismatches (expected : ArtifactCapabilityVerification) : Bool :=
  claims.purpose ≠ expected.purpose || claims.audience ≠ expected.audience ||
    expected.method.any (fun method => ¬ claims.methods.contains method) ||
    expected.projectId.any (fun projectId => claims.projectId ≠ projectId) ||
    expected.runId.any (fun runId => claims.runId ≠ runId) || expected.stepId.any (fun stepId => claims.stepId ≠ stepId) ||
    expected.artifactId.any (fun artifactId => claims.keyPrefix.any fun start => ¬ start.toList.isPrefixOf artifactId.toList) ||
    expected.bytes.any (fun bytes => ¬ isSafeInteger bytes || bytes < 0 || claims.maxBytes < bytes)

def verify (keys : OrderedMap String (List UInt8)) (token : String) (expected : ArtifactCapabilityVerification) (clock : Int) :
    Answer ArtifactCapabilityClaims :=
  if 8192 < utf16Length token then .error denied
  else match capability.accept hmac keys.get? token with
    | none => .error denied
    | some encoded =>
      let now := expected.now.getD clock
      parsePayload encoded now >>= fun claims =>
      if (canonicalTime claims.notBefore).any (now < ·) then .error (.denied "artifact capability is not active")
      else if (canonicalTime claims.expiresAt).any (· ≤ now) then .error (.denied "artifact capability is expired")
      else if mismatches claims expected then .error denied
      else .ok claims

end AgentOS.Artifacts.Capabilities
