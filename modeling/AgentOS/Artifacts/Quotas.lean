import AgentOS.Artifacts.Capabilities
import AgentOS.Library.Machines

/-! What capabilities may use, and who cleans up: the calls counted against a capability's quota, and the lease of the
cleanup, as the repository in memory keeps them. -/
namespace AgentOS.Artifacts.Quotas
open Library Written

/-! ### Quotas -/

structure ArtifactCapabilityQuotaRequest where
  purpose : String
  audience : String
  nonce : String
  fingerprint : String
  operationId : String
  bytes : Int
  maxCalls : Int
  maxCumulativeBytes : Int
  notBefore : IsoTimestamp
  expiresAt : IsoTimestamp
  now : IsoTimestamp

structure ArtifactCapabilityQuota where
  fingerprint : String
  notBefore : String
  expiresAt : String
  calls : Int
  cumulativeBytes : Int

structure ArtifactCapabilityQuotaResult where
  allowed : Bool
  replayed : Bool := false
  calls : Int
  cumulativeBytes : Int

abbrev QuotaTable : Type := OrderedMap String ArtifactCapabilityQuota

def validateArtifactQuotaRequest (request : ArtifactCapabilityQuotaRequest) : Checked Unit :=
  let texts := [("purpose",request.purpose),("audience",request.audience),("nonce",request.nonce),
    ("fingerprint",request.fingerprint),("operationId",request.operationId)]
  let numbers := [("bytes",request.bytes,0),("maxCalls",request.maxCalls,1),("maxCumulativeBytes",request.maxCumulativeBytes,1)]
  match texts.find? fun field => Workflow.trim field.2 = "" || 256 < utf16Length field.2 with
  | some field => .error (.other (field.1 ++ " is invalid"))
  | none => match numbers.find? fun field => ¬ isSafeInteger field.2.1 || field.2.1 < field.2.2 with
    | some field => .error (.other (field.1 ++ " is invalid"))
    | none =>
      if Repository.ARTIFACT_CAPABILITY_MAX_CALLS < request.maxCalls then .error (.other "maxCalls is invalid")
      else if Repository.ARTIFACT_CAPABILITY_MAX_CUMULATIVE_BYTES < request.maxCumulativeBytes then
        .error (.other "maxCumulativeBytes is invalid")
      else .ok ()

def quotaKey (purpose audience nonce : String) : String := purpose ++ "\x00" ++ audience ++ "\x00" ++ nonce

/-- Counts a call where the capability is in force, the stored quota is this very capability's and it is not used up. -/
def consumeArtifactCapabilityQuota (quotas : QuotaTable) (request : ArtifactCapabilityQuotaRequest) :
    Checked (ArtifactCapabilityQuotaResult × QuotaTable) :=
  validateArtifactQuotaRequest request >>= fun _ =>
  let key := quotaKey request.purpose request.audience request.nonce
  if ¬ (request.notBefore.epochMicroseconds ≤ request.now.epochMicroseconds ∧
      request.now.epochMicroseconds < request.expiresAt.epochMicroseconds) then
    .ok ({allowed := false,calls := 0,cumulativeBytes := 0},quotas)
  else match quotas.get? key with
    | none =>
      if request.maxCalls < 1 ∨ request.maxCumulativeBytes < request.bytes then
        .ok ({allowed := false,calls := 0,cumulativeBytes := 0},quotas)
      else .ok ({allowed := true,calls := 1,cumulativeBytes := request.bytes},quotas.set key {
        fingerprint := request.fingerprint
        notBefore := request.notBefore.text
        expiresAt := request.expiresAt.text
        calls := 1
        cumulativeBytes := request.bytes})
    | some existing =>
      if existing.fingerprint ≠ request.fingerprint ∨ existing.notBefore ≠ request.notBefore.text ∨
          existing.expiresAt ≠ request.expiresAt.text then
        .ok ({allowed := false,calls := existing.calls,cumulativeBytes := existing.cumulativeBytes},quotas)
      else if request.maxCalls ≤ existing.calls ∨ request.maxCumulativeBytes < existing.cumulativeBytes + request.bytes then
        .ok ({allowed := false,calls := existing.calls,cumulativeBytes := existing.cumulativeBytes},quotas)
      else
        let calls := existing.calls + 1
        let cumulativeBytes := existing.cumulativeBytes + request.bytes
        .ok ({allowed := true,calls,cumulativeBytes},quotas.set key {existing with calls,cumulativeBytes})

structure ArtifactCapabilityQuotaConsumption where
  operationId : String
  bytes : Int
  now : Int

section
variable (platform : Platform)

def claimsFingerprint (claims : Capabilities.ArtifactCapabilityClaims) : String :=
  platform.sha256 (Json.stringify (.arr [.str claims.purpose,.str claims.audience,.arr (claims.methods.map .str),
    .str claims.projectId,.str claims.runId,.str claims.stepId,claims.keyPrefix.elim .null .str,.num claims.maxBytes,
    .num claims.maxCalls,.num claims.maxCumulativeBytes,.str claims.notBefore,.str claims.expiresAt,.str claims.nonce])).toUTF8

def quotaRequest (claims : Capabilities.ArtifactCapabilityClaims) (consumption : ArtifactCapabilityQuotaConsumption) :
    Checked ArtifactCapabilityQuotaRequest :=
  readTimestamp claims.notBefore >>= fun notBefore =>
  readTimestamp claims.expiresAt >>= fun expiresAt =>
  dateText consumption.now >>= fun text =>
  readTimestamp text >>= fun now =>
  .ok {
    purpose := claims.purpose
    audience := claims.audience
    nonce := claims.nonce
    fingerprint := claimsFingerprint platform claims
    operationId := consumption.operationId
    bytes := consumption.bytes
    maxCalls := claims.maxCalls
    maxCumulativeBytes := claims.maxCumulativeBytes
    notBefore := notBefore
    expiresAt := expiresAt
    now := now}

structure QuotaCall where
  claims : Capabilities.ArtifactCapabilityClaims
  consumption : ArtifactCapabilityQuotaConsumption

def consume (quotas : QuotaTable) (call : QuotaCall) : Checked Unit × QuotaTable :=
  match quotaRequest platform call.claims call.consumption >>= consumeArtifactCapabilityQuota quotas with
  | .error error => (.error error,quotas)
  | .ok (result,later) =>
    (if ¬ result.allowed then .error (.adapter "artifact_quota_exhausted" "artifact capability quota exhausted" 429) else .ok (),later)

end

/-! ### The cleanup lease -/

structure ArtifactCleanupLeaseRequest where
  owner : String
  now : IsoTimestamp
  expiresAt : IsoTimestamp

structure ArtifactCleanupLease where
  owner : String
  expiresAt : IsoTimestamp

def validateLeaseRequest (request : ArtifactCleanupLeaseRequest) : Checked Unit :=
  if Workflow.trim request.owner = "" ∨ 256 < utf16Length request.owner then .error (.other "cleanup lease owner is invalid")
  else if request.expiresAt.epochMicroseconds ≤ request.now.epochMicroseconds then
    .error (.other "cleanup lease expiry must be after now")
  else .ok ()

variable (lease : Option ArtifactCleanupLease)

def claimArtifactCleanupLease (request : ArtifactCleanupLeaseRequest) : Checked Bool × Option ArtifactCleanupLease :=
  match validateLeaseRequest request with
  | .error error => (.error error,lease)
  | .ok _ =>
    if lease.any fun lease => request.now.epochMicroseconds < lease.expiresAt.epochMicroseconds then (.ok false,lease)
    else (.ok true,some {owner := request.owner,expiresAt := request.expiresAt})

def renewArtifactCleanupLease (request : ArtifactCleanupLeaseRequest) : Checked Bool × Option ArtifactCleanupLease :=
  match validateLeaseRequest request with
  | .error error => (.error error,lease)
  | .ok _ => match lease with
    | none => (.ok false,none)
    | some held =>
      if held.owner ≠ request.owner ∨ held.expiresAt.epochMicroseconds ≤ request.now.epochMicroseconds then (.ok false,lease)
      else (.ok true,some {owner := request.owner,expiresAt := request.expiresAt})

inductive LeaseCall where
  | claim (request : ArtifactCleanupLeaseRequest)
  | renew (request : ArtifactCleanupLeaseRequest)

def LeaseCall.request : LeaseCall → ArtifactCleanupLeaseRequest
  | .claim request => request
  | .renew request => request

def leaseStep : LeaseCall → Checked Bool × Option ArtifactCleanupLease
  | .claim request => claimArtifactCleanupLease lease request
  | .renew request => renewArtifactCleanupLease lease request

end AgentOS.Artifacts.Quotas
