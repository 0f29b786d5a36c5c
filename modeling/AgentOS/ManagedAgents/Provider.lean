import AgentOS.Library.OrderedMap
import AgentOS.Library.Routine
import AgentOS.Stringify

/-! The Managed Agents provider: it keeps the agents and environments of the
projects in step with a remote workspace, starts sessions there, and acts on the
sessions, files and vaults that a handle names. -/
namespace AgentOS.ManagedAgents
open Library Routine

/-! ### The remote workspace -/

structure ResourceMetadata where
  localId : Option String := none
  configDigest : Option Fingerprint := none
  owner : Option String := none
  deriving DecidableEq

structure Resource where
  name : String
  metadata : ResourceMetadata
  definition : Json
  earlier : List Json := []
  archived : Bool := false
  deriving DecidableEq

def Resource.version (resource : Resource) : Nat := resource.earlier.length + 1

def Resource.at (resource : Resource) (version : Nat) : Option Json :=
  if version = 0 then none else (resource.definition::resource.earlier).reverse[version - 1]?

/-- What a session carries about its owner. A digest of a capability is kept as
the capability; one that is malformed is none. -/
structure SessionMetadata where
  runId : Option String := none
  stepId : Option String := none
  roleId : Option String := none
  agentDigest : Option Fingerprint := none
  environmentDigest : Option Fingerprint := none
  capabilityHash : Option String := none
  idempotencyKeyHash : Option String := none
  deadline : Option Instant := none
  deriving DecidableEq

structure FileResource where
  fileId : String
  mountPath : Option String := none
  deriving DecidableEq

structure RemoteSession where
  agent : String × Nat
  environmentId : String
  metadata : SessionMetadata
  events : List Json := []
  resources : List FileResource := []
  vaultIds : Option (List String) := none
  budget : Option Nat := none
  archived : Bool := false
  deriving DecidableEq

structure RemoteVault where
  archived : Bool := false
  deriving DecidableEq

structure Workspace where
  agents : OrderedMap String Resource := .empty
  environments : OrderedMap String Resource := .empty
  sessions : OrderedMap String RemoteSession := .empty
  files : OrderedMap String String := .empty
  vaults : OrderedMap String RemoteVault := .empty
  deriving DecidableEq

structure ClientError where
  status : Option Int := none
  type : Option String := none
  deriving DecidableEq

inductive ProviderFault where
  | configuration (message : String)
  | conflict (message : String)
  | limit (message : String)
  | provider (status : Option Int) (code : Option String)
  | error (message : String)
  | client (error : ClientError)
  deriving DecidableEq

inductive ServiceOutage where
  | none
  | refused (error : ClientError)
  | lost (error : ClientError)

structure Options where
  maxRemoteResources : Nat := 1000
  maxEventBytes : Nat := 256 * 1024
  allowUnrestrictedNetworking : Bool := false
  allowBuiltInWebEgress : Bool := false
  ownershipSecret : String := ""

structure Service where
  outage : Nat → ServiceOutage := fun _ => .none
  newId : Nat → String := fun tick => toString tick
  status : Nat → String → Option String := fun _ _ => some "idle"
  clock : Nat → Instant := fun _ => 0
  randomToken : Nat → String := fun tick => toString tick
  hmac : String → Json → String := fun secret value => secret ++ value.stringify

structure ResolvedAgent where
  id : String
  version : Nat
  digest : Fingerprint
  usesBuiltInWebEgress : Bool

structure ResolvedEnvironment where
  id : String
  digest : Fingerprint
  unrestrictedNetworking : Bool

structure Provider where
  remote : Workspace := {}
  agents : OrderedMap String ResolvedAgent := .empty
  environments : OrderedMap String ResolvedEnvironment := .empty
  cleanedSessions : List String := []
  tick : Nat := 0

abbrev Action := Routine Provider ProviderFault

def PROVIDER_ERROR_CODES : List String :=
  ["api_error","authentication_error","billing_error","invalid_request_error","not_found_error","overloaded_error",
    "permission_error","rate_limit_error","timeout_error"]

def providerError (error : ClientError) : ProviderFault :=
  .provider (error.status.filter isSafeInteger) (error.type.filter (· ∈ PROVIDER_ERROR_CODES))

def isProviderNotFound : ProviderFault → Bool
  | .provider status code => status = some 404 || code = some "not_found_error"
  | _ => false

def notFound : ClientError := {status := some 404,type := some "not_found_error"}

def request {α : Type} (service : Service) (serve : Workspace → Except ClientError α × Workspace) : Action α :=
  atomic fun provider =>
    let ticked := {provider with tick := provider.tick + 1}
    let served := serve provider.remote
    let answer := served.1.mapError ProviderFault.client
    match service.outage provider.tick with
    | .none => (answer,{ticked with remote := served.2})
    | .refused error => (.error (.client error),ticked)
    | .lost error => (.error (.client error),{ticked with remote := served.2})

def wrapped (mapConflict : Bool) : ProviderFault → ProviderFault
  | .client error =>
    if mapConflict ∧ error.status = some 409 then .conflict "Remote resource changed during synchronization"
    else providerError error
  | fault => fault

def wrap {α : Type} (mapConflict : Bool) (operation : Action α) : Action α := do
  match ← operation.outcome with
  | .ok value => pure value
  | .error fault => throw (wrapped mapConflict fault)

theorem exec_wrap {α : Type} (operation : Action α) (mapConflict : Bool) (provider : Provider) :
    (wrap mapConflict operation).exec provider =
      ((operation.exec provider).1.mapError (wrapped mapConflict),(operation.exec provider).2) := by
  unfold wrap
  rw [exec_bind,exec_outcome]
  rcases operation.exec provider with ⟨answer,after⟩
  cases answer <;> rfl

def remember (change : Provider → Provider) : Action Unit := atomic fun provider => (.ok (),change provider)

def recollect {α : Type} (read : Provider → α) : Action α := atomic fun provider => (.ok (read provider),provider)

def ignoreNotFound {α : Type} (operation : Action α) : Action Unit := do
  match ← operation.outcome with
  | .ok _ => pure ()
  | .error fault => if isProviderNotFound fault then pure () else throw fault

/-! ### Requests -/

def retrieve (service : Service) (id : String) : Action RemoteSession :=
  request service fun remote => match remote.sessions.get? id with
    | none => (.error notFound,remote)
    | some session => (.ok session,remote)

def appended (session : RemoteSession) (event : Json) : RemoteSession := {session with events := session.events ++ [event]}

section
variable (service : Service) (id : String)

def sendEvent (event : Json) : Action Unit :=
  request service fun remote => match remote.sessions.get? id with
    | none => (.error notFound,remote)
    | some session => (.ok (),{remote with sessions := remote.sessions.set id (appended session event)})

def archiveSession : Action Unit :=
  request service fun remote => match remote.sessions.get? id with
    | none => (.error notFound,remote)
    | some session => (.ok (),{remote with sessions := remote.sessions.set id {session with archived := true}})

def deleteSession : Action Unit :=
  request service fun remote => match remote.sessions.get? id with
    | none => (.error notFound,remote)
    | some _ => (.ok (),{remote with sessions := remote.sessions.erase id})

def archiveVault : Action Unit :=
  request service fun remote => match remote.vaults.get? id with
    | none => (.error notFound,remote)
    | some vault => (.ok (),{remote with vaults := remote.vaults.set id {vault with archived := true}})

def deleteVault : Action Unit :=
  request service fun remote => match remote.vaults.get? id with
    | none => (.error notFound,remote)
    | some _ => (.ok (),{remote with vaults := remote.vaults.erase id})

def deleteFile : Action Unit :=
  request service fun remote => match remote.files.get? id with
    | none => (.error notFound,remote)
    | some _ => (.ok (),{remote with files := remote.files.erase id})

def sessionStatus : Action (Option String) :=
  recollect fun provider => service.status provider.tick id

end

/-! ### Messages -/

def isRecord : Json → Bool
  | .obj _ | .arr _ => true
  | _ => false

def messageText : Option Json → String
  | none => "null"
  | some (.str text) => text
  | some value => value.stringify

def boundedText (value : Option Json) (limit : Nat) (label : String) : Except ProviderFault String :=
  let text := messageText value
  if byteLength text > limit then .error (.limit (label ++ " exceeds maxEventBytes")) else .ok text

def textBlock (text : String) : Json := .obj [("text",.str text),("type",.str "text")]

def userMessage (text : String) : Json := .obj [("content",.arr [textBlock text]),("type",.str "user.message")]

def isCustomToolResult (value : Json) : Bool :=
  isRecord value && value.field? "type" = some (.str "custom_tool_result") &&
    ((value.field? "toolUseId").bind Json.string?).isSome

def isToolConfirmation (value : Json) : Bool :=
  isRecord value && value.field? "type" = some (.str "tool_confirmation") &&
    ((value.field? "toolUseId").bind Json.string?).isSome &&
    (value.field? "result" = some (.str "allow") || value.field? "result" = some (.str "deny"))

def customToolResult (result : Json) (limit : Nat) : Except ProviderFault Json := do
  let text ← boundedText (result.field? "content") limit "tool result"
  .ok (.obj ([("content",.arr [textBlock text]),("custom_tool_use_id",(result.field? "toolUseId").getD .null)] ++
    ((result.field? "isError").map fun flag => ("is_error",flag)).toList ++
    [("type",.str "user.custom_tool_result")]))

def toolConfirmation (confirmation : Json) (limit : Nat) : Except ProviderFault Json :=
  let decided := [("result",(confirmation.field? "result").getD .null),
    ("tool_use_id",(confirmation.field? "toolUseId").getD .null),("type",.str "user.tool_confirmation")]
  match confirmation.field? "denyMessage" with
  | none => .ok (.obj decided)
  | some denyMessage =>
    if confirmation.field? "result" = some (.str "allow") then
      .error (.configuration "denyMessage is only valid when denying a tool")
    else do
      let text ← boundedText (some denyMessage) limit "tool denial message"
      .ok (.obj (("deny_message",.str text)::decided))

def outgoing (limit : Nat) (message : Option Json) : Except ProviderFault Json :=
  match message with
  | none => (boundedText none limit "message").map userMessage
  | some value =>
    if isCustomToolResult value then customToolResult value limit
    else if isToolConfirmation value then toolConfirmation value limit
    else (boundedText (some value) limit "message").map userMessage

def interruptEvent : Json := .obj [("type",.str "user.interrupt")]

/-! ### Handles -/

/-- A handle as a caller presents it: any of its claims may be missing or no text. -/
structure Handle where
  id : String
  agentId : Option String := none
  agentVersion : Option Nat := none
  environmentId : Option String := none
  deadlineAt : Option Instant := none
  runId : Option Json := none
  stepId : Option Json := none
  ownershipCapability : Option Json := none
  credentialRefs : List String := []
  uploadedFileIds : List String := []
  deriving DecidableEq

def isManagedHandle (handle : Handle) : Bool := handle.runId.isSome && handle.stepId.isSome

def ownsSession (handle : Handle) (metadata : SessionMetadata) : Bool :=
  metadata.capabilityHash = some ((handle.ownershipCapability.bind Json.string?).getD "") &&
    (handle.runId.bind Json.string?).isSome && (handle.stepId.bind Json.string?).isSome &&
    metadata.runId = handle.runId.bind Json.string? && metadata.stepId = handle.stepId.bind Json.string?

def ownedSession (service : Service) (handle : Handle) : Action RemoteSession := do
  let session ← wrap false (retrieve service handle.id)
  if ownsSession handle session.metadata then pure session
  else throw (.conflict "Session ownership validation failed")

def sendInterrupt (service : Service) (id : String) : Action Unit := wrap false (sendEvent service id interruptEvent)

/-! ### Operations on a handle -/

def send (options : Options) (service : Service) (handle : Handle) (message : Option Json) : Action Unit :=
  match outgoing options.maxEventBytes message with
  | .error fault => throw fault
  | .ok event => wrap false (sendEvent service handle.id event)

def resume (options : Options) (service : Service) (handle : Handle) (input : Option Json) : Action Unit :=
  match input with
  | none => pure ()
  | some message => send options service handle (some message)

def cancel (service : Service) (handle : Handle) : Action Unit := do
  let _ ← ownedSession service handle
  sendInterrupt service handle.id

def normalizeSessionStatus : Option String → Except ProviderFault String
  | none => .error (.error "Malformed provider status")
  | some status =>
    if status ∈ ["rescheduling","running","idle","terminated"] then .ok status
    else .error (.error "Unsupported provider status")

def ownedStatus (service : Service) (handle : Handle) : Action String := do
  let _ ← ownedSession service handle
  let status ← sessionStatus service handle.id
  settle (normalizeSessionStatus status)

def cleanupSession (service : Service) (handle : Handle) : Action Unit := do
  let status ← ownedStatus service handle
  let status ← if status = "running" ∨ status = "rescheduling" then do
      sendInterrupt service handle.id
      ownedStatus service handle
    else pure status
  if status ≠ "idle" ∧ status ≠ "terminated" then throw (.error "Session remained active after interrupt")
  else do
    wrap false (archiveSession service handle.id)
    let _ ← ownedSession service handle
    wrap false (deleteSession service handle.id)

def cleanupVault (service : Service) (vaultId : String) : Action Unit := do
  ignoreNotFound (wrap false (archiveVault service vaultId))
  ignoreNotFound (wrap false (deleteVault service vaultId))

def cleanupAccess (service : Service) (credentialRefs fileIds : List String) : Action Unit := do
  credentialRefs.forM (cleanupVault service)
  fileIds.forM fun fileId => ignoreNotFound (wrap false (deleteFile service fileId))

def noteCleaned (handle : Handle) : Action Unit :=
  remember fun provider => {provider with cleanedSessions := handle.id::provider.cleanedSessions}

def finishCleanup (handle : Handle) : Except ProviderFault Unit → Action Unit
  | .error fault => if isProviderNotFound fault then noteCleaned handle else throw fault
  | .ok () => noteCleaned handle

def cleanupNow (service : Service) (handle : Handle) : Action Unit := do
  let ended ← (cleanupSession service handle).outcome
  if isManagedHandle handle then do
    cleanupAccess service handle.credentialRefs handle.uploadedFileIds
    finishCleanup handle ended
  else finishCleanup handle ended

def cleanup (service : Service) (handle : Handle) : Action Unit := do
  let cleaned ← recollect fun provider => decide (handle.id ∈ provider.cleanedSessions)
  if cleaned then pure () else cleanupNow service handle

end AgentOS.ManagedAgents
