import AgentOS.ManagedAgents.Provider

/-! Keeping the agents and environments of the projects in step with the remote
workspace, and starting sessions of what was synced. -/
namespace AgentOS.ManagedAgents
open Library Routine

def OWNER : String := "agentos-managed-agents-runtime"
def WEB_EGRESS_TOOLS : List String := ["web_fetch","web_search"]
def BUILT_IN_TOOLS : List String := ["bash","edit","read","write","glob","grep","web_fetch","web_search"]

def scopedLocalId (projectId localId : String) : String := projectId ++ ":" ++ localId

def remoteResourceName (projectId localId : String) : String := "agentos:" ++ projectId ++ ":" ++ localId

def scopedCacheKey (projectId localId : String) : String := scopedLocalId projectId localId

def validateLocalId (value label : String) : Except ProviderFault Unit :=
  let hasControlCharacter := value.toList.any fun character => character.val ≤ 31
  if utf16Length value = 0 ∨ utf16Length value > 128 ∨ hasControlCharacter then
    .error (.configuration (label ++ " is invalid"))
  else .ok ()

/-! ### What is synced -/

structure RuntimeAgent where
  id : String
  model : String
  instructions : Option String := none
  tools : List String := []
  mcps : List String := []
  deriving DecidableEq

inductive Networking where
  | limited (allowedHosts : Option (List String)) (allowMcpServers allowPackageManagers : Option Bool)
  | unrestricted
  deriving DecidableEq

structure Packages where
  apt : Option (List String) := none
  cargo : Option (List String) := none
  gem : Option (List String) := none
  go : Option (List String) := none
  npm : Option (List String) := none
  pip : Option (List String) := none

structure RuntimeEnvironment where
  id : String
  runtime : String
  image : Option String := none
  variableValues : List (String × String) := []
  networking : Option Networking := none
  packages : Option Packages := none

def strings (values : List String) : Json := .arr (values.map .str)

def mcpServers (agent : RuntimeAgent) : List (String × String) :=
  agent.mcps.zipIdx.map fun entry => ("mcp-" ++ toString (entry.2 + 1),entry.1)

def toolset (builtIns : List String) : Json :=
  .obj [("configs",.arr (builtIns.map fun name => .obj [("enabled",.bool true),("name",.str name)])),
    ("default_config",.obj [("enabled",.bool false)]),("type",.str "agent_toolset_20260401")]

def customTool (name : String) : Json :=
  .obj [("description",.str ("AgentOS custom tool " ++ name)),
    ("input_schema",.obj [("additionalProperties",.bool true),("type",.str "object")]),
    ("name",.str name),("type",.str "custom")]

def mcpToolset (name : String) : Json :=
  .obj [("default_config",.obj [("enabled",.bool true),("permission_policy",.obj [("type",.str "always_allow")])]),
    ("mcp_server_name",.str name),("type",.str "mcp_toolset")]

def agentDefinition (agent : RuntimeAgent) (projectId : String) : Json :=
  let builtIns := agent.tools.filter (· ∈ BUILT_IN_TOOLS)
  let custom := agent.tools.filter (· ∉ BUILT_IN_TOOLS)
  .obj [
    ("mcp_servers",.arr ((mcpServers agent).map fun server =>
      .obj [("name",.str server.1),("type",.str "url"),("url",.str server.2)])),
    ("model",.str agent.model),
    ("name",.str (remoteResourceName projectId agent.id)),
    ("system",(agent.instructions.map Json.str).getD .null),
    ("tools",.arr ((if builtIns.isEmpty then [] else [toolset builtIns]) ++ custom.map customTool ++
      (mcpServers agent).map fun server => mcpToolset server.1))]

def networkingDefinition : Networking → Json
  | .unrestricted => .obj [("type",.str "unrestricted")]
  | .limited allowedHosts allowMcpServers allowPackageManagers =>
    .obj [("allow_mcp_servers",.bool (allowMcpServers.getD false)),
      ("allow_package_managers",.bool (allowPackageManagers.getD false)),
      ("allowed_hosts",strings (allowedHosts.getD [])),("type",.str "limited")]

def packagesDefinition (packages : Packages) : Json :=
  let listed (name : String) (values : Option (List String)) := (values.map fun held => (name,strings held)).toList
  .obj (listed "apt" packages.apt ++ listed "cargo" packages.cargo ++ listed "gem" packages.gem ++
    listed "go" packages.go ++ listed "npm" packages.npm ++ listed "pip" packages.pip)

section
variable (environment : RuntimeEnvironment)

def cloudFields : List (String × Json) :=
  if environment.runtime = "self_hosted" then []
  else [("networking",networkingDefinition (environment.networking.getD (.limited none none none))),
    ("packages",packagesDefinition (environment.packages.getD {}))]

def environmentDefinition : Json :=
  .obj (cloudFields environment ++
    [("type",.str (if environment.runtime = "self_hosted" then "self_hosted" else "cloud"))])

def validateEnvironmentFields : Except ProviderFault Unit :=
  if environment.runtime ≠ "cloud" ∧ environment.runtime ≠ "self_hosted" then
    .error (.configuration "environment.runtime must be cloud or self_hosted")
  else if environment.image.isSome then
    .error (.configuration "environment.image is not supported by Managed Agents")
  else if environment.variableValues.length > 0 then
    .error (.configuration "environment.variables are not supported; use provider vault credentials")
  else if environment.runtime = "self_hosted" ∧ (environment.networking.isSome ∨ environment.packages.isSome) then
    .error (.configuration "self_hosted environments cannot declare cloud networking or packages")
  else .ok ()

/-- The digest of an environment whose fields are valid: no image, no variables. -/
def environmentDigest : Fingerprint :=
  .obj (cloudFields environment ++ [("runtime",.str environment.runtime),
    ("type",.str (if environment.runtime = "self_hosted" then "self_hosted" else "cloud")),("variables",.obj [])])

def environmentContent (projectId : String) : Json :=
  .obj [("config",environmentDefinition environment),
    ("description",.str ("AgentOS environment " ++ environment.id)),
    ("name",.str (remoteResourceName projectId environment.id))]

def isUnrestricted : Bool :=
  environment.runtime = "cloud" && environment.networking = some .unrestricted

end

/-- What a sync call asks for: the resource of a project and a local id, its
definition, and the digest it is recognised by. -/
structure Wanted where
  projectId : String
  localId : String
  digest : Fingerprint
  definition : Json

def Wanted.key (wanted : Wanted) : String := scopedLocalId wanted.projectId wanted.localId

def Wanted.name (wanted : Wanted) : String := remoteResourceName wanted.projectId wanted.localId

def wantedAgent (projectId : String) (agent : RuntimeAgent) : Wanted :=
  let definition := agentDefinition agent projectId
  {projectId,localId := agent.id,digest := definition,definition}

def wantedEnvironment (projectId : String) (environment : RuntimeEnvironment) : Wanted :=
  {projectId,localId := environment.id,digest := environmentDigest environment,
    definition := environmentContent environment projectId}

/-! ### Syncing -/

/-- Where the resources of one kind stand: the workspace's own, and what the
provider remembers of them. -/
structure Shelf (β : Type) where
  resources : Workspace → OrderedMap String Resource
  place : OrderedMap String Resource → Workspace → Workspace
  cached : Provider → OrderedMap String β
  cache : OrderedMap String β → Provider → Provider
  placed : ∀ held remote, resources (place held remote) = held
  unsessioned : ∀ remote sessions, resources {remote with sessions} = resources remote
  requested : ∀ provider remote tick, cached {provider with remote,tick} = cached provider
  cachedNow : ∀ held provider, cached (cache held provider) = held
  remoteKept : ∀ held provider, (cache held provider).remote = provider.remote

def agentShelf : Shelf ResolvedAgent where
  resources remote := remote.agents
  place held remote := {remote with agents := held}
  cached provider := provider.agents
  cache held provider := {provider with agents := held}
  placed _ _ := rfl
  unsessioned _ _ := rfl
  requested _ _ _ := rfl
  cachedNow _ _ := rfl
  remoteKept _ _ := rfl

def environmentShelf : Shelf ResolvedEnvironment where
  resources remote := remote.environments
  place held remote := {remote with environments := held}
  cached provider := provider.environments
  cache held provider := {provider with environments := held}
  placed _ _ := rfl
  unsessioned _ _ := rfl
  requested _ _ _ := rfl
  cachedNow _ _ := rfl
  remoteKept _ _ := rfl

def metadataFor (localId : String) (digest : Fingerprint) : ResourceMetadata :=
  {localId := some localId,configDigest := some digest,owner := some OWNER}

def collectBounded {α : Type} (source : List α) (limit : Nat) : Except ProviderFault (List α) :=
  if source.length > limit then .error (.limit "Remote resource pagination limit exceeded") else .ok source

def findOwnedResource (resources : List (String × Resource)) (localId expectedName : String) :
    Except ProviderFault (Option (String × Resource)) :=
  let owned := resources.filter fun entry => !entry.2.archived && entry.2.metadata.localId = some localId
  let nameCollisions := resources.filter fun entry =>
    !entry.2.archived && entry.2.name = expectedName && entry.2.metadata.localId ≠ some localId
  if owned.length > 1 then .error (.conflict "Duplicate remote resources for local ID")
  else if nameCollisions.length > 0 then .error (.conflict "Remote resource name is already in use")
  else .ok owned.head?

def assertOwnership (metadata : ResourceMetadata) : Except ProviderFault Unit :=
  if metadata.owner ≠ some OWNER then .error (.conflict "Remote resource has conflicting owner") else .ok ()

def isConflictResponse : ProviderFault → Bool
  | .client error => error.status = some 409
  | _ => false

section
variable {β : Type} (shelf : Shelf β) (options : Options) (service : Service) (wanted : Wanted)

def listResources : Action (List (String × Resource)) :=
  request service fun remote => (.ok ((shelf.resources remote).entries.filter fun entry => !entry.2.archived),remote)

def ownedResource : Action (Option (String × Resource)) := do
  let listed ← listResources shelf service
  let remotes ← settle (collectBounded listed options.maxRemoteResources)
  settle (findOwnedResource remotes wanted.key wanted.name)

def conflicting : ClientError := {status := some 409}

def described (wanted : Wanted) : Resource := {
  name := wanted.name
  metadata := metadataFor wanted.key wanted.digest
  definition := wanted.definition }

/-- A new resource; an identifier that is in use is not given again. -/
def createResource : Action (String × Nat) := do
  let id ← recollect fun provider => service.newId provider.tick
  request service fun remote => match (shelf.resources remote).get? id with
    | some _ => (.error conflicting,remote)
    | none => (.ok (id,1),shelf.place ((shelf.resources remote).set id (described wanted)) remote)

def revised (resource : Resource) (wanted : Wanted) : Resource :=
  {resource with
    name := wanted.name
    metadata := metadataFor wanted.key wanted.digest
    definition := wanted.definition
    earlier := resource.definition::resource.earlier}

/-- A new version of a resource that still has the version it was listed with. -/
def updateResource (id : String) (version : Nat) : Action (String × Nat) :=
  request service fun remote => match (shelf.resources remote).get? id with
    | none => (.error notFound,remote)
    | some resource =>
      if resource.version ≠ version then (.error conflicting,remote)
      else (.ok (id,version + 1),shelf.place ((shelf.resources remote).set id (revised resource wanted)) remote)

def reconciled (held : String × Resource) : Action (String × Nat) := do
  settle (assertOwnership held.2.metadata)
  if held.2.metadata.configDigest = some wanted.digest then pure (held.1,held.2.version)
  else updateResource shelf service wanted held.1 held.2.version

/-- The resource after a conflict: someone may have created it meanwhile. -/
def afterConflict (fault : ProviderFault) : Action (String × Nat) := do
  match ← ownedResource shelf options service wanted with
  | none => throw fault
  | some held => reconciled shelf service wanted held

/-- The remote resource of a sync call, created or brought up to date. -/
def currentResource : Action (String × Nat) := do
  match ← ownedResource shelf options service wanted with
  | some held => reconciled shelf service wanted held
  | none =>
    match ← (createResource shelf service wanted).outcome with
    | .ok created => pure created
    | .error fault =>
      if isConflictResponse fault then afterConflict shelf options service wanted fault else throw fault

def syncResource (resolved : String × Nat → β) : Action Unit := wrap true do
  let current ← currentResource shelf options service wanted
  remember fun provider => shelf.cache ((shelf.cached provider).set wanted.key (resolved current)) provider

end

section
variable (options : Options) (service : Service) (projectId : String)

def usesBuiltInWebEgress (agent : RuntimeAgent) : Bool := agent.tools.any (· ∈ WEB_EGRESS_TOOLS)

def syncAgentForProject (agent : RuntimeAgent) : Action Unit := do
  settle (validateLocalId agent.id "agent.id")
  settle (validateLocalId projectId "projectId")
  if usesBuiltInWebEgress agent ∧ options.allowBuiltInWebEgress = false then
    throw (.configuration "built-in web egress is disabled by policy")
  else
    syncResource agentShelf options service (wantedAgent projectId agent) fun current => {
      id := current.1
      version := current.2
      digest := agentDefinition agent projectId
      usesBuiltInWebEgress := usesBuiltInWebEgress agent }

def syncEnvironmentForProject (environment : RuntimeEnvironment) : Action Unit := do
  settle (validateLocalId environment.id "environment.id")
  settle (validateLocalId projectId "projectId")
  settle (validateEnvironmentFields environment)
  if environment.networking = some .unrestricted ∧ options.allowUnrestrictedNetworking = false then
    throw (.configuration "unrestricted networking is disabled by policy")
  else
    syncResource environmentShelf options service (wantedEnvironment projectId environment) fun current => {
      id := current.1
      digest := environmentDigest environment
      unrestrictedNetworking := isUnrestricted environment }

/-! ### Starting -/

structure StartRequest where
  runId : String
  stepId : String
  agentId : String
  environmentId : String
  input : Option Json := none
  timeoutMs : Option Int := none
  maxCostMicrodollars : Option Int := none
  idempotencyKey : Option String := none
  credentialRefs : Option (List String) := none
  roleId : Option String := none
  resources : List FileResource := []

def managedBudget : Option Int → Except ProviderFault (Option Nat)
  | none => .ok none
  | some maxCostMicrodollars =>
    if isSafeInteger maxCostMicrodollars = false ∨ maxCostMicrodollars < 10000 then
      .error (.configuration "maxCostMicrodollars must fund at least one USD cent")
    else .ok (some (maxCostMicrodollars / 10000).toNat)

def validDate (at_ : Instant) : Except ProviderFault Instant :=
  if -8640000000000000 ≤ at_ ∧ at_ ≤ 8640000000000000 then .ok at_ else .error (.error "Invalid time value")

def deadlineAfter (now : Instant) : Option Int → Except ProviderFault (Option Instant)
  | none => .ok none
  | some timeoutMs => (validDate (now + timeoutMs)).map some

def sessionCapability (request : StartRequest) (tick : Nat) : String :=
  match request.idempotencyKey with
  | none => service.randomToken tick
  | some idempotencyKey => service.hmac options.ownershipSecret
    (.obj [("idempotencyKey",.str idempotencyKey),("runId",.str request.runId),("stepId",.str request.stepId),
      ("version",.str "managed-session-capability-v1")])

section
variable (agent : ResolvedAgent) (environment : ResolvedEnvironment) (request : StartRequest)

def checkedStart : Except ProviderFault String := do
  if agent.usesBuiltInWebEgress ∧ environment.unrestrictedNetworking = false then
    .error (.configuration "built-in web tools require unrestricted networking")
  else
    validateLocalId request.runId "runId"
    validateLocalId request.stepId "stepId"
    let input ← boundedText request.input options.maxEventBytes "input"
    if request.resources.length > options.maxRemoteResources then
      .error (.limit "Session resource limit exceeded")
    else .ok input

def startedSession (input : String) (deadlineAt : Option Instant) (budget : Option Nat) (capability : String) : RemoteSession := {
  agent := (agent.id,agent.version)
  environmentId := environment.id
  metadata := {
    runId := some request.runId
    stepId := some request.stepId
    roleId := request.roleId
    agentDigest := some agent.digest
    environmentDigest := some environment.digest
    capabilityHash := some capability
    idempotencyKeyHash := request.idempotencyKey
    deadline := deadlineAt }
  events := [userMessage input]
  resources := request.resources
  vaultIds := request.credentialRefs
  budget }

end

def createSession (session : RemoteSession) : Action String := do
  let id ← recollect fun provider => service.newId provider.tick
  request service fun remote => match remote.sessions.get? id with
    | some _ => (.error conflicting,remote)
    | none => (.ok id,{remote with sessions := remote.sessions.set id session})

def startedHandle (id : String) (agent : ResolvedAgent) (environment : ResolvedEnvironment) (request : StartRequest)
    (deadlineAt : Option Instant) (capability : String) : Handle := {
  id
  agentId := some agent.id
  agentVersion := some agent.version
  environmentId := some environment.id
  deadlineAt
  runId := some (.str request.runId)
  stepId := some (.str request.stepId)
  ownershipCapability := some (.str capability)
  credentialRefs := request.credentialRefs.getD []
  uploadedFileIds := request.resources.map FileResource.fileId }

def startWith (agent : ResolvedAgent) (environment : ResolvedEnvironment) (request : StartRequest) : Action Handle := do
  let input ← settle (checkedStart options agent environment request)
  let tick ← recollect Provider.tick
  let deadlineAt ← settle (deadlineAfter (service.clock tick) request.timeoutMs)
  let budget ← settle (managedBudget request.maxCostMicrodollars)
  let capability := sessionCapability options service request tick
  let id ← wrap false (createSession service (startedSession agent environment request input deadlineAt budget capability))
  pure (startedHandle id agent environment request deadlineAt capability)

def startForProject (request : StartRequest) : Action Handle := do
  let agent ← recollect fun provider => provider.agents.get? (scopedCacheKey projectId request.agentId)
  let environment ← recollect fun provider => provider.environments.get? (scopedCacheKey projectId request.environmentId)
  match agent, environment with
  | none, _ => throw (.configuration "agent must be synced before start")
  | some _, none => throw (.configuration "environment must be synced before start")
  | some agent, some environment => startWith options service agent environment request

end
end AgentOS.ManagedAgents
