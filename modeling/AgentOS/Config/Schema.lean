import AgentOS.Stringify

/-! A configuration as its schema leaves it: defaults filled in, unknown keys refused. -/
namespace AgentOS.Config

/-- An object with free keys. The schema drops a key named `__proto__`. -/
structure Table (α : Type) where
  entries : List (String × α)
  distinct : (entries.map Prod.fst).Nodup
  plain : "__proto__" ∉ entries.map Prod.fst

namespace Table
variable {α β : Type}

def empty : Table α := ⟨[],by simp,by simp⟩

def one (name : String) (value : α) (plain : name ≠ "__proto__") : Table α :=
  ⟨[(name,value)],by simp,by simpa using plain.symm⟩

def get? (table : Table α) (name : String) : Option α := (table.entries.find? fun entry => entry.1 = name).map Prod.snd

def has (table : Table α) (name : String) : Bool := (table.get? name).isSome

def map (change : α → β) (table : Table α) : Table β where
  entries := table.entries.map fun entry => (entry.1,change entry.2)
  distinct := by simpa [Function.comp_def] using table.distinct
  plain := by simpa using table.plain

theorem get?_map (change : α → β) (table : Table α) (name : String) : (table.map change).get? name = (table.get? name).map change := by
  simp [get?,map,List.find?_map,Function.comp_def]

theorem keys_map (change : α → β) (table : Table α) :
    (table.map change).entries.map Prod.fst = table.entries.map Prod.fst := by simp [map,Function.comp_def]

theorem mem_keys {table : Table α} {name : String} : name ∈ table.entries.map Prod.fst ↔ ∃ value, table.get? name = some value := by
  constructor
  · intro named
    obtain ⟨entry,listed,same⟩ := List.mem_map.mp named
    have found : (table.entries.find? fun other => other.1 = name).isSome :=
      List.find?_isSome.mpr ⟨entry,listed,by simpa using same⟩
    obtain ⟨other,isOther⟩ := Option.isSome_iff_exists.mp found
    exact ⟨other.2,by simp [get?,isOther]⟩
  · rintro ⟨value,found⟩
    obtain ⟨entry,isEntry,_⟩ := Option.map_eq_some_iff.mp found
    exact List.mem_map.mpr ⟨entry,List.mem_of_find?_eq_some isEntry,by simpa using List.find?_some isEntry⟩

def toJson (encode : α → Json) (table : Table α) : Json := .obj (table.entries.map fun entry => (entry.1,encode entry.2))

end Table

structure Identifier where
  text : String
  named : text ≠ ""

structure NonNegativeInteger where
  value : Nat
  bounded : value ≤ 9007199254740991

structure PositiveInteger extends NonNegativeInteger where
  positive : 0 < value

structure CapabilityPermissions where
  allow : List Identifier := []
  deny : List Identifier := []

structure ModelProfile where
  provider : Identifier
  model : Identifier
  inputMicrodollarsPerMillionTokens : NonNegativeInteger := ⟨0,by omega⟩
  outputMicrodollarsPerMillionTokens : NonNegativeInteger := ⟨0,by omega⟩
  cacheReadInputMicrodollarsPerMillionTokens : Option NonNegativeInteger := none
  cacheCreation5mInputMicrodollarsPerMillionTokens : Option NonNegativeInteger := none
  cacheCreation1hInputMicrodollarsPerMillionTokens : Option NonNegativeInteger := none
  runtimeMicrodollarsPerMinute : NonNegativeInteger := ⟨0,by omega⟩

structure AgentDefinition where
  model : Identifier
  prompt : Option String := none
  environment : Option Identifier := none
  tools : List Identifier := []
  mcps : List Identifier := []
  retries : NonNegativeInteger := ⟨0,by omega⟩
  timeoutMs : PositiveInteger := ⟨⟨900000,by omega⟩,by decide⟩

inductive Networking where
  | limited (allowedHosts : List Identifier) (allowMcpServers allowPackageManagers : Bool)
  | unrestricted

structure Packages where
  apt : Option (List Identifier) := none
  cargo : Option (List Identifier) := none
  gem : Option (List Identifier) := none
  go : Option (List Identifier) := none
  npm : Option (List Identifier) := none
  pip : Option (List Identifier) := none

structure EnvironmentDefinition where
  runtime : Identifier
  image : Option Identifier := none
  /-- The source's `variables`. -/
  values : Table String := .empty
  tools : List Identifier := []
  mcps : List Identifier := []
  networking : Option Networking := none
  packages : Option Packages := none

structure PipelineStep where
  id : Identifier
  agent : Identifier
  environment : Option Identifier := none
  dependsOn : List Identifier := []
  retries : Option NonNegativeInteger := none
  timeoutMs : Option PositiveInteger := none

structure PipelineDefinition where
  steps : List PipelineStep
  filled : steps ≠ []

def DEFAULT_PROTECTED_PATHS : List String :=
  [".git",".git/**",".github/workflows",".github/workflows/**","CODEOWNERS","**/CODEOWNERS",".gitmodules",".env*",
    "**/.env*","agentos/**","agentos"]

structure PatchPolicyConfig where
  protectedPaths : List String := DEFAULT_PROTECTED_PATHS
  named : "" ∉ protectedPaths := by decide
  allowBinary : Bool := false
  allowSymlinks : Bool := false
  maxFileBytes : PositiveInteger := ⟨⟨1000000,by omega⟩,by decide⟩
  tools : CapabilityPermissions := {}
  mcp : CapabilityPermissions := {}

structure BudgetLimits where
  workflowMicrodollars : NonNegativeInteger
  dailyMicrodollars : NonNegativeInteger
  concurrency : PositiveInteger
  admissionReservePercent : NonNegativeInteger := ⟨80,by omega⟩
  percent : admissionReservePercent.value ≤ 100 := by decide

structure GoalLimits where
  maxSteps : PositiveInteger
  few : maxSteps.value ≤ 3 := by decide
  maxRetries : NonNegativeInteger
  timeoutMs : PositiveInteger

structure ChainLimits where
  maxDepth : PositiveInteger := ⟨⟨3,by omega⟩,by decide⟩
  shallow : maxDepth.value ≤ 10 := by decide

structure RuntimeRouting where
  provider : Identifier
  routing : Table Identifier := .empty

structure VerificationConfig where
  trustedTestCommands : List String := []
  registryHosts : List String := []
  few : registryHosts.length ≤ 4 := by decide

structure ProjectConfig where
  name : Identifier
  repository : Option String := none
  localPath : Option String := none
  exclusive : repository = none ∨ localPath = none := by decide
  defaultBranch : Identifier := ⟨"main",by decide⟩

structure AgentOsConfig where
  project : ProjectConfig
  models : Table ModelProfile := .empty
  agents : Table AgentDefinition := .empty
  environments : Table EnvironmentDefinition := .empty
  pipelines : Table PipelineDefinition := .empty
  policies : PatchPolicyConfig := {}
  budgets : BudgetLimits
  goals : GoalLimits
  chains : Option ChainLimits := none
  runtime : RuntimeRouting
  verification : Option VerificationConfig := none

/-! ### References between the parts -/

/-- Whether a walk over a pipeline's dependencies from a step meets a step it is still visiting.
A walk is as deep as there are steps, which `depth` counts down. -/
def visit (steps : List PipelineStep) (depth : Nat) (visiting visited : List String) (stepId : String) : Bool × List String :=
  match depth with
  | 0 => (false,visited)
  | depth + 1 =>
    if stepId ∈ visiting then (true,visited)
    else if stepId ∈ visited then (false,visited)
    else
      let dependsOn := (((steps.find? fun step => step.id.text = stepId).map PipelineStep.dependsOn).getD []).map Identifier.text
      let (cyclic,seen) := dependsOn.foldl (fun (cyclic,seen) dependency =>
        if cyclic || dependency = stepId || !steps.any fun step => step.id.text = dependency then (cyclic,seen)
        else visit steps depth (stepId::visiting) seen dependency) (false,visited)
      (cyclic,stepId::seen)

def cyclic (steps : List PipelineStep) : Bool :=
  (steps.foldl (fun (found,seen) step =>
    if found then (found,seen) else visit steps (steps.length + 1) [] seen step.id.text) (false,[])).1

variable (config : AgentOsConfig)

def PipelineDefinition.sound (pipeline : PipelineDefinition) : Bool :=
  let ids := pipeline.steps.map fun step => step.id.text
  ids.Nodup &&
    pipeline.steps.all (fun step => config.agents.has step.agent.text &&
      step.environment.all fun environment => config.environments.has environment.text) &&
    pipeline.steps.all (fun step => step.dependsOn.all fun dependency =>
      dependency.text ≠ step.id.text && dependency.text ∈ ids) &&
    !cyclic pipeline.steps

def AgentOsConfig.valid : Bool :=
  config.agents.entries.all (fun (_,agent) => config.models.has agent.model.text &&
    agent.environment.all fun environment => config.environments.has environment.text) &&
  config.pipelines.entries.all fun (_,pipeline) => pipeline.sound config

/-! ### The configuration as JSON -/

def Identifier.toJson (identifier : Identifier) : Json := .str identifier.text
def NonNegativeInteger.toJson (integer : NonNegativeInteger) : Json := .num integer.value
def PositiveInteger.toJson (integer : PositiveInteger) : Json := .num integer.value
def names (identifiers : List Identifier) : Json := .arr (identifiers.map Identifier.toJson)
def texts (values : List String) : Json := .arr (values.map .str)

def optional {α : Type} (name : String) (encode : α → Json) : Option α → List (String × Json)
  | none => []
  | some value => [(name,encode value)]

def CapabilityPermissions.toJson (permissions : CapabilityPermissions) : Json :=
  .obj [("allow",names permissions.allow),("deny",names permissions.deny)]

def ModelProfile.toJson (profile : ModelProfile) : Json := .obj <|
  [("provider",profile.provider.toJson),("model",profile.model.toJson),
    ("inputMicrodollarsPerMillionTokens",profile.inputMicrodollarsPerMillionTokens.toJson),
    ("outputMicrodollarsPerMillionTokens",profile.outputMicrodollarsPerMillionTokens.toJson)] ++
  optional "cacheReadInputMicrodollarsPerMillionTokens" NonNegativeInteger.toJson
    profile.cacheReadInputMicrodollarsPerMillionTokens ++
  optional "cacheCreation5mInputMicrodollarsPerMillionTokens" NonNegativeInteger.toJson
    profile.cacheCreation5mInputMicrodollarsPerMillionTokens ++
  optional "cacheCreation1hInputMicrodollarsPerMillionTokens" NonNegativeInteger.toJson
    profile.cacheCreation1hInputMicrodollarsPerMillionTokens ++
  [("runtimeMicrodollarsPerMinute",profile.runtimeMicrodollarsPerMinute.toJson)]

def AgentDefinition.toJson (agent : AgentDefinition) : Json := .obj <|
  [("model",agent.model.toJson)] ++ optional "prompt" .str agent.prompt ++
  optional "environment" Identifier.toJson agent.environment ++
  [("tools",names agent.tools),("mcps",names agent.mcps),("retries",agent.retries.toJson),
    ("timeoutMs",agent.timeoutMs.toJson)]

def Networking.toJson : Networking → Json
  | .limited allowedHosts allowMcpServers allowPackageManagers =>
    .obj [("type",.str "limited"),("allowedHosts",names allowedHosts),("allowMcpServers",.bool allowMcpServers),
      ("allowPackageManagers",.bool allowPackageManagers)]
  | .unrestricted => .obj [("type",.str "unrestricted")]

def Packages.toJson (packages : Packages) : Json := .obj <|
  optional "apt" names packages.apt ++ optional "cargo" names packages.cargo ++ optional "gem" names packages.gem ++
  optional "go" names packages.go ++ optional "npm" names packages.npm ++ optional "pip" names packages.pip

def EnvironmentDefinition.fields (environment : EnvironmentDefinition) : List (String × Json) :=
  (("runtime",environment.runtime.toJson)::optional "image" Identifier.toJson environment.image) ++
  ("variables",environment.values.toJson .str)::
    ([("tools",names environment.tools),("mcps",names environment.mcps)] ++
      optional "networking" Networking.toJson environment.networking ++
      optional "packages" Packages.toJson environment.packages)

def EnvironmentDefinition.toJson (environment : EnvironmentDefinition) : Json := .obj environment.fields

def PipelineStep.toJson (step : PipelineStep) : Json := .obj <|
  [("id",step.id.toJson),("agent",step.agent.toJson)] ++ optional "environment" Identifier.toJson step.environment ++
  [("dependsOn",names step.dependsOn)] ++ optional "retries" NonNegativeInteger.toJson step.retries ++
  optional "timeoutMs" PositiveInteger.toJson step.timeoutMs

def PipelineDefinition.toJson (pipeline : PipelineDefinition) : Json :=
  .obj [("steps",.arr (pipeline.steps.map PipelineStep.toJson))]

def PatchPolicyConfig.toJson (policies : PatchPolicyConfig) : Json :=
  .obj [("protectedPaths",texts policies.protectedPaths),("allowBinary",.bool policies.allowBinary),
    ("allowSymlinks",.bool policies.allowSymlinks),("maxFileBytes",policies.maxFileBytes.toJson),
    ("tools",policies.tools.toJson),("mcp",policies.mcp.toJson)]

def BudgetLimits.toJson (budgets : BudgetLimits) : Json :=
  .obj [("workflowMicrodollars",budgets.workflowMicrodollars.toJson),("dailyMicrodollars",budgets.dailyMicrodollars.toJson),
    ("concurrency",budgets.concurrency.toJson),("admissionReservePercent",budgets.admissionReservePercent.toJson)]

def GoalLimits.toJson (goals : GoalLimits) : Json :=
  .obj [("maxSteps",goals.maxSteps.toJson),("maxRetries",goals.maxRetries.toJson),("timeoutMs",goals.timeoutMs.toJson)]

def ChainLimits.toJson (chains : ChainLimits) : Json := .obj [("maxDepth",chains.maxDepth.toJson)]

def RuntimeRouting.toJson (runtime : RuntimeRouting) : Json :=
  .obj [("provider",runtime.provider.toJson),("routing",runtime.routing.toJson Identifier.toJson)]

def VerificationConfig.toJson (verification : VerificationConfig) : Json :=
  .obj [("trustedTestCommands",texts verification.trustedTestCommands),("registryHosts",texts verification.registryHosts)]

def ProjectConfig.toJson (project : ProjectConfig) : Json := .obj <|
  [("name",project.name.toJson)] ++ optional "repository" .str project.repository ++
  optional "localPath" .str project.localPath ++ [("defaultBranch",project.defaultBranch.toJson)]

def AgentOsConfig.fields : List (String × Json) :=
  [("version",.num 1),("project",config.project.toJson),("models",config.models.toJson ModelProfile.toJson),
    ("agents",config.agents.toJson AgentDefinition.toJson)] ++
  ("environments",config.environments.toJson EnvironmentDefinition.toJson)::
    ([("pipelines",config.pipelines.toJson PipelineDefinition.toJson),("policies",config.policies.toJson),
      ("budgets",config.budgets.toJson),("goals",config.goals.toJson)] ++
      optional "chains" ChainLimits.toJson config.chains ++ [("runtime",config.runtime.toJson)] ++
      optional "verification" VerificationConfig.toJson config.verification)

def AgentOsConfig.toJson : Json := .obj config.fields

end AgentOS.Config
