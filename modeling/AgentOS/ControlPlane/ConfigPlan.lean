import AgentOS.Config.Diff

/-! What a plan of a configuration change shows. The values of an environment's variables may be
credentials, so they are masked by the path under which they stand. -/
namespace AgentOS.ControlPlane
open Config

def REDACTED_VALUE : String := "[REDACTED]"

mutual
def withoutVariableValues : Json → Json
  | .arr items => .arr (withoutItems items)
  | .obj fields => .obj (withoutFields fields)
  | value => value
def withoutItems : List Json → List Json
  | [] => []
  | item::items => withoutVariableValues item::withoutItems items
def withoutFields : List (String × Json) → List (String × Json)
  | [] => []
  | (key,.obj entry)::fields =>
    (if key = "variables" then (key,.obj (entry.map fun field => (field.1,.str REDACTED_VALUE)))
     else (key,withoutVariableValues (.obj entry)))::withoutFields fields
  | (key,entry)::fields => (key,withoutVariableValues entry)::withoutFields fields
end

def followsWord (word path : List Char) : Bool :=
  word.isPrefixOf path && match path.drop word.length with
    | [] => true
    | next::_ => next = '.'

/-- The test `/^environments\.[^.]+\.variables(\.|$)/`. -/
def maskedPath (path : String) : Bool :=
  let start := "environments.".toList
  let segments := path.toList.drop start.length
  start.isPrefixOf path.toList && segments.takeWhile (· ≠ '.') ≠ [] &&
    followsWord ".variables".toList (segments.dropWhile (· ≠ '.'))

/-- One line of a plan, in code units: a line is cut after two hundred of them. -/
def describeConfigValue (path : String) (value : ConfigValue) : Except Fault (List Nat) :=
  if maskedPath path then .ok (Json.codeUnits REDACTED_VALUE)
  else match value with
    -- A function has no JSON text.
    | .inherited _ => .error (.error "Cannot read properties of undefined (reading 'slice')")
    | .json .null => .ok (Json.codeUnits "null")
    | .json (.str text) => .ok ((Json.codeUnits text).take 200)
    | .json (.timestamp at_) => .ok ((Json.codeUnits (isoText at_)).take 200)
    | .json (.num number) => .ok (Json.codeUnits (toString number))
    | .json (.bool truth) => .ok (Json.codeUnits (toString truth))
    | .json value => .ok ((Json.codeUnits (withoutVariableValues value).stringify).take 200)

structure PlannedChange where
  kind : ChangeKind
  path : String
  before : Option (List Nat)
  after : Option (List Nat)
  deriving DecidableEq

def describeSide (path : String) : Option ConfigValue → Except Fault (Option (List Nat))
  | none => .ok none
  | some value => (describeConfigValue path value).map some

def describeChange (change : ConfigChange) : Except Fault PlannedChange := do
  let before ← describeSide change.path change.before
  let after ← describeSide change.path change.after
  return {kind := change.kind,path := change.path,before := before,after := after}

structure ConfigurationPlan where
  projectId : String
  changed : Bool
  fromRevision : Option Nat
  changes : List PlannedChange
  deriving DecidableEq

def semanticConfigDiff (before after : AgentOsConfig) : List ConfigChange := diffValues before.toJson after.toJson ""

def planConfigurationChange (projectId : String) (active : Option (Nat × AgentOsConfig)) (config : AgentOsConfig) :
    Except Fault ConfigurationPlan :=
  match active with
  | none => .ok {projectId := projectId,changed := true,fromRevision := none,changes := []}
  | some (revision,stored) => do
    let differences := semanticConfigDiff stored config
    let changes ← (differences.take 200).mapM describeChange
    return {projectId := projectId,changed := !differences.isEmpty,fromRevision := some revision,changes := changes}

end AgentOS.ControlPlane
