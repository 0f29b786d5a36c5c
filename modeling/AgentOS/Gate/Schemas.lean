import AgentOS.Gate.Acceptance
import AgentOS.Workflow.Result

/-! The artifacts the trusted gate reads and the schemas of each. -/
namespace AgentOS.Gate
open Library Workflow

def PUBLICATION_MAX_FILES : Nat := 200
def PUBLICATION_MAX_FILE_BYTES : Nat := 1000000
def PUBLICATION_MAX_TOTAL_BYTES : Nat := 5000000

structure Criterion where
  id : String
  description : String
  deriving DecidableEq

structure DefinitionOfDone where
  criteria : List Criterion
  acceptanceTests : List AcceptanceTestFile
  deriving DecidableEq

structure ChangeSet where
  changes : List Change
  deriving DecidableEq

structure TestEvidence where
  command : String
  deriving DecidableEq

structure Observation where
  runId : String
  stepId : String
  command : String
  exitCode : Int
  startedAt : String
  completedAt : String
  repositorySha : String
  sourceSnapshotDigest : String
  changeSetDigest : String
  configDigest : String
  output : Option String := none

/-! ### Their JSON -/

def Criterion.json (criterion : Criterion) : Json :=
  .obj [("id",.str criterion.id),("description",.str criterion.description),("verifier",.str "test-report")]

def AcceptanceTestFile.json (file : AcceptanceTestFile) : Json :=
  .obj [("path",.str file.path),("mode",.str "100644"),("content",.str file.content)]

def DefinitionOfDone.json (definition : DefinitionOfDone) : Json :=
  .obj [("version",.str "definition-of-done-v2"),("criteria",.arr (definition.criteria.map Criterion.json)),
    ("acceptanceTests",.arr (definition.acceptanceTests.map AcceptanceTestFile.json))]

def WriteOperation.text : WriteOperation → String
  | .add => "add"
  | .modify => "modify"

def modeText (executable : Bool) : String := if executable then "100755" else "100644"

def Change.json : Change → Json
  | .write operation path executable content =>
    .obj [("operation",.str operation.text),("path",.str path),("mode",.str (modeText executable)),("content",.str content)]
  | .delete path => .obj [("operation",.str "delete"),("path",.str path)]

def ChangeSet.json (changeSet : ChangeSet) : Json :=
  .obj [("version",.str "change-set-v1"),("changes",.arr (changeSet.changes.map Change.json))]

def TestEvidence.json (evidence : TestEvidence) : Json :=
  .obj [("version",.str "test-evidence-v1"),("passed",.bool true),("command",.str evidence.command),("exitCode",.num 0)]

def Observation.attested (observation : Observation) : List (String × Json) := [
  ("runId",.str observation.runId),
  ("stepId",.str observation.stepId),
  ("command",.str observation.command),
  ("exitCode",.num observation.exitCode),
  ("startedAt",.str observation.startedAt),
  ("completedAt",.str observation.completedAt),
  ("repositorySha",.str observation.repositorySha),
  ("sourceSnapshotDigest",.str observation.sourceSnapshotDigest),
  ("changeSetDigest",.str observation.changeSetDigest),
  ("configDigest",.str observation.configDigest)]

def Observation.json (observation : Observation) : Json :=
  .obj (observation.attested ++ (observation.output.map fun output => ("output",Json.str output)).toList)

/-! ### Checks -/

/-- What the schemas leave to packages: the module lexer and the format of a time. -/
structure Formats where
  lexer : Lexer
  datetime : String → Bool

def textWhere (allowed : String → Bool) : Json → Option Json
  | .str value => if allowed value then some (.str value) else none
  | _ => none

def sized (least most : Nat) (value : String) : Bool := least ≤ units value && units value ≤ most

def isDigest (value : String) : Bool := value.length = 64 && value.toList.all isHex

def isCommitSha (value : String) : Bool := value.length = 40 && value.toList.all isHex

def isIdentifier (value : String) : Bool :=
  match value.toList with
  | [] => false
  | first::rest => first.isAlphanum && rest.length ≤ 127 &&
    rest.all fun char => char.isAlphanum || char ∈ ['.','_',':','-']

def listOf {α : Type} (least most : Nat) (read : Json → Option α) : Json → Option (List α)
  | .arr items => if least ≤ items.length ∧ items.length ≤ most then items.mapM read else none
  | _ => none

def anything (value : Json) : Option Json := some value

def textAt (fields : List (String × Json)) (name : String) : String :=
  ((Shape.lookup fields name).bind Json.string?).getD ""

/-! ### Schemas -/

def criterionSchema (raw : Json) : Option Criterion := do
  let fields ← strictObject [
    {name := "id",check := textWhere isIdentifier},
    {name := "description",check := textWhere (sized 1 2000)},
    {name := "verifier",check := literal (.str "test-report")}] raw
  some {id := textAt fields "id",description := textAt fields "description"}

def acceptanceTestSchema (raw : Json) : Option AcceptanceTestFile := do
  let fields ← strictObject [
    {name := "path",check := textWhere (sized 1 1024)},
    {name := "mode",check := literal (.str "100644")},
    {name := "content",check := textWhere (sized 1 PUBLICATION_MAX_FILE_BYTES)}] raw
  some {path := textAt fields "path",content := textAt fields "content"}

def testBytes (files : List AcceptanceTestFile) : Nat := (files.map fun file => byteLength file.content).sum

def definitionOfDoneRefined (formats : Formats) (definition : DefinitionOfDone) : Bool :=
  testBytes definition.acceptanceTests ≤ PUBLICATION_MAX_TOTAL_BYTES &&
  definition.acceptanceTests.all (fun file => isAcceptanceTestPath file.path && !file.content.toList.contains '\x00' &&
    acceptanceTestImportSafetyError formats.lexer file = none) &&
  acceptanceTestsPairingError (definition.criteria.map Criterion.id)
    (definition.acceptanceTests.map AcceptanceTestFile.path) = .ok none

def definitionOfDoneSchema (formats : Formats) (raw : Json) : Option DefinitionOfDone := do
  let fields ← strictObject [
    {name := "version",check := literal (.str "definition-of-done-v2")},
    {name := "criteria",check := anything},
    {name := "acceptanceTests",check := anything}] raw
  let criteria ← (Shape.lookup fields "criteria").bind (listOf 1 100 criterionSchema)
  let acceptanceTests ← (Shape.lookup fields "acceptanceTests").bind (listOf 1 20 acceptanceTestSchema)
  if definitionOfDoneRefined formats {criteria,acceptanceTests} then some {criteria,acceptanceTests} else none

def writeSchema (operation : WriteOperation) (raw : Json) : Option Change := do
  let fields ← strictObject [
    {name := "operation",check := literal (.str operation.text)},
    {name := "path",check := textWhere (sized 1 1024)},
    {name := "mode",check := oneOf ["100644","100755"]},
    {name := "content",check := textWhere (sized 0 PUBLICATION_MAX_FILE_BYTES)}] raw
  some (.write operation (textAt fields "path") (textAt fields "mode" = "100755") (textAt fields "content"))

def removeSchema (raw : Json) : Option Change := do
  let fields ← strictObject [
    {name := "operation",check := literal (.str "delete")},
    {name := "path",check := textWhere (sized 1 1024)}] raw
  some (.delete (textAt fields "path"))

def changeSchema (raw : Json) : Option Change :=
  match (raw.field? "operation").bind Json.string? with
  | some "add" => writeSchema .add raw
  | some "modify" => writeSchema .modify raw
  | some "delete" => removeSchema raw
  | _ => none

def Change.bytes : Change → Nat
  | .write _ _ _ content => byteLength content
  | .delete _ => 0

def changeBytes (changes : List Change) : Nat := (changes.map Change.bytes).sum

def changeSetSchema (raw : Json) : Option ChangeSet := do
  let fields ← strictObject [
    {name := "version",check := literal (.str "change-set-v1")},
    {name := "changes",check := anything}] raw
  let changes ← (Shape.lookup fields "changes").bind (listOf 1 PUBLICATION_MAX_FILES changeSchema)
  if changeBytes changes ≤ PUBLICATION_MAX_TOTAL_BYTES then some {changes} else none

def testEvidenceSchema (raw : Json) : Option TestEvidence := do
  let fields ← strictObject [
    {name := "version",check := literal (.str "test-evidence-v1")},
    {name := "passed",check := literal (.bool true)},
    {name := "command",check := textWhere (sized 1 2000)},
    {name := "exitCode",check := literal (.num 0)}] raw
  some {command := textAt fields "command"}

def numberWhere (allowed : Int → Bool) : Json → Option Json
  | .num value => if isSafeInteger value && allowed value then some (.num value) else none
  | _ => none

/-- An observation's schema: the workflow and the verifier have one each, which
differ in the longest command and in the exit codes. -/
def observationShape (formats : Formats) (longest : Nat) (exitCode : Int → Bool) : List (Shape.Field Json) := [
  {name := "runId",check := textWhere (sized 1 128)},
  {name := "stepId",check := textWhere (sized 1 128)},
  {name := "command",check := textWhere (sized 1 longest)},
  {name := "exitCode",check := numberWhere exitCode},
  {name := "startedAt",check := textWhere formats.datetime},
  {name := "completedAt",check := textWhere formats.datetime},
  {name := "repositorySha",check := textWhere isCommitSha},
  {name := "sourceSnapshotDigest",check := textWhere isDigest},
  {name := "changeSetDigest",check := textWhere isDigest},
  {name := "configDigest",check := textWhere isDigest},
  {name := "output",optional := true,check := textWhere (sized 0 8000)}]

def readObservation (shape : List (Shape.Field Json)) (raw : Json) : Option Observation := do
  let fields ← strictObject shape raw
  some {
    runId := textAt fields "runId"
    stepId := textAt fields "stepId"
    command := textAt fields "command"
    exitCode := ((Shape.lookup fields "exitCode").bind Json.number?).getD 0
    startedAt := textAt fields "startedAt"
    completedAt := textAt fields "completedAt"
    repositorySha := textAt fields "repositorySha"
    sourceSnapshotDigest := textAt fields "sourceSnapshotDigest"
    changeSetDigest := textAt fields "changeSetDigest"
    configDigest := textAt fields "configDigest"
    output := (Shape.lookup fields "output").bind Json.string? }

def trustedCommandObservationSchema (formats : Formats) : Json → Option Observation :=
  readObservation (observationShape formats 8000 fun code => 0 ≤ code && code ≤ 255)

def observationSchema (formats : Formats) : Json → Option Observation :=
  readObservation (observationShape formats 2000 fun _ => true)

end AgentOS.Gate
