import AgentOS.Artifacts
import AgentOS.Gate.Schemas

/-! The trusted gate of a feature workflow: the agent's change set is sealed and
read again, a trusted command is observed over it, and the verifier judges both. -/
namespace AgentOS.Gate
open Library Workflow

structure FeatureRun where
  projectId : String
  runId : String
  repositorySha : String
  sourceSnapshotDigest : String
  configDigest : String

structure CommandResult where
  command : String
  exitCode : Int
  startedAt : String
  completedAt : String
  output : Option String := none

inductive GateRefusal where
  | seal (error : SealError)
  | sealedInvalid
  | commandInvalid
  | observationInvalid
  | schema (name : String)
  | policy (message : String)
  | mismatch (key : String)
  | testFailed (message : String)
  | unconfigured
  | store (fault : Fault)

structure VerifierOptions where
  policy : List Change → Except String Unit
  configured : Bool := true
  attest : Json → Json

/-- What the gate takes from the language's and the packages' libraries. -/
structure GateEnvironment where
  formats : Formats
  sha256 : String → String
  parseTime : String → Option Int
  now : Instant

section
variable (env : GateEnvironment) (options : VerifierOptions) (run : FeatureRun)

def hash (value : Json) : String := env.sha256 (canonicalJsonValue value)

def required {α : Type} (refusal : GateRefusal) (value : Option α) : Except GateRefusal α :=
  match value with
  | some value => .ok value
  | none => .error refusal

/-! ### The verifier -/

def expectedBindings (changeSetDigest : String) : List (String × String) := [
  ("runId",run.runId),
  ("stepId","verification"),
  ("repositorySha",run.repositorySha),
  ("sourceSnapshotDigest",run.sourceSnapshotDigest),
  ("changeSetDigest",changeSetDigest),
  ("configDigest",run.configDigest)]

def bindings (observed : Observation) (changeSetDigest : String) : Except GateRefusal Unit :=
  match (expectedBindings run changeSetDigest).find? fun expected =>
    Shape.lookup observed.attested expected.1 ≠ some (.str expected.2) with
  | some (key,_) => .error (.mismatch key)
  | none => .ok ()

def earlier (left right : Option Int) : Bool := left.any fun first => right.any fun second => first < second

def testFailure (observed : Observation) : String :=
  let failed := "trusted test command failed (exit " ++ toString observed.exitCode ++ ")"
  match observed.output with
  | none => failed
  | some output => if output = "" then failed else failed ++ ": " ++ output

def passes (observed : Observation) : Except GateRefusal Unit :=
  if observed.exitCode ≠ 0 ∨ earlier (env.parseTime observed.completedAt) (env.parseTime observed.startedAt) = true then
    .error (.testFailed (testFailure observed))
  else .ok ()

def verificationEvidence (definitionOfDone : DefinitionOfDone) (changeSet : ChangeSet) (testEvidence : TestEvidence)
    (observed : Observation) : Json :=
  .obj [("version",.str "workflow-verification-v3"),("runId",.str run.runId),("definitionOfDone",definitionOfDone.json),
    ("changeSet",changeSet.json),("testEvidence",testEvidence.json),
    ("trustedCommandObservation",.obj observed.attested)]

def trustedReport (evidence : Json) : Json :=
  .obj [("version",.str "trusted-test-report-v1"),("evidence",evidence),("attestation",options.attest evidence)]

def reportPut (report : Json) : ArtifactPutRequest where
  slot := {projectId := run.projectId,runId := run.runId,stepId := "verification",artifactId := "trusted-test-report"
           version := 1}
  bytes := canonicalJsonValue report
  mediaType := "application/json"

def stored (store : ArtifactStore) (request : ArtifactPutRequest) : Except GateRefusal (ArtifactMetadata × ArtifactStore) :=
  (store.put env.sha256 request env.now).mapError .store

def verify (store : ArtifactStore) (definitionOfDone changeSet testEvidence observation : Json) :
    Except GateRefusal (ArtifactMetadata × ArtifactStore) := do
  let definitionOfDone ← required (.schema "definitionOfDone") (definitionOfDoneSchema env.formats definitionOfDone)
  let changeSet ← required (.schema "changeSet") (changeSetSchema changeSet)
  let testEvidence ← required (.schema "testEvidence") (testEvidenceSchema testEvidence)
  (options.policy changeSet.changes).mapError .policy
  let observed ← required (.schema "trustedCommandObservation") (observationSchema env.formats observation)
  bindings run observed (hash env changeSet.json)
  passes env observed
  if options.configured then
    stored env store (reportPut run (trustedReport options (verificationEvidence run definitionOfDone changeSet testEvidence observed)))
  else .error .unconfigured

/-! ### The workflow -/

def sealedPut (changeSet : ChangeSet) : ArtifactPutRequest where
  slot := {projectId := run.projectId,runId := run.runId,stepId := "implementation",artifactId := "sealed-changes"
           version := 1}
  bytes := canonicalJsonValue changeSet.json
  mediaType := "application/json"

def observation (changeSetDigest : String) (result : CommandResult) : Observation :=
  {result with
    runId := run.runId
    stepId := "verification"
    repositorySha := run.repositorySha
    sourceSnapshotDigest := run.sourceSnapshotDigest
    changeSetDigest
    configDigest := run.configDigest}

/-- The gate, from the artifacts the workflow parsed to the verifier's report. The
runtime runs the command over the sealed changes. -/
def gate (store : ArtifactStore) (definitionOfDone : DefinitionOfDone) (changeSet : ChangeSet)
    (testEvidence : TestEvidence) (sourcePaths : List String) (exactCommand : String)
    (observeCommand : ChangeSet → CommandResult) : Except GateRefusal (ArtifactMetadata × ArtifactStore) := do
  let changes ← (sealChangeSet changeSet.changes definitionOfDone.acceptanceTests sourcePaths).mapError .seal
  let changeSet ← required .sealedInvalid (changeSetSchema (ChangeSet.json {changes}))
  let (_,store) ← stored env store (sealedPut run changeSet)
  if units exactCommand < 1 ∨ units exactCommand > 8000 then .error .commandInvalid
  else do
    let observed ← required .observationInvalid (trustedCommandObservationSchema env.formats
      (observation run (hash env changeSet.json) (observeCommand changeSet)).json)
    verify env options run store definitionOfDone.json changeSet.json testEvidence.json observed.json

end
end AgentOS.Gate
