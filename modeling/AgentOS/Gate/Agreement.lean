import AgentOS.Gate.SchemaRules
import AgentOS.Gate.Verifier

/-! The stages of the gate over one run. What the workflow's schemas accepted is
read again after sealing and by the verifier, where the limits are on the sealed
list and the verifier's own. -/
namespace AgentOS.Gate
open Workflow

/-! ### Sealing -/

/-- The search for a path meets no malformed path of the source before it ends. -/
def Readable (path : String) (sourcePaths : List String) : Prop :=
  ∀ before candidate after, sourcePaths = before ++ candidate::after → wellFormedPath candidate = false →
    ∃ other ∈ before, normalizedPath other = normalizedPath path

variable {sourcePaths : List String} {files : List AcceptanceTestFile}

theorem existsIn_ok_iff {path : String} (formed : wellFormedPath path = true) :
    (∃ found, existsIn path sourcePaths = .ok found) ↔ Readable path sourcePaths := by
  have here : normalizedPath path = some (lowerCase path) := normalizedPath_eq_some.mpr ⟨formed,rfl⟩
  induction sourcePaths with
  | nil =>
    refine ⟨fun _ before candidate after split => ?_,fun _ => ⟨false,rfl⟩⟩
    cases before <;> cases split
  | cons first sourcePaths ih =>
    unfold existsIn
    cases normal : normalizedPath first with
    | none =>
      have malformed : wellFormedPath first = false := by
        by_contra formed
        rw [Bool.not_eq_false] at formed
        rw [normalizedPath_eq_some.mpr ⟨formed,rfl⟩] at normal
        cases normal
      constructor
      · intro found
        obtain ⟨_,impossible⟩ := found
        cases impossible
      · intro readable
        obtain ⟨_,impossible,_⟩ := readable [] first sourcePaths rfl malformed
        cases impossible
    | some folded =>
      rw [here]
      dsimp only
      have formedFirst := (normalizedPath_eq_some.mp normal).1
      by_cases same : folded = lowerCase path
      · rw [if_pos same]
        refine ⟨fun _ before candidate after split malformed => ?_,fun _ => ⟨true,rfl⟩⟩
        cases before with
        | nil =>
          cases split
          rw [formedFirst] at malformed
          cases malformed
        | cons other before =>
          cases split
          refine ⟨first,List.mem_cons_self,?_⟩
          rw [normal,here,same]
      · rw [if_neg same]
        refine Iff.trans ih ?_
        constructor
        · intro readable before candidate after split malformed
          cases before with
          | nil =>
            cases split
            rw [formedFirst] at malformed
            cases malformed
          | cons other before =>
            cases split
            obtain ⟨found,inside,agrees⟩ := readable before candidate after rfl malformed
            exact ⟨found,List.mem_cons_of_mem _ inside,agrees⟩
        · intro readable before candidate after split malformed
          obtain ⟨found,inside,agrees⟩ := readable (first::before) candidate after (by rw [split]; rfl) malformed
          rcases List.mem_cons.mp inside with rfl | inside
          · rw [normal,here,Option.some.injEq] at agrees
            exact absurd agrees same
          · exact ⟨found,inside,agrees⟩

theorem isAcceptanceTestPath_wellFormed {path : String} (accepted : isAcceptanceTestPath path = true) :
    wellFormedPath path = true := by
  unfold isAcceptanceTestPath at accepted
  cases normal : normalizedPath path with
  | none =>
    rw [normal] at accepted
    cases accepted
  | some folded => exact (normalizedPath_eq_some.mp normal).1

structure Overlaid (files : List AcceptanceTestFile) (changes : List Change) : Prop where
  length : changes.length = files.length
  bytes : changeBytes changes = testBytes files
  formed : ∀ change ∈ changes, changeSchema change.json = some change

theorem overlay_all
    (formed : ∀ file ∈ files, wellFormedPath file.path = true) (sizes : ∀ file ∈ files, acceptanceTestSchema file.json = some file)
    (readable : ∀ file ∈ files, Readable file.path sourcePaths) :
    ∃ changes, files.mapM (overlay sourcePaths) = .ok changes ∧ Overlaid files changes := by
  induction files with
  | nil => exact ⟨[],rfl,rfl,rfl,fun _ impossible => nomatch impossible⟩
  | cons file files ih =>
    obtain ⟨rest,overlaid,length,bytes,each⟩ := ih (fun other inside => formed other (List.mem_cons_of_mem _ inside))
      (fun other inside => sizes other (List.mem_cons_of_mem _ inside))
      fun other inside => readable other (List.mem_cons_of_mem _ inside)
    have path := formed file List.mem_cons_self
    obtain ⟨found,exists_⟩ := (existsIn_ok_iff path).mpr (readable file List.mem_cons_self)
    obtain ⟨pathSized,contentSized⟩ := acceptanceTestSchema_sized (sizes file List.mem_cons_self)
    let change : Change := .write (if found then .modify else .add) file.path false file.content
    have here : overlay sourcePaths file = .ok change := by
      simp [overlay,normalizeRepositoryPathSyntax,path,exists_,Except.map,change]
    refine ⟨change::rest,?_,by simp [length],?_,fun other inside => ?_⟩
    · rw [List.mapM_cons,here,overlaid]
      rfl
    · simp only [changeBytes,testBytes,List.map_cons,List.sum_cons] at bytes ⊢
      rw [bytes]
      rfl
    · rcases List.mem_cons.mp inside with rfl | inside
      · apply writeSchema_json pathSized
        simp only [sized,Bool.and_eq_true,decide_eq_true_eq] at contentSized ⊢
        exact ⟨Nat.zero_le _,contentSized.2⟩
      · exact each other inside

theorem overlay_refused {changes : List Change}
    (formed : ∀ file ∈ files, wellFormedPath file.path = true) (overlaid : files.mapM (overlay sourcePaths) = .ok changes) :
    ∀ file ∈ files, Readable file.path sourcePaths := by
  induction files generalizing changes with
  | nil => exact fun _ impossible => nomatch impossible
  | cons file files ih =>
    have path := formed file List.mem_cons_self
    rw [List.mapM_cons] at overlaid
    cases here : overlay sourcePaths file with
    | error error =>
      rw [here] at overlaid
      cases overlaid
    | ok change =>
      cases later : files.mapM (overlay sourcePaths) with
      | error error =>
        rw [here,later] at overlaid
        cases overlaid
      | ok rest =>
        intro other inside
        rcases List.mem_cons.mp inside with rfl | inside
        · rw [← existsIn_ok_iff path]
          unfold overlay normalizeRepositoryPathSyntax at here
          rw [if_pos path] at here
          dsimp only at here
          cases found : existsIn other.path sourcePaths with
          | error error =>
            rw [found] at here
            cases here
          | ok answer => exact ⟨answer,rfl⟩
        · exact ih (fun other inside => formed other (List.mem_cons_of_mem _ inside)) later other inside

/-! ### The gate -/

/-- The run passed, or was refused by the publication policy; a store that could
not take an artifact is no refusal. -/
def OnlyPolicy : Except GateRefusal (ArtifactMetadata × ArtifactStore) → Prop
  | .ok _ => True
  | .error (.policy _) => True
  | .error (.store _) => True
  | .error _ => False

def Fits (changes : List Change) (tests : List AcceptanceTestFile) : Prop :=
  changes.length + tests.length ≤ PUBLICATION_MAX_FILES ∧ changeBytes changes + testBytes tests ≤ PUBLICATION_MAX_TOTAL_BYTES

instance (changes : List Change) (tests : List AcceptanceTestFile) : Decidable (Fits changes tests) :=
  inferInstanceAs (Decidable (_ ∧ _))

theorem sealed_json {changes overlays : List Change} {tests : List AcceptanceTestFile} (fewest : 1 ≤ changes.length)
    (each : ∀ change ∈ changes, changeSchema change.json = some change) (overlaid : Overlaid tests overlays) :
    changeSetSchema (ChangeSet.json {changes := changes ++ overlays}) =
      if Fits changes tests then some {changes := changes ++ overlays} else none := by
  have again : ∀ change ∈ changes ++ overlays, changeSchema change.json = some change := by
    intro change inside
    rcases List.mem_append.mp inside with inside | inside
    · exact each change inside
    · exact overlaid.formed change inside
  have bytes := overlaid.bytes
  have size : changeBytes (changes ++ overlays) = changeBytes changes + testBytes tests := by
    unfold changeBytes at bytes ⊢
    rw [List.map_append,List.sum_append,bytes]
  have number : (changes ++ overlays).length = changes.length + tests.length := by
    rw [List.length_append,overlaid.length]
  rw [changeSetSchema_json (by omega) again,number,size]
  rfl

section
variable {env : GateEnvironment} {options : VerifierOptions} {run : FeatureRun} {store : ArtifactStore}

theorem bindings_own (digest : String) (result : CommandResult) : bindings run (observation run digest result) digest = .ok () := by
  simp [bindings,expectedBindings,observation,Observation.attested]

variable {definition : DefinitionOfDone} {evidence : TestEvidence} {changeSet : ChangeSet}

theorem verify_only_policy
    {result : CommandResult} (definitionAgain : definitionOfDoneSchema env.formats definition.json = some definition)
    (changesAgain : changeSetSchema changeSet.json = some changeSet) (evidenceAgain : testEvidenceSchema evidence.json = some evidence)
    (observed : trustedCommandObservationSchema env.formats (observation run (hash env changeSet.json) result).json =
      some (observation run (hash env changeSet.json) result))
    (succeeded : result.exitCode = 0) (ordered : earlier (env.parseTime result.completedAt) (env.parseTime result.startedAt) = false)
    (configured : options.configured = true) : OnlyPolicy (verify env options run store definition.json changeSet.json evidence.json
      (observation run (hash env changeSet.json) result).json) ↔
      (options.policy changeSet.changes = .ok () → units result.command ≤ 2000) := by
  have passing : passes env (observation run (hash env changeSet.json) result) = .ok () := by
    simp [passes,observation,succeeded,ordered]
  unfold verify
  simp only [definitionAgain,changesAgain,evidenceAgain,required,bind,Except.bind]
  cases policy : options.policy changeSet.changes with
  | error message => simp [Except.mapError,OnlyPolicy]
  | ok accepted =>
    simp only [Except.mapError,forall_const]
    have read : observationSchema env.formats (observation run (hash env changeSet.json) result).json =
        if units result.command ≤ 2000 then some (observation run (hash env changeSet.json) result) else none :=
      (observationSchema_json observed).2
    rw [read]
    by_cases short : units result.command ≤ 2000
    · rw [if_pos short]
      dsimp only
      rw [bindings_own,passing,configured]
      dsimp only
      unfold stored
      cases ArtifactStore.put store env.sha256 _ env.now <;> simp [Except.mapError,OnlyPolicy,short]
    · rw [if_neg short]
      simp [OnlyPolicy,short]

/-- What the artifacts and the command are when they reach the gate: all accepted by
the workflow's own schemas, with the tests left alone and the command a success. -/
structure Accepted (env : GateEnvironment) (run : FeatureRun) (definition : DefinitionOfDone) (changeSet : ChangeSet)
    (evidence : TestEvidence) (exactCommand : String) (observeCommand : ChangeSet → CommandResult) : Prop where
  definitionRead : ∃ raw, definitionOfDoneSchema env.formats raw = some definition
  changesRead : ∃ raw, changeSetSchema raw = some changeSet
  evidenceRead : ∃ raw, testEvidenceSchema raw = some evidence
  untouched : ∀ change ∈ changeSet.changes, isAcceptanceTestPath change.path = false
  short : units exactCommand ≤ 8000
  ran : ∀ sealed, (observeCommand sealed).command = exactCommand
  observed : ∀ sealed : ChangeSet, (trustedCommandObservationSchema env.formats
    (observation run (hash env sealed.json) (observeCommand sealed)).json).isSome
  succeeded : ∀ sealed, (observeCommand sealed).exitCode = 0
  ordered : ∀ sealed,
    earlier (env.parseTime (observeCommand sealed).completedAt) (env.parseTime (observeCommand sealed).startedAt) = false

theorem gate_sealed
    {exactCommand : String} {observeCommand : ChangeSet → CommandResult} {sourcePaths : List String} {changes : List Change}
    (accepted : Accepted env run definition changeSet evidence exactCommand observeCommand) (configured : options.configured = true)
    (sealing : sealChangeSet changeSet.changes definition.acceptanceTests sourcePaths = .ok changes)
    (again : changeSetSchema (ChangeSet.json {changes}) = some {changes}) :
    OnlyPolicy (gate env options run store definition changeSet evidence sourcePaths exactCommand observeCommand) ↔
      ((stored env store (sealedPut run {changes})).isOk = true → options.policy changes = .ok () → units exactCommand ≤ 2000) := by
  obtain ⟨_,definitionRead⟩ := accepted.definitionRead
  obtain ⟨_,evidenceRead⟩ := accepted.evidenceRead
  obtain ⟨read,observed⟩ := Option.isSome_iff_exists.mp (accepted.observed {changes})
  obtain ⟨rfl,_⟩ := observationSchema_json observed
  obtain ⟨_,_,command,_⟩ := readObservation_ok observed
  have ran : (observeCommand {changes}).command = exactCommand := accepted.ran _
  change sized 1 8000 (observeCommand {changes}).command = true at command
  simp only [ran,sized,Bool.and_eq_true,decide_eq_true_eq] at command
  have permitted : ¬ (units exactCommand < 1 ∨ units exactCommand > 8000) := by omega
  unfold gate
  rw [sealing]
  simp only [Except.mapError,required,again,observed,bind,Except.bind,if_neg permitted]
  cases storing : stored env store (sealedPut run {changes}) with
  | ok answer =>
    have verifying := @verify_only_policy env options run answer.2 _ _ _ (observeCommand {changes})
      (definitionOfDoneSchema_ok definitionRead).2.2.2 again (testEvidenceSchema_again evidenceRead) observed
      (accepted.succeeded _) (accepted.ordered _) configured
    rw [ran] at verifying
    simpa [Except.isOk,Except.toBool] using verifying
  | error refusal =>
    unfold stored at storing
    cases put : store.put env.sha256 (sealedPut run {changes}) env.now with
    | error cause =>
      rw [put] at storing
      cases storing
      simp [OnlyPolicy,Except.isOk,Except.toBool]
    | ok answer =>
      rw [put] at storing
      cases storing

/-- A run that the workflow's schemas accepted is refused by the policy only, exactly
when the search for the tests' paths ends before a malformed path of the source, the
sealed changes are within the limits of a change set, and a command that is observed
over changes the policy accepts has no more than 2000 characters. -/
theorem trusted_gate_agrees_iff {definition : DefinitionOfDone} {changeSet : ChangeSet} {evidence : TestEvidence}
    {exactCommand : String} {observeCommand : ChangeSet → CommandResult}
    (accepted : Accepted env run definition changeSet evidence exactCommand observeCommand)
    (configured : options.configured = true) (store : ArtifactStore) (sourcePaths : List String) :
    OnlyPolicy (gate env options run store definition changeSet evidence sourcePaths exactCommand observeCommand) ↔
      (∀ file ∈ definition.acceptanceTests, Readable file.path sourcePaths) ∧ Fits changeSet.changes definition.acceptanceTests ∧
      ∀ changes, sealChangeSet changeSet.changes definition.acceptanceTests sourcePaths = .ok changes →
        (stored env store (sealedPut run {changes})).isOk = true → options.policy changes = .ok () → units exactCommand ≤ 2000 := by
  obtain ⟨_,definitionRead⟩ := accepted.definitionRead
  obtain ⟨_,changesRead⟩ := accepted.changesRead
  obtain ⟨refined,_,sizes,_⟩ := definitionOfDoneSchema_ok definitionRead
  obtain ⟨fewest,each⟩ := changeSetSchema_ok changesRead
  have formed : ∀ file ∈ definition.acceptanceTests, wellFormedPath file.path = true := by
    intro file inside
    simp only [definitionOfDoneRefined,Bool.and_eq_true,List.all_eq_true] at refined
    exact isAcceptanceTestPath_wellFormed (refined.1.2 file inside).1.1
  have unreserved : changeSet.changes.find? (fun change => isAcceptanceTestPath change.path) = none := by
    rw [List.find?_eq_none]
    intro change inside
    rw [accepted.untouched change inside]
    decide
  have sealing : sealChangeSet changeSet.changes definition.acceptanceTests sourcePaths =
      (definition.acceptanceTests.mapM (overlay sourcePaths)).map (changeSet.changes ++ ·) := by
    unfold sealChangeSet
    rw [unreserved]
  by_cases readable : ∀ file ∈ definition.acceptanceTests, Readable file.path sourcePaths
  · obtain ⟨overlays,overlaid,laid⟩ := overlay_all formed sizes readable
    have again := sealed_json fewest each laid
    rw [overlaid] at sealing
    by_cases fits : Fits changeSet.changes definition.acceptanceTests
    · rw [if_pos fits] at again
      rw [gate_sealed accepted configured sealing again,sealing]
      simp only [fits,Except.map,Except.ok.injEq,forall_eq',true_and]
      exact ⟨fun limit => ⟨readable,limit⟩,And.right⟩
    · rw [if_neg fits] at again
      unfold gate
      rw [sealing]
      simp [Except.map,Except.mapError,required,again,bind,Except.bind,OnlyPolicy,fits]
  · unfold gate
    rw [sealing]
    cases overlaid : definition.acceptanceTests.mapM (overlay sourcePaths) with
    | error error => simp [Except.map,Except.mapError,bind,Except.bind,OnlyPolicy,readable]
    | ok overlays => exact absurd (overlay_refused formed overlaid) readable

end
/-! ### One run -/

def zeros (length : Nat) : String := String.ofList (List.replicate length '0')

def plainEnvironment : GateEnvironment where
  formats := {lexer := fun _ _ => some [],datetime := fun _ => true}
  sha256 := fun _ => zeros 64
  parseTime := fun _ => some 0
  now := 0

def lenient : VerifierOptions := {policy := fun _ => .ok (),attest := fun _ => .null}

def gatedRun : FeatureRun where
  projectId := "project-1"
  runId := "run-1"
  repositorySha := zeros 40
  sourceSnapshotDigest := zeros 64
  configDigest := zeros 64

def oneCriterion : DefinitionOfDone where
  criteria := [{id := "search",description := "finds a note"}]
  acceptanceTests := [{path := "test/acceptance/search.test.mjs",content := "assert"}]

def oneChange : ChangeSet := {changes := [.write .add "src/search.mjs" false "export"]}

def succeeding (exactCommand : String) (_ : ChangeSet) : CommandResult where
  command := exactCommand
  exitCode := 0
  startedAt := "2026-01-01T00:00:00Z"
  completedAt := "2026-01-01T00:00:00Z"

theorem oneChange_accepted {exactCommand : String} (fewest : 1 ≤ units exactCommand) (most : units exactCommand ≤ 8000) :
    Accepted plainEnvironment gatedRun oneCriterion oneChange {command := "test"} exactCommand (succeeding exactCommand) where
  definitionRead := ⟨oneCriterion.json,by decide +kernel⟩
  changesRead := ⟨oneChange.json,by decide +kernel⟩
  evidenceRead := ⟨TestEvidence.json {command := "test"},by decide +kernel⟩
  untouched := by decide +kernel
  short := most
  ran := fun _ => rfl
  observed := fun _ => by
    have named : sized 1 128 "run-1" = true := by decide
    have staged : sized 1 128 "verification" = true := by decide
    have commit : isCommitSha (zeros 40) = true := by decide +kernel
    have digest : isDigest (zeros 64) = true := by decide +kernel
    have formed : (observation gatedRun (zeros 64) (succeeding exactCommand oneChange)).Formed plainEnvironment.formats :=
      ⟨named,staged,rfl,rfl,commit,digest,digest,digest,(fun _ impossible => nomatch impossible)⟩
    have length : sized 1 8000 (observation gatedRun (zeros 64) (succeeding exactCommand oneChange)).command = true := by
      simp [sized,observation,succeeding,fewest,most]
    exact Option.isSome_of_eq_some (readObservation_formed formed length rfl rfl)
  succeeded := fun _ => rfl
  ordered := fun _ => rfl

theorem short_command_agrees :
    OnlyPolicy (gate plainEnvironment lenient gatedRun .empty oneCriterion oneChange {command := "test"} [] "pnpm test"
      (succeeding "pnpm test")) := by
  have accepted := @oneChange_accepted "pnpm test" (by decide) (by decide)
  have configured : lenient.configured = true := rfl
  rw [trusted_gate_agrees_iff accepted configured .empty []]
  refine ⟨?_,by decide +kernel,?_⟩
  · intro file inside before candidate after split
    cases before <;> cases split
  · intro changes sealing stored accepted
    decide

def longCommand : String := String.ofList (List.replicate 2001 'x')

theorem units_replicate (length : Nat) : units (String.ofList (List.replicate length 'x')) = length := by
  simp [units]

theorem units_longCommand : units longCommand = 2001 := units_replicate 2001

/-- A command of 2001 characters that the workflow's schema accepts is refused by the
verifier's, though the policy allows every change. -/
theorem long_command_refused :
    Accepted plainEnvironment gatedRun oneCriterion oneChange {command := "test"} longCommand (succeeding longCommand) ∧
    ¬ OnlyPolicy (gate plainEnvironment lenient gatedRun .empty oneCriterion oneChange {command := "test"} [] longCommand
      (succeeding longCommand)) := by
  have accepted : Accepted plainEnvironment gatedRun oneCriterion oneChange {command := "test"} longCommand
      (succeeding longCommand) :=
    oneChange_accepted (by rw [units_longCommand]; decide) (by rw [units_longCommand]; decide)
  have sealing : sealChangeSet oneChange.changes oneCriterion.acceptanceTests [] =
      .ok (oneChange.changes ++ [.write .add "test/acceptance/search.test.mjs" false "assert"]) := by decide +kernel
  have configured : lenient.configured = true := rfl
  have again : changeSetSchema (ChangeSet.json
      {changes := oneChange.changes ++ [.write .add "test/acceptance/search.test.mjs" false "assert"]}) =
        some {changes := oneChange.changes ++ [.write .add "test/acceptance/search.test.mjs" false "assert"]} := by
    decide +kernel
  refine ⟨accepted,?_⟩
  rw [gate_sealed accepted configured sealing again]
  intro limit
  have short := limit (by decide +kernel) rfl
  rw [units_longCommand] at short
  omega

end AgentOS.Gate
