import AgentOS.Gate.Schemas

/-! What the schemas accept, and that they accept again what they have read. -/
namespace AgentOS.Gate
open Library Workflow

/-! ### Texts and lists -/

theorem textWhere_eq_some {allowed : String → Bool} {value checked : Json} :
    textWhere allowed value = some checked ↔ ∃ text, value = .str text ∧ allowed text = true ∧ checked = .str text := by
  unfold textWhere
  split
  · rename_i text
    constructor
    · intro answered
      split at answered
      · rename_i allows
        cases answered
        exact ⟨text,rfl,allows,rfl⟩
      · cases answered
    · rintro ⟨_,⟨⟩,allows,rfl⟩
      rw [if_pos allows]
  · rename_i other
    constructor
    · intro impossible
      cases impossible
    · rintro ⟨text,same,_⟩
      exact absurd same (other text)

section
variable {shape : List (Shape.Field Json)} {raw : Json} {fields : List (String × Json)}

theorem strictObject_eq_some :
    strictObject shape raw = some fields ↔ ∃ entries, raw = .obj entries ∧ Shape.strict shape entries = some fields := by
  cases raw <;> simp [strictObject]

theorem textAt_allowed (read : strictObject shape raw = some fields) (names : (shape.map Shape.Field.name).Nodup) {name : String}
    {allowed : String → Bool} (listed : {name,check := textWhere allowed} ∈ shape) : allowed (textAt fields name) = true := by
  obtain ⟨entries,_,strictly⟩ := strictObject_eq_some.mp read
  obtain ⟨value,checked,checks,found⟩ :=
    Shape.readAll_required names (Shape.strict_eq_some_iff.mp strictly).2 listed rfl
  obtain ⟨text,_,allowing,rfl⟩ := textWhere_eq_some.mp checks
  change Shape.lookup fields name = some (.str text) at found
  unfold textAt
  rw [found]
  exact allowing

end

theorem textAt_same {shape : List (Shape.Field Json)} {entries fields : List (String × Json)}
    (read : strictObject shape (.obj entries) = some fields) (names : (shape.map Shape.Field.name).Nodup) {name text : String}
    {allowed : String → Bool} (listed : {name,check := textWhere allowed} ∈ shape)
    (written : Shape.lookup entries name = some (.str text)) : textAt fields name = text ∧ allowed text = true := by
  have allowing := textAt_allowed read names listed
  obtain ⟨_,same,strictly⟩ := strictObject_eq_some.mp read
  cases same
  have found : Shape.lookup fields name = (Shape.lookup entries name).bind (textWhere allowed) :=
    Shape.readAll_lookup names (Shape.strict_eq_some_iff.mp strictly).2 listed
  obtain ⟨_,checked,_,there⟩ := Shape.readAll_required names (Shape.strict_eq_some_iff.mp strictly).2 listed rfl
  change Shape.lookup fields name = some checked at there
  rw [written,there,Option.bind_some] at found
  obtain ⟨_,same,_,kept⟩ := textWhere_eq_some.mp found.symm
  cases same
  have here : textAt fields name = text := by
    unfold textAt
    rw [there,kept]
    rfl
  rw [here] at allowing
  exact ⟨here,allowing⟩

theorem mapM_read {α : Type} {read : Json → Option α} {items : List Json} {values : List α}
    (answered : items.mapM read = some values) : values.length = items.length ∧ ∀ value ∈ values, ∃ item, read item = some value := by
  induction items generalizing values with
  | nil =>
    cases answered
    simp
  | cons item items ih =>
    rw [List.mapM_cons] at answered
    obtain ⟨first,reads,rest⟩ := Option.bind_eq_some_iff.mp answered
    obtain ⟨others,readRest,same⟩ := Option.bind_eq_some_iff.mp rest
    cases same
    obtain ⟨length,each⟩ := ih readRest
    refine ⟨by simp [length],fun value inside => ?_⟩
    rcases List.mem_cons.mp inside with rfl | inside
    · exact ⟨item,reads⟩
    · exact each value inside

theorem listOf_eq_some {α : Type} {least most : Nat} {read : Json → Option α} {raw : Json} {values : List α}
    (answered : listOf least most read raw = some values) :
    least ≤ values.length ∧ values.length ≤ most ∧ ∀ value ∈ values, ∃ item, read item = some value := by
  unfold listOf at answered
  split at answered
  · rename_i items
    split at answered
    · rename_i size
      obtain ⟨length,each⟩ := mapM_read answered
      exact ⟨by omega,by omega,each⟩
    · cases answered
  · cases answered

theorem mapM_json {α : Type} {read : Json → Option α} {json : α → Json} {values : List α}
    (again : ∀ value ∈ values, read (json value) = some value) : (values.map json).mapM read = some values := by
  induction values with
  | nil => rfl
  | cons value values ih =>
    rw [List.map_cons,List.mapM_cons,again value List.mem_cons_self,
      ih fun other inside => again other (List.mem_cons_of_mem _ inside)]
    rfl

theorem listOf_json {α : Type} {least most : Nat} {read : Json → Option α} {json : α → Json} {values : List α}
    (again : ∀ value ∈ values, read (json value) = some value) : listOf least most read (.arr (values.map json)) =
      if least ≤ values.length ∧ values.length ≤ most then some values else none := by
  unfold listOf
  simp only [List.length_map,mapM_json again]

/-! ### The definition of done -/

theorem criterionSchema_json {criterion : Criterion} (id : isIdentifier criterion.id = true)
    (description : sized 1 2000 criterion.description = true) : criterionSchema criterion.json = some criterion := by
  simp [criterionSchema,Criterion.json,strictObject,Shape.strict,Shape.known,Shape.readAll,textWhere,literal,textAt,
    Json.string?,id,description]

theorem criterionSchema_again {raw : Json} {criterion : Criterion} (read : criterionSchema raw = some criterion) :
    criterionSchema criterion.json = some criterion := by
  unfold criterionSchema at read
  obtain ⟨fields,readFields,same⟩ := Option.bind_eq_some_iff.mp read
  cases same
  apply criterionSchema_json
  · exact textAt_allowed readFields (by decide) (by simp)
  · exact textAt_allowed readFields (by decide) (by simp)

theorem acceptanceTestSchema_json {file : AcceptanceTestFile} (path : sized 1 1024 file.path = true)
    (content : sized 1 PUBLICATION_MAX_FILE_BYTES file.content = true) : acceptanceTestSchema file.json = some file := by
  simp [acceptanceTestSchema,AcceptanceTestFile.json,strictObject,Shape.strict,Shape.known,Shape.readAll,textWhere,literal,
    textAt,Json.string?,path,content]

theorem acceptanceTestSchema_sized {raw : Json} {file : AcceptanceTestFile} (read : acceptanceTestSchema raw = some file) :
    sized 1 1024 file.path = true ∧ sized 1 PUBLICATION_MAX_FILE_BYTES file.content = true := by
  unfold acceptanceTestSchema at read
  obtain ⟨fields,readFields,same⟩ := Option.bind_eq_some_iff.mp read
  cases same
  exact ⟨textAt_allowed readFields (by decide) (by simp),textAt_allowed readFields (by decide) (by simp)⟩

theorem definitionOfDoneSchema_ok {formats : Formats} {raw : Json} {definition : DefinitionOfDone}
    (read : definitionOfDoneSchema formats raw = some definition) :
    definitionOfDoneRefined formats definition = true ∧ definition.acceptanceTests.length ≤ 20 ∧
    (∀ file ∈ definition.acceptanceTests, acceptanceTestSchema file.json = some file) ∧
    definitionOfDoneSchema formats definition.json = some definition := by
  unfold definitionOfDoneSchema at read
  obtain ⟨fields,_,read⟩ := Option.bind_eq_some_iff.mp read
  obtain ⟨criteria,readCriteria,read⟩ := Option.bind_eq_some_iff.mp read
  obtain ⟨tests,readTests,read⟩ := Option.bind_eq_some_iff.mp read
  split at read
  · rename_i refined
    cases read
    obtain ⟨_,_,readCriteria⟩ := Option.bind_eq_some_iff.mp readCriteria
    obtain ⟨_,_,readTests⟩ := Option.bind_eq_some_iff.mp readTests
    obtain ⟨fewest,most,eachCriterion⟩ := listOf_eq_some readCriteria
    obtain ⟨fewestTests,mostTests,eachTest⟩ := listOf_eq_some readTests
    have testsAgain : ∀ file ∈ tests, acceptanceTestSchema file.json = some file := by
      intro file inside
      obtain ⟨_,reads⟩ := eachTest file inside
      exact acceptanceTestSchema_json (acceptanceTestSchema_sized reads).1 (acceptanceTestSchema_sized reads).2
    have criteriaAgain : ∀ criterion ∈ criteria, criterionSchema criterion.json = some criterion := by
      intro criterion inside
      obtain ⟨_,reads⟩ := eachCriterion criterion inside
      exact criterionSchema_again reads
    refine ⟨refined,mostTests,testsAgain,?_⟩
    have readsCriteria : listOf 1 100 criterionSchema (.arr (criteria.map Criterion.json)) = some criteria := by
      rw [listOf_json criteriaAgain,if_pos ⟨fewest,most⟩]
    have readsTests : listOf 1 20 acceptanceTestSchema (.arr (tests.map AcceptanceTestFile.json)) = some tests := by
      rw [listOf_json testsAgain,if_pos ⟨fewestTests,mostTests⟩]
    simp [definitionOfDoneSchema,DefinitionOfDone.json,strictObject,Shape.strict,Shape.known,Shape.readAll,literal,anything,
      readsCriteria,readsTests,refined]
  · cases read

/-! ### The change set -/

theorem writeSchema_json {operation : WriteOperation} {path content : String} {executable : Bool}
    (pathSized : sized 1 1024 path = true) (contentSized : sized 0 PUBLICATION_MAX_FILE_BYTES content = true) :
    changeSchema (Change.write operation path executable content).json = some (.write operation path executable content) := by
  cases operation <;> cases executable <;>
    simp [changeSchema,writeSchema,Change.json,WriteOperation.text,modeText,Json.field?,strictObject,Shape.strict,Shape.known,
      Shape.readAll,textWhere,literal,oneOf,text,textAt,Json.string?,pathSized,contentSized]

theorem removeSchema_json {path : String} (pathSized : sized 1 1024 path = true) :
    changeSchema (Change.delete path).json = some (.delete path) := by
  simp [changeSchema,removeSchema,Change.json,Json.field?,strictObject,Shape.strict,Shape.known,Shape.readAll,textWhere,
    literal,textAt,Json.string?,pathSized]

theorem changeSchema_again {raw : Json} {change : Change} (read : changeSchema raw = some change) :
    changeSchema change.json = some change := by
  have written : ∀ operation, writeSchema operation raw = some change → changeSchema change.json = some change := by
    intro operation reads
    unfold writeSchema at reads
    obtain ⟨fields,readFields,same⟩ := Option.bind_eq_some_iff.mp reads
    cases same
    apply writeSchema_json
    · exact textAt_allowed readFields (by simp) (by simp)
    · exact textAt_allowed readFields (by simp) (by simp)
  unfold changeSchema at read
  split at read
  · exact written .add read
  · exact written .modify read
  · unfold removeSchema at read
    obtain ⟨fields,readFields,same⟩ := Option.bind_eq_some_iff.mp read
    cases same
    apply removeSchema_json
    exact textAt_allowed readFields (by decide) (by simp)
  · cases read

theorem changeSetSchema_ok {raw : Json} {changeSet : ChangeSet} (read : changeSetSchema raw = some changeSet) :
    1 ≤ changeSet.changes.length ∧ ∀ change ∈ changeSet.changes, changeSchema change.json = some change := by
  unfold changeSetSchema at read
  obtain ⟨fields,_,read⟩ := Option.bind_eq_some_iff.mp read
  obtain ⟨changes,readChanges,read⟩ := Option.bind_eq_some_iff.mp read
  split at read
  · cases read
    obtain ⟨_,_,readChanges⟩ := Option.bind_eq_some_iff.mp readChanges
    obtain ⟨fewest,_,each⟩ := listOf_eq_some readChanges
    refine ⟨fewest,fun change inside => ?_⟩
    obtain ⟨_,reads⟩ := each change inside
    exact changeSchema_again reads
  · cases read

theorem changeSetSchema_json {changes : List Change} (fewest : 1 ≤ changes.length)
    (each : ∀ change ∈ changes, changeSchema change.json = some change) : changeSetSchema (ChangeSet.json {changes}) =
      if changes.length ≤ PUBLICATION_MAX_FILES ∧ changeBytes changes ≤ PUBLICATION_MAX_TOTAL_BYTES then some {changes} else none := by
  have reads : listOf 1 PUBLICATION_MAX_FILES changeSchema (.arr (changes.map Change.json)) =
      if changes.length ≤ PUBLICATION_MAX_FILES then some changes else none := by
    rw [listOf_json each]
    simp [fewest]
  by_cases number : changes.length ≤ PUBLICATION_MAX_FILES <;>
    simp [changeSetSchema,ChangeSet.json,strictObject,Shape.strict,Shape.known,Shape.readAll,literal,anything,reads,number]

/-! ### The test evidence -/

theorem testEvidenceSchema_again {raw : Json} {evidence : TestEvidence} (read : testEvidenceSchema raw = some evidence) :
    testEvidenceSchema evidence.json = some evidence := by
  unfold testEvidenceSchema at read
  obtain ⟨fields,readFields,same⟩ := Option.bind_eq_some_iff.mp read
  have command : sized 1 2000 (textAt fields "command") = true := textAt_allowed readFields (by decide) (by simp)
  obtain ⟨given,known⟩ : ∃ given, given = textAt fields "command" := ⟨_,rfl⟩
  cases same
  rw [← known] at command ⊢
  simp [testEvidenceSchema,TestEvidence.json,strictObject,Shape.strict,Shape.known,Shape.readAll,textWhere,literal,textAt,
    Json.string?,command]

/-! ### The observation -/

structure Observation.Formed (formats : Formats) (observation : Observation) : Prop where
  runId : sized 1 128 observation.runId = true
  stepId : sized 1 128 observation.stepId = true
  startedAt : formats.datetime observation.startedAt = true
  completedAt : formats.datetime observation.completedAt = true
  repositorySha : isCommitSha observation.repositorySha = true
  sourceSnapshotDigest : isDigest observation.sourceSnapshotDigest = true
  changeSetDigest : isDigest observation.changeSetDigest = true
  configDigest : isDigest observation.configDigest = true
  output : ∀ output, observation.output = some output → sized 0 8000 output = true

section
variable {formats : Formats} {longest : Nat} {exitCode : Int → Bool}

theorem readObservation_formed {observation : Observation}
    (formed : observation.Formed formats) (command : sized 1 longest observation.command = true)
    (safe : isSafeInteger observation.exitCode = true) (allowed : exitCode observation.exitCode = true) :
    readObservation (observationShape formats longest exitCode) observation.json = some observation := by
  obtain ⟨runId,stepId,startedAt,completedAt,repositorySha,sourceSnapshotDigest,changeSetDigest,configDigest,output⟩ := formed
  have number : numberWhere exitCode (.num observation.exitCode) = some (.num observation.exitCode) := by
    simp [numberWhere,safe,allowed]
  obtain ⟨_,_,_,_,_,_,_,_,_,_,written⟩ := observation
  cases written with
  | none =>
    simp_all [readObservation,observationShape,Observation.json,Observation.attested,strictObject,Shape.strict,Shape.known,
      Shape.readAll,textWhere,textAt,Json.string?,Json.number?,Shape.lookup]
  | some text =>
    simp_all [readObservation,observationShape,Observation.json,Observation.attested,strictObject,Shape.strict,Shape.known,
      Shape.readAll,textWhere,textAt,Json.string?,Json.number?,Shape.lookup]

theorem readObservation_ok {observation read : Observation}
    (answered : readObservation (observationShape formats longest exitCode) observation.json = some read) :
    read = observation ∧ observation.Formed formats ∧ sized 1 longest observation.command = true ∧
      isSafeInteger observation.exitCode = true := by
  unfold readObservation at answered
  obtain ⟨fields,readFields,same⟩ := Option.bind_eq_some_iff.mp answered
  have names : ((observationShape formats longest exitCode).map Shape.Field.name).Nodup := by simp [observationShape]
  have reads : ∀ name allowed text, {name,check := textWhere allowed} ∈ observationShape formats longest exitCode →
      Shape.lookup observation.attested name = some (.str text) → textAt fields name = text ∧ allowed text = true := by
    intro name allowed text listed written
    refine textAt_same readFields names listed ?_
    unfold Shape.lookup at written ⊢
    rw [List.find?_append]
    cases found : observation.attested.find? fun entry => entry.1 = name with
    | none =>
      rw [found] at written
      cases written
    | some entry =>
      rw [found] at written
      exact written
  obtain ⟨_,sameEntries,strictly⟩ := strictObject_eq_some.mp readFields
  cases sameEntries
  have reading := (Shape.strict_eq_some_iff.mp strictly).2
  have runId := reads "runId" (sized 1 128) observation.runId (by simp [observationShape]) (by simp [Observation.attested])
  have stepId := reads "stepId" (sized 1 128) observation.stepId (by simp [observationShape]) (by simp [Observation.attested])
  have command := reads "command" (sized 1 longest) observation.command (by simp [observationShape])
    (by simp [Observation.attested])
  have startedAt := reads "startedAt" formats.datetime observation.startedAt (by simp [observationShape])
    (by simp [Observation.attested])
  have completedAt := reads "completedAt" formats.datetime observation.completedAt (by simp [observationShape])
    (by simp [Observation.attested])
  have repositorySha := reads "repositorySha" isCommitSha observation.repositorySha (by simp [observationShape])
    (by simp [Observation.attested])
  have sourceSnapshotDigest := reads "sourceSnapshotDigest" isDigest observation.sourceSnapshotDigest
    (by simp [observationShape]) (by simp [Observation.attested])
  have changeSetDigest := reads "changeSetDigest" isDigest observation.changeSetDigest (by simp [observationShape])
    (by simp [Observation.attested])
  have configDigest := reads "configDigest" isDigest observation.configDigest (by simp [observationShape])
    (by simp [Observation.attested])
  have exitField : {name := "exitCode",check := numberWhere exitCode} ∈ observationShape formats longest exitCode := by
    simp [observationShape]
  have outputField : {name := "output",optional := true,check := textWhere (sized 0 8000)} ∈
      observationShape formats longest exitCode := by
    simp [observationShape]
  have exitWritten : Shape.lookup (observation.attested ++
      (observation.output.map fun output => ("output",Json.str output)).toList) "exitCode" =
        some (.num observation.exitCode) := by
    simp [Observation.attested]
  have outputWritten : Shape.lookup (observation.attested ++
      (observation.output.map fun output => ("output",Json.str output)).toList) "output" =
        observation.output.map Json.str := by
    cases observation.output <;> simp [Observation.attested,Shape.lookup]
  obtain ⟨exitChecked,exitChecks⟩ := Shape.readAll_checked reading exitField exitWritten
  have exitRead := Shape.readAll_lookup names reading exitField
  have outputRead := Shape.readAll_lookup names reading outputField
  rw [exitWritten,Option.bind_some,exitChecks] at exitRead
  rw [outputWritten] at outputRead
  change numberWhere exitCode (.num observation.exitCode) = some exitChecked at exitChecks
  simp only [numberWhere] at exitChecks
  split at exitChecks
  · rename_i allowed
    rw [Bool.and_eq_true] at allowed
    cases exitChecks
    have outputs : (Shape.lookup fields "output").bind Json.string? = observation.output ∧
        ∀ output, observation.output = some output → sized 0 8000 output = true := by
      cases written : observation.output with
      | none =>
        rw [written] at outputRead
        refine ⟨?_,by intro output impossible; cases impossible⟩
        rw [show Shape.lookup fields "output" = none from outputRead]
        rfl
      | some output =>
        rw [written] at outputRead
        rw [show observation.output.map Json.str = some (.str output) from congrArg _ written] at outputWritten
        obtain ⟨checked,checks⟩ := Shape.readAll_checked reading outputField outputWritten
        change textWhere (sized 0 8000) (.str output) = some checked at checks
        obtain ⟨_,same,allowing,_⟩ := textWhere_eq_some.mp checks
        cases same
        refine ⟨?_,fun other same => by cases same; exact allowing⟩
        rw [show Shape.lookup fields "output" = textWhere (sized 0 8000) (.str output) from outputRead]
        simp [textWhere,allowing,Json.string?]
    refine ⟨?_,⟨runId.2,stepId.2,startedAt.2,completedAt.2,repositorySha.2,sourceSnapshotDigest.2,changeSetDigest.2,
      configDigest.2,outputs.2⟩,command.2,allowed.1⟩
    cases same
    rw [show Shape.lookup fields "exitCode" = some (.num observation.exitCode) from exitRead]
    simp only [runId.1,stepId.1,command.1,startedAt.1,completedAt.1,repositorySha.1,sourceSnapshotDigest.1,
      changeSetDigest.1,configDigest.1,outputs.1,Option.bind_some,Json.number?,Option.getD_some]
  · cases exitChecks

end

theorem observationSchema_json {formats : Formats} {observation read : Observation}
    (trusted : trustedCommandObservationSchema formats observation.json = some read) :
    read = observation ∧ observationSchema formats observation.json =
      if units observation.command ≤ 2000 then some observation else none := by
  obtain ⟨same,formed,command,safe⟩ := readObservation_ok trusted
  simp only [sized,Bool.and_eq_true,decide_eq_true_eq] at command
  refine ⟨same,?_⟩
  by_cases short : units observation.command ≤ 2000
  · rw [if_pos short]
    apply readObservation_formed formed _ safe rfl
    simp [sized,command.1,short]
  · rw [if_neg short]
    cases again : observationSchema formats observation.json with
    | none => rfl
    | some other =>
      have sizes := (readObservation_ok again).2.2.1
      simp only [sized,Bool.and_eq_true,decide_eq_true_eq] at sizes
      exact absurd sizes.2 short

end AgentOS.Gate
