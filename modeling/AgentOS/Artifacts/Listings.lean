import AgentOS.Artifacts.Interchange

/-! The listings of the two manifest stores. One sorts by logical keys and the other by keys; within a scope these are
the same order. -/
namespace AgentOS.Artifacts
open Library

/-! ### The order of keys -/

theorem lt_extended {first second rest rest' : List Char} (apart : first ≠ second)
    (longer : ∀ char more, second = first ++ char::more → '/' < char)
    (shorter : ∀ char more, first = second ++ char::more → '/' < char) :
    first ++ '/'::rest < second ++ '/'::rest' ↔ first < second := by
  induction first generalizing second with
  | nil =>
    cases second with
    | nil => exact absurd rfl apart
    | cons char more => simp [List.cons_lt_cons_iff,longer char more rfl]
  | cons char more ih =>
    cases second with
    | nil =>
      have above := shorter char more rfl
      have notBelow : ¬ char < '/' := Char.lt_asymm above
      have notSame : char ≠ '/' := (Char.ne_of_lt above).symm
      simp [List.cons_lt_cons_iff,notBelow,notSame]
    | cons other others =>
      rw [List.cons_append,List.cons_append,List.cons_lt_cons_iff,List.cons_lt_cons_iff]
      refine or_congr_right (and_congr_right fun same => ?_)
      subst same
      refine ih (fun equal => apart (by rw [equal])) (fun next left equal => ?_) fun next left equal => ?_
      · exact longer next left (by rw [equal]; rfl)
      · exact shorter next left (by rw [equal]; rfl)

def KeyParts.named (parts : KeyParts) : List Char := parts.artifactId.toList ++ '/'::(toString parts.version).toList

theorem digit_above {char : Char} (digit : char.isDigit = true) : '/' < char := by
  simp only [Char.isDigit,Bool.and_eq_true,decide_eq_true_eq,ge_iff_le] at digit
  have start : ('/' : Char).val < ('0' : Char).val := by decide
  exact UInt32.lt_of_lt_of_le start digit.1

variable {parts other : KeyParts}

theorem named_longer (valid : isSegment parts.artifactId = true)
    (valid' : isSegment other.artifactId = true) {char : Char} {more : List Char}
    (longer : other.named = parts.named ++ char::more) : '/' < char := by
  have slash : segmentChar '/' = false := by decide
  unfold KeyParts.named at longer
  rw [List.append_assoc,List.cons_append] at longer
  obtain ⟨_,version⟩ := Joined.inj_of_heads (not_mem_of_segment valid' slash) (not_mem_of_segment valid slash) longer
  have inside : char ∈ (toString other.version).toList := by
    rw [version]
    simp
  exact digit_above (Joined.digits_of_toString inside)

theorem keyText_named (parts : KeyParts) : parts.keyText.toList =
    "artifacts/v1/".toList ++ (parts.projectId.toList ++ '/'::(parts.runId.toList ++ '/'::(parts.stepId.toList ++ '/'::(parts.named ++
      '/'::("sha256/".toList ++ parts.digest.toList))))) := by
  have slash : ("/" : String).toList = ['/'] := by rfl
  have hash : ("/sha256/" : String).toList = '/'::"sha256/".toList := by rfl
  unfold KeyParts.keyText KeyParts.named
  simp only [String.toList_append]
  rw [slash,hash]
  simp only [List.append_assoc,List.cons_append,List.nil_append]

theorem logical_named (parts : KeyParts) : parts.logical.toList =
    "artifact-manifest/v1/".toList ++ (parts.stepId.toList ++ '/'::parts.named) := logicalText_toList _ _ _

theorem append_lt_append {prefix_ first second : List Char} : prefix_ ++ first < prefix_ ++ second ↔ first < second := by
  induction prefix_ with
  | nil => rfl
  | cons char rest ih =>
    rw [List.cons_append,List.cons_append,List.cons_lt_cons_iff]
    simp [ih]

theorem keyText_lt_iff (valid : parts.Valid) (valid' : other.Valid)
    (scope : parts.toArtifactScope = other.toArtifactScope) (apart : parts.logical ≠ other.logical) :
    parts.keyText < other.keyText ↔ parts.logical < other.logical := by
  have project : parts.projectId = other.projectId := congrArg ArtifactScope.projectId scope
  have run : parts.runId = other.runId := congrArg ArtifactScope.runId scope
  have step : parts.stepId = other.stepId := congrArg ArtifactScope.stepId scope
  have names : parts.named ≠ other.named := by
    intro same
    refine apart (String.toList_injective ?_)
    rw [logical_named,logical_named,step,same]
  rw [String.lt_iff,String.lt_iff,keyText_named,keyText_named,logical_named,logical_named,project,run,step,append_lt_append,
    append_lt_append,append_lt_append,append_lt_append]
  simp only [List.cons_lt_cons_iff,Char.lt_irrefl,true_and,false_or,append_lt_append]
  exact lt_extended names (fun _ _ => named_longer valid.artifact valid'.artifact)
    fun _ _ => named_longer valid'.artifact valid.artifact

theorem prefix_named_iff {start : List Char} {parts : KeyParts} (plain : '/' ∉ start) :
    start <+: parts.named ↔ start <+: parts.artifactId.toList := by
  constructor
  · rintro ⟨rest,same⟩
    rcases List.append_eq_append_iff.mp same with ⟨more,longer,_⟩ | ⟨more,longer,split⟩
    · exact ⟨more,longer.symm⟩
    · cases more with
      | nil => exact ⟨[],by rw [longer,List.append_nil,List.append_nil]⟩
      | cons char others =>
        obtain ⟨rfl,_⟩ := List.cons.inj split
        exact absurd (by rw [longer]; simp) plain
  · exact fun starts => starts.trans (List.prefix_append _ _)

theorem prefix_logical_iff {stepId start : String} {parts : KeyParts} (step : isSegment stepId = true)
    (step' : isSegment parts.stepId = true) (plain : '/' ∉ start.toList) :
    ("artifact-manifest/v1/" ++ stepId ++ "/" ++ start).toList.isPrefixOf parts.logical.toList = true ↔
      parts.stepId = stepId ∧ start.toList.isPrefixOf parts.artifactId.toList = true := by
  have slash : ("/" : String).toList = ['/'] := by rfl
  have slash' : segmentChar '/' = false := by decide
  rw [List.isPrefixOf_iff_prefix,List.isPrefixOf_iff_prefix,logical_named]
  simp only [String.toList_append]
  rw [slash,List.append_assoc,List.append_assoc,List.prefix_append_right_inj,List.singleton_append]
  constructor
  · rintro ⟨rest,same⟩
    rw [List.append_assoc,List.cons_append] at same
    obtain ⟨steps,named⟩ := Joined.inj_of_heads (not_mem_of_segment step slash') (not_mem_of_segment step' slash') same
    exact ⟨(String.toList_injective steps).symm,(prefix_named_iff plain).mp ⟨rest,named⟩⟩
  · rintro ⟨rfl,starts⟩
    rw [List.prefix_append_right_inj,List.cons_prefix_cons]
    exact ⟨rfl,(prefix_named_iff plain).mpr starts⟩

/-! ### Rows and entries -/

section
variable {platform : Platform} {storage : Storage} {tables : ArtifactTables} {manifest : MemoryManifest}
  {metadata : ArtifactMetadata} {scope : ArtifactScope}

def rowAt (platform : Platform) (tables : ArtifactTables) (metadata : ArtifactMetadata) : ArtifactRecord :=
  (tables.artifacts.get? (idOf platform metadata.toKeyParts)).getD (plainRow platform metadata)

section
variable (simulates : Simulates platform tables manifest)
include simulates

theorem Simulates.entry (listed : metadata ∈ manifest.values.values) :
    metadata.Valid platform ∧ tables.runs.get? metadata.runId = some metadata.projectId ∧
      manifest.values.get? metadata.identity = some metadata ∧ Row platform manifest metadata (rowAt platform tables metadata) := by
  obtain ⟨id,held⟩ := (manifest.values.mem_values metadata).mp listed
  obtain ⟨valid,rfl,inProject⟩ := simulates.filed id metadata held
  obtain ⟨record,stored,row⟩ := simulates.rows _ _ held
  refine ⟨valid,inProject,held,?_⟩
  unfold rowAt
  rw [stored]
  exact row

theorem Simulates.values : tables.artifacts.values = manifest.values.values.map (rowAt platform tables) := by
  rw [OrderedMap.values_eq,simulates.order,List.filterMap_map,← List.filterMap_eq_map]
  refine List.filterMap_congr fun metadata listed => ?_
  obtain ⟨_,_,held,_⟩ := simulates.entry listed
  obtain ⟨record,stored,_⟩ := simulates.rows _ _ held
  simp [rowAt,stored]

theorem Simulates.read {entries : List ArtifactMetadata} (listed : ∀ metadata ∈ entries, metadata ∈ manifest.values.values) :
    (entries.map (rowAt platform tables)).mapM (metadataFromRecord platform) = .ok entries := by
  induction entries with
  | nil => rfl
  | cons metadata entries ih =>
    obtain ⟨valid,_,_,row⟩ := simulates.entry (listed metadata List.mem_cons_self)
    rw [List.map_cons,List.mapM_cons,row.read valid,ih fun other inside => listed other (List.mem_cons_of_mem _ inside)]
    rfl

theorem Simulates.distinct {other : ArtifactMetadata}
    (listed : metadata ∈ manifest.values.values) (listed' : other ∈ manifest.values.values)
    (scope : metadata.toArtifactScope = other.toArtifactScope) (same : metadata.logical = other.logical) : metadata = other := by
  obtain ⟨_,_,held,_⟩ := simulates.entry listed
  obtain ⟨_,_,held',_⟩ := simulates.entry listed'
  have identities : metadata.identity = other.identity := by
    unfold KeyParts.identity
    rw [same,scope]
  rw [identities,held'] at held
  exact (Option.some.inj held).symm

end

/-- What a listing may be asked: a start of names, and to go on after a key of its scope that is not before the key of
what is stored under its version. -/
structure Listable (manifest : MemoryManifest) (request : ArtifactManifestListRequest) : Prop where
  plain : ∀ start, request.artifactPrefix = some start → '/' ∉ start.toList
  after : ScopeValid request.scope → ∀ after, request.after = some after → ∃ parts : KeyParts, parts.Valid ∧
    parts.keyText = after ∧ parts.toArtifactScope = request.scope ∧ (manifest.gone parts.identity = false →
      ∀ metadata, manifest.values.get? parts.identity = some metadata → ¬ after < metadata.key)

variable {request : ArtifactManifestListRequest}

theorem prefix_getD_iff (listable : Listable manifest request) {parts : KeyParts}
    (step : isSegment request.scope.stepId = true) (step' : isSegment parts.stepId = true) :
    ("artifact-manifest/v1/" ++ request.scope.stepId ++ "/" ++ request.artifactPrefix.getD "").toList.isPrefixOf
        parts.logical.toList = true ↔ parts.stepId = request.scope.stepId ∧
        (request.artifactPrefix.all fun start => start.toList.isPrefixOf parts.artifactId.toList) = true := by
  cases wanted : request.artifactPrefix with
  | none =>
    rw [Option.getD_none,prefix_logical_iff step step' (by simp)]
    simp
  | some start =>
    rw [Option.getD_some,prefix_logical_iff step step' (listable.plain start wanted)]
    rfl

section
variable {cursor : Option KeyParts} (simulates : Simulates platform tables manifest) (scopeValid : ScopeValid request.scope)
include simulates scopeValid

theorem after_iff (listable : Listable manifest request)
    (after : request.after = cursor.map KeyParts.keyText) (cursorValid : ∀ parts, cursor = some parts → parts.Valid)
    (listed : metadata ∈ manifest.values.values) (scope : metadata.toArtifactScope = request.scope)
    (active : manifest.gone metadata.identity = false) :
    (cursor.map KeyParts.logical).all (· < metadata.logical) = request.after.all (· < metadata.key) := by
  obtain ⟨valid,_,held,_⟩ := simulates.entry listed
  cases cursor with
  | none =>
    rw [after]
    rfl
  | some parts =>
    obtain ⟨parts',valid',same,scope',content⟩ := listable.after scopeValid _ after
    have identified := keyText_injective valid' (cursorValid parts rfl) same
    subst identified
    have scopes : parts'.toArtifactScope = metadata.toArtifactScope := scope'.trans scope.symm
    rw [after,Option.map_some,Option.map_some,Option.all_some,Option.all_some,valid.key]
    by_cases version : parts'.logical = metadata.logical
    · have identities : parts'.identity = metadata.identity := by
        unfold KeyParts.identity
        rw [version,scopes]
      have key := content (by rw [identities]; exact active) metadata (by rw [identities]; exact held)
      rw [version,← valid.key,decide_eq_false key]
      simp
    · rw [decide_eq_decide]
      exact (keyText_lt_iff valid' valid.parts scopes version).symm

theorem listed_iff (inProject : tables.runs.get? request.scope.runId = some request.scope.projectId) (listable : Listable manifest request)
    (after : request.after = cursor.map KeyParts.keyText) (cursorValid : ∀ parts, cursor = some parts → parts.Valid)
    (listed : metadata ∈ manifest.values.values) :
    ((rowAt platform tables metadata).runId = request.scope.runId && (rowAt platform tables metadata).deletedAt = none &&
      (rowAt platform tables metadata).manifestVersion = some "artifact-manifest-v1" &&
      (rowAt platform tables metadata).deletionState = some .active &&
      ("artifact-manifest/v1/" ++ request.scope.stepId ++ "/" ++ request.artifactPrefix.getD "").toList.isPrefixOf
        (rowAt platform tables metadata).key.toList && (cursor.map KeyParts.logical).all (· < (rowAt platform tables metadata).key)) =
      manifest.listed request.scope request metadata := by
  obtain ⟨valid,project,held,row⟩ := simulates.entry listed
  unfold MemoryManifest.listed
  rw [valid.parts.identified,Bool.eq_iff_iff]
  simp only [Bool.and_eq_true,decide_eq_true_eq,row.run,row.key,row.version,row.state,Option.some.injEq,and_true,
    prefix_getD_iff listable scopeValid.step valid.parts.step,Except.toOption,Option.any_some,Bool.not_eq_true']
  constructor
  · rintro ⟨⟨⟨⟨run,_⟩,active⟩,step,starts⟩,later⟩
    have untouched : manifest.gone metadata.identity = false := by
      rw [MemoryManifest.gone_iff_state,active]
      rfl
    have projects : metadata.projectId = request.scope.projectId := by
      rw [run,inProject] at project
      exact (Option.some.inj project).symm
    have scope : metadata.toArtifactScope = request.scope := by
      rw [← show ArtifactScope.mk metadata.projectId metadata.runId metadata.stepId = metadata.toArtifactScope from rfl,projects,
        run,step]
    rw [after_iff simulates scopeValid listable after cursorValid listed scope untouched] at later
    exact ⟨⟨⟨⟨⟨untouched,projects⟩,run⟩,step⟩,starts⟩,later⟩
  · rintro ⟨⟨⟨⟨⟨untouched,projects⟩,run⟩,step⟩,starts⟩,later⟩
    have active := state_of_not_gone untouched
    have scope : metadata.toArtifactScope = request.scope := by
      rw [← show ArtifactScope.mk metadata.projectId metadata.runId metadata.stepId = metadata.toArtifactScope from rfl,projects,
        run,step]
    rw [← after_iff simulates scopeValid listable after cursorValid listed scope untouched] at later
    have kept := row.deletedAt
    rw [active] at kept
    exact ⟨⟨⟨⟨run,by simpa using kept⟩,active⟩,step,starts⟩,later⟩

end

theorem entry_scope (project : metadata.projectId = scope.projectId) (run : metadata.runId = scope.runId)
    (step : metadata.stepId = scope.stepId) : metadata.toArtifactScope = scope := by
  rw [← show ArtifactScope.mk metadata.projectId metadata.runId metadata.stepId = metadata.toArtifactScope from rfl,project,run,step]

section
variable (listed : manifest.listed scope request metadata = true)
include listed

theorem scope_of_listed : metadata.toArtifactScope = scope := by
  simp only [MemoryManifest.listed,Bool.and_eq_true,decide_eq_true_eq] at listed
  obtain ⟨⟨⟨⟨⟨_,project⟩,run⟩,step⟩,_⟩,_⟩ := listed
  exact entry_scope project run step

theorem starts_of_listed : (request.artifactPrefix.all fun start => start.toList.isPrefixOf metadata.artifactId.toList) = true := by
  simp only [MemoryManifest.listed,Bool.and_eq_true] at listed
  exact listed.1.2

end

theorem listArtifactsByRunKey_rows {cursor : Option KeyParts} (limit : Nat)
    (simulates : Simulates platform tables manifest) (scopeValid : ScopeValid request.scope)
    (inProject : tables.runs.get? request.scope.runId = some request.scope.projectId) (listable : Listable manifest request)
    (after : request.after = cursor.map KeyParts.keyText) (cursorValid : ∀ parts, cursor = some parts → parts.Valid) :
    tables.listArtifactsByRunKey request.scope.runId
        ("artifact-manifest/v1/" ++ request.scope.stepId ++ "/" ++ request.artifactPrefix.getD "")
        (cursor.map KeyParts.logical) limit = (((manifest.values.values.filter (manifest.listed request.scope request)).insertionSort
        fun left right => left.key ≤ right.key).take limit).map (rowAt platform tables) := by
  unfold ArtifactTables.listArtifactsByRunKey
  rw [simulates.values,List.filter_map,List.map_take]
  have kept := List.filter_congr fun metadata listed => listed_iff simulates scopeValid inProject listable after cursorValid listed
  dsimp only [Function.comp_def]
  rw [kept]
  refine congrArg (List.take limit) ?_
  refine (List.map_insertionSort _ _ _ _ fun left leftListed right rightListed => ?_).symm
  obtain ⟨leftThere,leftListed⟩ := List.mem_filter.mp leftListed
  obtain ⟨rightThere,rightListed⟩ := List.mem_filter.mp rightListed
  obtain ⟨leftValid,_,_,leftRow⟩ := simulates.entry leftThere
  obtain ⟨rightValid,_,_,rightRow⟩ := simulates.entry rightThere
  have scopes : left.toArtifactScope = right.toArtifactScope := (scope_of_listed leftListed).trans (scope_of_listed rightListed).symm
  rw [leftRow.key,rightRow.key,leftValid.key,rightValid.key]
  by_cases version : left.logical = right.logical
  · rw [simulates.distinct leftThere rightThere scopes version]
    simp
  · rw [← String.not_lt,← String.not_lt]
    exact not_congr (keyText_lt_iff rightValid.parts leftValid.parts scopes.symm (Ne.symm version))

theorem cursor_of_listable (listable : Listable manifest request) (scopeValid : ScopeValid request.scope) : ∃ cursor : Option KeyParts,
      request.after = cursor.map KeyParts.keyText ∧ (∀ parts, cursor = some parts → parts.Valid) ∧
        DomainManifest.logicalAfter request.scope request.after = .ok (cursor.map KeyParts.logical) := by
  cases wanted : request.after with
  | none => exact ⟨none,rfl,fun _ impossible => (Option.some_ne_none _ impossible.symm).elim,rfl⟩
  | some after =>
    obtain ⟨parts,valid,rfl,scope,_⟩ := listable.after scopeValid after wanted
    refine ⟨some parts,rfl,fun _ same => Option.some.inj same ▸ valid,?_⟩
    refine bind_ok.mpr ⟨true,artifactKeyMatchesScope_ok_iff.mpr ⟨parts,valid,rfl,scopeValid,by simp [scope]⟩,?_⟩
    rw [if_neg (by simp)]
    refine bind_ok.mpr ⟨parts,parseArtifactKey_ok_iff.mpr ⟨valid,rfl⟩,?_⟩
    rw [valid.logicalKey]
    rfl

theorem pageItems_listed {items : List ArtifactMetadata}
    (listed : ∀ metadata ∈ items, manifest.listed request.scope request metadata = true) :
    DomainManifest.pageItems request.scope request.artifactPrefix items = .ok items := by
  unfold DomainManifest.pageItems
  rw [if_neg,List.filter_eq_self.mpr fun metadata inside => starts_of_listed (listed metadata inside)]
  intro outside
  obtain ⟨metadata,inside,differs⟩ := List.any_eq_true.mp outside
  have scope := scope_of_listed (listed metadata inside)
  rw [← scope] at differs
  simp at differs

theorem list_matches (simulates : Simulates platform storage.tables manifest)
    (inProject : storage.tables.runs.get? request.scope.runId = some request.scope.projectId)
    (listable : Listable manifest request) : Matches platform manifest ((DomainManifest.list platform request).exec storage)
      (manifest.list request >>= fun page => .ok (page,manifest)) := by
  unfold DomainManifest.list MemoryManifest.list
  rw [bind_assoc]
  refine matches_settle simulates fun scope normalized => ?_
  obtain ⟨scopeValid,rfl⟩ := normalizeArtifactScope_ok_iff.mp normalized
  obtain ⟨cursor,after,cursorValid,later⟩ := cursor_of_listable listable scopeValid
  have keyPrefix : DomainManifest.logicalPrefix request =
      .ok ("artifact-manifest/v1/" ++ request.scope.stepId ++ "/" ++ request.artifactPrefix.getD "") := by
    unfold DomainManifest.logicalPrefix
    rw [normalized]
    rfl
  rw [exec_settled keyPrefix,exec_settled later,exec_reading,
    listArtifactsByRunKey_rows (request.limit + 1) simulates scopeValid inProject listable after cursorValid]
  generalize entries : ((manifest.values.values.filter (manifest.listed request.scope request)).insertionSort
    fun left right => left.key ≤ right.key) = found
  have listed : ∀ metadata ∈ found.take request.limit, metadata ∈ manifest.values.values ∧
      manifest.listed request.scope request metadata = true := by
    intro metadata inside
    have there := List.mem_of_mem_take inside
    rw [← entries,List.mem_insertionSort,List.mem_filter] at there
    exact there
  have page : ((found.take (request.limit + 1)).map (rowAt platform storage.tables)).take request.limit =
      (found.take request.limit).map (rowAt platform storage.tables) := by
    rw [← List.map_take,List.take_take,Nat.min_eq_left (Nat.le_succ _)]
  dsimp only
  rw [page,exec_settled (simulates.read fun metadata inside => (listed metadata inside).1),
    exec_settled (pageItems_listed fun metadata inside => (listed metadata inside).2)]
  refine ⟨?_,simulates⟩
  have cut : (found.take (request.limit + 1)).length ≤ request.limit ↔ found.length ≤ request.limit := by
    rw [List.length_take]
    omega
  simp only [List.length_map,cut]

/-! ### Entries that are due -/

def MemoryManifest.due (manifest : MemoryManifest) (before : Instant) : List ArtifactMetadata :=
  manifest.values.values.filter fun metadata =>
    !(identity metadata.toKeyParts).toOption.any (manifest.tombstones.contains ·) && metadata.expiresAt ≤ before

/-- Entries that are due at one time were made in the order of their identifiers. -/
def Sweepable (platform : Platform) (manifest : MemoryManifest) (before : Instant) : Prop :=
  (manifest.due before).Pairwise fun left right => left.expiresAt = right.expiresAt →
    idOf platform left.toKeyParts ≤ idOf platform right.toKeyParts

theorem due_iff (simulates : Simulates platform tables manifest) (before : Instant) (listed : metadata ∈ manifest.values.values) :
    ((rowAt platform tables metadata).manifestVersion = some "artifact-manifest-v1" &&
      (rowAt platform tables metadata).deletedAt = none && ((rowAt platform tables metadata).deletionState = some .active ||
        (rowAt platform tables metadata).deletionState = some .pending) &&
      (rowAt platform tables metadata).cleanupAt.any (· ≤ before)) =
    (!(identity metadata.toKeyParts).toOption.any (manifest.tombstones.contains ·) && metadata.expiresAt ≤ before) := by
  obtain ⟨valid,_,_,row⟩ := simulates.entry listed
  have undeleted := row.deletedAt
  rw [valid.parts.identified,row.version,row.state,row.cleanup]
  simp only [Except.toOption,Option.any_some,MemoryManifest.deleted_iff_state]
  cases state : manifest.state metadata.identity with
  | deleted => simp
  | active =>
    rw [state] at undeleted
    have kept : (rowAt platform tables metadata).deletedAt = none := by simpa using undeleted
    simp [kept]
  | pending =>
    rw [state] at undeleted
    have kept : (rowAt platform tables metadata).deletedAt = none := by simpa using undeleted
    simp [kept]

variable {before : Instant}

theorem listArtifactsDueForCleanup_rows (limit : Nat) (simulates : Simulates platform tables manifest)
    (sweepable : Sweepable platform manifest before) : tables.listArtifactsDueForCleanup before limit =
      (((manifest.due before).insertionSort fun left right => left.expiresAt ≤ right.expiresAt).take limit).map
        (rowAt platform tables) := by
  have kept := List.filter_congr fun metadata listed => due_iff simulates before listed
  unfold ArtifactTables.listArtifactsDueForCleanup
  rw [simulates.values,List.filter_map,List.map_take]
  dsimp only [Function.comp_def]
  rw [kept]
  refine congrArg (List.take limit) ?_
  change ((manifest.due before).map _).insertionSort _ = _
  rw [← List.map_insertionSort (fun left right => ArtifactTables.dueBefore (rowAt platform tables left)
    (rowAt platform tables right)) ArtifactTables.dueBefore (rowAt platform tables) (manifest.due before) fun _ _ _ _ => Iff.rfl]
  refine congrArg (List.map (rowAt platform tables)) (Paging.insertionSort_agree _ _ ?_)
  refine sweepable.imp_of_mem fun leftDue rightDue ordered => ?_
  obtain ⟨_,_,_,leftRow⟩ := simulates.entry (List.mem_filter.mp leftDue).1
  obtain ⟨_,_,_,rightRow⟩ := simulates.entry (List.mem_filter.mp rightDue).1
  unfold ArtifactTables.dueBefore
  rw [leftRow.cleanup,rightRow.cleanup,leftRow.id,rightRow.id]
  exact (or_congr_right ⟨And.left,fun same => ⟨same,ordered same⟩⟩).trans le_iff_lt_or_eq.symm

theorem listExpired_matches {limit : Nat} (simulates : Simulates platform storage.tables manifest)
    (sweepable : Sweepable platform manifest before) :
    Matches platform manifest ((DomainManifest.listExpired platform before limit).exec storage)
      (.ok (manifest.listExpired before limit,manifest)) := by
  unfold DomainManifest.listExpired
  rw [exec_reading,listArtifactsDueForCleanup_rows limit simulates sweepable]
  refine ⟨?_,simulates⟩
  change ArtifactExpiredManifestPage.mk _ _ = ArtifactExpiredManifestPage.mk _ _
  have read : ∀ metadata ∈ ((manifest.due before).insertionSort fun left right => left.expiresAt ≤ right.expiresAt).take limit,
      metadataFromRecord platform (rowAt platform storage.tables metadata) = .ok metadata := by
    intro metadata inside
    have there := (List.mem_insertionSort _).mp (List.mem_of_mem_take inside)
    obtain ⟨valid,_,_,row⟩ := simulates.entry (List.mem_filter.mp there).1
    exact row.read valid
  congr 1
  · rw [List.filterMap_map]
    refine (List.filterMap_congr fun metadata inside => ?_).trans List.filterMap_some
    rw [Function.comp_apply,read metadata inside]
    rfl
  · rw [List.countP_map,List.countP_eq_zero]
    intro metadata inside
    rw [Function.comp_apply,read metadata inside]
    exact Bool.false_ne_true

end

end AgentOS.Artifacts
