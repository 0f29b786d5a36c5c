import AgentOS.ControlPlane.ConfigPlan

/-! Which variables a plan hides. The mask takes the second segment of the dotted path for the name
of the environment, so it misses the environments whose names have dots. -/
namespace AgentOS.ControlPlane
open Config

/-! ### The masked paths -/

def variablePath (name key : String) : String := childPath (childPath (childPath "environments" name) "variables") key

/-- The names of environments whose variables the mask reaches: without a dot, or with
`variables` as their second segment. -/
def maskedName (name : String) : Bool :=
  let rest := name.toList.dropWhile (· ≠ '.')
  name.toList.takeWhile (· ≠ '.') ≠ [] && (rest = [] || followsWord ".variables".toList rest)

theorem followsWord_cons (first next : Char) (word path : List Char) :
    followsWord (first::word) (next::path) = (first == next && followsWord word path) := by
  simp [followsWord,List.isPrefixOf,Bool.and_assoc]

theorem followsWord_dot (word rest tail : List Char) (plain : '.' ∉ word) :
    followsWord word (rest ++ '.'::tail) = followsWord word rest := by
  induction word generalizing rest with
  | nil => cases rest <;> simp [followsWord]
  | cons first word ih =>
    have unlike : first ≠ '.' := fun same => plain (by simp [same])
    have later : '.' ∉ word := fun within => plain (List.mem_cons_of_mem _ within)
    cases rest with
    | nil => simp [followsWord,unlike]
    | cons next rest => rw [List.cons_append,followsWord_cons,followsWord_cons,ih rest later]

theorem takeWhile_dot (segments tail : List Char) : (segments ++ '.'::tail).takeWhile (· ≠ '.') = segments.takeWhile (· ≠ '.') := by
  induction segments with
  | nil => simp
  | cons char segments ih => by_cases dot : char = '.' <;> simp_all

theorem dropWhile_dot (segments tail : List Char) :
    (segments ++ '.'::tail).dropWhile (· ≠ '.') = segments.dropWhile (· ≠ '.') ++ '.'::tail := by
  induction segments with
  | nil => simp
  | cons char segments ih => by_cases dot : char = '.' <;> simp_all

theorem dropWhile_head (segments : List Char) :
    segments.dropWhile (· ≠ '.') = [] ∨ ∃ rest, segments.dropWhile (· ≠ '.') = '.'::rest := by
  induction segments with
  | nil => exact .inl rfl
  | cons char segments ih =>
    by_cases dot : char = '.'
    · exact .inr ⟨segments,by simp [dot]⟩
    · simpa [dot] using ih

theorem childPath_nonempty {path : String} (key : String) (nonempty : path ≠ "") :
    childPath path key = path ++ "." ++ key := by simp [childPath,nonempty]

theorem childPath_ne {path key : String} (nonempty : path ≠ "") : childPath path key ≠ "" := by
  rw [childPath_nonempty key nonempty]
  simp [nonempty]

theorem variablePath_chars (name key : String) :
    (variablePath name key).toList = "environments.".toList ++ (name.toList ++ '.'::("variables".toList ++ '.'::key.toList)) := by
  have first : childPath "environments" name ≠ "" := childPath_ne (by decide)
  have second : childPath (childPath "environments" name) "variables" ≠ "" := childPath_ne first
  rw [variablePath,childPath_nonempty key second,childPath_nonempty _ first,childPath_nonempty name (by decide)]
  simp [String.toList_append]

theorem maskedPath_variable (name key : String) : maskedPath (variablePath name key) = maskedName name := by
  have dropped : (variablePath name key).toList.drop "environments.".toList.length =
      name.toList ++ '.'::("variables".toList ++ '.'::key.toList) := by
    rw [variablePath_chars,List.drop_left]
  have started : "environments.".toList.isPrefixOf (variablePath name key).toList = true := by
    rw [variablePath_chars,List.isPrefixOf_iff_prefix]
    exact List.prefix_append _ _
  simp only [maskedPath,maskedName,dropped,started,takeWhile_dot,dropWhile_dot,Bool.true_and]
  congr 1
  obtain none | ⟨rest,isRest⟩ := dropWhile_head name.toList
  · rw [none]
    simp [followsWord]
  · rw [isRest]
    have split : ".variables".toList = '.'::"variables".toList := by decide
    have dotless : '.' ∉ "variables".toList := by decide
    rw [split,List.cons_append,followsWord_cons,followsWord_cons,followsWord_dot _ _ _ dotless]
    simp

/-! ### Configurations that differ in the values of variables -/

def blankEnvironment (environment : EnvironmentDefinition) : EnvironmentDefinition :=
  {environment with values := environment.values.map fun _ => ""}

def blanked (config : AgentOsConfig) : AgentOsConfig :=
  {config with environments := config.environments.map blankEnvironment}

def storedValue (config : AgentOsConfig) (name key : String) : Option String :=
  (config.environments.get? name).bind fun environment => environment.values.get? key

def SameDiffer (active proposed active' proposed' : AgentOsConfig) : Prop :=
  ∀ name key, storedValue active name key = storedValue proposed name key ↔
    storedValue active' name key = storedValue proposed' name key

def Varies (active proposed : AgentOsConfig) (name : String) : Prop :=
  active.environments.has name ∧ proposed.environments.has name ∧
    ∃ key, storedValue active name key ≠ storedValue proposed name key

/-! ### Changes that a plan shows alike -/

def ShownAlike (left right : ConfigChange) : Prop := describeChange left = describeChange right

theorem shown_same (changes : List ConfigChange) : List.Forall₂ ShownAlike changes changes :=
  List.forall₂_same.mpr fun _ _ => rfl

theorem shown_flatMap {keys : List String} {left right : String → List ConfigChange}
    (alike : ∀ key ∈ keys, List.Forall₂ ShownAlike (left key) (right key)) :
    List.Forall₂ ShownAlike (keys.flatMap left) (keys.flatMap right) := by
  induction keys with
  | nil => exact .nil
  | cons key keys ih =>
    rw [List.flatMap_cons,List.flatMap_cons]
    exact List.rel_append (alike key List.mem_cons_self) (ih fun other listed => alike other (List.mem_cons_of_mem _ listed))

theorem shown_obj {before after before' after' : Fields} {path : String}
    (firstKeys : before.map Prod.fst = before'.map Prod.fst) (secondKeys : after.map Prod.fst = after'.map Prod.fst)
    (alike : ∀ key ∈ keys before after, List.Forall₂ ShownAlike (diffKey before after path key) (diffKey before' after' path key)) :
    List.Forall₂ ShownAlike (diffValues (.obj before) (.obj after) path) (diffValues (.obj before') (.obj after') path) := by
  rw [diffValues_obj,diffValues_obj,← keys_congr firstKeys secondKeys]
  exact shown_flatMap alike

theorem diffKey_congr {before after before' after' : Fields} {path key : String} (first : own before key = own before' key)
    (second : own after key = own after' key) : diffKey before after path key = diffKey before' after' path key := by
  simp only [diffKey,readKey,first,second]

theorem shown_mapM {left right : List ConfigChange} (alike : List.Forall₂ ShownAlike left right) :
    left.mapM describeChange = right.mapM describeChange := by
  induction alike with
  | nil => rfl
  | cons same _ ih => rw [List.mapM_cons,List.mapM_cons,same,ih]

variable {active proposed active' proposed' : AgentOsConfig} {front back : Fields} {left right : ConfigChange}

theorem shown_masked (masked : maskedPath left.path = true) (kind : left.kind = right.kind)
    (path : left.path = right.path) (before : left.before.isSome = right.before.isSome)
    (after : left.after.isSome = right.after.isSome) : ShownAlike left right := by
  obtain ⟨kind,path,first,second⟩ := left
  obtain ⟨kind',path',first',second'⟩ := right
  simp only at masked kind path before after
  subst kind path
  rw [ShownAlike,describeChange,describeChange]
  cases first <;> cases first' <;> cases second <;> cases second' <;>
    simp_all [describeSide,describeConfigValue]

theorem shown_one (alike : ShownAlike left right) : List.Forall₂ ShownAlike [left] [right] :=
  .cons alike .nil

theorem diffKey_table {α : Type} (encode : α → Json) (before after : Table α) (path key : String) :
    diffKey (before.entries.map fun entry => (entry.1,encode entry.2)) (after.entries.map fun entry => (entry.1,encode entry.2))
      path key =
      match before.get? key, after.get? key with
      | some value, some other => diffValues (encode value) (encode other) (childPath path key)
      | some value, none =>
        if key ∈ inheritedKeys then replaced (.json (encode value)) (.inherited key) (childPath path key)
        else [{kind := .removed,path := childPath path key,before := some (.json (encode value))}]
      | none, some other =>
        if key ∈ inheritedKeys then replaced (.inherited key) (.json (encode other)) (childPath path key)
        else [{kind := .added,path := childPath path key,after := some (.json (encode other))}]
      | none, none => if key ∈ inheritedKeys then [] else [{kind := .added,path := childPath path key}] := by
  rw [diffKey,readKey,readKey,own_table,own_table]
  cases before.get? key <;> cases after.get? key <;> by_cases known : key ∈ inheritedKeys <;> simp [known]

theorem diffValues_text (value other path : String) : diffValues (.str value) (.str other) path =
      if value = other then [] else replaced (.json (.str value)) (.json (.str other)) path := by
  simp [diffValues,diffLeaves]

def blankTable (table : Table String) : Table String := table.map fun _ => ""

theorem blank_isSome {left right : Table String} (same : blankTable left = blankTable right) (key : String) :
    (left.get? key).isSome = (right.get? key).isSome := by
  have mapped := congrArg (Table.get? · key) same
  simpa [blankTable,Table.get?_map] using congrArg Option.isSome mapped

theorem blank_names {left right : Table String} (same : blankTable left = blankTable right) :
    left.entries.map Prod.fst = right.entries.map Prod.fst := by
  have mapped := congrArg (fun table : Table String => table.entries.map Prod.fst) same
  simpa [blankTable,Table.map,Function.comp_def] using mapped

section Variables
variable {before after before' after' : Table String} {path : String} (first : blankTable before = blankTable before')
  (second : blankTable after = blankTable after')
include first second

theorem shown_masked_key {key : String} (masked : maskedPath (childPath path key) = true)
    (differ : before.get? key = after.get? key ↔ before'.get? key = after'.get? key) : List.Forall₂ ShownAlike
      (diffKey (before.entries.map fun entry => (entry.1,.str entry.2)) (after.entries.map fun entry => (entry.1,.str entry.2))
        path key)
      (diffKey (before'.entries.map fun entry => (entry.1,.str entry.2)) (after'.entries.map fun entry => (entry.1,.str entry.2))
        path key) := by
  have there := blank_isSome first key
  have here := blank_isSome second key
  rw [diffKey_table,diffKey_table]
  cases isFirst : before.get? key with
  | none =>
    have gone : before'.get? key = none := by simpa [isFirst] using there
    cases isSecond : after.get? key with
    | none =>
      have gone' : after'.get? key = none := by simpa [isSecond] using here
      rw [gone,gone']
      exact shown_same _
    | some other =>
      obtain ⟨other',isOther⟩ : ∃ other', after'.get? key = some other' :=
        Option.isSome_iff_exists.mp (by simpa [isSecond] using here.symm)
      rw [gone,isOther]
      by_cases known : key ∈ inheritedKeys
      · simp only [if_pos known]
        exact shown_one (shown_masked masked rfl rfl rfl rfl)
      · simp only [if_neg known]
        exact shown_one (shown_masked masked rfl rfl rfl rfl)
  | some value =>
    obtain ⟨value',isValue⟩ : ∃ value', before'.get? key = some value' :=
      Option.isSome_iff_exists.mp (by simpa [isFirst] using there.symm)
    cases isSecond : after.get? key with
    | none =>
      have gone' : after'.get? key = none := by simpa [isSecond] using here
      rw [isValue,gone']
      by_cases known : key ∈ inheritedKeys
      · simp only [if_pos known]
        exact shown_one (shown_masked masked rfl rfl rfl rfl)
      · simp only [if_neg known]
        exact shown_one (shown_masked masked rfl rfl rfl rfl)
    | some other =>
      obtain ⟨other',isOther⟩ : ∃ other', after'.get? key = some other' :=
        Option.isSome_iff_exists.mp (by simpa [isSecond] using here.symm)
      rw [isFirst,isSecond,isValue,isOther,Option.some_inj,Option.some_inj] at differ
      rw [isValue,isOther]
      simp only [diffValues_text]
      by_cases same : value = other
      · rw [if_pos same,if_pos (differ.mp same)]
        exact .nil
      · have unlike : value' ≠ other' := fun same' => same (differ.mpr same')
        rw [if_neg same,if_neg unlike]
        exact shown_one (shown_masked masked rfl rfl rfl rfl)

end Variables

theorem diffValues_agree {before after : Table String} (same : ∀ key, before.get? key = after.get? key) (path : String) :
    diffValues (before.toJson .str) (after.toJson .str) path = [] := by
  rw [Table.toJson,Table.toJson,diffValues_obj,List.flatMap_eq_nil_iff]
  intro key listed
  have named : ∃ value, before.get? key = some value := by
    simp only [mem_keys,List.map_map,Function.comp_def] at listed
    obtain first | second := listed
    · exact Table.mem_keys.mp first
    · exact (same key) ▸ Table.mem_keys.mp second
  obtain ⟨value,isValue⟩ := named
  rw [diffKey_table,← same key,isValue]
  simp [diffValues_text]

theorem shown_variables {before after before' after' : Table String} {path : String}
    (first : blankTable before = blankTable before') (second : blankTable after = blankTable after')
    (differ : ∀ key, before.get? key = after.get? key ↔ before'.get? key = after'.get? key)
    (hidden : (∀ key, maskedPath (childPath path key) = true) ∨ ∀ key, before.get? key = after.get? key) :
    List.Forall₂ ShownAlike (diffValues (before.toJson .str) (after.toJson .str) path)
      (diffValues (before'.toJson .str) (after'.toJson .str) path) := by
  obtain masked | same := hidden
  · apply shown_obj
    · simpa [Function.comp_def] using blank_names first
    · simpa [Function.comp_def] using blank_names second
    · intro key _
      exact shown_masked_key first second (masked key) (differ key)
  · rw [diffValues_agree same,diffValues_agree fun key => (differ key).mp (same key)]
    exact .nil

/-! ### One key beside others that stay -/

theorem own_beside {name key : String} (value value' : Json) (apart : key ≠ name) :
    own (front ++ (name,value)::back) key = own (front ++ (name,value')::back) key := by
  simp [own,Json.field?,List.find?_append,apart.symm]

theorem own_at {name : String} {value : Json} (absent : name ∉ front.map Prod.fst) :
    own (front ++ (name,value)::back) name = some value := by
  have missed : front.find? (fun entry => entry.1 = name) = none := by
    rw [List.find?_eq_none]
    intro entry listed same
    exact absent (List.mem_map.mpr ⟨entry,listed,by simpa using same⟩)
  simp [own,Json.field?,List.find?_append,missed]

theorem shown_field {front back front' back' : Fields} {name path : String} {value other value' other' : Json}
    (first : name ∉ front.map Prod.fst) (second : name ∉ front'.map Prod.fst)
    (alike : List.Forall₂ ShownAlike (diffValues value other (childPath path name)) (diffValues value' other' (childPath path name))) :
    List.Forall₂ ShownAlike (diffValues (.obj (front ++ (name,value)::back)) (.obj (front' ++ (name,other)::back')) path)
      (diffValues (.obj (front ++ (name,value')::back)) (.obj (front' ++ (name,other')::back')) path) := by
  apply shown_obj (by simp) (by simp)
  intro key _
  by_cases same : key = name
  · subst same
    simp only [diffKey,readKey,own_at first,own_at second]
    exact alike
  · rw [diffKey_congr (own_beside value value' same) (own_beside other other' same)]
    exact shown_same _

/-! ### Environments -/

section Environments
variable {before after before' after' : EnvironmentDefinition} {path : String}

theorem shown_environment (first : blankEnvironment before = blankEnvironment before')
    (second : blankEnvironment after = blankEnvironment after')
    (differ : ∀ key, before.values.get? key = after.values.get? key ↔ before'.values.get? key = after'.values.get? key)
    (hidden : (∀ key, maskedPath (childPath (childPath path "variables") key) = true) ∨
      ∀ key, before.values.get? key = after.values.get? key) :
    List.Forall₂ ShownAlike (diffValues before.toJson after.toJson path) (diffValues before'.toJson after'.toJson path) := by
  obtain ⟨runtime,image,values,tools,mcps,networking,packages⟩ := before
  obtain ⟨runtime',image',values',tools',mcps',networking',packages'⟩ := before'
  obtain ⟨runtime2,image2,values2,tools2,mcps2,networking2,packages2⟩ := after
  obtain ⟨runtime2',image2',values2',tools2',mcps2',networking2',packages2'⟩ := after'
  simp only [blankEnvironment,EnvironmentDefinition.mk.injEq] at first second
  obtain ⟨rfl,rfl,blank,rfl,rfl,rfl,rfl⟩ := first
  obtain ⟨rfl,rfl,blank',rfl,rfl,rfl,rfl⟩ := second
  apply shown_field
  · cases image <;> simp [Config.optional]
  · cases image2 <;> simp [Config.optional]
  · exact shown_variables blank blank' differ hidden

theorem withoutFields_append (front back : Fields) : withoutFields (front ++ back) = withoutFields front ++ withoutFields back := by
  induction front with
  | nil => rfl
  | cons entry front ih =>
    obtain ⟨key,value⟩ := entry
    cases value <;> simp [withoutFields,ih]

section
variable (same : blankEnvironment before = blankEnvironment before')
include same

theorem without_environment : withoutVariableValues before.toJson = withoutVariableValues before'.toJson := by
  obtain ⟨runtime,image,values,tools,mcps,networking,packages⟩ := before
  obtain ⟨runtime',image',values',tools',mcps',networking',packages'⟩ := before'
  simp only [blankEnvironment,EnvironmentDefinition.mk.injEq] at same
  obtain ⟨rfl,rfl,blank,rfl,rfl,rfl,rfl⟩ := same
  have names := congrArg (List.map fun name => (name,Json.str REDACTED_VALUE)) (blank_names blank)
  simp only [List.map_map,Function.comp_def] at names
  simp only [EnvironmentDefinition.toJson,EnvironmentDefinition.fields,withoutVariableValues,withoutFields_append,
    withoutFields,Table.toJson,if_true,List.map_map,Function.comp_def,names]

theorem describe_environment : describeConfigValue path (.json before.toJson) = describeConfigValue path (.json before'.toJson) := by
  have without := without_environment same
  simp only [EnvironmentDefinition.toJson] at without
  simp only [describeConfigValue,EnvironmentDefinition.toJson,without]

end

end Environments

theorem shown_environments {before after before' after' : Table EnvironmentDefinition} {path : String}
    (first : before.map blankEnvironment = before'.map blankEnvironment)
    (second : after.map blankEnvironment = after'.map blankEnvironment)
    (alike : ∀ name left right left' right', before.get? name = some left → after.get? name = some right →
      before'.get? name = some left' → after'.get? name = some right' →
      List.Forall₂ ShownAlike (diffValues left.toJson right.toJson (childPath path name))
        (diffValues left'.toJson right'.toJson (childPath path name))) : List.Forall₂ ShownAlike
      (diffValues (before.toJson EnvironmentDefinition.toJson) (after.toJson EnvironmentDefinition.toJson) path)
      (diffValues (before'.toJson EnvironmentDefinition.toJson) (after'.toJson EnvironmentDefinition.toJson) path) := by
  have blank (left right : Table EnvironmentDefinition) (same : left.map blankEnvironment = right.map blankEnvironment)
      (name : String) : (left.get? name).map blankEnvironment = (right.get? name).map blankEnvironment := by
    rw [← Table.get?_map,← Table.get?_map,same]
  have named (left right : Table EnvironmentDefinition) (same : left.map blankEnvironment = right.map blankEnvironment) :
      left.entries.map Prod.fst = right.entries.map Prod.fst := by
    rw [← Table.keys_map blankEnvironment,same,Table.keys_map]
  apply shown_obj
  · simpa [Function.comp_def] using named before before' first
  · simpa [Function.comp_def] using named after after' second
  intro name _
  have there := blank before before' first name
  have here := blank after after' second name
  rw [diffKey_table,diffKey_table]
  cases isFirst : before.get? name with
  | none =>
    have gone : before'.get? name = none := by simpa [isFirst] using there
    rw [gone]
    cases isSecond : after.get? name with
    | none =>
      have gone' : after'.get? name = none := by simpa [isSecond] using here
      rw [gone']
      exact shown_same _
    | some right =>
      rw [isSecond] at here
      obtain ⟨right',isRight,same⟩ := Option.map_eq_some_iff.mp here.symm
      rw [isRight]
      by_cases known : name ∈ inheritedKeys
      · simp only [if_pos known]
        apply shown_one
        simp only [ShownAlike,describeChange,describeSide,describe_environment same]
      · simp only [if_neg known]
        apply shown_one
        simp only [ShownAlike,describeChange,describeSide,describe_environment same]
  | some left =>
    rw [isFirst] at there
    obtain ⟨left',isLeft,same⟩ := Option.map_eq_some_iff.mp there.symm
    rw [isLeft]
    cases isSecond : after.get? name with
    | none =>
      have gone' : after'.get? name = none := by simpa [isSecond] using here
      rw [gone']
      by_cases known : name ∈ inheritedKeys
      · simp only [if_pos known]
        apply shown_one
        simp only [ShownAlike,describeChange,describeSide,describe_environment same]
      · simp only [if_neg known]
        apply shown_one
        simp only [ShownAlike,describeChange,describeSide,describe_environment same]
    | some right =>
      rw [isSecond] at here
      obtain ⟨right',isRight,_⟩ := Option.map_eq_some_iff.mp here.symm
      rw [isRight]
      exact alike name left right left' right' isFirst isSecond isLeft isRight

theorem shown_configurations (first : blanked active = blanked active')
    (second : blanked proposed = blanked proposed') (differ : SameDiffer active proposed active' proposed')
    (masked : ∀ name, Varies active proposed name → maskedName name = true) :
    List.Forall₂ ShownAlike (semanticConfigDiff active proposed) (semanticConfigDiff active' proposed') := by
  obtain ⟨project,models,agents,environments,pipelines,policies,budgets,goals,chains,runtime,verification⟩ := active
  obtain ⟨_,_,_,environments',_,_,_,_,_,_,_⟩ := active'
  obtain ⟨project2,models2,agents2,environments2,pipelines2,policies2,budgets2,goals2,chains2,runtime2,verification2⟩ := proposed
  obtain ⟨_,_,_,environments2',_,_,_,_,_,_,_⟩ := proposed'
  simp only [blanked,AgentOsConfig.mk.injEq] at first second
  obtain ⟨rfl,rfl,rfl,blank,rfl,rfl,rfl,rfl,rfl,rfl,rfl⟩ := first
  obtain ⟨rfl,rfl,rfl,blank',rfl,rfl,rfl,rfl,rfl,rfl,rfl⟩ := second
  apply shown_field
  · simp
  · simp
  apply shown_environments blank blank'
  intro name left right left' right' isLeft isRight isLeft' isRight'
  have same (before after : Table EnvironmentDefinition) (blank : before.map blankEnvironment = after.map blankEnvironment)
      (first second : EnvironmentDefinition) (isFirst : before.get? name = some first) (isSecond : after.get? name = some second) :
      blankEnvironment first = blankEnvironment second := by
    have mapped := congrArg (Table.get? · name) blank
    simpa [Table.get?_map,isFirst,isSecond] using mapped
  apply shown_environment (same _ _ blank left left' isLeft isLeft') (same _ _ blank' right right' isRight isRight')
  · intro key
    simpa [storedValue,isLeft,isRight,isLeft',isRight'] using differ name key
  · by_cases agree : ∀ key, left.values.get? key = right.values.get? key
    · exact .inr agree
    · have varies : maskedName name = true := by
        apply masked name
        refine ⟨by simp [Table.has,isLeft],by simp [Table.has,isRight],?_⟩
        simpa [storedValue,isLeft,isRight] using agree
      exact .inl fun key => (maskedPath_variable name key).trans varies

theorem plan_shown (alike : List.Forall₂ ShownAlike (semanticConfigDiff active proposed) (semanticConfigDiff active' proposed'))
    (projectId : String) (revision : Nat) : planConfigurationChange projectId (some (revision,active)) proposed =
      planConfigurationChange projectId (some (revision,active')) proposed' := by
  simp only [planConfigurationChange]
  generalize semanticConfigDiff active proposed = left at alike ⊢
  generalize semanticConfigDiff active' proposed' = right at alike ⊢
  have empty : left.isEmpty = right.isEmpty := by
    cases alike <;> rfl
  have described := shown_mapM (List.forall₂_take 200 alike)
  rw [empty,described]

/-! ### A variable that shows -/

theorem diffValues_self (value : Json) (path : String) : diffValues value value path = [] := by
  match value with
  | .obj fields =>
    rw [diffValues_obj,List.flatMap_eq_nil_iff]
    intro key listed
    rw [diffKey,readKey]
    cases found : own fields key with
    | none =>
      exfalso
      obtain ⟨entry,within,named⟩ := List.mem_map.mp ((or_self_iff).mp (mem_keys.mp listed))
      simp only [own,Json.field?,Option.map_eq_none_iff,List.find?_eq_none] at found
      exact found entry within (by simpa using named)
    | some inner =>
      obtain ⟨entry,isEntry,isInner⟩ := Option.map_eq_some_iff.mp found
      have within := List.mem_of_find?_eq_some isEntry
      have smaller : sizeOf inner < sizeOf (Json.obj fields) := by
        have first := List.sizeOf_lt_of_mem within
        subst isInner
        obtain ⟨name,inner⟩ := entry
        simp only [Prod.mk.sizeOf_spec] at first
        simp only [Json.obj.sizeOf_spec]
        omega
      exact diffValues_self inner _
  | .arr items => simp [diffValues,diffLeaves]
  | .null => simp [diffValues,diffLeaves]
  | .bool _ => simp [diffValues,diffLeaves]
  | .num _ => simp [diffValues,diffLeaves]
  | .str _ => simp [diffValues,diffLeaves]
  | .timestamp _ => simp [diffValues,diffLeaves]
termination_by sizeOf value
decreasing_by simpa using smaller

theorem keys_nodup (before after : Fields) : (keys before after).Nodup :=
  (List.perm_insertionSort _ _).nodup_iff.mpr (List.nodup_dedup _)

theorem flatMap_only {keys : List String} {key : String} {changes : String → List ConfigChange} (distinct : keys.Nodup)
    (listed : key ∈ keys) (rest : ∀ other ∈ keys, other ≠ key → changes other = []) : keys.flatMap changes = changes key := by
  induction keys with
  | nil => simp at listed
  | cons other keys ih =>
    obtain ⟨fresh,distinct⟩ := List.nodup_cons.mp distinct
    rw [List.flatMap_cons]
    by_cases same : other = key
    · subst same
      have none : keys.flatMap changes = [] := List.flatMap_eq_nil_iff.mpr fun next within =>
        rest next (List.mem_cons_of_mem _ within) fun same => fresh (same ▸ within)
      rw [none,List.append_nil]
    · have later : key ∈ keys := (List.mem_cons.mp listed).resolve_left fun same' => same same'.symm
      rw [rest other List.mem_cons_self same,List.nil_append]
      exact ih distinct later fun next within => rest next (List.mem_cons_of_mem _ within)

theorem diffValues_field {name : String} {value other : Json} (absent : name ∉ front.map Prod.fst) (path : String) :
    diffValues (.obj (front ++ (name,value)::back)) (.obj (front ++ (name,other)::back)) path =
      diffValues value other (childPath path name) := by
  rw [diffValues_obj]
  have listed : name ∈ keys (front ++ (name,value)::back) (front ++ (name,other)::back) := mem_keys.mpr (.inl (by simp))
  rw [flatMap_only (keys_nodup _ _) listed]
  · simp only [diffKey,readKey,own_at absent]
  · intro key within apart
    have self := diffValues_self (.obj (front ++ (name,value)::back)) path
    rw [diffValues_obj,List.flatMap_eq_nil_iff] at self
    rw [← diffKey_congr rfl (own_beside value other apart)]
    exact self key (by simpa [mem_keys] using within)

def oneVariable (name value : String) (plain : name ≠ "__proto__") : AgentOsConfig where
  project := {name := ⟨"demo",by decide⟩}
  environments := .one name {runtime := ⟨"process",by decide⟩,values := .one "KEY" value (by decide)} plain
  budgets := {workflowMicrodollars := ⟨100,by omega⟩,dailyMicrodollars := ⟨100,by omega⟩,concurrency := ⟨⟨1,by omega⟩,by decide⟩}
  goals := {maxSteps := ⟨⟨1,by omega⟩,by decide⟩,maxRetries := ⟨0,by decide⟩,timeoutMs := ⟨⟨1000,by omega⟩,by decide⟩}
  runtime := {provider := ⟨"fake",by decide⟩}

theorem diff_oneVariable (name value other : String) (plain : name ≠ "__proto__") :
    semanticConfigDiff (oneVariable name value plain) (oneVariable name other plain) =
      if value = other then [] else replaced (.json (.str value)) (.json (.str other)) (variablePath name "KEY") := by
  rw [← diffValues_text]
  refine (diffValues_field (by simp) "").trans ?_
  refine (@diffValues_field [] [] _ _ _ (by simp) _).trans ?_
  refine (diffValues_field (by simp [Config.optional]) _).trans ?_
  exact @diffValues_field [] [] _ _ _ (by simp) _

section OneVariable
variable (name value other : String) (plain : name ≠ "__proto__")

theorem stored_oneVariable (environment key : String) : storedValue (oneVariable name value plain) environment key =
      if environment = name ∧ key = "KEY" then some value else none := by
  by_cases here : environment = name
  · by_cases this : key = "KEY"
    · simp [storedValue,oneVariable,Table.get?,Table.one,here,this]
    · simp [storedValue,oneVariable,Table.get?,Table.one,here,this,Ne.symm this]
  · simp [storedValue,oneVariable,Table.get?,Table.one,here,Ne.symm here]

theorem oneVariable_varies {environment : String}
    (varies : Varies (oneVariable name value plain) (oneVariable name other plain) environment) : environment = name := by
  obtain ⟨present,_,_⟩ := varies
  by_contra apart
  simp [Table.has,oneVariable,Table.get?,Table.one,Ne.symm apart] at present

theorem plan_oneVariable (unmasked : maskedName name = false) (differs : value ≠ other) (projectId : String) (revision : Nat) :
    planConfigurationChange projectId (some (revision,oneVariable name value plain)) (oneVariable name other plain) =
      .ok {projectId := projectId,changed := true,fromRevision := some revision,
           changes := [{kind := .changed,path := variablePath name "KEY",before := some ((Json.codeUnits value).take 200),
                        after := some ((Json.codeUnits other).take 200)}]} := by
  have shown : maskedPath (variablePath name "KEY") = false := (maskedPath_variable name "KEY").trans unmasked
  simp only [planConfigurationChange,diff_oneVariable,if_neg differs,replaced,List.take,List.mapM_cons,List.mapM_nil,
    describeChange,describeSide,describeConfigValue,shown]
  rfl

end OneVariable

/-- Plans hide the variables of the environments with masked names, and of no others. -/
theorem plans_hide_variables (names : String → Prop) : (∀ projectId revision (active proposed active' proposed' : AgentOsConfig),
      active.valid → proposed.valid → active'.valid → proposed'.valid →
      (∀ name, Varies active proposed name → names name) → blanked active = blanked active' →
      blanked proposed = blanked proposed' → SameDiffer active proposed active' proposed' →
      planConfigurationChange projectId (some (revision,active)) proposed =
        planConfigurationChange projectId (some (revision,active')) proposed') ↔ ∀ name, names name → maskedName name = true := by
  constructor
  · intro hides name named
    by_contra unmasked
    rw [Bool.not_eq_true] at unmasked
    have plain : name ≠ "__proto__" := fun same => absurd (same ▸ unmasked) (by decide)
    have differ : SameDiffer (oneVariable name "first" plain) (oneVariable name "next" plain)
        (oneVariable name "other" plain) (oneVariable name "next" plain) := by
      intro environment key
      simp only [stored_oneVariable]
      by_cases here : environment = name ∧ key = "KEY" <;> simp [here]
    have same := hides "project" 1 (oneVariable name "first" plain) (oneVariable name "next" plain)
      (oneVariable name "other" plain) (oneVariable name "next" plain) rfl rfl rfl rfl
      (fun environment varies => oneVariable_varies name _ _ plain varies ▸ named) rfl rfl differ
    rw [plan_oneVariable name "first" "next" plain unmasked (by decide),
      plan_oneVariable name "other" "next" plain unmasked (by decide)] at same
    simp only [Except.ok.injEq,ConfigurationPlan.mk.injEq,List.cons.injEq,PlannedChange.mk.injEq,Option.some.injEq] at same
    exact absurd same.2.2.2.1.2.2.1 (by decide)
  · intro masked projectId revision active proposed active' proposed' _ _ _ _ within first second differ
    exact plan_shown (shown_configurations first second differ fun name varies => masked name (within name varies)) _ _

/-- An environment with a dot in its name shows the values of its variables. -/
theorem dotted_environment_shows :
    blanked (oneVariable "eu.west" "secret-1" (by decide)) = blanked (oneVariable "eu.west" "secret-2" (by decide)) ∧
    (oneVariable "eu.west" "secret-1" (by decide)).valid ∧ (oneVariable "eu.west" "secret-2" (by decide)).valid ∧
    (oneVariable "eu.west" "next" (by decide)).valid ∧
    SameDiffer (oneVariable "eu.west" "secret-1" (by decide)) (oneVariable "eu.west" "next" (by decide))
      (oneVariable "eu.west" "secret-2" (by decide)) (oneVariable "eu.west" "next" (by decide)) ∧
    planConfigurationChange "project" (some (1,oneVariable "eu.west" "secret-1" (by decide)))
        (oneVariable "eu.west" "next" (by decide)) ≠
      planConfigurationChange "project" (some (1,oneVariable "eu.west" "secret-2" (by decide)))
        (oneVariable "eu.west" "next" (by decide)) := by
  refine ⟨rfl,rfl,rfl,rfl,?_,by decide +kernel⟩
  intro environment key
  simp only [stored_oneVariable]
  by_cases here : environment = "eu.west" ∧ key = "KEY" <;> simp [here]

end AgentOS.ControlPlane
