import AgentOS.Config.Schema
import AgentOS.Library.DepthFirst

/-! The issues that the refinement of a configuration raises. It raises none exactly where every name is
one the configuration has and no pipeline's steps wait for each other in a circle. -/
namespace AgentOS.Config
open Relation
open Library.DepthFirst (Outcome Edge scan weight scan_exact scan_finished finished_reverse_iff)

inductive PathPart
  | key (name : String)
  | index (position : Nat)

structure Issue where
  path : List PathPart
  message : String

def raise (wrong : Bool) (path : List PathPart) (message : String) : List Issue := if wrong then [⟨path,message⟩] else []

@[simp] theorem raise_nil_iff {wrong : Bool} {path : List PathPart} {message : String} :
    raise wrong path message = [] ↔ wrong = false := by cases wrong <;> simp [raise]

variable (config : AgentOsConfig)

def environmentIssues (path : List PathPart) : Option Identifier → List Issue
  | none => []
  | some environment => raise (!config.environments.has environment.text) (path ++ [.key "environment"])
      ("Unknown environment: " ++ environment.text)

def agentIssues (agentName : String) (agent : AgentDefinition) : List Issue :=
  raise (!config.models.has agent.model.text) [.key "agents",.key agentName,.key "model"]
    ("Unknown model profile: " ++ agent.model.text) ++
  environmentIssues config [.key "agents",.key agentName] agent.environment

section
variable (steps : List PipelineStep) (path : List PathPart)

def stepIssues (stepIndex : Nat) (step : PipelineStep) : List Issue :=
  let path := path ++ [.key "steps",.index stepIndex]
  raise ((steps.take stepIndex).any fun earlier => earlier.id.text = step.id.text) (path ++ [.key "id"])
    ("Duplicate pipeline step id: " ++ step.id.text) ++
  raise (!config.agents.has step.agent.text) (path ++ [.key "agent"]) ("Unknown agent: " ++ step.agent.text) ++
  environmentIssues config path step.environment

def dependencyIssues (stepIndex : Nat) (step : PipelineStep) : List Issue :=
  let path := path ++ [.key "steps",.index stepIndex,.key "dependsOn"]
  step.dependsOn.flatMap fun dependency =>
    if dependency.text = step.id.text then [⟨path,"Pipeline step " ++ step.id.text ++ " cannot depend on itself"⟩]
    else raise (!steps.any fun other => other.id.text = dependency.text) path
      ("Unknown pipeline dependency: " ++ dependency.text)

/-- The walk from one step after another, up to the first that meets a circle. -/
def cycleIssues : List Issue :=
  (steps.zipIdx.foldl (fun (issues,seen) (step,stepIndex) =>
    if issues.isEmpty then
      let (found,seen) := visit steps (steps.length + 1) [] seen step.id.text
      (raise found (path ++ [.key "steps",.index stepIndex,.key "dependsOn"])
        ("Pipeline contains a dependency cycle involving " ++ step.id.text),seen)
    else (issues,seen)) ([],[])).1

def pipelineIssues : List Issue :=
  (steps.zipIdx.flatMap fun (step,stepIndex) => stepIssues config steps path stepIndex step) ++
  (steps.zipIdx.flatMap fun (step,stepIndex) => dependencyIssues steps path stepIndex step) ++ cycleIssues steps path

end

def superRefine : List Issue :=
  (config.agents.entries.flatMap fun (agentName,agent) => agentIssues config agentName agent) ++
  config.pipelines.entries.flatMap fun (pipelineName,pipeline) =>
    pipelineIssues config pipeline.steps [.key "pipelines",.key pipelineName]

/-! ### The walk -/

section
variable (steps : List PipelineStep)

/-- The dependencies the walk follows from a step. -/
def edges (stepId : String) : List String :=
  ((((steps.find? fun step => step.id.text = stepId).map PipelineStep.dependsOn).getD []).map Identifier.text).filter
    fun dependency => dependency ≠ stepId ∧ steps.any fun step => step.id.text = dependency

def ids : List String := steps.map fun step => step.id.text

def traversal (depth : Nat) : Outcome String := scan (Library.DepthFirst.visit (edges steps) depth []) (ids steps) []

variable {steps}

theorem foldl_scan {step : List String → String → Outcome String} {follows : String → Bool}
    {fold : Bool × List String → String → Bool × List String} (moves : ∀ found seen node, fold (found,seen) node =
      if found || !follows node then (found,seen) else ((step seen node).found,(step seen node).seen))
    (nodes seen : List String) : nodes.foldl fold (false,seen) =
      ((scan step (nodes.filter follows) seen).found,(scan step (nodes.filter follows) seen).seen) := by
  have ended : ∀ (nodes seen : List String), nodes.foldl fold (true,seen) = (true,seen) := by
    intro nodes
    induction nodes with
    | nil => exact fun _ => rfl
    | cons node nodes ih =>
      intro seen
      rw [List.foldl_cons,moves]
      exact ih seen
  induction nodes generalizing seen with
  | nil => rfl
  | cons node nodes ih =>
    rw [List.foldl_cons,moves]
    by_cases followed : follows node = true
    · by_cases found : (step seen node).found = true
      · simp [scan,followed,found,ended]
      · simp [scan,followed,found,ih]
    · simp [followed,ih]

theorem visit_eq (depth : Nat) (visiting seen : List String) (stepId : String) : visit steps depth visiting seen stepId =
      ((Library.DepthFirst.visit (edges steps) depth visiting seen stepId).found,
        (Library.DepthFirst.visit (edges steps) depth visiting seen stepId).seen) := by
  induction depth generalizing visiting seen stepId with
  | zero => rfl
  | succ depth ih =>
    unfold visit Library.DepthFirst.visit
    split
    · rfl
    split
    · rfl
    dsimp only
    rw [@foldl_scan (Library.DepthFirst.visit (edges steps) depth (stepId::visiting))
      (fun dependency => dependency ≠ stepId ∧ steps.any fun step => step.id.text = dependency)]
    · rfl
    · intro found seen node
      dsimp only
      rw [ih]
      cases found <;> simp

theorem cyclic_eq : cyclic steps = (traversal steps (steps.length + 1)).found := by
  have walked := @foldl_scan (Library.DepthFirst.visit (edges steps) (steps.length + 1) []) (fun _ => true)
    (fun (found,seen) stepId => if found then (found,seen) else visit steps (steps.length + 1) [] seen stepId)
    (fun found seen stepId => by cases found <;> simp [visit_eq]) (ids steps) []
  rw [List.filter_true,ids,List.foldl_map] at walked
  exact congrArg Prod.fst walked

theorem edges_closed : ∀ stepId ∈ ids steps, edges steps stepId ⊆ ids steps := by
  intro stepId _ dependency followed
  obtain ⟨_,_,listed⟩ : _ ∧ _ ∧ _ := by simpa [edges] using followed
  simpa [ids] using listed

theorem cycleIssues_nil_iff (path : List PathPart) : cycleIssues steps path = [] ↔ cyclic steps = false := by
  have alike : ∀ (rest : List (PipelineStep × Nat)) (issues : List Issue) (found : Bool) (seen : List String),
      issues.isEmpty = !found → (rest.foldl (fun (issues,seen) (step,stepIndex) =>
        if issues.isEmpty then
          let (found,seen) := visit steps (steps.length + 1) [] seen step.id.text
          (raise found (path ++ [.key "steps",.index stepIndex,.key "dependsOn"])
            ("Pipeline contains a dependency cycle involving " ++ step.id.text),seen)
        else (issues,seen)) (issues,seen)).1.isEmpty = !((rest.map Prod.fst).foldl (fun (found,seen) step =>
          if found then (found,seen) else visit steps (steps.length + 1) [] seen step.id.text) (found,seen)).1 := by
    intro rest
    induction rest with
    | nil => exact fun _ _ _ => id
    | cons step rest ih =>
      intro issues found seen same
      rw [List.foldl_cons,List.map_cons,List.foldl_cons]
      dsimp only
      rw [same]
      cases found
      · rw [Bool.not_false,if_pos rfl,if_neg Bool.false_ne_true]
        generalize visit steps (steps.length + 1) [] seen step.1.id.text = answer
        exact ih _ answer.1 _ (by cases answer.1 <;> rfl)
      · exact ih issues true seen same
  have whole := alike steps.zipIdx [] false [] rfl
  rw [List.zipIdx_map_fst] at whole
  rw [← List.isEmpty_iff]
  unfold cycleIssues cyclic
  rw [whole,Bool.not_eq_true']

end

/-! ### What the refinement accepts -/

/-- One step waits for another. -/
def DependsOn (steps : List PipelineStep) (stepId dependency : String) : Prop :=
  ∃ step ∈ steps, step.id.text = stepId ∧ ∃ named ∈ step.dependsOn, named.text = dependency

structure SoundSteps (steps : List PipelineStep) : Prop where
  owned : ∀ step ∈ steps, step.agent.text ∈ config.agents.entries.map Prod.fst ∧
    ∀ environment ∈ step.environment, environment.text ∈ config.environments.entries.map Prod.fst
  distinct : (ids steps).Nodup
  others : ∀ stepId dependency, DependsOn steps stepId dependency → dependency ∈ ids steps ∧ dependency ≠ stepId
  acyclic : ∀ stepId, ¬ TransGen (DependsOn steps) stepId stepId

structure Sound : Prop where
  agents : ∀ entry ∈ config.agents.entries, entry.2.model.text ∈ config.models.entries.map Prod.fst ∧
    ∀ environment ∈ entry.2.environment, environment.text ∈ config.environments.entries.map Prod.fst
  pipelines : ∀ entry ∈ config.pipelines.entries, SoundSteps config entry.2.steps

theorem Table.has_iff {α : Type} {table : Table α} {name : String} : table.has name = true ↔ name ∈ table.entries.map Prod.fst := by
  rw [Table.mem_keys,Table.has,Option.isSome_iff_exists]

variable {config} {steps : List PipelineStep} {path : List PathPart}

theorem environmentIssues_nil_iff {environment : Option Identifier} : environmentIssues config path environment = [] ↔
    ∀ named ∈ environment, named.text ∈ config.environments.entries.map Prod.fst := by
  cases environment <;> simp [environmentIssues,Table.has_iff]

theorem distinct_iff : (ids steps).Nodup ↔
    ∀ step stepIndex, (step,stepIndex) ∈ steps.zipIdx → ∀ earlier ∈ steps.take stepIndex, earlier.id.text ≠ step.id.text := by
  rw [ids,List.Nodup,List.pairwise_map,List.pairwise_iff_getElem]
  constructor
  · intro apart step stepIndex at_ earlier before
    obtain ⟨position,inside,rfl⟩ := List.mem_take_iff_getElem.mp before
    obtain ⟨within,same⟩ := List.getElem?_eq_some_iff.mp (List.mem_zipIdx_iff_getElem?.mp at_)
    have others := apart position stepIndex (by omega) within (by omega)
    exact fun equal => others (equal.trans (congrArg (·.id.text) same).symm)
  · intro apart first second _ within before
    exact apart steps[second] second (List.mem_zipIdx_iff_getElem?.mpr (List.getElem?_eq_getElem within)) _
      (List.mem_take_iff_getElem.mpr ⟨first,by omega,rfl⟩)

theorem edge_iff (distinct : (ids steps).Nodup)
    (others : ∀ stepId dependency, DependsOn steps stepId dependency → dependency ∈ ids steps ∧ dependency ≠ stepId) :
    Edge (edges steps) = DependsOn steps := by
  ext stepId dependency
  simp only [Edge,edges,List.mem_filter,List.mem_map]
  constructor
  · intro followed
    obtain ⟨⟨named,listed,rfl⟩,_⟩ := followed
    cases found : steps.find? fun step => step.id.text = stepId with
    | none => simp [found] at listed
    | some step =>
      exact ⟨step,List.mem_of_find?_eq_some found,by simpa using List.find?_some found,named,by simpa [found] using listed,rfl⟩
  · intro waits
    obtain ⟨member,other⟩ := others stepId dependency waits
    obtain ⟨step,listed,rfl,named,inside,rfl⟩ := waits
    have found : steps.find? (fun other => other.id.text = step.id.text) = some step := by
      cases first : steps.find? fun other => other.id.text = step.id.text with
      | none => exact absurd (List.find?_eq_none.mp first step listed) (by simp)
      | some holder =>
        exact congrArg some (List.inj_on_of_nodup_map distinct (List.mem_of_find?_eq_some first) listed
          (by simpa using List.find?_some first))
    exact ⟨⟨named,by simpa [found] using inside,rfl⟩,by simpa [other,ids] using member⟩

theorem acyclic_iff (distinct : (ids steps).Nodup)
    (others : ∀ stepId dependency, DependsOn steps stepId dependency → dependency ∈ ids steps ∧ dependency ≠ stepId) :
    cyclic steps = false ↔ ∀ stepId, ¬ TransGen (DependsOn steps) stepId stepId := by
  have met := (scan_exact edges_closed (Nat.lt_succ_self (ids steps).length)).1
  rw [edge_iff distinct others,ids,List.length_map] at met
  rw [cyclic_eq,← Bool.not_eq_true,traversal,ids,met]
  constructor
  · intro none_ stepId circle
    obtain ⟨_,⟨step,listed,rfl,_⟩,_⟩ := TransGen.head'_iff.mp circle
    exact none_ ⟨_,List.mem_map_of_mem listed,circle⟩
  · intro none_ met
    obtain ⟨stepId,_,circle⟩ := met
    exact none_ stepId circle

theorem dependencyIssues_nil_iff {stepIndex : Nat} {step : PipelineStep} : dependencyIssues steps path stepIndex step = [] ↔
    ∀ named ∈ step.dependsOn, named.text ∈ ids steps ∧ named.text ≠ step.id.text := by
  rw [dependencyIssues,List.flatMap_eq_nil_iff]
  refine forall₂_congr fun named _ => ?_
  by_cases same : named.text = step.id.text <;> simp [same,ids]

theorem pipelineIssues_nil_iff : pipelineIssues config steps path = [] ↔ SoundSteps config steps := by
  have members : ∀ step, step ∈ steps ↔ ∃ stepIndex, (step,stepIndex) ∈ steps.zipIdx := by
    intro step
    have listed : step ∈ steps.zipIdx.map Prod.fst ↔ ∃ stepIndex, (step,stepIndex) ∈ steps.zipIdx := by
      simp only [List.mem_map,Prod.exists,exists_and_right,exists_eq_right]
    rwa [List.zipIdx_map_fst] at listed
  have owned : (∀ pair ∈ steps.zipIdx, stepIssues config steps path pair.2 pair.1 = []) ↔ (ids steps).Nodup ∧
      ∀ step ∈ steps, step.agent.text ∈ config.agents.entries.map Prod.fst ∧
        ∀ named ∈ step.environment, named.text ∈ config.environments.entries.map Prod.fst := by
    simp only [distinct_iff,members,stepIssues,List.append_eq_nil_iff,raise_nil_iff,environmentIssues_nil_iff,
      Bool.not_eq_false',Table.has_iff,List.any_eq_false,decide_eq_true_eq,Prod.forall,forall_exists_index,imp_and,forall_and]
    tauto
  have waiting : (∀ pair ∈ steps.zipIdx, dependencyIssues steps path pair.2 pair.1 = []) ↔
      ∀ stepId dependency, DependsOn steps stepId dependency → dependency ∈ ids steps ∧ dependency ≠ stepId := by
    simp only [dependencyIssues_nil_iff,Prod.forall,DependsOn,members]
    constructor
    · intro each stepId dependency waits
      obtain ⟨step,⟨stepIndex,listed⟩,rfl,named,inside,rfl⟩ := waits
      exact each step stepIndex listed named inside
    · intro each step stepIndex listed named inside
      exact each _ _ ⟨step,⟨stepIndex,listed⟩,rfl,named,inside,rfl⟩
  simp only [pipelineIssues,List.append_eq_nil_iff,List.flatMap_eq_nil_iff,owned,waiting,cycleIssues_nil_iff]
  constructor
  · intro sound
    obtain ⟨⟨⟨distinct,owned⟩,others⟩,acyclic⟩ := sound
    exact ⟨owned,distinct,others,(acyclic_iff distinct others).mp acyclic⟩
  · intro sound
    exact ⟨⟨⟨sound.distinct,sound.owned⟩,sound.others⟩,(acyclic_iff sound.distinct sound.others).mpr sound.acyclic⟩

theorem superRefine_nil_iff : superRefine config = [] ↔ Sound config := by
  simp only [superRefine,agentIssues,List.append_eq_nil_iff,List.flatMap_eq_nil_iff,raise_nil_iff,Bool.not_eq_false',Table.has_iff,
    environmentIssues_nil_iff,pipelineIssues_nil_iff]
  exact ⟨fun issueless => ⟨issueless.1,issueless.2⟩,fun sound => ⟨sound.agents,sound.pipelines⟩⟩

theorem valid_iff : config.valid = true ↔ superRefine config = [] := by
  have sound (pipeline : PipelineDefinition) : pipeline.sound config = true ↔ SoundSteps config pipeline.steps := by
    simp only [PipelineDefinition.sound,Bool.and_eq_true,decide_eq_true_eq,List.all_eq_true,Table.has_iff,
      Bool.not_eq_true',Option.all_eq_true]
    constructor
    · intro ⟨⟨⟨distinct,owned⟩,named⟩,acyclic⟩
      have others : ∀ stepId dependency, DependsOn pipeline.steps stepId dependency →
          dependency ∈ ids pipeline.steps ∧ dependency ≠ stepId := by
        intro _ _ waits
        obtain ⟨step,listed,rfl,dependency,inside,rfl⟩ := waits
        exact ((named step listed) dependency inside).symm
      exact ⟨owned,distinct,others,(acyclic_iff distinct others).mp acyclic⟩
    · intro sound
      exact ⟨⟨⟨sound.distinct,sound.owned⟩,
        fun step listed dependency inside => (sound.others _ _ ⟨step,listed,rfl,dependency,inside,rfl⟩).symm⟩,
        (acyclic_iff sound.distinct sound.others).mpr sound.acyclic⟩
  rw [superRefine_nil_iff]
  simp only [AgentOsConfig.valid,Bool.and_eq_true,List.all_eq_true,Table.has_iff,sound,Option.all_eq_true]
  exact ⟨fun valid => ⟨valid.1,valid.2⟩,fun sound => ⟨sound.agents,sound.pipelines⟩⟩

/-- The refinement raises no issue exactly of a sound configuration. Whatever the graph, the walk over a
pipeline ends by itself: more depth changes nothing, it goes on from no step twice, and its visits are no
more than the steps and their dependencies. -/
theorem superRefine_exact : (superRefine config = [] ↔ Sound config) ∧ ∀ (steps : List PipelineStep) (extra : Nat),
    let walk := traversal steps (steps.length + 1 + extra)
    walk = traversal steps (steps.length + 1) ∧ walk.found = cyclic steps ∧ walk.seen.Nodup ∧
      walk.visits ≤ steps.length + weight (edges steps) (ids steps) := by
  refine ⟨superRefine_nil_iff,?_⟩
  intro steps extra walk
  have sized : (ids steps).length = steps.length := List.length_map _
  have deep : (ids steps).length < steps.length + 1 + extra := by omega
  have settled : walk = traversal steps (steps.length + 1) := sized ▸ Library.DepthFirst.scan_settles edges_closed deep
  obtain ⟨_,distinct,_,few⟩ := Library.DepthFirst.scan_exact edges_closed deep
  exact ⟨settled,settled ▸ cyclic_eq.symm,distinct,sized ▸ few⟩

end AgentOS.Config
