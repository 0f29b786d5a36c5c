import AgentOS.Gate.Materialize
import AgentOS.Gate.SchemaRules
import Mathlib.Data.List.Dedup

/-! Which acceptance tests the trusted command runs. It names them by a pattern,
while the definition of done pairs them with its criteria by folded paths. -/
namespace AgentOS.Gate
open Library

/-! ### The command's pattern -/

/-- The files that `test/acceptance/*.test.mjs` names. -/
def runByCommand (path : String) : Bool :=
  match parts path with
  | [first,second,name] => first = "test".toList && second = "acceptance".toList && name.head? ≠ some '.' &&
    ".test.mjs".toList.isSuffixOf name
  | _ => false

def Agree (left right : String) : Prop := lowerCase left = lowerCase right

instance (left right : String) : Decidable (Agree left right) := inferInstanceAs (Decidable (_ = _))

def approved (definition : DefinitionOfDone) (criterion : Criterion) : Option String :=
  (definition.acceptanceTests.find? fun file => Agree file.path (acceptanceTestPathForCriterion criterion.id)).map
    AcceptanceTestFile.content

/-- A file of the tree at the criterion's path, up to letter case, with this content. -/
structure Tests (root : Place) (tree : Tree) (criterion : Criterion) (content : String) (segments : Place) : Prop where
  agrees : Agree (joined segments) (acceptanceTestPathForCriterion criterion.id)
  holds : (tree.files.get? (root ++ segments)).map StoredFile.content = some content

/-- Each criterion has exactly one file with its approved content, which the command runs. -/
def Covered (root : Place) (definition : DefinitionOfDone) (tree : Tree) : Prop :=
  ∀ criterion ∈ definition.criteria, ∃ content segments, approved definition criterion = some content ∧
    Tests root tree criterion content segments ∧ (∀ other, Tests root tree criterion content other → other = segments) ∧
    runByCommand (joined segments) = true

/-! ### Pairing -/

variable {expected remaining : List String} {sourcePaths : List String}

theorem pairPaths_none (paired : pairPaths expected remaining = .ok none) : remaining.Perm (expected.map lowerCase) := by
  induction expected generalizing remaining with
  | nil =>
    unfold pairPaths at paired
    split at paired
    · rename_i empty
      rw [empty]
      exact .refl _
    · cases paired
  | cons path expected ih =>
    unfold pairPaths at paired
    cases normal : normalizedPath path with
    | none =>
      rw [normal] at paired
      cases paired
    | some normalized =>
      rw [normal] at paired
      dsimp only at paired
      split at paired
      · rename_i inside
        rw [List.map_cons,(normalizedPath_eq_some.mp normal).2]
        exact (List.perm_cons_erase inside).trans ((ih paired).cons normalized)
      · cases paired

theorem mapM_normalizedPath {paths normalized : List String} (each : paths.mapM normalizedPath = some normalized) :
    normalized = paths.map lowerCase := by
  induction paths generalizing normalized with
  | nil =>
    cases each
    rfl
  | cons path paths ih =>
    rw [List.mapM_cons] at each
    obtain ⟨first,normal,rest⟩ := Option.bind_eq_some_iff.mp each
    obtain ⟨others,normals,same⟩ := Option.bind_eq_some_iff.mp rest
    cases same
    rw [List.map_cons,ih normals,(normalizedPath_eq_some.mp normal).2]

theorem pairing_none {ids paths : List String} (paired : acceptanceTestsPairingError ids paths = .ok none) :
    (paths.map lowerCase).Nodup ∧ (paths.map lowerCase).Perm ((ids.map acceptanceTestPathForCriterion).map lowerCase) := by
  unfold acceptanceTestsPairingError at paired
  dsimp only at paired
  split at paired
  · cases paired
  rename_i lengths
  cases normals : paths.mapM normalizedPath with
  | none =>
    rw [normals] at paired
    cases paired
  | some normalized =>
    rw [normals] at paired
    have same := mapM_normalizedPath normals
    subst same
    have matching := pairPaths_none paired
    have size := matching.length_eq
    simp only [distinct,List.length_reverse,List.length_map] at size
    have whole : (paths.map lowerCase).reverse.dedup = (paths.map lowerCase).reverse := by
      apply (List.dedup_sublist _).eq_of_length
      rw [size,List.length_reverse,List.length_map]
      simpa using lengths
    unfold distinct at matching
    rw [whole,List.reverse_reverse] at matching
    refine ⟨?_,matching⟩
    rw [← List.nodup_reverse]
    exact List.dedup_eq_self.mp whole

theorem pairPaths_perm {answer : Option String} (ended : pairPaths expected remaining = .ok answer)
    (matching : remaining.Perm (expected.map lowerCase)) : answer = none := by
  induction expected generalizing remaining with
  | nil =>
    cases List.perm_nil.mp matching
    cases ended
    rfl
  | cons path expected ih =>
    unfold pairPaths at ended
    cases normal : normalizedPath path with
    | none =>
      rw [normal] at ended
      cases ended
    | some normalized =>
      rw [normal] at ended
      rw [List.map_cons,(normalizedPath_eq_some.mp normal).2] at matching
      have inside : normalized ∈ remaining := matching.mem_iff.mpr List.mem_cons_self
      dsimp only at ended
      rw [if_pos inside] at ended
      exact ih ended (List.cons_perm_iff_perm_erase.mp matching.symm).2.symm

/-- Where the pairing check answers, it finds no error exactly if the files expected and the files given, in lower case, are
the same files, each once. -/
theorem pairing_bijection {ids paths : List String} {answer : Option String} (ended : acceptanceTestsPairingError ids paths = .ok answer) :
    answer = none ↔ ((ids.map acceptanceTestPathForCriterion).map lowerCase).Nodup ∧ (paths.map lowerCase).Nodup ∧
      ∀ path, path ∈ (ids.map acceptanceTestPathForCriterion).map lowerCase ↔ path ∈ paths.map lowerCase := by
  constructor
  · intro paired
    subst paired
    obtain ⟨distinct,matching⟩ := pairing_none ended
    exact ⟨matching.nodup_iff.mp distinct,distinct,fun path => matching.symm.mem_iff⟩
  · intro ⟨distinctIds,distinctPaths,same⟩
    have matching := (List.perm_ext_iff_of_nodup distinctPaths distinctIds).mpr fun path => (same path).symm
    unfold acceptanceTestsPairingError at ended
    dsimp only at ended
    rw [if_neg] at ended
    · cases normals : paths.mapM normalizedPath with
      | none =>
        rw [normals] at ended
        cases ended
      | some normalized =>
        rw [normals] at ended
        cases mapM_normalizedPath normals
        have whole : distinct (paths.map lowerCase) = paths.map lowerCase := by
          unfold distinct
          rw [List.Nodup.dedup (List.nodup_reverse.mpr distinctPaths),List.reverse_reverse]
        dsimp only at ended
        rw [whole] at ended
        exact pairPaths_perm ended matching
    · have sizes := matching.length_eq
      simp only [List.length_map] at sizes ⊢
      exact not_not.mpr sizes.symm

theorem two_criteria_paired : acceptanceTestsPairingError ["C1","C2"] ["test/acceptance/c2.test.mjs","test/acceptance/C1.test.mjs"] = .ok none ∧
    (["test/acceptance/c2.test.mjs","test/acceptance/C1.test.mjs"].map lowerCase).Nodup := by
  have paired : acceptanceTestsPairingError ["C1","C2"] ["test/acceptance/c2.test.mjs","test/acceptance/C1.test.mjs"] = .ok none := by
    decide +kernel
  exact ⟨paired,((pairing_bijection paired).mp rfl).2.1⟩

/-! ### Overlays -/

theorem overlay_ok {file : AcceptanceTestFile} {change : Change}
    (laid : overlay sourcePaths file = .ok change) : wellFormedPath file.path = true ∧
      ∃ operation, change = .write operation file.path false file.content := by
  unfold overlay normalizeRepositoryPathSyntax at laid
  by_cases formed : wellFormedPath file.path = true
  · rw [if_pos formed] at laid
    dsimp only at laid
    cases found : existsIn file.path sourcePaths with
    | error error =>
      rw [found] at laid
      cases laid
    | ok found' =>
      rw [found] at laid
      cases laid
      exact ⟨formed,_,rfl⟩
  · rw [if_neg formed] at laid
    cases laid

theorem placed_write {root : Place} {tree after : Tree} {operation : WriteOperation} {path content : String}
    {executable : Bool} (formed : wellFormedPath path = true)
    (placed : placeChange root tree (.write operation path executable content) = some after) (place : Place) : after.files.get? place =
      if place = root ++ parts path then some {executable,content} else tree.files.get? place := by
  unfold placeChange at placed
  obtain ⟨target,allowed,written⟩ := Option.bind_eq_some_iff.mp placed
  unfold safe at allowed
  split at allowed
  · cases allowed
  split at allowed
  · cases allowed
    unfold Tree.write at written
    split at written
    · cases written
    · cases written
      rw [OrderedMap.get?_set,resolve_wellFormed formed]
  · cases allowed

theorem overlays_placed {root : Place} {files : List AcceptanceTestFile} {overlays : List Change}
    {before tree : Tree} (distinct : (files.map AcceptanceTestFile.path).Nodup)
    (laid : files.mapM (overlay sourcePaths) = .ok overlays) (placed : overlays.foldlM (placeChange root) before = some tree) :
    (∀ file ∈ files, (tree.files.get? (root ++ parts file.path)).map StoredFile.content = some file.content) ∧
    ∀ place, (∀ file ∈ files, place ≠ root ++ parts file.path) → tree.files.get? place = before.files.get? place := by
  induction files generalizing overlays before with
  | nil =>
    cases laid
    cases placed
    exact ⟨(fun _ impossible => nomatch impossible),fun _ _ => rfl⟩
  | cons file files ih =>
    obtain ⟨fresh,distinct⟩ := List.nodup_cons.mp distinct
    rw [List.mapM_cons] at laid
    cases first : overlay sourcePaths file with
    | error error =>
      rw [first] at laid
      cases laid
    | ok change =>
      cases others : files.mapM (overlay sourcePaths) with
      | error error =>
        rw [first,others] at laid
        cases laid
      | ok rest =>
        rw [first,others] at laid
        cases laid
        obtain ⟨formed,operation,rfl⟩ := overlay_ok first
        rw [List.foldlM_cons] at placed
        obtain ⟨middle,written,placed⟩ := Option.bind_eq_some_iff.mp placed
        obtain ⟨laidRest,kept⟩ := ih distinct others placed
        have apart : ∀ other ∈ files, root ++ parts file.path ≠ root ++ parts other.path := by
          intro other inside same
          have paths := parts_injective (List.append_cancel_left same)
          rw [paths] at fresh
          exact fresh (List.mem_map_of_mem inside)
        constructor
        · intro other inside
          rcases List.mem_cons.mp inside with rfl | inside
          · rw [kept _ apart,placed_write formed written,if_pos rfl]
            rfl
          · exact laidRest other inside
        · intro place elsewhere
          rw [kept place fun other inside => elsewhere other (List.mem_cons_of_mem _ inside),placed_write formed written,
            if_neg (elsewhere file List.mem_cons_self)]

/-! ### The tests that run -/

/-- A spelling of a test's path other than its own at which the tree has its content. -/
def Respelled (root : Place) (tree : Tree) (file : AcceptanceTestFile) : Prop :=
  ∃ segments, segments ≠ parts file.path ∧ Agree (joined segments) file.path ∧
    (tree.files.get? (root ++ segments)).map StoredFile.content = some file.content

section
variable {formats : Formats} {raw : Json} {definition : DefinitionOfDone}

structure Paired (definition : DefinitionOfDone) : Prop where
  distinct : (definition.acceptanceTests.map fun file => lowerCase file.path).Nodup
  tested : ∀ criterion ∈ definition.criteria, ∃ file ∈ definition.acceptanceTests,
    Agree file.path (acceptanceTestPathForCriterion criterion.id)
  asked : ∀ file ∈ definition.acceptanceTests, ∃ criterion ∈ definition.criteria,
    Agree file.path (acceptanceTestPathForCriterion criterion.id)

theorem definitionOfDone_paired (accepted : definitionOfDoneSchema formats raw = some definition) : Paired definition := by
  have refined := (definitionOfDoneSchema_ok accepted).1
  simp only [definitionOfDoneRefined,Bool.and_eq_true,decide_eq_true_eq] at refined
  obtain ⟨distinct,matching⟩ := pairing_none refined.2
  simp only [List.map_map,Function.comp_def] at distinct matching
  refine ⟨distinct,fun criterion inside => ?_,fun file inside => ?_⟩
  · have there := matching.mem_iff.mpr (List.mem_map_of_mem inside)
    obtain ⟨file,listed,same⟩ := List.mem_map.mp there
    exact ⟨file,listed,same⟩
  · have there := matching.mem_iff.mp (List.mem_map_of_mem inside)
    obtain ⟨criterion,listed,same⟩ := List.mem_map.mp there
    exact ⟨criterion,listed,same.symm⟩

namespace Paired

section
variable (paired : Paired definition)
include paired

theorem unique {left right : AcceptanceTestFile} (leftListed : left ∈ definition.acceptanceTests)
    (rightListed : right ∈ definition.acceptanceTests) (same : Agree left.path right.path) : left = right :=
  List.inj_on_of_nodup_map paired.distinct leftListed rightListed same

theorem paths : (definition.acceptanceTests.map AcceptanceTestFile.path).Nodup := by
  have distinct : ((definition.acceptanceTests.map AcceptanceTestFile.path).map lowerCase).Nodup := by
    rw [List.map_map]
    exact paired.distinct
  exact distinct.of_map lowerCase

theorem approved_content {file : AcceptanceTestFile} (listed : file ∈ definition.acceptanceTests)
    {criterion : Criterion} (same : Agree file.path (acceptanceTestPathForCriterion criterion.id)) :
    approved definition criterion = some file.content := by
  unfold approved
  cases found : definition.acceptanceTests.find? fun file => Agree file.path (acceptanceTestPathForCriterion criterion.id) with
  | none =>
    rw [List.find?_eq_none] at found
    exact absurd (decide_eq_true same) (found file listed)
  | some other =>
    have agrees := List.find?_some found
    rw [decide_eq_true_eq] at agrees
    rw [paired.unique (List.mem_of_find?_eq_some found) listed (agrees.trans same.symm)]
    rfl

end

end Paired

/-- A passing command has run the approved test of every criterion exactly when each
test's path is spelled as the command's pattern spells it, and the tree under the
tests has no test's content at another spelling of its path. -/
theorem every_criterion_tested_iff {root : Place} {files : List SourceFile} {changes sealed : List Change}
    {sourcePaths : List String} {tree : Tree} (accepted : definitionOfDoneSchema formats raw = some definition)
    (sealing : sealChangeSet changes definition.acceptanceTests sourcePaths = .ok sealed)
    (made : materialize root files sealed = some tree) : ∃ under, materialize root files changes = some under ∧
      (Covered root definition tree ↔ ∀ file ∈ definition.acceptanceTests,
        runByCommand file.path = true ∧ ¬ Respelled root under file) := by
  have paired := definitionOfDone_paired accepted
  unfold sealChangeSet at sealing
  split at sealing
  · cases sealing
  cases laid : definition.acceptanceTests.mapM (overlay sourcePaths) with
  | error error =>
    rw [laid] at sealing
    cases sealing
  | ok overlays =>
    rw [laid] at sealing
    cases sealing
    obtain ⟨sources,placedSources,placed⟩ := Option.bind_eq_some_iff.mp made
    rw [List.foldlM_append] at placed
    obtain ⟨under,placedChanges,placedTests⟩ := Option.bind_eq_some_iff.mp placed
    refine ⟨under,Option.bind_eq_some_iff.mpr ⟨sources,placedSources,placedChanges⟩,?_⟩
    obtain ⟨there,kept⟩ := overlays_placed paired.paths laid placedTests
    -- A spelling that agrees with a test's path is no other test's path.
    have respelled : ∀ file ∈ definition.acceptanceTests, ∀ segments, segments ≠ parts file.path →
        Agree (joined segments) file.path → tree.files.get? (root ++ segments) = under.files.get? (root ++ segments) := by
      intro file listed segments different agrees
      apply kept
      intro other otherListed same
      have spelled := List.append_cancel_left same
      rw [spelled,joined_parts] at agrees
      rw [paired.unique otherListed listed agrees] at spelled
      exact different spelled
    constructor
    · intro covered file listed
      obtain ⟨criterion,asked,agrees⟩ := paired.asked file listed
      obtain ⟨content,segments,isApproved,_,only,ran⟩ := covered criterion asked
      rw [paired.approved_content listed agrees] at isApproved
      cases isApproved
      have own : Tests root tree criterion file.content (parts file.path) :=
        ⟨by rw [joined_parts]; exact agrees,there file listed⟩
      have spelled := only _ own
      rw [← spelled,joined_parts] at ran
      refine ⟨ran,?_⟩
      rintro ⟨other,different,agreesToo,holds⟩
      rw [← respelled file listed other different agreesToo] at holds
      have second := only other ⟨agreesToo.trans agrees,holds⟩
      exact different (second.trans spelled.symm)
    · intro proper criterion asked
      obtain ⟨file,listed,agrees⟩ := paired.tested criterion asked
      obtain ⟨ran,single⟩ := proper file listed
      refine ⟨file.content,parts file.path,paired.approved_content listed agrees,
        ⟨by rw [joined_parts]; exact agrees,there file listed⟩,?_,by rw [joined_parts]; exact ran⟩
      intro other tests
      by_contra different
      have agreesToo : Agree (joined other) file.path := tests.agrees.trans agrees.symm
      have holds := tests.holds
      rw [respelled file listed other different agreesToo] at holds
      exact single ⟨other,different,agreesToo,holds⟩

end
/-! ### One criterion -/

def laxFormats : Formats := {lexer := fun _ _ => some [],datetime := fun _ => true}

def searchTest (path : String) : DefinitionOfDone where
  criteria := [{id := "search",description := "finds a note"}]
  acceptanceTests := [{path,content := "assert"}]

def repositoryRoot : Place := ["workspace".toList,"repo".toList]

def added : List Change := [.write .add "src/search.mjs" false "export"]

def withTest (path : String) : List Change := added ++ [.write .add path false "assert"]

def placesOf (made : Option Tree) : List Place := ((made.map fun tree => tree.files.entries.map Prod.fst).getD [])

theorem place_listed {made : Option Tree} {tree : Tree} (same : made = some tree) {place : Place} {content : String}
    (holds : (tree.files.get? place).map StoredFile.content = some content) : place ∈ placesOf made := by
  obtain ⟨file,found,_⟩ := Option.map_eq_some_iff.mp holds
  rw [same]
  exact (OrderedMap.mem_keys _ _).mpr (Option.isSome_of_eq_some found)

theorem search_tested : ∃ tree, materialize repositoryRoot [] (withTest "test/acceptance/Search.test.mjs") = some tree ∧
    Covered repositoryRoot (searchTest "test/acceptance/Search.test.mjs") tree := by
  have accepted : definitionOfDoneSchema laxFormats (searchTest "test/acceptance/Search.test.mjs").json =
      some (searchTest "test/acceptance/Search.test.mjs") := by decide +kernel
  have sealing : sealChangeSet added (searchTest "test/acceptance/Search.test.mjs").acceptanceTests [] =
      .ok (withTest "test/acceptance/Search.test.mjs") := by decide +kernel
  have written : (materialize repositoryRoot [] (withTest "test/acceptance/Search.test.mjs")).isSome := by decide +kernel
  obtain ⟨tree,made⟩ := Option.isSome_iff_exists.mp written
  obtain ⟨under,madeUnder,covered⟩ := every_criterion_tested_iff accepted sealing made
  refine ⟨tree,made,covered.mpr ?_⟩
  intro file listed
  cases List.mem_singleton.mp listed
  refine ⟨by decide +kernel,?_⟩
  rintro ⟨segments,_,agrees,holds⟩
  have places : placesOf (materialize repositoryRoot [] added) = [repositoryRoot ++ parts "src/search.mjs"] := by
    decide +kernel
  have listed := place_listed madeUnder holds
  rw [places,List.mem_singleton] at listed
  rw [List.append_cancel_left listed,joined_parts] at agrees
  revert agrees
  decide +kernel

/-- A test whose path is spelled `Test/Acceptance` is accepted, sealed and laid over the
tree, where the command's pattern does not find it. -/
theorem capital_directory_untested : definitionOfDoneSchema laxFormats (searchTest "Test/Acceptance/search.test.mjs").json =
      some (searchTest "Test/Acceptance/search.test.mjs") ∧
    sealChangeSet added (searchTest "Test/Acceptance/search.test.mjs").acceptanceTests [] =
      .ok (withTest "Test/Acceptance/search.test.mjs") ∧
    ∃ tree, materialize repositoryRoot [] (withTest "Test/Acceptance/search.test.mjs") = some tree ∧
      ¬ Covered repositoryRoot (searchTest "Test/Acceptance/search.test.mjs") tree := by
  refine ⟨by decide +kernel,by decide +kernel,?_⟩
  have written : (materialize repositoryRoot [] (withTest "Test/Acceptance/search.test.mjs")).isSome := by decide +kernel
  obtain ⟨tree,made⟩ := Option.isSome_iff_exists.mp written
  refine ⟨tree,made,fun covered => ?_⟩
  obtain ⟨content,segments,_,tests,_,ran⟩ := covered _ (List.mem_singleton_self _)
  have places : placesOf (materialize repositoryRoot [] (withTest "Test/Acceptance/search.test.mjs")) =
      [repositoryRoot ++ parts "src/search.mjs",repositoryRoot ++ parts "Test/Acceptance/search.test.mjs"] := by
    decide +kernel
  have listed := place_listed made tests.holds
  rw [places,List.mem_cons,List.mem_singleton] at listed
  rcases listed with same | same
  · rw [List.append_cancel_left same,joined_parts] at ran
    revert ran
    decide +kernel
  · rw [List.append_cancel_left same,joined_parts] at ran
    revert ran
    decide +kernel

end AgentOS.Gate
