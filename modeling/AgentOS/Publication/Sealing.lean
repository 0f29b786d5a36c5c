import AgentOS.Publication.Agreement
import AgentOS.Gate.Agreement

/-! Whether what sealing lays over an agent's changes fits the base: the source is searched without regard to letter case,
the publisher reads every path of the tree again. -/
namespace AgentOS.Publication
open Library Gate Source

/-- The paths of a source bundle, in a set. -/
def sourcePathsOf (files : List SourceFile) : List String := distinct (files.map SourceFile.path)

structure Bundles (files : List SourceFile) (tree : BaseTree) : Prop where
  paths : ∀ path, (tree.entries.get? path).isSome ↔ ∃ file ∈ files, file.path = path
  modes : ∀ file ∈ files, ∀ entry, tree.entries.get? file.path = some entry → entry.mode = fileMode file.executable

def underTests (path : String) : Bool :=
  lowerCase path = "test/acceptance" || startsWith ACCEPTANCE_TEST_PREFIX (lowerCase path)

def Laid (entries : List GitTreeEntry) (allowedModes : List Mode) (test : AcceptanceTestFile) (change : Change) : Prop :=
  (∃ operation, change = .write operation test.path false test.content) ∧
    ∃ index, validateChangesAgainstTree [change] entries allowedModes = .ok index

/-- What sealing does with changes that leave the acceptance tests alone, and with those that do not. -/
structure Seals (files : List SourceFile) (entries : List GitTreeEntry) (allowedModes : List Mode) (tests : List AcceptanceTestFile)
    (changes : List Change) : Prop where
  fits : (∀ change ∈ changes, underTests change.path = false) →
    ∃ overlays, sealChangeSet changes tests (sourcePathsOf files) = .ok (changes ++ overlays) ∧
      List.Forall₂ (Laid entries allowedModes) tests overlays
  reserves : (∃ change ∈ changes, underTests change.path = true) →
    ∃ path, sealChangeSet changes tests (sourcePathsOf files) = .error (.acceptancePathReserved path)

structure Welcomes (tree : BaseTree) (allowedModes : List Mode) (tests : List AcceptanceTestFile) : Prop where
  formed : ∀ path, tree.place path → wellFormedPath path = true
  cased : ∀ path other, tree.place path → tree.place other → lowerCase path = lowerCase other → path = other
  enclosed : ∀ test ∈ tests, ∀ ancestor ∈ ancestors test.path, ∀ leaf, (tree.entries.get? leaf).isSome →
    lowerCase leaf ≠ lowerCase ancestor
  spelled : ∀ test ∈ tests, ∀ path entry, tree.entries.get? path = some entry → lowerCase path = lowerCase test.path →
    path = test.path ∧ entry.mode ∈ allowedModes
  vacant : ∀ test ∈ tests, ∀ directory, tree.directory directory → lowerCase directory ≠ lowerCase test.path

section
variable {tree : BaseTree} {files : List SourceFile} {entries : List GitTreeEntry} {allowedModes : List Mode}
  {tests : List AcceptanceTestFile} {changes overlays : List Change} {sourcePaths : List String} {path : String}

/-! ### The search of the source -/

theorem existsIn_formed (formed : ∀ candidate ∈ sourcePaths, wellFormedPath candidate = true) (plain : wellFormedPath path = true) :
    ∃ found, existsIn path sourcePaths = .ok found ∧
      (found = true ↔ ∃ candidate ∈ sourcePaths, lowerCase candidate = lowerCase path) := by
  have here : normalizedPath path = some (lowerCase path) := normalizedPath_eq_some.mpr ⟨plain,rfl⟩
  induction sourcePaths with
  | nil => exact ⟨false,rfl,by simp⟩
  | cons first sourcePaths ih =>
    have there : normalizedPath first = some (lowerCase first) :=
      normalizedPath_eq_some.mpr ⟨formed first List.mem_cons_self,rfl⟩
    unfold existsIn
    rw [here,there]
    dsimp only
    by_cases same : lowerCase first = lowerCase path
    · exact ⟨true,if_pos same,fun _ => ⟨first,List.mem_cons_self,same⟩,fun _ => rfl⟩
    · obtain ⟨found,ok,iff⟩ := ih fun candidate inside => formed candidate (List.mem_cons_of_mem _ inside)
      refine ⟨found,(if_neg same).trans ok,iff.trans ?_⟩
      simp [same]

theorem mem_sourcePathsOf : path ∈ sourcePathsOf files ↔ ∃ file ∈ files, file.path = path := by
  simp [sourcePathsOf,distinct]

/-! ### The tests that are laid over -/

theorem overlays_iff : tests.mapM (overlay sourcePaths) = .ok overlays ↔
    List.Forall₂ (fun test change => overlay sourcePaths test = .ok change) tests overlays := by
  induction tests generalizing overlays with
  | nil => cases overlays <;> simp [pure,Except.pure]
  | cons test tests ih =>
    rw [List.mapM_cons]
    cases first : overlay sourcePaths test with
    | error fault => cases overlays <;> simp [bind,Except.bind,first]
    | ok change =>
      cases later : tests.mapM (overlay sourcePaths) with
      | error fault => cases overlays <;> simp [bind,Except.bind,first,← ih,later]
      | ok rest => cases overlays <;> simp [bind,Except.bind,pure,Except.pure,first,← ih,later]

theorem validate_single {change : Change} : (∃ index, validateChangesAgainstTree [change] entries allowedModes = .ok index) ↔
    ∃ index, indexed entries = .ok index ∧ validateChange index allowedModes change = .ok () := by
  unfold validateChangesAgainstTree
  cases indexed entries with
  | error fault => simp
  | ok index =>
    have one : [change].forM (validateChange index allowedModes) = .ok () ↔ validateChange index allowedModes change = .ok () := by
      rw [forM_ok]
      simp
    simp only [Except.ok.injEq,exists_eq_left']
    rw [← one]
    cases [change].forM (validateChange index allowedModes) <;> simp

variable {test : AcceptanceTestFile}

theorem overlay_formed (formed : wellFormedPath test.path = true) {found : Bool}
    (searched : existsIn test.path sourcePaths = .ok found) : overlay sourcePaths test =
      .ok (.write (if found then .modify else .add) test.path false test.content) := by
  unfold overlay normalizeRepositoryPathSyntax
  rw [if_pos formed]
  show (existsIn test.path sourcePaths).map _ = _
  rw [searched]
  rfl

section
variable (lists : Lists tree entries) (bundles : Bundles files tree)
include lists bundles

theorem Welcomes.laid (welcomes : Welcomes tree allowedModes tests)
    (inside : test ∈ tests) (formed : wellFormedPath test.path = true) :
    ∃ change, overlay (sourcePathsOf files) test = .ok change ∧ Laid entries allowedModes test change := by
  obtain ⟨index,ok⟩ := (indexed_iff lists).mpr ⟨welcomes.formed,welcomes.cased⟩
  have crosses := (crossesFile_iff lists ok).mpr (welcomes.enclosed test inside)
  have plain : ∀ candidate ∈ sourcePathsOf files, wellFormedPath candidate = true := fun candidate listed =>
    welcomes.formed candidate (.inl ((bundles.paths candidate).mpr (mem_sourcePathsOf.mp listed)))
  obtain ⟨found,searched,iff⟩ := existsIn_formed plain formed
  refine ⟨_,overlay_formed formed searched,⟨_,rfl⟩,validate_single.mpr ⟨index,ok,?_⟩⟩
  cases found with
  | true =>
    obtain ⟨candidate,listed,same⟩ := iff.mp rfl
    obtain ⟨file,held,rfl⟩ := mem_sourcePathsOf.mp listed
    obtain ⟨entry,there⟩ := Option.isSome_iff_exists.mp ((bundles.paths file.path).mpr ⟨file,held,rfl⟩)
    obtain ⟨spelled,allowed⟩ := welcomes.spelled test inside file.path entry there same
    refine (validateModify_ok lists ok).mpr ⟨crosses,entry,spelled ▸ there,?_,allowed⟩
    rw [bundles.modes file held entry there,fileMode]
    split
    · exact .inr rfl
    · exact .inl rfl
  | false =>
    refine validateAdd_ok.mpr ⟨crosses,(vacant_iff lists ok).mpr fun other place same => ?_⟩
    rcases place with leaf | directory
    · exact Bool.false_ne_true (iff.mpr ⟨other,mem_sourcePathsOf.mpr ((bundles.paths other).mp leaf),same⟩)
    · exact welcomes.vacant test inside other directory same

theorem laid_welcomes {change : Change}
    (own : wellFormedPath test.path = true) (overlaid : overlay (sourcePathsOf files) test = .ok change)
    (laid : Laid entries allowedModes test change) : Welcomes tree allowedModes [test] := by
  obtain ⟨_,valid⟩ := laid
  obtain ⟨index,ok,valid⟩ := validate_single.mp valid
  obtain ⟨formed,cased⟩ := (indexed_iff lists).mp ⟨index,ok⟩
  have plain : ∀ candidate ∈ sourcePathsOf files, wellFormedPath candidate = true := fun candidate listed =>
    formed candidate (.inl ((bundles.paths candidate).mpr (mem_sourcePathsOf.mp listed)))
  obtain ⟨found,searched,iff⟩ := existsIn_formed plain own
  cases (overlay_formed own searched).symm.trans overlaid
  cases found with
  | true =>
    obtain ⟨crosses,entry,held,_,allowed⟩ := (validateModify_ok lists ok).mp valid
    have leaf : tree.place test.path := .inl (by rw [held]; rfl)
    refine ⟨formed,cased,?_,?_,?_⟩ <;> intro other inside <;> obtain rfl := List.mem_singleton.mp inside
    · exact (crossesFile_iff lists ok).mp crosses
    · intro path entry' held' same
      obtain rfl := cased path other.path (.inl (by rw [held']; rfl)) leaf same
      rw [held] at held'
      cases held'
      exact ⟨rfl,allowed⟩
    · rintro directory ⟨below,entry',held',within⟩ same
      obtain rfl := cased directory other.path (.inr ⟨below,entry',held',within⟩) leaf same
      exact tree.shaped below entry' other.path entry held' held within
  | false =>
    obtain ⟨crosses,vacant⟩ := validateAdd_ok.mp valid
    have apart := (vacant_iff lists ok).mp vacant
    refine ⟨formed,cased,?_,?_,?_⟩ <;> intro other inside <;> obtain rfl := List.mem_singleton.mp inside
    · exact (crossesFile_iff lists ok).mp crosses
    · exact fun path entry held same => absurd same (apart path (.inl (by rw [held]; rfl)))
    · exact fun directory there => apart directory (.inr there)

end

/-! ### Sealing -/

theorem underTests_iff {path : String} : isAcceptanceTestPath path = true ↔ wellFormedPath path = true ∧ underTests path = true := by
  unfold isAcceptanceTestPath normalizedPath normalizeRepositoryPathSyntax
  split
  · rename_i formed
    simp [formed,underTests]
  · rename_i malformed
    simp [malformed]

theorem sealed_fits (untouched : ∀ change ∈ changes, underTests change.path = false) :
    sealChangeSet changes tests sourcePaths = .ok (changes ++ overlays) ↔ tests.mapM (overlay sourcePaths) = .ok overlays := by
  have none_ : changes.find? (fun change => isAcceptanceTestPath change.path) = none := by
    rw [List.find?_eq_none]
    intro change inside reserved
    have touched := (underTests_iff.mp reserved).2
    rw [untouched change inside] at touched
    cases touched
  unfold sealChangeSet
  rw [none_]
  cases tests.mapM (overlay sourcePaths) <;> simp [Except.map]

variable {fault : SealError}

theorem existsIn_malformed (failed : existsIn path sourcePaths = .error fault) : fault = .malformed := by
  induction sourcePaths with
  | nil => cases failed
  | cons candidate sourcePaths ih =>
    unfold existsIn at failed
    split at failed
    · split at failed
      · cases failed
      · exact ih failed
    · exact (Except.error.inj failed).symm

theorem overlay_malformed (failed : overlay sourcePaths test = .error fault) : fault = .malformed := by
  unfold overlay at failed
  split at failed
  · exact (Except.error.inj failed).symm
  · rename_i path _
    cases searched : existsIn path sourcePaths with
    | error other =>
      rw [searched] at failed
      cases failed
      exact existsIn_malformed searched
    | ok found =>
      rw [searched] at failed
      cases failed

theorem overlays_malformed (failed : tests.mapM (overlay sourcePaths) = .error fault) : fault = .malformed := by
  induction tests with
  | nil => cases failed
  | cons test tests ih =>
    rw [List.mapM_cons] at failed
    cases first : overlay sourcePaths test with
    | error other =>
      rw [first] at failed
      cases failed
      exact overlay_malformed first
    | ok change =>
      rw [first] at failed
      cases later : tests.mapM (overlay sourcePaths) with
      | error other =>
        rw [later] at failed
        cases failed
        exact ih later
      | ok rest =>
        rw [later] at failed
        cases failed

theorem sealed_reserves : (∃ path, sealChangeSet changes tests sourcePaths = .error (.acceptancePathReserved path)) ↔
    ∃ change ∈ changes, isAcceptanceTestPath change.path = true := by
  unfold sealChangeSet
  cases found : changes.find? fun change => isAcceptanceTestPath change.path with
  | some change =>
    have reserved := List.find?_some found
    exact ⟨fun _ => ⟨change,List.mem_of_find?_eq_some found,reserved⟩,fun _ => ⟨change.path,rfl⟩⟩
  | none =>
    constructor
    · rintro ⟨path,failed⟩
      cases laid : tests.mapM (overlay sourcePaths) with
      | error fault =>
        rw [laid] at failed
        cases failed
        cases overlays_malformed laid
      | ok overlays =>
        rw [laid] at failed
        cases failed
    · rintro ⟨change,inside,reserved⟩
      exact absurd reserved (List.find?_eq_none.mp found change inside)

section
variable (lists : Lists tree entries) (bundles : Bundles files tree)
include lists bundles

theorem each_welcomed (formed : ∀ test ∈ tests, wellFormedPath test.path = true)
    (overlaid : List.Forall₂ (fun test change => overlay (sourcePathsOf files) test = .ok change) tests overlays)
    (laid : List.Forall₂ (Laid entries allowedModes) tests overlays) : ∀ test ∈ tests, Welcomes tree allowedModes [test] := by
  induction overlaid with
  | nil => simp
  | cons first later ih =>
    obtain ⟨fits,rest⟩ := List.forall₂_cons.mp laid
    intro test inside
    rcases List.mem_cons.mp inside with rfl | inside
    · exact laid_welcomes lists bundles (formed _ List.mem_cons_self) first fits
    · exact ih (fun test inside => formed test (List.mem_cons_of_mem _ inside)) rest test inside

theorem each_laid (welcomes : Welcomes tree allowedModes tests)
    {some_ : List AcceptanceTestFile} (within : ∀ test ∈ some_, test ∈ tests)
    (formed : ∀ test ∈ some_, wellFormedPath test.path = true) :
    ∃ overlays, List.Forall₂ (fun test change => overlay (sourcePathsOf files) test = .ok change) some_ overlays ∧
      List.Forall₂ (Laid entries allowedModes) some_ overlays := by
  induction some_ with
  | nil => exact ⟨[],.nil,.nil⟩
  | cons test some_ ih =>
    obtain ⟨change,first,fits⟩ := welcomes.laid lists bundles (within test List.mem_cons_self) (formed test List.mem_cons_self)
    obtain ⟨rest,later,rests⟩ := ih (fun test inside => within test (List.mem_cons_of_mem _ inside))
      fun test inside => formed test (List.mem_cons_of_mem _ inside)
    exact ⟨change::rest,.cons first later,.cons fits rests⟩

end

theorem welcomes_all (some_ : tests ≠ []) (each : ∀ test ∈ tests, Welcomes tree allowedModes [test]) :
    Welcomes tree allowedModes tests := by
  obtain ⟨first,rest,rfl⟩ := List.exists_cons_of_ne_nil some_
  have base := each first List.mem_cons_self
  exact ⟨base.formed,base.cased,fun test inside => (each test inside).enclosed test List.mem_cons_self,
    fun test inside => (each test inside).spelled test List.mem_cons_self,
    fun test inside => (each test inside).vacant test List.mem_cons_self⟩

/-- Sealing does what it should of every change set exactly where the base welcomes the tests there are, and a change
that reaches for the tests is well formed. -/
theorem seals_iff (lists : Lists tree entries) (bundles : Bundles files tree)
    (normalized : ∀ test ∈ tests, isAcceptanceTestPath test.path = true) : Seals files entries allowedModes tests changes ↔
      ((∀ change ∈ changes, underTests change.path = false) → tests ≠ [] → Welcomes tree allowedModes tests) ∧
      ((∃ change ∈ changes, underTests change.path = true) →
        ∃ change ∈ changes, underTests change.path = true ∧ wellFormedPath change.path = true) := by
  have formed : ∀ test ∈ tests, wellFormedPath test.path = true := fun test inside => (underTests_iff.mp (normalized test inside)).1
  constructor
  · intro seals
    constructor
    · intro untouched some_
      obtain ⟨overlays,sealing,laid⟩ := seals.fits untouched
      have overlaid := overlays_iff.mp ((sealed_fits untouched).mp sealing)
      exact welcomes_all some_ (each_welcomed lists bundles formed overlaid laid)
    · intro touched
      obtain ⟨change,inside,reserved⟩ := sealed_reserves.mp (seals.reserves touched)
      obtain ⟨own,under⟩ := underTests_iff.mp reserved
      exact ⟨change,inside,under,own⟩
  · rintro ⟨welcomes,reaches⟩
    constructor
    · intro untouched
      by_cases none_ : tests = []
      · subst none_
        exact ⟨[],(sealed_fits untouched).mpr rfl,.nil⟩
      · obtain ⟨overlays,overlaid,laid⟩ := each_laid lists bundles (welcomes untouched none_) (fun _ inside => inside) formed
        exact ⟨overlays,(sealed_fits untouched).mpr (overlays_iff.mpr overlaid),laid⟩
    · intro touched
      obtain ⟨change,inside,under,own⟩ := reaches touched
      exact sealed_reserves.mpr ⟨change,inside,underTests_iff.mpr ⟨own,under⟩⟩

end

/-! ### A path that no change may name -/

def xTest : AcceptanceTestFile := ⟨"test/acceptance/x.test.mjs","text"⟩

theorem ancestors_x : ancestors "test/acceptance/x.test.mjs" = ["test","test/acceptance"] := by decide +kernel

def srcFiles : List SourceFile := [⟨"src/a.txt",false,"text"⟩]

theorem srcFiles_bundle : Bundles srcFiles srcTree where
  paths path := by
    constructor
    · intro there
      obtain ⟨entry,held⟩ := Option.isSome_iff_exists.mp there
      exact ⟨_,List.mem_singleton.mpr rfl,(srcLeaves_get held).1.symm⟩
    · rintro ⟨file,inside,rfl⟩
      obtain rfl := List.mem_singleton.mp inside
      rfl
  modes file inside entry held := by
    obtain rfl := List.mem_singleton.mp inside
    obtain ⟨_,rfl⟩ := srcLeaves_get held
    rfl

theorem xTest_welcome : Welcomes srcTree [.regular] [xTest] where
  formed := editFile_plain.formed
  cased := editFile_plain.cased
  enclosed test inside ancestor within leaf there := by
    obtain rfl := List.mem_singleton.mp inside
    obtain ⟨entry,held⟩ := Option.isSome_iff_exists.mp there
    obtain ⟨rfl,_⟩ := srcLeaves_get held
    have named : ancestor ∈ ["test","test/acceptance"] := ancestors_x ▸ within
    simp only [List.mem_cons,List.not_mem_nil,or_false] at named
    rcases named with rfl | rfl <;> decide +kernel
  spelled test inside path entry held same := by
    obtain rfl := List.mem_singleton.mp inside
    obtain ⟨rfl,_⟩ := srcLeaves_get held
    have apart : lowerCase "src/a.txt" ≠ lowerCase xTest.path := by decide +kernel
    exact absurd same apart
  vacant test inside directory there := by
    obtain rfl := List.mem_singleton.mp inside
    obtain rfl := srcTree_directory.mp there
    decide +kernel

theorem added_test_seals : Seals srcFiles srcListing [.regular] [xTest] editFile := by
  refine (seals_iff srcListing_lists srcFiles_bundle ?_).mpr ⟨fun _ _ => xTest_welcome,?_⟩
  · intro test inside
    obtain rfl := List.mem_singleton.mp inside
    decide +kernel
  · rintro ⟨change,inside,under⟩
    exact ⟨change,inside,under,by rw [List.mem_singleton.mp inside]; decide +kernel⟩

def percentLeaves : OrderedMap String TreeEntry := OrderedMap.empty.set "100%.txt" aEntry

theorem percentLeaves_get {path : String} {entry : TreeEntry} (held : percentLeaves.get? path = some entry) :
    path = "100%.txt" ∧ entry = aEntry := by
  rw [percentLeaves,OrderedMap.get?_set] at held
  split at held
  · rename_i same
    exact ⟨same,(Option.some.inj held).symm⟩
  · simp at held

theorem ancestors_percent : ancestors "100%.txt" = [] := by decide +kernel

def percentTree : BaseTree where
  entries := percentLeaves
  shaped path entry other entry' held held' := by
    obtain ⟨rfl,_⟩ := percentLeaves_get held
    rw [ancestors_percent]
    exact List.not_mem_nil
  leaves path entry held := by
    obtain ⟨_,rfl⟩ := percentLeaves_get held
    decide

def percentFiles : List SourceFile := [⟨"100%.txt",false,"text"⟩]

def percentListing : List GitTreeEntry := [⟨"100%.txt",.regular,.blob,"blob-a"⟩]

theorem percentTree_directory (path : String) : ¬ percentTree.directory path := by
  rintro ⟨leaf,entry,held,within⟩
  obtain ⟨rfl,_⟩ := percentLeaves_get held
  rw [ancestors_percent] at within
  cases within

theorem percentListing_lists : Lists percentTree percentListing where
  distinct := List.nodup_singleton _
  sound entry inside := by
    obtain rfl := List.mem_singleton.mp inside
    exact ⟨rfl,fun _ => rfl,by simp⟩
  leaves path entry held := by
    obtain ⟨rfl,rfl⟩ := percentLeaves_get held
    exact List.mem_singleton.mpr rfl
  directories path there := absurd there (percentTree_directory path)

theorem percentFiles_bundle : Bundles percentFiles percentTree where
  paths path := by
    constructor
    · intro there
      obtain ⟨entry,held⟩ := Option.isSome_iff_exists.mp there
      exact ⟨_,List.mem_singleton.mpr rfl,(percentLeaves_get held).1.symm⟩
    · rintro ⟨file,inside,rfl⟩
      obtain rfl := List.mem_singleton.mp inside
      rfl
  modes file inside entry held := by
    obtain rfl := List.mem_singleton.mp inside
    obtain ⟨_,rfl⟩ := percentLeaves_get held
    rfl

/-- A base with a file that no change could name lets no test be laid over it. -/
theorem percent_file_unsealed :
    sourceBundleSchema (bundleBody notesBinding treeName percentFiles) = some ⟨commitName,treeName,percentFiles⟩ ∧
      Lists percentTree percentListing ∧ Bundles percentFiles percentTree ∧ isAcceptanceTestPath xTest.path = true ∧
      ¬ Seals percentFiles percentListing [.regular,.executable] [xTest] editFile := by
  refine ⟨by decide +kernel,percentListing_lists,percentFiles_bundle,by decide +kernel,fun seals => ?_⟩
  have untouched : ∀ change ∈ editFile, underTests change.path = false := by
    intro change inside
    obtain rfl := List.mem_singleton.mp inside
    decide +kernel
  obtain ⟨overlays,sealing,_⟩ := seals.fits untouched
  have searched : sealChangeSet editFile [xTest] (sourcePathsOf percentFiles) = .error .malformed := by decide +kernel
  rw [searched] at sealing
  cases sealing

end AgentOS.Publication
