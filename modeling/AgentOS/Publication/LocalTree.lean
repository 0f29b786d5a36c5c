import AgentOS.Publication.Agreement
import AgentOS.Library.Directories

/-! The tree that the local publisher builds of its base and the changes: its files, and the nested directories that
are written of them. -/
namespace AgentOS.Publication
open Library Gate

def buildDirTree (entries : OrderedMap String TreeEntry) : Directory Segment TreeEntry :=
  .build (entries.entries.map fun entry => (parts entry.1,entry.2))

def objectText : String := "[object Object]"

/-- The record of the blobs, read at a path. A text kept under `__proto__` is dropped, and what is read there is the prototype. -/
def recordOf (hashObject : String → String) (changes : List Change) (path : String) : Option String :=
  if path = "__proto__" then some objectText else blobsOf hashObject changes path

def changedEntry (tree : BaseTree) (hashObject : String → String) (changes : List Change) (path : String) : Option TreeEntry :=
  match changes.find? fun change => change.path = path with
  | some (.write _ _ executable content) => some ⟨fileMode executable,hashObject content⟩
  | some (.delete _) => none
  | none => tree.entries.get? path

section
variable {tree : BaseTree} {changes other : List Change} {blobShas : String → Option String} {hashObject : String → String}
  {entries result : OrderedMap String TreeEntry}

/-! ### The paths of the writes -/

theorem lowerCase_startsWith {start text : String} (starts : startsWith start text = true) :
    startsWith (lowerCase start) (lowerCase text) = true := by
  rw [startsWith,List.isPrefixOf_iff_prefix] at starts ⊢
  rw [lowerCase,lowerCase,String.toList_ofList,String.toList_ofList]
  exact starts.map Char.toLower

theorem lowerCase_slash (path : String) : lowerCase (path ++ "/") = lowerCase path ++ "/" := by
  apply String.toList_injective
  rw [lowerCase,lowerCase,String.toList_ofList]
  simp

theorem shapeCollision_comm (left right : String) : shapeCollision left right = shapeCollision right left := Bool.or_comm _ _

variable {operation : WriteOperation} {path content : String} {executable : Bool}

theorem checkWrite_apart {written : List String} {bytes : Nat}
    (ok : checkWrite written bytes path content = .ok ()) : ∀ folded ∈ written, shapeCollision (lowerCase path) folded = false := by
  unfold checkWrite at ok
  split at ok
  · cases ok
  · rename_i apart
    simpa using apart

theorem checkChanges_apart {seen written : List String} {bytes : Nat} (ok : checkChanges seen written bytes changes = .ok ())
    (inside : .write operation path executable content ∈ changes) :
    (∀ folded ∈ written, shapeCollision (lowerCase path) folded = false) ∧
      ∀ operation' path' executable' content', .write operation' path' executable' content' ∈ changes → path' ≠ path →
        shapeCollision (lowerCase path) (lowerCase path') = false := by
  induction changes generalizing seen written bytes operation path executable content with
  | nil => cases inside
  | cons change changes ih =>
    obtain ⟨admitted,rest⟩ := checkChanges_cons.mp ok
    have earlier : ∀ folded ∈ written, folded ∈ writtenBy change written := by
      cases change with
      | delete path => exact fun _ known => known
      | write operation path executable content => exact fun _ known => List.mem_cons_of_mem _ known
    rcases List.mem_cons.mp inside with rfl | inside
    · refine ⟨checkWrite_apart (admitted.write _ _ _ _ rfl),?_⟩
      intro operation' path' executable' content' inside' different
      rcases List.mem_cons.mp inside' with same | inside'
      · cases same
        exact absurd rfl different
      · rw [shapeCollision_comm]
        exact (ih rest inside').1 _ List.mem_cons_self
    · obtain ⟨before,beside⟩ := ih rest inside
      refine ⟨fun folded known => before folded (earlier folded known),?_⟩
      intro operation' path' executable' content' inside' different
      rcases List.mem_cons.mp inside' with rfl | inside'
      · exact before _ List.mem_cons_self
      · exact beside operation' path' executable' content' inside' different

theorem ancestors_shapeCollision {path directory : String} (within : directory ∈ ancestors path) :
    shapeCollision (lowerCase path) (lowerCase directory) = true := by
  rw [shapeCollision,← lowerCase_slash,lowerCase_startsWith (mem_ancestors.mp within),Bool.true_or]

theorem not_mem_ancestors_self (path : String) : path ∉ ancestors path := by
  intro inside
  rw [mem_ancestors,startsWith,List.isPrefixOf_iff_prefix] at inside
  have shorter := inside.length_le
  rw [String.toList_append,List.length_append] at shorter
  have one : "/".toList.length = 1 := rfl
  omega

/-! ### The files that are left -/

section
variable (distinct : (changes.map Change.path).Nodup) (applied : applyChanges tree.entries changes blobShas = .ok result)
include distinct applied

theorem applied_get (path : String) : result.get? path = match changes.find? (fun change => change.path = path) with
      | some (.write _ _ executable _) => (blobShas path).map fun sha => ⟨fileMode executable,sha⟩
      | some (.delete _) => none
      | none => tree.entries.get? path :=
  (applyChanges_get distinct applied path).trans (createTree_get _ distinct path)

theorem applied_cases {path : String} {entry : TreeEntry} (held : result.get? path = some entry) :
    (∃ operation executable content, .write operation path executable content ∈ changes) ∨
      tree.entries.get? path = some entry ∧ Change.delete path ∉ changes := by
  rw [applied_get distinct applied] at held
  split at held
  · rename_i found
    have same := List.find?_some found
    obtain rfl := of_decide_eq_true same
    exact .inl ⟨_,_,_,List.mem_of_find?_eq_some found⟩
  · cases held
  · rename_i none_
    refine .inr ⟨held,fun deleted => ?_⟩
    simpa [Change.path] using List.find?_eq_none.mp none_ _ deleted

end

theorem applied_shaped (distinct : (changes.map Change.path).Nodup) (checked : checkChanges [] [] 0 changes = .ok ())
    (fits : Fits tree changes) (applied : applyChanges tree.entries changes blobShas = .ok result) {path directory : String}
    {entry entry' : TreeEntry} (held : result.get? path = some entry) (held' : result.get? directory = some entry') :
    directory ∉ ancestors path := by
  intro within
  rcases applied_cases distinct applied held with ⟨operation,executable,content,written⟩ | ⟨base,kept⟩
  · rcases applied_cases distinct applied held' with ⟨operation',executable',content',written'⟩ | ⟨base',kept'⟩
    · have different : directory ≠ path := by
        rintro rfl
        exact not_mem_ancestors_self _ within
      have apart := (checkChanges_apart checked written).2 _ _ _ _ written' different
      rw [ancestors_shapeCollision within] at apart
      cases apart
    · exact kept' (fits.above _ _ _ _ written directory within _ base')
  · rcases applied_cases distinct applied held' with ⟨operation',executable',content',written'⟩ | ⟨base',kept'⟩
    · exact kept (fits.below _ _ _ _ written' path _ base within)
    · exact tree.shaped path entry directory entry' base base' within

/-! ### The directories that are built -/

theorem parts_ne_nil (path : String) : parts path ≠ [] := List.splitOn_ne_nil _ _

theorem mem_ancestors_parts {path directory : String} {rest : List Segment} (deeper : rest ≠ [])
    (split : parts path = parts directory ++ rest) : directory ∈ ancestors path := by
  refine List.mem_map.mpr ⟨(parts directory).length - 1,?_,?_⟩
  · have inner := List.length_pos_iff.mpr deeper
    have outer := List.length_pos_iff.mpr (parts_ne_nil directory)
    rw [List.mem_range,split,List.length_append]
    omega
  · rw [Nat.sub_add_cancel (List.length_pos_iff.mpr (parts_ne_nil directory)),split,List.take_left,joined_parts]

theorem buildDirTree_file {segments : List Segment} {entry : TreeEntry} : (buildDirTree entries).file segments = some entry ↔
    ∃ path, parts path = segments ∧ entries.get? path = some entry := by
  have keys : ((entries.entries.map fun entry => (parts entry.1,entry.2)).map Prod.fst).Nodup := by
    rw [List.map_map]
    have folds : (Prod.fst ∘ fun entry : String × TreeEntry => (parts entry.1,entry.2)) = parts ∘ Prod.fst := rfl
    rw [folds,← List.map_map]
    exact entries.distinct.map fun _ _ => parts_injective
  rw [buildDirTree,Directory.file_build _ keys]
  · simp only [List.mem_map,Prod.mk.injEq]
    constructor
    · rintro ⟨held,inside,rfl,rfl⟩
      exact ⟨held.1,rfl,(entries.mem_entries _ _).mp inside⟩
    · rintro ⟨path,rfl,held⟩
      exact ⟨(path,entry),(entries.mem_entries _ _).mpr held,rfl,rfl⟩
  · intro entry inside
    obtain ⟨held,_,rfl⟩ := List.mem_map.mp inside
    exact parts_ne_nil held.1

theorem buildDirTree_grown : (buildDirTree entries).Grown := by
  apply Directory.grown_build
  intro entry inside
  obtain ⟨held,_,rfl⟩ := List.mem_map.mp inside
  exact parts_ne_nil held.1

theorem buildDirTree_named (shaped : ∀ path entry directory entry', entries.get? path = some entry →
      entries.get? directory = some entry' → directory ∉ ancestors path) {place : List Segment} {node : Directory Segment TreeEntry}
    (reached : (buildDirTree entries).walk place = some node) {name : Segment} (inner : name ∈ node.dirs.map Prod.fst) :
    node.files.get? name = none := by
  rw [Option.eq_none_iff_forall_ne_some]
  intro entry found
  have file : (buildDirTree entries).file (place ++ [name]) = some entry := by
    rw [Directory.file_append place (List.cons_ne_nil name []),reached]
    exact found
  obtain ⟨directory,segments,held⟩ := buildDirTree_file.mp file
  cases child : Directory.child node.dirs name with
  | none => exact Directory.child_eq_none.mp child inner
  | some below =>
    have walked : (buildDirTree entries).walk (place ++ [name]) = some below := by
      rw [Directory.walk_append,reached]
      show (Directory.child node.dirs name).bind _ = _
      rw [child]
      rfl
    obtain ⟨deeper,entry',given,lower⟩ := buildDirTree_grown.inhabited _ _ walked (List.append_ne_nil_of_right_ne_nil _ (List.cons_ne_nil name []))
    have file' : (buildDirTree entries).file (place ++ [name] ++ deeper) = some entry' := by
      rw [Directory.file_append _ given,walked]
      exact lower
    obtain ⟨path,segments',held'⟩ := buildDirTree_file.mp file'
    exact shaped path entry' directory entry held' held (mem_ancestors_parts given (by rw [segments',segments]))

/-! ### The tree as a whole -/

/-- The files are the base's but for the changes, and the directories that are built hold them and nothing else. -/
structure Exact (tree : BaseTree) (hashObject : String → String) (changes : List Change) (result : OrderedMap String TreeEntry) :
    Prop where
  entries : ∀ path, result.get? path = changedEntry tree hashObject changes path
  shaped : ∀ path entry directory entry', result.get? path = some entry → result.get? directory = some entry' →
    directory ∉ ancestors path
  files : ∀ segments entry, (buildDirTree result).file segments = some entry ↔
    ∃ path, parts path = segments ∧ result.get? path = some entry
  named : ∀ place node, (buildDirTree result).walk place = some node →
    (node.dirs.map Prod.fst).Nodup ∧ ∀ name ∈ node.dirs.map Prod.fst, node.files.get? name = none
  inhabited : ∀ place node, (buildDirTree result).walk place = some node → place ≠ [] →
    ∃ deeper entry, deeper ≠ [] ∧ node.file deeper = some entry

/-- The changes make their tree of the base, in whichever order they are listed. -/
structure BuildsExactly (tree : BaseTree) (hashObject : String → String) (changes : List Change) : Prop where
  exact : ∀ result, applyChanges tree.entries changes (recordOf hashObject changes) = .ok result →
    Exact tree hashObject changes result
  accept : ∀ other, changes.Perm other → ((∃ result, applyChanges tree.entries changes (recordOf hashObject changes) = .ok result) ↔
    ∃ result, applyChanges tree.entries other (recordOf hashObject other) = .ok result)
  same : ∀ other result result', changes.Perm other →
    applyChanges tree.entries changes (recordOf hashObject changes) = .ok result →
    applyChanges tree.entries other (recordOf hashObject other) = .ok result' → ∀ path, result.get? path = result'.get? path

section
variable (distinct : (changes.map Change.path).Nodup)
include distinct

theorem find_path {path : String} {change : Change} :
    changes.find? (fun change => change.path = path) = some change ↔ change ∈ changes ∧ change.path = path := by
  constructor
  · intro found
    have same := List.find?_some found
    exact ⟨List.mem_of_find?_eq_some found,of_decide_eq_true same⟩
  · rintro ⟨inside,rfl⟩
    cases found : changes.find? fun other => other.path = change.path with
    | none => exact absurd (decide_eq_true rfl) (List.find?_eq_none.mp found change inside)
    | some first =>
      have same := List.find?_some found
      rw [List.inj_on_of_nodup_map distinct (List.mem_of_find?_eq_some found) inside (of_decide_eq_true same)]

theorem find_perm (reordered : changes.Perm other) (path : String) :
    changes.find? (fun change => change.path = path) = other.find? (fun change => change.path = path) := by
  have distinct' := (reordered.map Change.path).nodup_iff.mp distinct
  ext change
  rw [find_path distinct,find_path distinct',reordered.mem_iff]

theorem blobsOf_get (written : .write operation path executable content ∈ changes) :
    blobsOf hashObject changes path = some (hashObject content) := by
  have blob : (blobsOf hashObject changes path).isSome := blobsOf_written written
  obtain ⟨sha,found⟩ := Option.isSome_iff_exists.mp blob
  rw [found]
  obtain ⟨change,inside,named⟩ := List.exists_of_findSome?_eq_some found
  cases change with
  | delete path' => cases named
  | write operation' path' executable' content' =>
    dsimp only at named
    split at named
    · rename_i same
      cases List.inj_on_of_nodup_map distinct written inside same.symm
      exact named.symm
    · cases named

end

theorem recordOf_isSome
    (written : .write operation path executable content ∈ changes) : (recordOf hashObject changes path).isSome := by
  unfold recordOf
  split
  · rfl
  · exact blobsOf_written written

theorem Fits.perm (fits : Fits tree changes) (reordered : changes.Perm other) : Fits tree other where
  deletes path inside := fits.deletes path (reordered.mem_iff.mpr inside)
  adds path executable content inside := fits.adds path executable content (reordered.mem_iff.mpr inside)
  modifies path executable content inside := fits.modifies path executable content (reordered.mem_iff.mpr inside)
  below operation path executable content inside leaf entry held within :=
    reordered.mem_iff.mp (fits.below operation path executable content (reordered.mem_iff.mpr inside) leaf entry held within)
  above operation path executable content inside ancestor within entry held :=
    reordered.mem_iff.mp (fits.above operation path executable content (reordered.mem_iff.mpr inside) ancestor within entry held)

section
variable (distinct : (changes.map Change.path).Nodup)
include distinct

theorem recorded_ok : (∃ result, applyChanges tree.entries changes (recordOf hashObject changes) = .ok result) ↔ Fits tree changes :=
  applyChanges_ok distinct fun _ _ _ _ => recordOf_isSome

theorem prototype_entry (applied : applyChanges tree.entries changes (recordOf hashObject changes) = .ok result)
    {content : String} (written : .write operation "__proto__" executable content ∈ changes) :
    result.get? "__proto__" = some ⟨fileMode executable,objectText⟩ ∧
      changedEntry tree hashObject changes "__proto__" = some ⟨fileMode executable,hashObject content⟩ := by
  have found : changes.find? (fun change => change.path = "__proto__") = some (.write operation "__proto__" executable content) :=
    (find_path distinct).mpr ⟨written,rfl⟩
  rw [applied_get distinct applied,changedEntry,found]
  exact ⟨rfl,rfl⟩

theorem applied_exact (checked : checkChanges [] [] 0 changes = .ok ())
    (ordinary : ∀ operation executable content, .write operation "__proto__" executable content ∉ changes)
    (applied : applyChanges tree.entries changes (recordOf hashObject changes) = .ok result) :
    Exact tree hashObject changes result := by
  have fits := (recorded_ok distinct).mp ⟨result,applied⟩
  have shaped : ∀ path entry directory entry', result.get? path = some entry → result.get? directory = some entry' →
      directory ∉ ancestors path := fun _ _ _ _ held held' => applied_shaped distinct checked fits applied held held'
  refine ⟨fun path => ?_,shaped,fun _ _ => buildDirTree_file,fun place node reached => ?_,fun place node reached given => ?_⟩
  · rw [applied_get distinct applied,changedEntry]
    cases found : changes.find? fun change => change.path = path with
    | none => rfl
    | some change =>
      obtain ⟨inside,rfl⟩ := (find_path distinct).mp found
      cases change with
      | delete path => rfl
      | write operation path executable content =>
        have named : path ≠ "__proto__" := by
          rintro rfl
          exact ordinary _ _ _ inside
        show (recordOf hashObject changes path).map _ = _
        rw [recordOf,if_neg named,blobsOf_get distinct inside]
        rfl
  · exact ⟨buildDirTree_grown.distinct place node reached,fun name inner => buildDirTree_named shaped reached inner⟩
  · exact buildDirTree_grown.inhabited place node reached given

end

/-- Where the changes fit the base, the tree that is built is exact when none of them writes `__proto__`. -/
theorem builds_exactly_iff {crypto : Crypto} {input : PublicationInput} {parsed : ParsedPublicationManifest}
    (ok : parsePublicationManifest crypto input = .ok parsed) (hashes : ∀ content, isCommitSha (hashObject content) = true) :
    BuildsExactly tree hashObject parsed.manifest.changes ↔ (Fits tree parsed.manifest.changes →
      ∀ operation executable content, .write operation "__proto__" executable content ∉ parsed.manifest.changes) := by
  obtain ⟨_,_,checked,rfl⟩ := parsePublicationManifest_ok ok
  have folded := (checkChanges_distinct checked).1
  have distinct : (input.manifest.changes.map Change.path).Nodup := by
    apply List.Nodup.of_map lowerCase
    rwa [List.map_map]
  constructor
  · intro builds fits operation executable content written
    obtain ⟨result,applied⟩ := (recorded_ok distinct).mpr fits
    obtain ⟨there,asked⟩ := prototype_entry distinct applied written
    have same := (builds.exact result applied).entries "__proto__"
    rw [there,asked] at same
    have equal : objectText = hashObject content := congrArg TreeEntry.sha (Option.some.inj same)
    have named := hashes content
    rw [← equal] at named
    revert named
    decide +kernel
  · intro ordinary
    have distinctly : ∀ other, input.manifest.changes.Perm other → (other.map Change.path).Nodup :=
      fun other reordered => (reordered.map Change.path).nodup_iff.mp distinct
    refine ⟨fun result applied => ?_,fun other reordered => ?_,fun other result result' reordered applied applied' path => ?_⟩
    · exact applied_exact distinct checked (ordinary ((recorded_ok distinct).mp ⟨result,applied⟩)) applied
    · rw [recorded_ok distinct,recorded_ok (distinctly other reordered)]
      exact ⟨fun fits => fits.perm reordered,fun fits => fits.perm reordered.symm⟩
    · rw [applied_get distinct applied,applied_get (distinctly other reordered) applied',find_perm distinct reordered path]
      cases found : other.find? fun change => change.path = path with
      | none => rfl
      | some change =>
        obtain ⟨inside,rfl⟩ := (find_path (distinctly other reordered)).mp found
        cases change with
        | delete path => rfl
        | write operation path executable content =>
          have blobs : recordOf hashObject input.manifest.changes path = recordOf hashObject other path := by
            unfold recordOf
            rw [blobsOf_get distinct (reordered.mem_iff.mpr inside),blobsOf_get (distinctly other reordered) inside]
          show (recordOf _ _ _).map _ = (recordOf _ _ _).map _
          rw [Change.path,blobs]

end

/-! ### A file named as the prototype -/

theorem edited_file_builds_exactly :
    BuildsExactly srcTree (fun _ => "0123456789012345678901234567890123456789") (parsedChanges editFile).manifest.changes := by
  refine (builds_exactly_iff (parse_changing (by decide +kernel) (by decide +kernel)) fun _ => by decide +kernel).mpr ?_
  intro fits operation executable content written
  have path : "__proto__" = "src/a.txt" := congrArg Change.path (List.mem_singleton.mp written)
  revert path
  decide +kernel

def prototypeFile : List Change := [.write .add "__proto__" false "text"]

/-- A file `__proto__` is accepted and gets no blob of its own. -/
theorem prototype_file_differs : parsePublicationManifest fixedCrypto (publishing prototypeFile) = .ok (parsedChanges prototypeFile) ∧
      ¬ BuildsExactly srcTree (fun _ => "0123456789012345678901234567890123456789") (parsedChanges prototypeFile).manifest.changes := by
  refine ⟨parse_changing (by decide +kernel) (by decide +kernel),fun builds => ?_⟩
  have distinct : (prototypeFile.map Change.path).Nodup := List.nodup_singleton _
  have written : Change.write .add "__proto__" false "text" ∈ prototypeFile := List.mem_singleton.mpr rfl
  have taken : (applyChanges srcTree.entries prototypeFile
      (recordOf (fun _ => "0123456789012345678901234567890123456789") prototypeFile)).toBool = true := by decide +kernel
  cases applied : applyChanges srcTree.entries prototypeFile
      (recordOf (fun _ => "0123456789012345678901234567890123456789") prototypeFile) with
  | error fault =>
    rw [applied] at taken
    cases taken
  | ok result =>
    obtain ⟨there,asked⟩ := prototype_entry distinct applied written
    have same := (builds.exact result applied).entries "__proto__"
    have equal : (some ⟨.regular,objectText⟩ : Option TreeEntry) = some ⟨.regular,"0123456789012345678901234567890123456789"⟩ :=
      (there.symm.trans same).trans asked
    revert equal
    decide +kernel

end AgentOS.Publication
