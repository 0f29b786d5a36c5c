import AgentOS.Publication.BaseTree
import AgentOS.Publication.Binding
import AgentOS.Source.Publishable

/-! Whether the two publishers accept the same changes. Both refuse changes that do not fit the tree;
one of them also refuses what it cannot tell apart without regard to letter case, what is no plain
file, and what uses a place that the same changes empty. -/
namespace AgentOS.Publication
open Library Gate Source
open OrderedMap (get?_set get?_erase)

section
variable {tree : BaseTree} {changes : List Change} {entries : List GitTreeEntry} {allowedModes : List Mode}
  {blobShas : String → Option String}

/-! ### The index -/

theorem treeIndex_get {index found : OrderedMap String GitTreeEntry} {entries : List GitTreeEntry}
    (ok : treeIndex index entries = .ok found) (key : String) (entry : GitTreeEntry) :
    found.get? key = some entry ↔ (entry ∈ entries ∧ lowerCase entry.path = key) ∨ index.get? key = some entry := by
  induction entries generalizing index with
  | nil =>
    cases ok
    simp
  | cons first entries ih =>
    unfold treeIndex at ok
    cases normal : normalizedPath first.path with
    | none =>
      rw [normal] at ok
      cases ok
    | some folded =>
      obtain ⟨_,rfl⟩ := normalizedPath_eq_some.mp normal
      rw [normal] at ok
      dsimp only at ok
      split at ok
      · cases ok
      rename_i fresh
      rw [ih ok,get?_set]
      by_cases same : key = lowerCase first.path
      · subst same
        have missing : index.get? (lowerCase first.path) = none := by simpa using fresh
        simp only [if_true,missing,List.mem_cons,Option.some.injEq,reduceCtorEq,or_false]
        constructor
        · rintro (⟨inside,equal⟩ | rfl)
          · exact ⟨.inr inside,equal⟩
          · exact ⟨.inl rfl,rfl⟩
        · rintro ⟨rfl | inside,equal⟩
          · exact .inr rfl
          · exact .inl ⟨inside,equal⟩
      · simp only [if_neg same,List.mem_cons]
        constructor
        · rintro (⟨inside,equal⟩ | held)
          · exact .inl ⟨.inr inside,equal⟩
          · exact .inr held
        · rintro (⟨rfl | inside,equal⟩ | held)
          · exact absurd equal.symm same
          · exact .inl ⟨inside,equal⟩
          · exact .inr held

theorem indexed_ok {index : OrderedMap String GitTreeEntry} : indexed entries = .ok index ↔ treeIndex .empty entries = .ok index := by
  unfold indexed
  split
  · rename_i found same
    rw [same]
    constructor
    · rintro ⟨⟩
      rfl
    · rintro ⟨⟩
      rfl
  · rename_i message same
    rw [same]
    split <;> simp [rejected]
  · rename_i fault _ same
    rw [same]
    simp

theorem indexed_get {index : OrderedMap String GitTreeEntry} (ok : indexed entries = .ok index) (key : String)
    (entry : GitTreeEntry) : index.get? key = some entry ↔ entry ∈ entries ∧ lowerCase entry.path = key := by
  rw [treeIndex_get (indexed_ok.mp ok) key entry]
  simp

/-! ### Deletes and writes -/

theorem removeDeleted_ok {base remaining : OrderedMap String TreeEntry} (distinct : (changes.map Change.path).Nodup)
    (ok : removeDeleted base changes = .ok remaining) : (∀ path, .delete path ∈ changes → (base.get? path).isSome) ∧
      ∀ path, remaining.get? path = if Change.delete path ∈ changes then none else base.get? path := by
  induction changes generalizing base with
  | nil =>
    cases ok
    simp
  | cons change changes ih =>
    obtain ⟨fresh,later⟩ := List.nodup_cons.mp distinct
    cases change with
    | write operation path executable content =>
      obtain ⟨deletes,found⟩ := ih later ok
      simpa using ⟨deletes,found⟩
    | delete path =>
      rw [removeDeleted] at ok
      split at ok
      · rename_i there
        obtain ⟨deletes,found⟩ := ih later ok
        refine ⟨fun other inside => ?_,fun other => ?_⟩
        · rcases List.mem_cons.mp inside with same | inside
          · cases same
            exact there
          · have kept := deletes other inside
            rw [get?_erase] at kept
            split at kept
            · cases kept
            · exact kept
        · rw [found other,get?_erase]
          by_cases same : other = path <;> simp [same]
      · cases ok

theorem removeDeleted_of {base : OrderedMap String TreeEntry} (distinct : (changes.map Change.path).Nodup)
    (deletes : ∀ path, .delete path ∈ changes → (base.get? path).isSome) :
    ∃ remaining, removeDeleted base changes = .ok remaining := by
  induction changes generalizing base with
  | nil => exact ⟨base,rfl⟩
  | cons change changes ih =>
    obtain ⟨fresh,later⟩ := List.nodup_cons.mp distinct
    cases change with
    | write operation path executable content =>
      exact ih later fun other inside => deletes other (List.mem_cons_of_mem _ inside)
    | delete path =>
      rw [removeDeleted,if_pos (deletes path List.mem_cons_self)]
      apply ih later
      intro other inside
      have apart : other ≠ path := fun same => fresh (List.mem_map.mpr ⟨_,inside,same⟩)
      rw [get?_erase,if_neg apart]
      exact deletes other (List.mem_cons_of_mem _ inside)

structure Fitting (remaining next : OrderedMap String TreeEntry) (operation : WriteOperation) (path : String) : Prop where
  below : ∀ other entry, remaining.get? other = some entry → path ∉ ancestors other
  above : ∀ ancestor ∈ ancestors path, remaining.get? ancestor = none
  add : operation = .add → next.get? path = none
  modify : operation = .modify → (next.get? path).isSome

variable {remaining next after : OrderedMap String TreeEntry} {path : String}

theorem assertNoTreeShapeCollision_ok {remaining : OrderedMap String TreeEntry} : assertNoTreeShapeCollision remaining path = .ok () ↔
      (∀ other entry, remaining.get? other = some entry → path ∉ ancestors other) ∧
        ∀ ancestor ∈ ancestors path, remaining.get? ancestor = none := by
  have all : (remaining.entries.any (fun entry => startsWith (path ++ "/") entry.1) ||
      (ancestors path).any fun ancestor => (remaining.get? ancestor).isSome) = false ↔
      (∀ other entry, remaining.get? other = some entry → path ∉ ancestors other) ∧
        ∀ ancestor ∈ ancestors path, remaining.get? ancestor = none := by
    rw [Bool.or_eq_false_iff,List.any_eq_false,List.any_eq_false]
    apply and_congr
    · constructor
      · intro none other entry held within
        exact none (other,entry) ((remaining.mem_entries other entry).mpr held) (mem_ancestors.mp within)
      · intro apart entry inside within
        exact apart entry.1 entry.2 ((remaining.mem_entries _ _).mp inside) (mem_ancestors.mpr within)
    · simp
  rw [← all,assertNoTreeShapeCollision]
  split
  · rename_i collides
    simp [rejected,collides]
  · rename_i apart
    simpa using apart

variable {operation : WriteOperation} {executable : Bool}

theorem writeChange_ok : writeChange remaining next blobShas operation path executable = .ok after ↔
      Fitting remaining next operation path ∧ ∃ sha, blobShas path = some sha ∧ after = next.set path ⟨fileMode executable,sha⟩ := by
  rw [writeChange]
  cases shape : assertNoTreeShapeCollision remaining path with
  | error fault =>
    constructor
    · intro ok
      cases ok
    · rintro ⟨fits,_⟩
      rw [assertNoTreeShapeCollision_ok.mpr ⟨fits.below,fits.above⟩] at shape
      cases shape
  | ok _ =>
    obtain ⟨below,above⟩ := assertNoTreeShapeCollision_ok.mp shape
    constructor
    · intro ok
      dsimp only at ok
      split at ok
      · cases ok
      rename_i added
      split at ok
      · cases ok
      rename_i modified
      split at ok
      · cases ok
      rename_i sha written
      cases ok
      refine ⟨⟨below,above,?_,?_⟩,sha,written,rfl⟩
      · intro same
        simpa [same] using added
      · intro same
        simpa [same,Option.isSome_iff_ne_none] using modified
    · rintro ⟨fits,sha,written,rfl⟩
      dsimp only
      rw [if_neg,if_neg,written]
      · rintro ⟨same,none⟩
        have there := fits.modify same
        simp [Option.isNone_iff_eq_none.mp none] at there
      · rintro ⟨same,some⟩
        simp [fits.add same] at some

theorem find_fresh (fresh : path ∉ changes.map Change.path) : changes.find? (fun change => change.path = path) = none := by
  rw [List.find?_eq_none]
  intro change inside equal
  exact fresh (List.mem_map.mpr ⟨change,inside,of_decide_eq_true equal⟩)

theorem writeChanges_ok (distinct : (changes.map Change.path).Nodup)
    (ok : writeChanges remaining blobShas next changes = .ok after) :
    (∀ operation path executable content, .write operation path executable content ∈ changes →
      Fitting remaining next operation path ∧ (blobShas path).isSome) ∧
      ∀ path, after.get? path = match changes.find? (fun change => change.path = path) with
        | some (.write _ _ executable _) => (blobShas path).map fun sha => ⟨fileMode executable,sha⟩
        | _ => next.get? path := by
  induction changes generalizing next with
  | nil =>
    cases ok
    simp
  | cons change changes ih =>
    obtain ⟨fresh,later⟩ := List.nodup_cons.mp distinct
    cases change with
    | delete path =>
      obtain ⟨writes,found⟩ := ih later ok
      refine ⟨by simpa using writes,fun other => ?_⟩
      rw [found other,List.find?_cons]
      by_cases same : path = other
      · subst same
        have missing : changes.find? (fun change => change.path = path) = none := find_fresh fresh
        rw [missing]
        simp [Change.path]
      · simp [Change.path,same]
    | write operation path executable content =>
      rw [writeChanges] at ok
      split at ok
      · cases ok
      rename_i middle done
      obtain ⟨fits,sha,written,rfl⟩ := writeChange_ok.mp done
      obtain ⟨writes,found⟩ := ih later ok
      refine ⟨fun operation' other executable' content' inside => ?_,fun other => ?_⟩
      · rcases List.mem_cons.mp inside with same | inside
        · cases same
          exact ⟨fits,by simp [written]⟩
        · obtain ⟨fits',blob⟩ := writes _ _ _ _ inside
          have apart : other ≠ path := fun same => fresh (List.mem_map.mpr ⟨_,inside,same⟩)
          have kept : (next.set path ⟨fileMode executable,sha⟩).get? other = next.get? other := by
            rw [get?_set,if_neg apart]
          exact ⟨⟨fits'.below,fits'.above,fun same => kept ▸ fits'.add same,fun same => kept ▸ fits'.modify same⟩,blob⟩
      · rw [found other,List.find?_cons]
        by_cases same : path = other
        · subst same
          have missing : changes.find? (fun change => change.path = path) = none := find_fresh fresh
          rw [missing]
          simp [Change.path,get?_set,written]
        · simp [Change.path,same,get?_set,Ne.symm same]

theorem writeChanges_of {remaining next : OrderedMap String TreeEntry} (distinct : (changes.map Change.path).Nodup)
    (fits : ∀ operation path executable content, .write operation path executable content ∈ changes →
      Fitting remaining next operation path ∧ (blobShas path).isSome) :
    ∃ after, writeChanges remaining blobShas next changes = .ok after := by
  induction changes generalizing next with
  | nil => exact ⟨next,rfl⟩
  | cons change changes ih =>
    obtain ⟨fresh,later⟩ := List.nodup_cons.mp distinct
    cases change with
    | delete path => exact ih later fun _ _ _ _ inside => fits _ _ _ _ (List.mem_cons_of_mem _ inside)
    | write operation path executable content =>
      obtain ⟨first,blob⟩ := fits _ _ _ _ List.mem_cons_self
      obtain ⟨sha,written⟩ := Option.isSome_iff_exists.mp blob
      rw [writeChanges,writeChange_ok.mpr ⟨first,sha,written,rfl⟩]
      apply ih later
      intro operation' other executable' content' inside
      obtain ⟨fits',blob'⟩ := fits _ _ _ _ (List.mem_cons_of_mem _ inside)
      have apart : other ≠ path := fun same => fresh (List.mem_map.mpr ⟨_,inside,same⟩)
      have kept : (next.set path ⟨fileMode executable,sha⟩).get? other = next.get? other := by
        rw [get?_set,if_neg apart]
      exact ⟨⟨fits'.below,fits'.above,fun same => kept ▸ fits'.add same,fun same => kept ▸ fits'.modify same⟩,blob'⟩

/-! ### What each accepts -/

structure Fits (tree : BaseTree) (changes : List Change) : Prop where
  deletes : ∀ path, .delete path ∈ changes → (tree.entries.get? path).isSome
  adds : ∀ path executable content, .write .add path executable content ∈ changes → tree.entries.get? path = none
  modifies : ∀ path executable content, .write .modify path executable content ∈ changes → (tree.entries.get? path).isSome
  below : ∀ operation path executable content, .write operation path executable content ∈ changes →
    ∀ other entry, tree.entries.get? other = some entry → path ∈ ancestors other → .delete other ∈ changes
  above : ∀ operation path executable content, .write operation path executable content ∈ changes →
    ∀ ancestor ∈ ancestors path, ∀ entry, tree.entries.get? ancestor = some entry → .delete ancestor ∈ changes

def BaseTree.place (tree : BaseTree) (path : String) : Prop := (tree.entries.get? path).isSome ∨ tree.directory path

/-- What else the one publisher asks, of the tree and of the changes before any of them is made. -/
structure Plain (tree : BaseTree) (changes : List Change) (allowedModes : List Mode) : Prop where
  formed : ∀ path, tree.place path → wellFormedPath path = true
  cased : ∀ path other, tree.place path → tree.place other → lowerCase path = lowerCase other → path = other
  enclosed : ∀ change ∈ changes, ∀ ancestor ∈ ancestors change.path, ∀ leaf, (tree.entries.get? leaf).isSome →
    lowerCase leaf ≠ lowerCase ancestor
  vacant : ∀ path executable content, .write .add path executable content ∈ changes →
    ∀ other, tree.place other → lowerCase other ≠ lowerCase path
  regular : ∀ change ∈ changes, ∀ entry, tree.entries.get? change.path = some entry →
    entry.mode = .regular ∨ entry.mode = .executable
  allowed : ∀ path executable content, .write .modify path executable content ∈ changes →
    ∀ entry, tree.entries.get? path = some entry → entry.mode ∈ allowedModes

theorem write_not_deleted (distinct : (changes.map Change.path).Nodup) {path content : String}
    (written : .write operation path executable content ∈ changes) : .delete path ∉ changes := by
  intro deleted
  have same := List.inj_on_of_nodup_map distinct written deleted rfl
  cases same

theorem fitting_iff {remaining : OrderedMap String TreeEntry} (distinct : (changes.map Change.path).Nodup)
    (left : ∀ path, remaining.get? path = if Change.delete path ∈ changes then none else tree.entries.get? path)
    {path content : String}
    (written : .write operation path executable content ∈ changes) : Fitting remaining remaining operation path ↔
      (operation = .add → tree.entries.get? path = none) ∧ (operation = .modify → (tree.entries.get? path).isSome) ∧
      (∀ other entry, tree.entries.get? other = some entry → path ∈ ancestors other → .delete other ∈ changes) ∧
      ∀ ancestor ∈ ancestors path, ∀ entry, tree.entries.get? ancestor = some entry → .delete ancestor ∈ changes := by
  have kept : remaining.get? path = tree.entries.get? path := by
    rw [left path,if_neg (write_not_deleted distinct written)]
  constructor
  · intro fits
    refine ⟨fun same => kept ▸ fits.add same,fun same => kept ▸ fits.modify same,fun other entry held within => ?_,
      fun ancestor within entry held => ?_⟩
    · by_contra stays
      have there := left other
      rw [if_neg stays,held] at there
      exact fits.below other entry there within
    · by_contra stays
      have there := left ancestor
      rw [if_neg stays,held,fits.above ancestor within] at there
      cases there
  · rintro ⟨added,modified,below,above⟩
    refine ⟨fun other entry held within => ?_,fun ancestor within => ?_,fun same => kept.trans (added same),fun same => ?_⟩
    · rw [left other] at held
      split at held
      · cases held
      · rename_i stays
        exact stays (below other entry held within)
    · rw [left ancestor]
      split
      · rfl
      · rename_i stays
        rw [Option.eq_none_iff_forall_ne_some]
        exact fun entry held => stays (above ancestor within entry held)
    · rw [kept]
      exact modified same

theorem applyChanges_ok (distinct : (changes.map Change.path).Nodup)
    (blobs : ∀ operation path executable content, .write operation path executable content ∈ changes → (blobShas path).isSome) :
    (∃ next, applyChanges tree.entries changes blobShas = .ok next) ↔ Fits tree changes := by
  rw [applyChanges]
  constructor
  · rintro ⟨next,ok⟩
    split at ok
    · cases ok
    rename_i remaining removed
    obtain ⟨deletes,left⟩ := removeDeleted_ok distinct removed
    obtain ⟨writes,_⟩ := writeChanges_ok distinct ok
    have each : ∀ operation path executable content, .write operation path executable content ∈ changes → _ :=
      fun operation path executable content written =>
        (fitting_iff distinct left written).mp (writes operation path executable content written).1
    exact {
      deletes
      adds := fun path executable content written => (each _ _ _ _ written).1 rfl
      modifies := fun path executable content written => (each _ _ _ _ written).2.1 rfl
      below := fun operation path executable content written => (each _ _ _ _ written).2.2.1
      above := fun operation path executable content written => (each _ _ _ _ written).2.2.2 }
  · intro fits
    obtain ⟨remaining,removed⟩ := removeDeleted_of distinct fits.deletes
    rw [removed]
    apply writeChanges_of distinct
    intro operation path executable content written
    refine ⟨(fitting_iff distinct (removeDeleted_ok distinct removed).2 written).mpr ⟨?_,?_,?_,?_⟩,
      blobs operation path executable content written⟩
    · rintro rfl
      exact fits.adds path executable content written
    · rintro rfl
      exact fits.modifies path executable content written
    · exact fits.below operation path executable content written
    · exact fits.above operation path executable content written

theorem type_tree {mode : Source.Mode} : Mode.type mode = .tree ↔ mode = .directory := by
  cases mode <;> simp [Mode.type]

theorem place_iff (lists : Lists tree entries) : tree.place path ↔ ∃ entry ∈ entries, entry.path = path := by
  constructor
  · rintro (leaf | directory)
    · obtain ⟨entry,held⟩ := Option.isSome_iff_exists.mp leaf
      exact ⟨_,lists.leaves path entry held,rfl⟩
    · obtain ⟨entry,inside,same,_⟩ := lists.directories path directory
      exact ⟨entry,inside,same⟩
  · rintro ⟨entry,inside,rfl⟩
    obtain ⟨_,leaf,directory⟩ := lists.sound entry inside
    by_cases mode : entry.mode = .directory
    · exact .inr (directory mode)
    · left
      rw [leaf mode]
      rfl

theorem indexed_iff (lists : Lists tree entries) : (∃ index, indexed entries = .ok index) ↔
    (∀ path, tree.place path → wellFormedPath path = true) ∧
      ∀ path other, tree.place path → tree.place other → lowerCase path = lowerCase other → path = other := by
  simp only [indexed_ok,treeIndex_iff,OrderedMap.get?_empty,and_true]
  apply and_congr
  · constructor
    · intro formed path place
      obtain ⟨entry,inside,rfl⟩ := (place_iff lists).mp place
      exact formed entry inside
    · intro formed entry inside
      exact formed entry.path ((place_iff lists).mpr ⟨entry,inside,rfl⟩)
  · have folds : entries.map (fun entry => lowerCase entry.path) = (entries.map GitTreeEntry.path).map lowerCase := by
      rw [List.map_map]
      rfl
    rw [folds]
    constructor
    · intro distinct path other place place' same
      obtain ⟨entry,inside,rfl⟩ := (place_iff lists).mp place
      obtain ⟨entry',inside',rfl⟩ := (place_iff lists).mp place'
      exact List.inj_on_of_nodup_map distinct (List.mem_map_of_mem inside) (List.mem_map_of_mem inside') same
    · intro cased
      apply List.Nodup.map_on _ lists.distinct
      intro path inside other inside' same
      obtain ⟨entry,member,rfl⟩ := List.mem_map.mp inside
      obtain ⟨entry',member',rfl⟩ := List.mem_map.mp inside'
      exact cased _ _ ((place_iff lists).mpr ⟨entry,member,rfl⟩) ((place_iff lists).mpr ⟨entry',member',rfl⟩) same

section
variable {index : OrderedMap String GitTreeEntry} (lists : Lists tree entries) (ok : indexed entries = .ok index)
include lists ok

variable {path : String}

theorem crossesFile_iff : crossesFile index path = false ↔
    ∀ ancestor ∈ ancestors path, ∀ leaf, (tree.entries.get? leaf).isSome → lowerCase leaf ≠ lowerCase ancestor := by
  rw [crossesFile,List.any_eq_false]
  constructor
  · intro none ancestor within leaf there same
    obtain ⟨entry,held⟩ := Option.isSome_iff_exists.mp there
    apply none ancestor within
    rw [(indexed_get ok _ _).mpr ⟨lists.leaves leaf entry held,same⟩]
    have file := tree.leaves leaf entry held
    simpa [type_tree] using file
  · intro apart ancestor within crosses
    obtain ⟨entry,found,file⟩ := (Option.any_eq_true _ _).mp crosses
    obtain ⟨inside,same⟩ := (indexed_get ok _ _).mp found
    obtain ⟨typed,leaf,_⟩ := lists.sound entry inside
    have mode : entry.mode ≠ .directory := by simpa [typed,type_tree] using file
    exact apart ancestor within entry.path (by rw [leaf mode]; rfl) same

theorem vacant_iff : index.get? (lowerCase path) = none ↔ ∀ other, tree.place other → lowerCase other ≠ lowerCase path := by
  rw [Option.eq_none_iff_forall_ne_some]
  constructor
  · intro none other place same
    obtain ⟨entry,inside,rfl⟩ := (place_iff lists).mp place
    exact none entry ((indexed_get ok _ _).mpr ⟨inside,same⟩)
  · intro apart entry found
    obtain ⟨inside,same⟩ := (indexed_get ok _ _).mp found
    exact apart entry.path ((place_iff lists).mpr ⟨entry,inside,rfl⟩) same

theorem target_iff (path : String) (keep : Mode → Prop) :
    (∃ existing, index.get? (lowerCase path) = some existing ∧ existing.path = path ∧
      (existing.mode = .regular ∨ existing.mode = .executable) ∧ keep existing.mode) ↔
      ∃ entry, tree.entries.get? path = some entry ∧ (entry.mode = .regular ∨ entry.mode = .executable) ∧ keep entry.mode := by
  constructor
  · rintro ⟨existing,found,rfl,file,kept⟩
    obtain ⟨inside,_⟩ := (indexed_get ok _ _).mp found
    have leaf : existing.mode ≠ .directory := by
      rintro mode
      simp [mode] at file
    exact ⟨_,(lists.sound existing inside).2.1 leaf,file,kept⟩
  · rintro ⟨entry,held,file,kept⟩
    exact ⟨_,(indexed_get ok _ _).mpr ⟨lists.leaves path entry held,rfl⟩,rfl,file,kept⟩

omit lists ok in
theorem validateAdd_ok {path content : String} {executable : Bool} :
    validateChange index allowedModes (.write .add path executable content) = .ok () ↔
      crossesFile index path = false ∧ index.get? (lowerCase path) = none := by
  unfold validateChange
  by_cases crosses : crossesFile index path = true
  · simp [Change.path,crosses,rejected]
  · rcases found : index.get? (lowerCase path) with _ | existing
    · simp [Change.path,crosses,found]
    · simp [Change.path,crosses,found,rejected]

theorem validateModify_ok {path content : String} {executable : Bool} :
    validateChange index allowedModes (.write .modify path executable content) = .ok () ↔ crossesFile index path = false ∧
      ∃ entry, tree.entries.get? path = some entry ∧ (entry.mode = .regular ∨ entry.mode = .executable) ∧
        entry.mode ∈ allowedModes := by
  rw [← target_iff lists ok path fun mode => mode ∈ allowedModes]
  unfold validateChange
  by_cases crosses : crossesFile index path = true
  · simp [Change.path,crosses,rejected]
  · cases found : index.get? (lowerCase path) with
    | none => simp [Change.path,crosses,found,rejected]
    | some existing =>
      have typed := (lists.sound existing ((indexed_get ok _ _).mp found).1).1
      by_cases same : existing.path = path
      · cases mode : existing.mode <;> simp [Change.path,crosses,found,rejected,typed,same,mode,Mode.type]
      · simp [Change.path,crosses,found,rejected,same]

theorem validateDelete_ok : validateChange index allowedModes (.delete path) = .ok () ↔ crossesFile index path = false ∧
      ∃ entry, tree.entries.get? path = some entry ∧ (entry.mode = .regular ∨ entry.mode = .executable) := by
  have target := target_iff lists ok path fun _ => True
  simp only [and_true] at target
  rw [← target]
  unfold validateChange
  by_cases crosses : crossesFile index path = true
  · simp [Change.path,crosses,rejected]
  · cases found : index.get? (lowerCase path) with
    | none => simp [Change.path,crosses,found,rejected]
    | some existing =>
      have typed := (lists.sound existing ((indexed_get ok _ _).mp found).1).1
      by_cases same : existing.path = path
      · cases mode : existing.mode <;> simp [Change.path,crosses,found,rejected,typed,same,mode,Mode.type]
      · simp [Change.path,crosses,found,rejected,same]

end

theorem forM_ok {ε α : Type} {check : α → Except ε Unit} {items : List α} :
    items.forM check = .ok () ↔ ∀ item ∈ items, check item = .ok () := by
  induction items with
  | nil => simp [pure,Except.pure]
  | cons item items ih =>
    have step : (item::items).forM check = (check item >>= fun _ => items.forM check) := rfl
    rw [step]
    cases found : check item with
    | error fault => simp [bind,Except.bind,found]
    | ok done => simpa [bind,Except.bind,found] using ih

theorem validateChangesAgainstTree_ok (lists : Lists tree entries) :
    (∃ index, validateChangesAgainstTree changes entries allowedModes = .ok index) ↔
      Fits tree changes ∧ Plain tree changes allowedModes := by
  have split : (∃ index, validateChangesAgainstTree changes entries allowedModes = .ok index) ↔
      ∃ index, indexed entries = .ok index ∧ ∀ change ∈ changes, validateChange index allowedModes change = .ok () := by
    unfold validateChangesAgainstTree
    cases indexed entries with
    | error fault => simp
    | ok index =>
      simp only [Except.ok.injEq,exists_eq_left']
      rw [← forM_ok]
      cases changes.forM (validateChange index allowedModes) <;> simp
  rw [split]
  constructor
  · rintro ⟨index,ok,each⟩
    obtain ⟨formed,cased⟩ := (indexed_iff lists).mp ⟨index,ok⟩
    have added : ∀ path executable content, .write .add path executable content ∈ changes → crossesFile index path = false ∧ _ :=
      fun path executable content written => validateAdd_ok.mp (each _ written)
    have modified : ∀ path executable content, .write .modify path executable content ∈ changes → crossesFile index path = false ∧ _ :=
      fun path executable content written => (validateModify_ok lists ok).mp (each _ written)
    have deleted : ∀ path, .delete path ∈ changes → crossesFile index path = false ∧ _ :=
      fun path inside => (validateDelete_ok lists ok).mp (each _ inside)
    have vacant : ∀ path executable content, .write .add path executable content ∈ changes →
        ∀ other, tree.place other → lowerCase other ≠ lowerCase path :=
      fun path executable content written => (vacant_iff lists ok).mp (added _ _ _ written).2
    have enclosed : ∀ change ∈ changes, ∀ ancestor ∈ ancestors change.path, ∀ leaf, (tree.entries.get? leaf).isSome →
        lowerCase leaf ≠ lowerCase ancestor := by
      intro change inside
      apply (crossesFile_iff lists ok).mp
      match change with
      | .write .add path executable content => exact (added _ _ _ inside).1
      | .write .modify path executable content => exact (modified _ _ _ inside).1
      | .delete path => exact (deleted _ inside).1
    refine ⟨⟨?_,?_,?_,?_,?_⟩,⟨formed,cased,enclosed,vacant,?_,?_⟩⟩
    · intro path inside
      obtain ⟨_,entry,held,_⟩ := deleted path inside
      rw [held]
      rfl
    · intro path executable content written
      rw [Option.eq_none_iff_forall_ne_some]
      intro entry held
      exact vacant path executable content written path (.inl (by rw [held]; rfl)) rfl
    · intro path executable content written
      obtain ⟨_,entry,held,_⟩ := modified path executable content written
      rw [held]
      rfl
    · intro operation path executable content written other entry held within
      cases operation with
      | add => exact absurd rfl (vacant path executable content written path (.inr ⟨other,entry,held,within⟩))
      | modify =>
        obtain ⟨_,entry',held',_⟩ := modified path executable content written
        exact absurd within (tree.shaped other entry path entry' held held')
    · intro operation path executable content written ancestor within entry held
      exact absurd rfl (enclosed _ written ancestor within ancestor (by rw [held]; rfl))
    · intro change inside entry held
      match change with
      | .write .add path executable content =>
        dsimp only [Change.path] at held
        exact absurd rfl (vacant path executable content inside path (.inl (by rw [held]; rfl)))
      | .write .modify path executable content =>
        dsimp only [Change.path] at held
        obtain ⟨_,entry',held',file,_⟩ := modified path executable content inside
        rw [held] at held'
        cases held'
        exact file
      | .delete path =>
        dsimp only [Change.path] at held
        obtain ⟨_,entry',held',file⟩ := deleted path inside
        rw [held] at held'
        cases held'
        exact file
    · intro path executable content written entry held
      obtain ⟨_,entry',held',_,mode⟩ := modified path executable content written
      rw [held] at held'
      cases held'
      exact mode
  · rintro ⟨fits,plain⟩
    obtain ⟨index,ok⟩ := (indexed_iff lists).mpr ⟨plain.formed,plain.cased⟩
    refine ⟨index,ok,fun change inside => ?_⟩
    have crosses := (crossesFile_iff lists ok).mpr (plain.enclosed change inside)
    match change with
    | .write .add path executable content =>
      exact validateAdd_ok.mpr ⟨crosses,(vacant_iff lists ok).mpr (plain.vacant path executable content inside)⟩
    | .write .modify path executable content =>
      obtain ⟨entry,held⟩ := Option.isSome_iff_exists.mp (fits.modifies path executable content inside)
      exact (validateModify_ok lists ok).mpr ⟨crosses,entry,held,plain.regular _ inside entry held,
        plain.allowed path executable content inside entry held⟩
    | .delete path =>
      obtain ⟨entry,held⟩ := Option.isSome_iff_exists.mp (fits.deletes path inside)
      exact (validateDelete_ok lists ok).mpr ⟨crosses,entry,held,plain.regular _ inside entry held⟩

/-! ### The tree that each describes -/

theorem createTree_get (base : OrderedMap String TreeEntry) (distinct : (changes.map Change.path).Nodup) (path : String) :
    (createTree base (requestEntries blobShas changes)).get? path =
      match changes.find? (fun change => change.path = path) with
      | some (.write _ _ executable _) => (blobShas path).map fun sha => ⟨fileMode executable,sha⟩
      | some (.delete _) => none
      | none => base.get? path := by
  induction changes generalizing base with
  | nil => rfl
  | cons change changes ih =>
    obtain ⟨fresh,later⟩ := List.nodup_cons.mp distinct
    have step := ih (createTree base (requestEntries blobShas [change])) later
    have folded : createTree base (requestEntries blobShas (change::changes)) =
        createTree (createTree base (requestEntries blobShas [change])) (requestEntries blobShas changes) := rfl
    rw [folded,step,List.find?_cons]
    by_cases same : change.path = path
    · have missing : changes.find? (fun change => change.path = path) = none := find_fresh (same ▸ fresh)
      rw [missing]
      cases change with
      | delete path' =>
        obtain rfl : path' = path := same
        simp [Change.path,requestEntries,createTree,get?_erase]
      | write operation path' executable content =>
        obtain rfl : path' = path := same
        cases written : blobShas path' <;>
          simp [Change.path,requestEntries,createTree,get?_erase,get?_set,written]
    · have kept : (createTree base (requestEntries blobShas [change])).get? path = base.get? path := by
        cases change with
        | delete path' =>
          have apart : path ≠ path' := Ne.symm same
          simp [requestEntries,createTree,get?_erase,apart]
        | write operation path' executable content =>
          have apart : path ≠ path' := Ne.symm same
          cases written : blobShas path' <;>
            simp [requestEntries,createTree,get?_erase,get?_set,written,apart]
      simp [same,kept]

theorem applyChanges_get {base next : OrderedMap String TreeEntry} (distinct : (changes.map Change.path).Nodup)
    (ok : applyChanges base changes blobShas = .ok next) (path : String) :
    next.get? path = (createTree base (requestEntries blobShas changes)).get? path := by
  rw [applyChanges] at ok
  split at ok
  · cases ok
  rename_i remaining removed
  rw [(writeChanges_ok distinct ok).2 path,createTree_get _ distinct path,(removeDeleted_ok distinct removed).2 path]
  cases found : changes.find? fun change => change.path = path with
  | none =>
    have stays : Change.delete path ∉ changes := fun inside => by simpa [Change.path] using List.find?_eq_none.mp found _ inside
    simp [stays]
  | some change =>
    cases change with
    | write operation path' executable content => rfl
    | delete path' =>
      have inside := List.mem_of_find?_eq_some found
      have same := List.find?_some found
      obtain rfl : path' = path := of_decide_eq_true same
      simp [inside]

/-! ### Agreement -/

/-- The publishers take the same changes, and describe the same tree where both take them. -/
structure Agree (tree : BaseTree) (entries : List GitTreeEntry) (allowedModes : List Mode) (hashObject : String → String)
    (changes : List Change) : Prop where
  accept : (∃ index, validateChangesAgainstTree changes entries allowedModes = .ok index) ↔
    ∃ next, applyChanges tree.entries changes (blobsOf hashObject changes) = .ok next
  describe : ∀ index next, validateChangesAgainstTree changes entries allowedModes = .ok index →
    applyChanges tree.entries changes (blobsOf hashObject changes) = .ok next →
    ∀ path, (createTree tree.entries (requestEntries (blobsOf hashObject changes) changes)).get? path = next.get? path

theorem blobsOf_written {hashObject : String → String} {path content : String}
    (written : .write operation path executable content ∈ changes) : (blobsOf hashObject changes path).isSome := by
  rw [blobsOf,List.findSome?_isSome_iff]
  exact ⟨_,written,by simp⟩

/-- The publishers agree on changes that parse where, if the changes fit the tree, they and the tree are plain. -/
theorem publishers_agree_iff {crypto : Crypto} {input : PublicationInput} {parsed : ParsedPublicationManifest}
    {hashObject : String → String} (ok : parsePublicationManifest crypto input = .ok parsed) (lists : Lists tree entries) :
    Agree tree entries allowedModes hashObject parsed.manifest.changes ↔
      (Fits tree parsed.manifest.changes → Plain tree parsed.manifest.changes allowedModes) := by
  obtain ⟨_,_,checked,rfl⟩ := parsePublicationManifest_ok ok
  have folded := (checkChanges_distinct checked).1
  have distinct : (input.manifest.changes.map Change.path).Nodup := by
    apply List.Nodup.of_map lowerCase
    rwa [List.map_map]
  have local_iff : (∃ next, applyChanges tree.entries input.manifest.changes (blobsOf hashObject input.manifest.changes) =
      .ok next) ↔ Fits tree input.manifest.changes := applyChanges_ok distinct fun _ _ _ _ => blobsOf_written
  have github_iff : (∃ index, validateChangesAgainstTree input.manifest.changes entries allowedModes = .ok index) ↔
      Fits tree input.manifest.changes ∧ Plain tree input.manifest.changes allowedModes := validateChangesAgainstTree_ok lists
  constructor
  · intro agree fits
    exact (github_iff.mp (agree.accept.mpr (local_iff.mpr fits))).2
  · intro plain
    refine ⟨?_,fun index next _ applied path => (applyChanges_get distinct applied path).symm⟩
    rw [github_iff,local_iff]
    exact ⟨And.left,fun fits => ⟨fits,plain fits⟩⟩

end

/-! ### A file in place of its directory -/

def aEntry : TreeEntry := ⟨.regular,"blob-a"⟩

def srcLeaves : OrderedMap String TreeEntry := OrderedMap.empty.set "src/a.txt" aEntry

theorem ancestors_a : ancestors "src/a.txt" = ["src"] := by decide +kernel

variable {path : String}

theorem srcLeaves_get {entry : TreeEntry} (held : srcLeaves.get? path = some entry) : path = "src/a.txt" ∧ entry = aEntry := by
  rw [srcLeaves,get?_set] at held
  split at held
  · rename_i same
    exact ⟨same,(Option.some.inj held).symm⟩
  · simp at held

def srcTree : BaseTree where
  entries := srcLeaves
  shaped path entry other entry' held held' := by
    obtain ⟨rfl,_⟩ := srcLeaves_get held
    obtain ⟨rfl,_⟩ := srcLeaves_get held'
    decide +kernel
  leaves path entry held := by
    obtain ⟨_,rfl⟩ := srcLeaves_get held
    decide

def srcListing : List GitTreeEntry := [⟨"src",.directory,.tree,"tree-src"⟩,⟨"src/a.txt",.regular,.blob,"blob-a"⟩]

theorem srcTree_directory : srcTree.directory path ↔ path = "src" := by
  constructor
  · rintro ⟨leaf,entry,held,within⟩
    obtain ⟨rfl,_⟩ := srcLeaves_get held
    rw [ancestors_a] at within
    exact List.mem_singleton.mp within
  · rintro rfl
    exact ⟨"src/a.txt",aEntry,rfl,by rw [ancestors_a]; exact List.mem_singleton.mpr rfl⟩

theorem srcListing_lists : Lists srcTree srcListing where
  distinct := by decide
  sound entry inside := by
    simp only [srcListing,List.mem_cons,List.not_mem_nil,or_false] at inside
    rcases inside with rfl | rfl
    · exact ⟨rfl,by simp,fun _ => srcTree_directory.mpr rfl⟩
    · exact ⟨rfl,fun _ => rfl,by simp⟩
  leaves path entry held := by
    obtain ⟨rfl,rfl⟩ := srcLeaves_get held
    decide
  directories path directory := by
    rw [srcTree_directory.mp directory]
    exact ⟨_,List.mem_cons_self,rfl,rfl⟩

def changing (changes : List Change) : PublicationManifestBody := {reports 'c' 'd' with changes}

def publishing (changes : List Change) : PublicationInput where
  manifest := changing changes
  authorization := authorize fixedCrypto reportKey (changing changes) .githubPublisher "nonce-1" 1000 61000

def parsedChanges (changes : List Change) : ParsedPublicationManifest where
  manifest := changing changes
  manifestDigest := repeated '0'
  authorization := authorize fixedCrypto reportKey (changing changes) .githubPublisher "nonce-1" 1000 61000

def replaceDirectory : List Change := [.delete "src/a.txt",.write .add "src" false "text"]

def editFile : List Change := [.write .modify "src/a.txt" false "text"]

theorem authorize_changing (changes : List Change) :
    (authorize fixedCrypto reportKey (changing changes) .githubPublisher "nonce-1" 1000 61000).valid = true := by
  have same : (authorize fixedCrypto reportKey (changing changes) .githubPublisher "nonce-1" 1000 61000).valid =
      (authorize fixedCrypto reportKey (changing []) .githubPublisher "nonce-1" 1000 61000).valid := rfl
  rw [same]
  decide +kernel

theorem parse_changing {changes : List Change} (valid : (changing changes).valid = true)
    (checked : checkChanges [] [] 0 changes = .ok ()) :
    parsePublicationManifest fixedCrypto (publishing changes) = .ok (parsedChanges changes) := by
  have same : (publishing changes).manifest.changes = changes := rfl
  simp only [parsePublicationManifest,publishing,valid,authorize_changing,Bool.not_true,Bool.or_self]
  have rest : checkChanges [] [] 0 (changing changes).changes = .ok () := checked
  rw [rest]
  rfl

theorem srcTree_place (place : srcTree.place path) : path = "src/a.txt" ∨ path = "src" := by
  rcases place with leaf | directory
  · obtain ⟨entry,held⟩ := Option.isSome_iff_exists.mp leaf
    exact .inl (srcLeaves_get held).1
  · exact .inr (srcTree_directory.mp directory)

theorem editFile_plain : Plain srcTree editFile [.regular] where
  formed path place := by
    rcases srcTree_place place with rfl | rfl <;> decide +kernel
  cased path other place place' same := by
    revert same
    rcases srcTree_place place with rfl | rfl <;> rcases srcTree_place place' with rfl | rfl <;> decide +kernel
  enclosed change inside ancestor within leaf there := by
    obtain rfl := List.mem_singleton.mp inside
    obtain ⟨entry,held⟩ := Option.isSome_iff_exists.mp there
    obtain ⟨rfl,_⟩ := srcLeaves_get held
    rw [Change.path,ancestors_a] at within
    obtain rfl := List.mem_singleton.mp within
    decide +kernel
  vacant path executable content inside := by simp [editFile] at inside
  regular change inside entry held := by
    obtain ⟨_,rfl⟩ := srcLeaves_get held
    exact .inl rfl
  allowed path executable content inside entry held := by
    obtain ⟨_,rfl⟩ := srcLeaves_get held
    decide

theorem edited_file_agrees : Agree srcTree srcListing [.regular] (fun content => content) (parsedChanges editFile).manifest.changes :=
  (publishers_agree_iff (parse_changing (by decide +kernel) (by decide +kernel)) srcListing_lists).mpr fun _ => editFile_plain

/-- A file that takes the place of the directory it was in is refused by the one publisher only. -/
theorem replaced_directory_disagrees :
    parsePublicationManifest fixedCrypto (publishing replaceDirectory) = .ok (parsedChanges replaceDirectory) ∧
      Lists srcTree srcListing ∧ ¬ Agree srcTree srcListing [.regular,.executable] (fun content => content)
        (parsedChanges replaceDirectory).manifest.changes := by
  refine ⟨parse_changing (by decide +kernel) (by decide +kernel),srcListing_lists,fun agree => ?_⟩
  have taken : (applyChanges srcTree.entries replaceDirectory (blobsOf (fun content => content) replaceDirectory)).toBool = true := by
    decide +kernel
  have refused : (validateChangesAgainstTree replaceDirectory srcListing [.regular,.executable]).toBool = false := by
    decide +kernel
  cases applied : applyChanges srcTree.entries replaceDirectory (blobsOf (fun content => content) replaceDirectory) with
  | error fault =>
    rw [applied] at taken
    cases taken
  | ok next =>
    obtain ⟨index,accepted⟩ := agree.accept.mpr ⟨next,applied⟩
    have passed : validateChangesAgainstTree replaceDirectory srcListing [.regular,.executable] = .ok index := accepted
    rw [passed] at refused
    cases refused

end AgentOS.Publication
