import AgentOS.Publication.Manifest

/-! The base tree that a publication changes, and the check that each publisher makes of the
changes against it. -/
namespace AgentOS.Publication
open Library Gate Source

/-! ### Directories of a path -/

def ancestors (path : String) : List String :=
  (List.range ((parts path).length - 1)).map fun index => joined ((parts path).take (index + 1))

theorem intercalate_append {left right : List Segment} (first : left ≠ []) (second : right ≠ []) :
    ['/'].intercalate (left ++ right) = ['/'].intercalate left ++ '/'::['/'].intercalate right := by
  induction left with
  | nil => exact absurd rfl first
  | cons segment left ih =>
    cases left with
    | nil => rw [List.singleton_append,List.intercalate_cons_of_ne_nil second,List.intercalate_singleton,List.append_assoc,
        List.singleton_append]
    | cons next left =>
      rw [List.cons_append,List.intercalate_cons_of_ne_nil (by simp),ih (by simp),
        List.intercalate_cons_of_ne_nil (List.cons_ne_nil next left)]
      simp [List.append_assoc]

theorem mem_ancestors {path directory : String} : directory ∈ ancestors path ↔ startsWith (directory ++ "/") path = true := by
  rw [startsWith,List.isPrefixOf_iff_prefix,String.toList_append]
  simp only [ancestors,List.mem_map,List.mem_range]
  constructor
  · rintro ⟨index,inside,rfl⟩
    have front : (parts path).take (index + 1) ≠ [] := by
      intro none
      have length := congrArg List.length none
      simp only [List.length_take,List.length_nil] at length
      omega
    have back : (parts path).drop (index + 1) ≠ [] := by
      intro none
      have length := congrArg List.length none
      simp only [List.length_drop,List.length_nil] at length
      omega
    refine ⟨['/'].intercalate ((parts path).drop (index + 1)),?_⟩
    have whole := congrArg String.toList (joined_parts path)
    rw [joined,String.toList_ofList,← List.take_append_drop (index + 1) (parts path),intercalate_append front back] at whole
    rw [joined,String.toList_ofList,← whole]
    simp
  · rintro ⟨rest,whole⟩
    have split : parts path = parts directory ++ rest.splitOn '/' := by
      rw [parts,parts,← List.splitOn_append_cons_self,← whole]
      simp
    have first : (parts directory).length ≠ 0 := fun none =>
      List.splitOn_ne_nil _ _ (List.length_eq_zero_iff.mp none)
    have second : (rest.splitOn '/').length ≠ 0 := fun none =>
      List.splitOn_ne_nil _ _ (List.length_eq_zero_iff.mp none)
    refine ⟨(parts directory).length - 1,?_,?_⟩
    · rw [split,List.length_append]
      omega
    · rw [Nat.sub_add_cancel (by omega),split,List.take_left,joined_parts]

/-! ### The tree -/

def Mode.type : Mode → EntryType
  | .submodule => .commit
  | .directory => .tree
  | _ => .blob

structure TreeEntry where
  mode : Mode
  sha : String
  deriving DecidableEq

/-- The files, links and submodules of a commit. None of them lies below another. -/
structure BaseTree where
  entries : OrderedMap String TreeEntry
  shaped : ∀ path entry other entry', entries.get? path = some entry → entries.get? other = some entry' → other ∉ ancestors path
  leaves : ∀ path entry, entries.get? path = some entry → entry.mode ≠ .directory

def BaseTree.directory (tree : BaseTree) (path : String) : Prop :=
  ∃ leaf entry, tree.entries.get? leaf = some entry ∧ path ∈ ancestors leaf

/-- A recursive listing of the tree: its entries, and a tree entry for each of its directories. -/
structure Lists (tree : BaseTree) (entries : List GitTreeEntry) : Prop where
  distinct : (entries.map GitTreeEntry.path).Nodup
  sound : ∀ entry ∈ entries, entry.type = Mode.type entry.mode ∧
    (entry.mode ≠ .directory → tree.entries.get? entry.path = some ⟨entry.mode,entry.sha⟩) ∧
    (entry.mode = .directory → tree.directory entry.path)
  leaves : ∀ path entry, tree.entries.get? path = some entry →
    (⟨path,entry.mode,Mode.type entry.mode,entry.sha⟩ : GitTreeEntry) ∈ entries
  directories : ∀ path, tree.directory path → ∃ entry ∈ entries, entry.path = path ∧ entry.mode = .directory

/-! ### The check of the one publisher -/

def rejected {α : Type} (message : String) : Except PublisherFault α := .error (.publisher .rejected message)

def indexed (entries : List GitTreeEntry) : Except PublisherFault (OrderedMap String GitTreeEntry) :=
  match treeIndex .empty entries with
  | .ok index => .ok index
  | .error (.error message) =>
    if message = "Repository contains a case-insensitive path collision" then rejected message else .error (.error message)
  | .error _ => .error (.error "")

def crossesFile (index : OrderedMap String GitTreeEntry) (path : String) : Bool :=
  (ancestors path).any fun ancestor => (index.get? (lowerCase ancestor)).any fun entry => entry.type ≠ .tree

def validateChange (index : OrderedMap String GitTreeEntry) (allowedModes : List Mode) (change : Change) :
    Except PublisherFault Unit :=
  if crossesFile index change.path then rejected ("Change path crosses a repository file: " ++ change.path)
  else match change, index.get? (lowerCase change.path) with
    | .write .add path _ _, some _ => rejected ("Add target already exists: " ++ path)
    | .write .add _ _ _, none => .ok ()
    | change, none => rejected ("Change target does not exist: " ++ change.path)
    | change, some existing =>
      if existing.path ≠ change.path then rejected ("Change target has a case-colliding path: " ++ change.path)
      else if existing.type ≠ .blob ∨ existing.mode ≠ .regular ∧ existing.mode ≠ .executable then
        rejected ("Change target is not a regular file: " ++ change.path)
      else match change with
        | .write _ path _ _ =>
          if existing.mode ∈ allowedModes then .ok () else rejected ("Existing file mode is denied by policy: " ++ path)
        | .delete _ => .ok ()

def validateChangesAgainstTree (changes : List Change) (entries : List GitTreeEntry) (allowedModes : List Mode) :
    Except PublisherFault (OrderedMap String GitTreeEntry) :=
  match indexed entries with
  | .error fault => .error fault
  | .ok index =>
    match changes.forM (validateChange index allowedModes) with
    | .error fault => .error fault
    | .ok _ => .ok index

/-! ### The check of the other -/

def assertNoTreeShapeCollision (remaining : OrderedMap String TreeEntry) (path : String) : Except PublisherFault Unit :=
  if remaining.entries.any (fun entry => startsWith (path ++ "/") entry.1) ||
      (ancestors path).any (fun ancestor => (remaining.get? ancestor).isSome) then
    rejected ("change set collides with existing tree shape: " ++ path)
  else .ok ()

def removeDeleted : OrderedMap String TreeEntry → List Change → Except PublisherFault (OrderedMap String TreeEntry)
  | remaining,[] => .ok remaining
  | remaining,.write _ _ _ _::changes => removeDeleted remaining changes
  | remaining,.delete path::changes =>
    if (remaining.get? path).isSome then removeDeleted (remaining.erase path) changes
    else rejected ("Change target does not exist: " ++ path)

def fileMode (executable : Bool) : Mode := if executable then .executable else .regular

def writeChange (remaining next : OrderedMap String TreeEntry) (blobShas : String → Option String)
    (operation : WriteOperation) (path : String) (executable : Bool) : Except PublisherFault (OrderedMap String TreeEntry) :=
  match assertNoTreeShapeCollision remaining path with
  | .error fault => .error fault
  | .ok _ =>
    if operation = .add ∧ (next.get? path).isSome = true then rejected ("Add target already exists: " ++ path)
    else if operation = .modify ∧ (next.get? path).isNone = true then rejected ("Change target does not exist: " ++ path)
    else match blobShas path with
      | none => .error (.publisher .storeConflict "Blob checkpoint is missing a written change")
      | some sha => .ok (next.set path ⟨fileMode executable,sha⟩)

def writeChanges (remaining : OrderedMap String TreeEntry) (blobShas : String → Option String) :
    OrderedMap String TreeEntry → List Change → Except PublisherFault (OrderedMap String TreeEntry)
  | next,[] => .ok next
  | next,.delete _::changes => writeChanges remaining blobShas next changes
  | next,.write operation path executable _::changes =>
    match writeChange remaining next blobShas operation path executable with
    | .error fault => .error fault
    | .ok next => writeChanges remaining blobShas next changes

def applyChanges (entries : OrderedMap String TreeEntry) (changes : List Change) (blobShas : String → Option String) :
    Except PublisherFault (OrderedMap String TreeEntry) :=
  match removeDeleted entries changes with
  | .error fault => .error fault
  | .ok remaining => writeChanges remaining blobShas remaining changes

def blobsOf (hashObject : String → String) (changes : List Change) (path : String) : Option String :=
  changes.findSome? fun change => match change with
    | .write _ written _ content => if written = path then some (hashObject content) else none
    | .delete _ => none

/-! ### The tree that each describes -/

/-- The entries that a publisher asks to be laid over the base tree; one without a content is removed. -/
def requestEntries (blobShas : String → Option String) (changes : List Change) : List (String × Option TreeEntry) :=
  changes.map fun change => match change with
    | .write _ path executable _ => (path,(blobShas path).map fun sha => ⟨fileMode executable,sha⟩)
    | .delete path => (path,none)

def createTree (base : OrderedMap String TreeEntry) (entries : List (String × Option TreeEntry)) : OrderedMap String TreeEntry :=
  entries.foldl (fun tree entry => match entry.2 with
    | some written => tree.set entry.1 written
    | none => tree.erase entry.1) base

end AgentOS.Publication
