import AgentOS.Library.OrderedMap

/-! Nested directories built from paths, one file at a time. What is read back at a path is what was put there last,
and every directory but the root has a file below it. -/
namespace Library
variable {κ ν : Type} [DecidableEq κ]

inductive Directory (κ ν : Type) [DecidableEq κ] where
  | node (files : OrderedMap κ ν) (dirs : List (κ × Directory κ ν))

namespace Directory

def files : Directory κ ν → OrderedMap κ ν
  | .node files _ => files

def dirs : Directory κ ν → List (κ × Directory κ ν)
  | .node _ dirs => dirs

def empty : Directory κ ν := .node .empty []

def child (dirs : List (κ × Directory κ ν)) (name : κ) : Option (Directory κ ν) :=
  (dirs.find? fun entry => entry.1 = name).map Prod.snd

def putChild (dirs : List (κ × Directory κ ν)) (name : κ) (next : Directory κ ν) : List (κ × Directory κ ν) :=
  if dirs.any fun entry => entry.1 = name then dirs.map fun entry => if entry.1 = name then (name,next) else entry
  else dirs ++ [(name,next)]

def insert : List κ → ν → Directory κ ν → Directory κ ν
  | [],_,directory => directory
  | [name],value,.node files dirs => .node (files.set name value) dirs
  | name::next::rest,value,.node files dirs =>
    .node files (putChild dirs name (insert (next::rest) value ((child dirs name).getD empty)))

def build (entries : List (List κ × ν)) : Directory κ ν :=
  entries.foldl (fun directory entry => directory.insert entry.1 entry.2) empty

/-! ### Reading back -/

def walk : List κ → Directory κ ν → Option (Directory κ ν)
  | [],directory => some directory
  | name::rest,directory => (child directory.dirs name).bind (walk rest)

def file : List κ → Directory κ ν → Option ν
  | [],_ => none
  | [name],directory => directory.files.get? name
  | name::next::rest,directory => (child directory.dirs name).bind (file (next::rest))

variable {directory : Directory κ ν} {dirs : List (κ × Directory κ ν)} {name other : κ} {path rest : List κ} {value : ν}

@[simp] theorem walk_nil : walk [] directory = some directory := rfl

theorem child_cons (entry : κ × Directory κ ν) : child (entry::dirs) name = if entry.1 = name then some entry.2 else child dirs name := by
  unfold child
  rw [List.find?_cons]
  by_cases same : entry.1 = name
  · simp [same]
  · simp [same]

theorem child_eq_none : child dirs name = none ↔ name ∉ dirs.map Prod.fst := by
  unfold child
  rw [Option.map_eq_none_iff,List.find?_eq_none,List.mem_map]
  simp only [decide_eq_true_eq]
  exact ⟨fun apart ⟨entry,inside,same⟩ => apart entry inside same,fun absent entry inside same => absent ⟨entry,inside,same⟩⟩

variable (next : Directory κ ν)

theorem child_replaced : child (dirs.map fun entry => if entry.1 = name then (name,next) else entry) other =
      if other = name then (child dirs name).map fun _ => next else child dirs other := by
  induction dirs with
  | nil => exact (ite_self none).symm
  | cons entry dirs ih =>
    rw [List.map_cons,child_cons,child_cons,child_cons,ih]
    by_cases here : entry.1 = name
    · rw [if_pos here,if_pos here]
      by_cases same : other = name
      · rw [if_pos same.symm,if_pos same]
        rfl
      · rw [if_neg same,if_neg same,if_neg (Ne.symm same),if_neg (fun first => same (first.symm.trans here))]
    · rw [if_neg here,if_neg here]
      by_cases same : other = name
      · rw [if_neg (fun first => here (first.trans same)),if_pos same,if_pos same]
      · rw [if_neg same,if_neg same]

theorem child_appended : child (dirs ++ [(name,next)]) other = (child dirs other).or (if name = other then some next else none) := by
  induction dirs with
  | nil => exact child_cons _
  | cons entry dirs ih =>
    rw [List.cons_append,child_cons,child_cons,ih]
    split <;> rfl

theorem child_putChild : child (putChild dirs name next) other = if other = name then some next else child dirs other := by
  unfold putChild
  split
  · rename_i known
    obtain ⟨held,found⟩ := Option.ne_none_iff_exists'.mp fun none_ => child_eq_none.mp none_ (by simpa using known)
    rw [child_replaced,found]
    rfl
  · rename_i unknown
    have absent : child dirs name = none := child_eq_none.mpr (by simpa using unknown)
    rw [child_appended]
    by_cases same : other = name
    · rw [if_pos same,if_pos same.symm,same,absent]
      rfl
    · rw [if_neg same,if_neg (Ne.symm same),Option.or_none]

theorem names_putChild : (putChild dirs name next).map Prod.fst =
    if name ∈ dirs.map Prod.fst then dirs.map Prod.fst else dirs.map Prod.fst ++ [name] := by
  unfold putChild
  split
  · rename_i known
    rw [if_pos (by simpa using known),List.map_map]
    refine List.map_congr_left fun entry _ => ?_
    simp only [Function.comp_apply]
    split
    · rename_i same
      exact same.symm
    · rfl
  · rename_i unknown
    rw [if_neg (by simpa using unknown)]
    simp

theorem walk_append (path rest : List κ) (directory : Directory κ ν) :
    walk (path ++ rest) directory = (walk path directory).bind (walk rest) := by
  induction path generalizing directory with
  | nil => rfl
  | cons name path ih =>
    show (child _ _).bind _ = Option.bind ((child _ _).bind _) _
    rw [Option.bind_assoc]
    exact congrArg _ (funext ih)

theorem file_append (path : List κ) {rest : List κ} (deeper : rest ≠ []) (directory : Directory κ ν) :
    file (path ++ rest) directory = (walk path directory).bind (file rest) := by
  induction path generalizing directory with
  | nil => rfl
  | cons name path ih =>
    obtain ⟨next,later,split⟩ := List.exists_cons_of_ne_nil (List.append_ne_nil_of_right_ne_nil path deeper)
    show _ = Option.bind ((child _ _).bind _) _
    rw [Option.bind_assoc,List.cons_append,split]
    show (child _ _).bind (file (next::later)) = _
    rw [← split]
    exact congrArg _ (funext ih)

theorem file_cons (name : κ) (given : rest ≠ []) : file (name::rest) directory = (child directory.dirs name).bind (file rest) := by
  obtain ⟨next,rest,rfl⟩ := List.exists_cons_of_ne_nil given
  rfl

theorem insert_cons (name : κ) (given : rest ≠ []) : insert (name::rest) value directory =
    .node directory.files (putChild directory.dirs name (insert rest value ((child directory.dirs name).getD empty))) := by
  obtain ⟨next,rest,rfl⟩ := List.exists_cons_of_ne_nil given
  cases directory
  rfl

theorem file_empty : file path (empty : Directory κ ν) = none := by
  cases path with
  | nil => rfl
  | cons name rest =>
    cases rest with
    | nil => rfl
    | cons next rest => rfl

theorem file_insert (given : path ≠ []) (place : List κ) (directory : Directory κ ν) :
    file place (insert path value directory) = if place = path then some value else file place directory := by
  induction path generalizing place directory with
  | nil => exact absurd rfl given
  | cons name rest ih =>
    cases place with
    | nil => simp [file]
    | cons first later =>
      by_cases last : rest = []
      · subst last
        cases directory with
        | node files dirs =>
          cases later with
          | nil =>
            show (files.set name value).get? first = _
            rw [OrderedMap.get?_set]
            simp [file,Directory.files]
          | cons next later => simp [insert,file,Directory.dirs]
      · rw [insert_cons name last]
        cases later with
        | nil =>
          have apart : first::[] ≠ name::rest := fun same => last (List.cons.inj same).2.symm
          rw [if_neg apart]
          rfl
        | cons next later =>
          rw [file_cons first (List.cons_ne_nil next later),file_cons first (List.cons_ne_nil next later)]
          show (child (putChild _ _ _) first).bind _ = _
          rw [child_putChild]
          by_cases same : first = name
          · subst same
            rw [if_pos rfl,Option.bind_some,ih last]
            by_cases rests : next::later = rest
            · simp [rests]
            · rw [if_neg rests,if_neg (fun whole => rests (List.cons.inj whole).2)]
              cases child directory.dirs first with
              | none => exact file_empty
              | some held => rfl
          · rw [if_neg same,if_neg (fun whole => same (List.cons.inj whole).1)]

theorem walk_insert (given : path ≠ []) (place : List κ) (directory : Directory κ ν) : walk place (insert path value directory) =
      if place <+: path ∧ place ≠ path then some (insert (path.drop place.length) value ((walk place directory).getD empty))
      else walk place directory := by
  induction path generalizing place directory with
  | nil => exact absurd rfl given
  | cons name rest ih =>
    cases place with
    | nil => simp
    | cons first later =>
      by_cases last : rest = []
      · subst last
        have apart : ¬ (first::later <+: [name] ∧ first::later ≠ [name]) := by
          rintro ⟨starts,different⟩
          obtain ⟨rfl,nothing⟩ := List.cons_prefix_cons.mp starts
          obtain rfl := List.prefix_nil.mp nothing
          exact different rfl
        rw [if_neg apart]
        cases directory
        rfl
      · rw [insert_cons name last]
        show (child (putChild _ _ _) first).bind _ = _
        rw [child_putChild]
        by_cases same : first = name
        · subst same
          rw [if_pos rfl,Option.bind_some,ih last]
          have alike : (first::later <+: first::rest ∧ first::later ≠ first::rest) ↔ (later <+: rest ∧ later ≠ rest) := by
            rw [List.cons_prefix_cons,ne_eq,List.cons_eq_cons]
            simp
          by_cases starts : later <+: rest ∧ later ≠ rest
          · rw [if_pos starts,if_pos (alike.mpr starts)]
            rw [List.length_cons,List.drop_succ_cons]
            show _ = some (insert _ _ (((child directory.dirs first).bind (walk later)).getD empty))
            cases held : child directory.dirs first with
            | none =>
              cases later with
              | nil => rfl
              | cons next later => rfl
            | some inner => rfl
          · rw [if_neg starts,if_neg (mt alike.mp starts)]
            show _ = (child directory.dirs first).bind (walk later)
            cases held : child directory.dirs first with
            | none =>
              cases later with
              | nil => exact absurd ⟨List.nil_prefix,Ne.symm last⟩ starts
              | cons next later => rfl
            | some inner => rfl
        · rw [if_neg same,if_neg (fun starts => same (List.cons_prefix_cons.mp starts.1).1)]
          rfl

/-! ### Trees that are built -/

/-- Every directory but the root has a file below it, and no two of a directory's directories have one name. -/
structure Grown (root : Directory κ ν) : Prop where
  inhabited : ∀ place directory, walk place root = some directory → place ≠ [] →
    ∃ deeper value, deeper ≠ [] ∧ file deeper directory = some value
  distinct : ∀ place directory, walk place root = some directory → (directory.dirs.map Prod.fst).Nodup

theorem walk_empty (given : path ≠ []) : walk path (empty : Directory κ ν) = none := by
  obtain ⟨name,rest,rfl⟩ := List.exists_cons_of_ne_nil given
  rfl

theorem grown_empty : Grown (empty : Directory κ ν) := by
  constructor
  · intro place directory found given
    rw [walk_empty given] at found
    cases found
  · intro place directory found
    cases place with
    | nil =>
      cases found
      exact List.nodup_nil
    | cons name rest => cases found

theorem distinct_insert (distinct : (directory.dirs.map Prod.fst).Nodup) :
    ((insert path value directory).dirs.map Prod.fst).Nodup := by
  cases path with
  | nil => exact distinct
  | cons name rest =>
    by_cases last : rest = []
    · subst last
      cases directory
      exact distinct
    · rw [insert_cons name last]
      show ((putChild _ _ _).map Prod.fst).Nodup
      rw [names_putChild]
      split
      · exact distinct
      · rename_i fresh
        exact List.nodup_append.mpr ⟨distinct,List.nodup_singleton _,by
          rintro other inside _ here rfl
          rw [List.mem_singleton] at here
          exact fresh (here ▸ inside)⟩

theorem Grown.insert {root : Directory κ ν} (grown : Grown root) (given : path ≠ []) : Grown (insert path value root) := by
  have proper : ∀ place, place <+: path ∧ place ≠ path → path.drop place.length ≠ [] := by
    rintro place ⟨⟨rest,rfl⟩,different⟩
    rw [List.drop_left]
    rintro rfl
    exact different (List.append_nil place).symm
  constructor
  · intro place directory found inner
    rw [walk_insert given] at found
    split at found
    · rename_i above
      cases found
      refine ⟨_,value,proper place above,?_⟩
      rw [file_insert (proper place above),if_pos rfl]
    · exact grown.inhabited place directory found inner
  · intro place directory found
    rw [walk_insert given] at found
    split at found
    · cases found
      refine distinct_insert ?_
      cases held : walk place root with
      | none => exact List.nodup_nil
      | some there => exact grown.distinct place there held
    · exact grown.distinct place directory found

section
variable {entries : List (List κ × ν)} (given : ∀ entry ∈ entries, entry.1 ≠ [])
include given

theorem grown_build : Grown (build entries) := by
  have kept : ∀ (entries : List (List κ × ν)) (root : Directory κ ν), (∀ entry ∈ entries, entry.1 ≠ []) → Grown root →
      Grown (entries.foldl (fun directory entry => directory.insert entry.1 entry.2) root) := by
    intro entries
    induction entries with
    | nil => exact fun _ _ grown => grown
    | cons entry entries ih =>
      exact fun root given grown => ih _ (fun other inside => given other (List.mem_cons_of_mem _ inside))
        (grown.insert (given entry List.mem_cons_self))
  exact kept entries empty given grown_empty

theorem file_build (distinct : (entries.map Prod.fst).Nodup) : file path (build entries) = some value ↔ (path,value) ∈ entries := by
  have kept : ∀ (entries : List (List κ × ν)) (root : Directory κ ν), (∀ entry ∈ entries, entry.1 ≠ []) →
      (entries.map Prod.fst).Nodup →
      (file path (entries.foldl (fun directory entry => directory.insert entry.1 entry.2) root) = some value ↔
        (path,value) ∈ entries ∨ path ∉ entries.map Prod.fst ∧ file path root = some value) := by
    intro entries
    induction entries with
    | nil => simp
    | cons entry entries ih =>
      intro root given distinct
      obtain ⟨fresh,later⟩ := List.nodup_cons.mp distinct
      rw [List.foldl_cons,ih _ (fun other inside => given other (List.mem_cons_of_mem _ inside)) later,
        file_insert (given entry List.mem_cons_self)]
      by_cases same : path = entry.1
      · subst same
        have unlisted : (entry.1,value) ∉ entries := fun inside => fresh (List.mem_map.mpr ⟨_,inside,rfl⟩)
        have here : (entry.1,value) = entry ↔ entry.2 = value := by
          rw [Prod.ext_iff]
          simp [eq_comm]
        simp [unlisted,here,fresh]
      · have apart : (path,value) ≠ entry := fun equal => same (congrArg Prod.fst equal)
        simp [same,apart]
  refine (kept entries empty given distinct).trans ?_
  simp [file_empty]

end

end Directory
end Library
