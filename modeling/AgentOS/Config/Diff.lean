import AgentOS.Config.Schema
import Mathlib.Data.List.Dedup
import Mathlib.Data.List.Forall2

/-! What changes between two configurations, as dotted paths. -/
namespace AgentOS.Config

/-- A value as the language reads it from an object: a key that every object inherits reads as a function. -/
inductive ConfigValue where
  | json (value : Json)
  | inherited (name : String)
  deriving DecidableEq

/-- The keys that `in` finds in every object. -/
def inheritedKeys : List String :=
  ["constructor","__defineGetter__","__defineSetter__","hasOwnProperty","__lookupGetter__","__lookupSetter__",
    "isPrototypeOf","propertyIsEnumerable","toString","valueOf","toLocaleString"]

inductive ChangeKind where
  | added
  | removed
  | changed
  deriving DecidableEq

structure ConfigChange where
  kind : ChangeKind
  path : String
  before : Option ConfigValue := none
  after : Option ConfigValue := none

abbrev Fields : Type := List (String × Json)

def own (fields : Fields) (key : String) : Option Json := (Json.obj fields).field? key

/-- What reading a key gives, and whether `in` finds it. -/
def readKey (fields : Fields) (key : String) : Option ConfigValue :=
  match own fields key with
  | some value => some (.json value)
  | none => if key ∈ inheritedKeys then some (.inherited key) else none

/-- The keys of two objects, each once, in the order of `sort`. -/
def keys (before after : Fields) : List String :=
  (before.map Prod.fst ++ after.map Prod.fst).dedup.insertionSort fun left right => Json.compareCanonicalKeys left right

def childPath (path key : String) : String := if path = "" then key else path ++ "." ++ key

def replaced (before after : ConfigValue) (path : String) : List ConfigChange :=
  [{kind := .changed,path := path,before := some before,after := some after}]

def diffLeaves : Json → Json → String → List ConfigChange
  | .arr before, .arr after, path =>
    if (Json.arr before).stringify = (Json.arr after).stringify then []
    else replaced (.json (.arr before)) (.json (.arr after)) path
  | before, after, path => if before = after then [] else replaced (.json before) (.json after) path

mutual
def diffValues : Json → Json → String → List ConfigChange
  | .obj before, .obj after, path =>
    let shared := diffShared before after path
    (keys before after).flatMap fun key =>
      match readKey before key with
      | none => [{kind := .added,path := childPath path key,after := readKey after key}]
      | some (.inherited name) =>
        match own after key with
        | some value => replaced (.inherited name) (.json value) (childPath path key)
        | none => []
      | some (.json value) =>
        match readKey after key with
        | none => [{kind := .removed,path := childPath path key,before := some (.json value)}]
        | some (.inherited name) => replaced (.json value) (.inherited name) (childPath path key)
        | some (.json _) => ((shared.find? fun entry => entry.1 = key).map Prod.snd).getD []
  | before, after, path => diffLeaves before after path
/-- The differences under each key of the first object that the second one has as well. -/
def diffShared : List (String × Json) → Fields → String → List (String × List ConfigChange)
  | [], _, _ => []
  | (key,value)::fields, after, path =>
    let changes := match own after key with
      | some other => diffValues value other (childPath path key)
      | none => []
    (key,changes)::diffShared fields after path
end

/-- The changes under one key, as the source lists its cases. -/
def diffKey (before after : Fields) (path key : String) : List ConfigChange :=
  match readKey before key, readKey after key with
  | none, value => [{kind := .added,path := childPath path key,after := value}]
  | some value, none => [{kind := .removed,path := childPath path key,before := some value}]
  | some (.json value), some (.json other) => diffValues value other (childPath path key)
  | some value, some other => if value = other then [] else replaced value other (childPath path key)

theorem diffShared_find (fields after : Fields) (path key : String) (value other : Json) (found : own fields key = some value)
    (there : own after key = some other) : ((diffShared fields after path).find? fun entry => entry.1 = key).map Prod.snd =
      some (diffValues value other (childPath path key)) := by
  induction fields with
  | nil => simp [own,Json.field?] at found
  | cons entry fields ih =>
    obtain ⟨name,first⟩ := entry
    by_cases same : name = key
    · subst same
      have isFirst : first = value := by simpa [own,Json.field?] using found
      simp [diffShared,there,isFirst]
    · have later : own fields key = some value := by simpa [own,Json.field?,same] using found
      simpa [diffShared,same] using ih later

theorem diffValues_obj (before after : Fields) (path : String) :
    diffValues (.obj before) (.obj after) path = (keys before after).flatMap (diffKey before after path) := by
  simp only [diffValues]
  congr 1
  funext key
  unfold diffKey readKey
  cases found : own before key with
  | none =>
    by_cases known : key ∈ inheritedKeys
    · cases there : own after key <;> simp [known]
    · simp [known]
  | some value =>
    cases there : own after key with
    | none =>
      by_cases known : key ∈ inheritedKeys <;> simp [known]
    | some other => simp [diffShared_find before after path key value other found there]

theorem keys_congr {before before' after after' : Fields} (same : before.map Prod.fst = before'.map Prod.fst)
    (alike : after.map Prod.fst = after'.map Prod.fst) : keys before after = keys before' after' := by
  simp only [keys,same,alike]

theorem mem_keys {before after : Fields} {key : String} :
    key ∈ keys before after ↔ key ∈ before.map Prod.fst ∨ key ∈ after.map Prod.fst := by
  rw [keys,(List.perm_insertionSort _ _).mem_iff,List.mem_dedup,List.mem_append]

theorem own_table {α : Type} (encode : α → Json) (table : Table α) (key : String) :
    own (table.entries.map fun entry => (entry.1,encode entry.2)) key = (table.get? key).map encode := by
  simp [own,Json.field?,Table.get?,List.find?_map,Function.comp_def]

end AgentOS.Config
