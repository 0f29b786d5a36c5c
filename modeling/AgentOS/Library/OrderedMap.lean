import Mathlib.Data.List.Nodup
import Mathlib.Data.List.Basic

/-! Finite maps that remember the order in which their keys were first set.
Replacing the value of a present key keeps its place; a key set after an erasure
goes last. -/
namespace Library

@[ext] structure OrderedMap (κ ν : Type) where
  entries : List (κ × ν)
  distinct : (entries.map Prod.fst).Nodup

namespace OrderedMap
variable {κ ν : Type} [DecidableEq κ]

instance [DecidableEq ν] : DecidableEq (OrderedMap κ ν) := fun left right =>
  decidable_of_iff (left.entries = right.entries) (by cases left; cases right; simp)

def empty : OrderedMap κ ν := ⟨[],by simp⟩

def get? (map : OrderedMap κ ν) (key : κ) : Option ν :=
  (map.entries.find? fun entry => entry.1 = key).map Prod.snd

def values (map : OrderedMap κ ν) : List ν := map.entries.map Prod.snd

private theorem replaced_keys (entries : List (κ × ν)) (key : κ) (value : ν) :
    (entries.map fun entry => if entry.1 = key then (key,value) else entry).map Prod.fst = entries.map Prod.fst := by
  rw [List.map_map]
  apply List.map_congr_left
  intro entry _
  by_cases same : entry.1 = key <;> simp [same]

def set (map : OrderedMap κ ν) (key : κ) (value : ν) : OrderedMap κ ν :=
  if present : key ∈ map.entries.map Prod.fst then
    ⟨map.entries.map fun entry => if entry.1 = key then (key,value) else entry,
      by rw [replaced_keys]; exact map.distinct⟩
  else
    ⟨map.entries ++ [(key,value)],by
      rw [List.map_append]
      exact map.distinct.append (by simp) (by simpa using present)⟩

def filter (map : OrderedMap κ ν) (keep : κ → ν → Bool) : OrderedMap κ ν :=
  ⟨map.entries.filter fun entry => keep entry.1 entry.2,
    map.distinct.sublist (List.filter_sublist.map Prod.fst)⟩

def erase (map : OrderedMap κ ν) (key : κ) : OrderedMap κ ν :=
  map.filter fun other _ => other ≠ key

@[simp] theorem get?_empty (key : κ) : (empty : OrderedMap κ ν).get? key = none := rfl

section
variable (map : OrderedMap κ ν)

theorem mem_entries (key : κ) (value : ν) : (key,value) ∈ map.entries ↔ map.get? key = some value := by
  obtain ⟨entries,distinct⟩ := map
  simp only [get?]
  induction entries with
  | nil => simp
  | cons head rest ih =>
    obtain ⟨fresh,restDistinct⟩ := List.nodup_cons.mp distinct
    by_cases same : head.1 = key
    · have absent : (key,value) ∉ rest := fun inside =>
        fresh (same ▸ List.mem_map_of_mem (f := Prod.fst) inside)
      obtain ⟨headKey,headValue⟩ := head
      subst same
      simp [absent,eq_comm]
    · have other : (key,value) ≠ head := fun equal => same (equal ▸ rfl)
      simpa [List.find?_cons,same,other] using ih restDistinct

theorem mem_keys (key : κ) : key ∈ map.entries.map Prod.fst ↔ (map.get? key).isSome := by
  constructor
  · intro inside
    obtain ⟨entry,member,rfl⟩ := List.mem_map.mp inside
    rw [(map.mem_entries entry.1 entry.2).mp member]
    rfl
  · intro held
    obtain ⟨value,found⟩ := Option.isSome_iff_exists.mp held
    exact List.mem_map.mpr ⟨_,(map.mem_entries key value).mpr found,rfl⟩

theorem mem_values (value : ν) : value ∈ map.values ↔ ∃ key, map.get? key = some value := by
  simp only [values,List.mem_map,Prod.exists,exists_eq_right]
  exact exists_congr fun key => map.mem_entries key value

theorem pairwise_values {relates : ν → ν → Prop}
    (apart : ∀ left right first second, left ≠ right → map.get? left = some first → map.get? right = some second →
      relates first second) : map.values.Pairwise relates := by
  have keys : map.entries.Pairwise fun left right => left.1 ≠ right.1 := by
    have distinct := map.distinct
    rwa [List.Nodup,List.pairwise_map] at distinct
  rw [values,List.pairwise_map]
  apply keys.imp_of_mem
  intro left right leftInside rightInside different
  exact apart left.1 right.1 left.2 right.2 different ((map.mem_entries _ _).mp leftInside)
    ((map.mem_entries _ _).mp rightInside)

theorem get?_set (key other : κ) (value : ν) :
    (map.set key value).get? other = if other = key then some value else map.get? other := by
  apply Option.ext
  intro found
  rw [← mem_entries]
  by_cases same : other = key
  · subst other
    simp only [if_true,Option.some.injEq]
    unfold set
    split
    · rename_i present
      obtain ⟨old,held⟩ := Option.isSome_iff_exists.mp ((map.mem_keys key).mp present)
      simp only [List.mem_map]
      constructor
      · rintro ⟨entry,_,equal⟩
        by_cases at_key : entry.1 = key
        · simpa [at_key] using equal
        · simp only [at_key,if_false] at equal
          exact absurd (equal ▸ rfl) at_key
      · rintro rfl
        exact ⟨(key,old),(map.mem_entries key old).mpr held,by simp⟩
    · rename_i absent
      have missing : (key,found) ∉ map.entries := fun inside =>
        absent (List.mem_map_of_mem (f := Prod.fst) inside)
      simp [missing,eq_comm]
  · simp only [same,if_false]
    rw [← mem_entries]
    unfold set
    split
    · simp only [List.mem_map]
      constructor
      · rintro ⟨entry,inside,equal⟩
        by_cases at_key : entry.1 = key
        · simp only [at_key,if_true] at equal
          exact absurd (congrArg Prod.fst equal).symm same
        · simp only [at_key,if_false] at equal
          exact equal ▸ inside
      · intro inside
        exact ⟨_,inside,by simp [same]⟩
    · simp [same]

end

theorem get?_set_some {map : OrderedMap κ ν} {key other : κ} {value found : ν} (held : (map.set key value).get? other = some found) :
    other = key ∧ found = value ∨ other ≠ key ∧ map.get? other = some found := by
  rw [get?_set] at held
  split at held
  · rename_i same
    exact .inl ⟨same,(Option.some.inj held).symm⟩
  · rename_i different
    exact .inr ⟨different,held⟩

theorem values_set_new {map : OrderedMap κ ν} {key : κ} (value : ν) (fresh : map.get? key = none) :
    (map.set key value).values = map.values ++ [value] := by
  have absent : key ∉ map.entries.map Prod.fst := by
    rw [mem_keys,fresh]
    simp
  unfold set values
  rw [dif_neg absent,List.map_append]
  rfl

theorem keys_set (map : OrderedMap κ ν) (key : κ) (value : ν) : (map.set key value).entries.map Prod.fst =
    if (map.get? key).isSome then map.entries.map Prod.fst else map.entries.map Prod.fst ++ [key] := by
  unfold set
  by_cases present : key ∈ map.entries.map Prod.fst
  · rw [dif_pos present,if_pos ((map.mem_keys key).mp present)]
    exact replaced_keys _ _ _
  · rw [dif_neg present,if_neg (mt (map.mem_keys key).mpr present),List.map_append]
    rfl

theorem set_eq_self {map : OrderedMap κ ν} {key : κ} {value : ν} (held : map.get? key = some value) : map.set key value = map := by
  have present : key ∈ map.entries.map Prod.fst := (map.mem_keys key).mpr (by rw [held]; rfl)
  apply OrderedMap.ext
  unfold set
  rw [dif_pos present]
  refine (List.map_congr_left fun entry inside => ?_).trans (List.map_id _)
  split
  · rename_i same
    have found := (map.mem_entries entry.1 entry.2).mp inside
    rw [same,held] at found
    rw [Option.some.inj found,← same]
    rfl
  · rfl

theorem values_eq (map : OrderedMap κ ν) : map.values = (map.entries.map Prod.fst).filterMap map.get? := by
  have found : map.entries.map (fun entry => map.get? entry.1) = map.entries.map fun entry => some entry.2 :=
    List.map_congr_left fun entry inside => (map.mem_entries entry.1 entry.2).mp inside
  rw [List.filterMap_map]
  unfold values
  have same : map.entries.filterMap (map.get? ∘ Prod.fst) = (map.entries.map fun entry => map.get? entry.1).filterMap id := by
    rw [List.filterMap_map]
    rfl
  rw [same,found,List.filterMap_map]
  simp

def spread (map other : OrderedMap κ ν) : OrderedMap κ ν :=
  other.entries.foldl (fun merged entry => merged.set entry.1 entry.2) map

theorem get?_spread (map other : OrderedMap κ ν) (key : κ) : (map.spread other).get? key = (other.get? key).or (map.get? key) := by
  obtain ⟨entries,distinct⟩ := other
  unfold spread
  simp only [get?]
  induction entries generalizing map with
  | nil => rfl
  | cons head rest ih =>
    obtain ⟨fresh,restDistinct⟩ := List.nodup_cons.mp distinct
    rw [List.foldl_cons,ih _ restDistinct]
    have set := get?_set map head.1 key head.2
    simp only [get?] at set
    rw [set,List.find?_cons]
    by_cases same : key = head.1
    · have absent : rest.find? (fun entry => entry.1 = key) = none := by
        rw [List.find?_eq_none]
        intro entry inside other
        exact fresh (same ▸ (by simpa using other : entry.1 = key) ▸ List.mem_map_of_mem inside)
      rw [absent,if_pos same]
      simp [same]
    · have different : ¬ head.1 = key := fun equal => same equal.symm
      rw [if_neg same]
      simp [different]

theorem get?_filter (map : OrderedMap κ ν) (keep : κ → ν → Bool) (key : κ) :
    (map.filter keep).get? key = (map.get? key).filter (keep key) := by
  apply Option.ext
  intro value
  rw [← mem_entries,Option.filter_eq_some_iff,← mem_entries]
  simp [filter]

theorem get?_erase (map : OrderedMap κ ν) (key other : κ) :
    (map.erase key).get? other = if other = key then none else map.get? other := by
  rw [erase,get?_filter]
  by_cases same : other = key
  · simp [same]
  · cases map.get? other <;> simp [same,Option.filter]

theorem filter_eq_self (map : OrderedMap κ ν) (keep : κ → ν → Bool) :
    map.filter keep = map ↔ ∀ key value, map.get? key = some value → keep key value = true := by
  constructor
  · intro same key value held
    have inside : (key,value) ∈ (map.filter keep).entries := by
      rw [same]
      exact (map.mem_entries key value).mpr held
    exact (List.mem_filter.mp inside).2
  · intro all
    apply OrderedMap.ext
    apply List.filter_eq_self.mpr
    intro entry inside
    exact all _ _ ((map.mem_entries entry.1 entry.2).mp inside)

/-! ### Maps that gain entries -/

theorem filter_single (map : OrderedMap κ ν) {chosen : κ × ν → Bool}
    (single : ∀ key other value found, map.get? key = some value → map.get? other = some found → chosen (key,value) → chosen (other,found) →
      key = other) : map.entries.filter chosen = [] ∨ ∃ entry, map.entries.filter chosen = [entry] := by
  have apart : ((map.entries.filter chosen).map Prod.fst).Nodup := map.distinct.sublist (List.filter_sublist.map Prod.fst)
  match taken : map.entries.filter chosen with
  | [] => exact .inl rfl
  | [entry] => exact .inr ⟨entry,rfl⟩
  | first::second::rest =>
    have ofFirst := List.mem_filter.mp (taken ▸ List.mem_cons_self : first ∈ map.entries.filter chosen)
    have ofSecond := List.mem_filter.mp (taken ▸ List.mem_cons_of_mem _ List.mem_cons_self : second ∈ map.entries.filter chosen)
    have same := single first.1 second.1 first.2 second.2 ((mem_entries _ _ _).mp ofFirst.1) ((mem_entries _ _ _).mp ofSecond.1)
      ofFirst.2 ofSecond.2
    rw [taken] at apart
    simp [same] at apart

/-- The map has kept its entries up to `keeps`; what is new is as `adds` says, and no two new entries clash. -/
structure Gains (keeps : ν → ν → Prop) (adds : ν → Prop) (clash : ν → ν → Prop) (start now : OrderedMap κ ν) : Prop where
  kept : ∀ key value, start.get? key = some value → ∃ later, now.get? key = some later ∧ keeps value later
  added : ∀ key value, now.get? key = some value → start.get? key = none → adds value
  once : ∀ key other value found, now.get? key = some value → now.get? other = some found → start.get? key = none →
    start.get? other = none → clash value found → key = other

section
variable {keeps : ν → ν → Prop} {adds : ν → Prop} {clash : ν → ν → Prop} {start now : OrderedMap κ ν}

theorem Gains.refl (same : ∀ value, keeps value value) (start : OrderedMap κ ν) : Gains keeps adds clash start start := by
  refine ⟨fun key value held => ⟨value,held,same value⟩,?_,?_⟩
  · intro key value held absent
    rw [held] at absent
    cases absent
  · intro key _ value _ held _ absent
    rw [held] at absent
    cases absent

section
variable (gains : Gains keeps adds clash start now)
include gains

theorem Gains.add {key : κ} {value : ν} (fresh : now.get? key = none) (new : adds value)
    (apart : ∀ other found, now.get? other = some found → start.get? other = none → ¬ clash value found ∧ ¬ clash found value) :
    Gains keeps adds clash start (now.set key value) := by
  constructor
  · intro other found held
    obtain ⟨later,at_,same⟩ := gains.kept other found held
    refine ⟨later,?_,same⟩
    rw [get?_set,if_neg]
    · exact at_
    · intro here
      rw [here,fresh] at at_
      cases at_
  · intro other found held absent
    rw [get?_set] at held
    split at held
    · cases held
      exact new
    · exact gains.added other found held absent
  · intro first second left right atFirst atSecond oldFirst oldSecond clashes
    rw [get?_set] at atFirst atSecond
    split at atFirst <;> split at atSecond
    · rename_i here there
      exact here.trans there.symm
    · cases atFirst
      exact absurd clashes (apart second right atSecond oldSecond).1
    · cases atSecond
      exact absurd clashes (apart first left atFirst oldFirst).2
    · exact gains.once first second left right atFirst atSecond oldFirst oldSecond clashes

theorem Gains.replace {key : κ} {value changed : ν} (held : now.get? key = some value)
    (keeps_ : ∀ early, start.get? key = some early → keeps early changed) (adds_ : start.get? key = none → adds changed)
    (clash_ : ∀ found, (clash changed found → clash value found) ∧ (clash found changed → clash found value)) :
    Gains keeps adds clash start (now.set key changed) := by
  constructor
  · intro other found early
    obtain ⟨later,at_,same⟩ := gains.kept other found early
    rw [get?_set]
    split
    · rename_i here
      subst here
      exact ⟨changed,rfl,keeps_ found early⟩
    · exact ⟨later,at_,same⟩
  · intro other found at_ absent
    rw [get?_set] at at_
    split at at_
    · rename_i here
      cases at_
      exact adds_ (here ▸ absent)
    · exact gains.added other found at_ absent
  · intro first second left right atFirst atSecond oldFirst oldSecond clashes
    rw [get?_set] at atFirst atSecond
    split at atFirst <;> split at atSecond
    · rename_i here there
      exact here.trans there.symm
    · rename_i here _
      cases atFirst
      subst here
      exact gains.once _ second value right held atSecond oldFirst oldSecond ((clash_ right).1 clashes)
    · rename_i _ there
      cases atSecond
      subst there
      exact gains.once first _ left value atFirst held oldFirst oldSecond ((clash_ left).2 clashes)
    · exact gains.once first second left right atFirst atSecond oldFirst oldSecond clashes

theorem Gains.single (kind : ν → Prop)
    (single : ∀ key other value found, start.get? key = some value → start.get? other = some found → kind value → kind found → key = other)
    (kept : ∀ value later, keeps value later → kind later → kind value)
    (lone : ∀ value, adds value → kind value → ∀ key found, start.get? key = some found → ¬ kind found)
    (clashes : ∀ value found, kind value → kind found → clash value found) :
    ∀ key other value found, now.get? key = some value → now.get? other = some found → kind value → kind found → key = other := by
  have early (key : κ) (value : ν) (held : now.get? key = some value) (is : kind value) :
      start.get? key = none ∧ adds value ∨ ∃ before, start.get? key = some before ∧ kind before := by
    cases before : start.get? key with
    | none => exact .inl ⟨rfl,gains.added key value held before⟩
    | some was =>
      obtain ⟨later,at_,same⟩ := gains.kept key was before
      cases held.symm.trans at_
      exact .inr ⟨was,rfl,kept was value same is⟩
  intro key other value found held at_ is isToo
  obtain ⟨absent,new⟩ | ⟨was,before,isBefore⟩ := early key value held is
  · obtain ⟨missing,_⟩ | ⟨wasToo,beforeToo,isBeforeToo⟩ := early other found at_ isToo
    · exact gains.once key other value found held at_ absent missing (clashes value found is isToo)
    · exact absurd isBeforeToo (lone value new is other wasToo beforeToo)
  · obtain ⟨missing,new⟩ | ⟨wasToo,beforeToo,isBeforeToo⟩ := early other found at_ isToo
    · exact absurd isBefore (lone found new isToo key was before)
    · exact single key other was wasToo before beforeToo isBefore isBeforeToo

end

end

end OrderedMap
end Library
