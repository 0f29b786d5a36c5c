import AgentOS.Library.OrderedMap
import Mathlib.Algebra.Order.BigOperators.Group.List
import Mathlib.Algebra.Order.Ring.Int

/-! Weighted totals over the values of a map, and what setting, erasing and
filtering entries does to them. -/
namespace Library.OrderedMap
variable {κ ν : Type} [DecidableEq κ]

def total (map : OrderedMap κ ν) (weight : ν → Int) : Int := (map.values.map weight).sum

theorem total_set_new (map : OrderedMap κ ν) (key : κ) (value : ν) (weight : ν → Int)
    (absent : map.get? key = none) : (map.set key value).total weight = map.total weight + weight value := by
  have missing : key ∉ map.entries.map Prod.fst := by
    rw [mem_keys,absent]
    simp
  simp [total,values,set,missing]

private theorem sum_filter_ne (entries : List (κ × ν)) (distinct : (entries.map Prod.fst).Nodup) (key : κ) (value : ν)
    (weight : ν → Int) (inside : (key,value) ∈ entries) : (entries.map fun entry => weight entry.2).sum =
      ((entries.filter fun entry => entry.1 ≠ key).map fun entry => weight entry.2).sum + weight value := by
  induction entries with
  | nil => simp at inside
  | cons head rest ih =>
    obtain ⟨fresh,distinct⟩ := List.nodup_cons.mp distinct
    have later (entry : κ × ν) (member : entry ∈ rest) : entry.1 ≠ head.1 := by
      intro same
      exact fresh (same ▸ List.mem_map_of_mem member)
    rcases List.mem_cons.mp inside with rfl | among
    · have untouched : (rest.filter fun entry => entry.1 ≠ key) = rest := by
        apply List.filter_eq_self.mpr
        intro entry member
        simpa using later entry member
      simp only [List.map_cons,List.sum_cons,List.filter_cons,ne_eq,not_true_eq_false,decide_false,
        Bool.false_eq_true,if_false] at untouched ⊢
      rw [untouched]
      omega
    · have other : head.1 ≠ key := (later _ among).symm
      have rest := ih distinct among
      simp only [List.map_cons,List.sum_cons,List.filter_cons,other,ne_eq,not_false_eq_true,decide_true,if_true]
      simp only [ne_eq] at rest
      omega

section
variable (map : OrderedMap κ ν)

theorem total_erase (key : κ) (value : ν) (weight : ν → Int)
    (held : map.get? key = some value) : map.total weight = (map.erase key).total weight + weight value := by
  have sum := sum_filter_ne map.entries map.distinct key value weight ((map.mem_entries key value).mpr held)
  simpa [total,values,erase,filter,Function.comp_def] using sum

theorem erase_set (key : κ) (value : ν) : (map.set key value).erase key = map.erase key := by
  apply OrderedMap.ext
  unfold set erase filter
  split
  · show (map.entries.map _).filter _ = map.entries.filter _
    induction map.entries with
    | nil => rfl
    | cons head rest ih =>
      by_cases same : head.1 = key
      · simpa [List.filter_cons,same] using ih
      · simpa [List.filter_cons,same] using ih
  · simp

theorem total_set (key : κ) (value : ν) (weight : ν → Int) :
    (map.set key value).total weight = map.total weight - ((map.get? key).map weight).getD 0 + weight value := by
  have written := (map.set key value).total_erase key value weight (by rw [get?_set,if_pos rfl])
  rw [erase_set] at written
  cases held : map.get? key with
  | none =>
    rw [map.total_set_new key value weight held]
    simp
  | some old =>
    have before := map.total_erase key old weight held
    simp only [Option.map_some,Option.getD_some]
    omega

theorem total_filter_le (keep : κ → ν → Bool) (weight : ν → Int)
    (positive : ∀ key value, map.get? key = some value → 0 ≤ weight value) : (map.filter keep).total weight ≤ map.total weight := by
  have sublist : ((map.filter keep).values.map weight).Sublist (map.values.map weight) :=
    (List.filter_sublist.map Prod.snd).map weight
  apply sublist.sum_le_sum
  intro number inside
  obtain ⟨value,member,rfl⟩ := List.mem_map.mp inside
  obtain ⟨key,held⟩ := (map.mem_values value).mp member
  exact positive key value held

section
variable (weight : ν → Int) (positive : ∀ key value, map.get? key = some value → 0 ≤ weight value)
include positive

theorem total_nonneg : 0 ≤ map.total weight := by
  apply List.sum_nonneg
  intro number inside
  obtain ⟨value,member,rfl⟩ := List.mem_map.mp inside
  obtain ⟨key,held⟩ := (map.mem_values value).mp member
  exact positive key value held

theorem le_total {key : κ} {value : ν} (held : map.get? key = some value) : weight value ≤ map.total weight := by
  have rest : 0 ≤ (map.erase key).total weight := by
    apply total_nonneg
    intro other kept found
    rw [get?_erase] at found
    split at found
    · cases found
    · exact positive other kept found
  rw [map.total_erase key value weight held]
  omega

end

end

end Library.OrderedMap
