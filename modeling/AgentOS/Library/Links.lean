import Mathlib.Data.ENat.Lattice
import Mathlib.Data.Set.Finite.Basic
import Mathlib.Order.CompletePartialOrder

/-! Chains of links, each thing naming the next one at most. A chain that runs into a cycle has no end. -/
namespace Library.Links
variable {κ : Type}

def along (next : κ → Option κ) : Nat → Option κ → Option κ
  | 0,start => start
  | count+1,start => (along next count start).bind next

noncomputable def length (next : κ → Option κ) (start : Option κ) : ℕ∞ :=
  sSup {bound : ℕ∞ | ∃ count : ℕ, bound = count + 1 ∧ (along next count start).isSome}

variable {next : κ → Option κ} {start : Option κ}

theorem along_bind (count : Nat) (start : Option κ) : along next count (start.bind next) = along next (count + 1) start := by
  induction count with
  | zero => rfl
  | succ count ih => exact congrArg (fun place => Option.bind place next) ih

theorem along_none (count : Nat) : along next count none = none := by
  induction count with
  | zero => rfl
  | succ count ih =>
    rw [along,ih]
    rfl

theorem along_add (first second : Nat) (start : Option κ) :
    along next (first + second) start = along next second (along next first start) := by
  induction second with
  | zero => rfl
  | succ second ih => exact congrArg (fun place => Option.bind place next) ih

theorem along_isSome_mono {first second : Nat} (before : first ≤ second) (named : (along next second start).isSome) :
    (along next first start).isSome := by
  by_contra missing
  rw [Bool.not_eq_true,Option.isSome_eq_false_iff,Option.isNone_iff_eq_none] at missing
  obtain ⟨rest,rfl⟩ := Nat.exists_eq_add_of_le before
  rw [along_add,missing,along_none] at named
  cases named

theorem lt_length_iff (count : Nat) : (count : ℕ∞) < length next start ↔ (along next count start).isSome := by
  unfold length
  rw [lt_sSup_iff]
  constructor
  · rintro ⟨_,⟨further,rfl,named⟩,less⟩
    refine along_isSome_mono ?_ named
    exact Nat.lt_succ_iff.mp (by exact_mod_cast less)
  · exact fun named => ⟨count + 1,⟨count,rfl,named⟩,by exact_mod_cast Nat.lt_succ_self count⟩

theorem le_length_iff (count : Nat) : (count : ℕ∞) ≤ length next start ↔ ∀ place < count, (along next place start).isSome := by
  cases count with
  | zero => simp
  | succ count =>
    have above : ((count + 1 : Nat) : ℕ∞) ≤ length next start ↔ (count : ℕ∞) < length next start := by
      rw [Nat.cast_add_one,ENat.add_one_le_iff (ENat.natCast_ne_top count)]
    rw [above,lt_length_iff]
    constructor
    · exact fun named place before => along_isSome_mono (Nat.lt_succ_iff.mp before) named
    · exact fun named => named count (Nat.lt_succ_self count)

/-! ### Cycles -/

def Cyclic (next : κ → Option κ) (start : Option κ) : Prop :=
  ∃ first second, first < second ∧ (along next first start).isSome ∧ along next second start = along next first start

theorem length_cyclic (cyclic : Cyclic next start) : length next start = ⊤ := by
  obtain ⟨first,second,less,named,same⟩ := cyclic
  obtain ⟨period,rfl⟩ := Nat.exists_eq_add_of_lt less
  have round : ∀ rounds, along next (first + rounds * (period + 1)) start = along next first start := by
    intro rounds
    induction rounds with
    | zero => simp
    | succ rounds ih =>
      have split : first + (rounds + 1) * (period + 1) = first + rounds * (period + 1) + (period + 1) := by
        rw [Nat.add_mul,Nat.one_mul,Nat.add_assoc]
      rw [split,along_add,ih,← along_add]
      exact same
  rw [ENat.eq_top_iff_forall_gt]
  intro count
  rw [lt_length_iff]
  have far : count ≤ first + count * (period + 1) :=
    (Nat.le_mul_of_pos_right count (Nat.succ_pos period)).trans (Nat.le_add_left _ _)
  exact along_isSome_mono far (by rw [round]; exact named)

theorem length_eq_top_iff (finite : {id | (next id).isSome}.Finite) : length next start = ⊤ ↔ Cyclic next start := by
  refine ⟨fun endless => ?_,length_cyclic⟩
  have named : ∀ count, (along next count start).isSome := fun count =>
    (lt_length_iff count).mp (endless ▸ ENat.natCast_lt_top count)
  choose place at_ using fun count => Option.isSome_iff_exists.mp (named count)
  have inside : ∀ count, place count ∈ {id | (next id).isSome} := by
    intro count
    have after : (along next (count + 1) start).isSome := named (count + 1)
    rw [along,at_ count] at after
    exact after
  obtain ⟨first,_,second,_,different,same⟩ := Set.infinite_univ.exists_ne_map_eq_of_mapsTo (fun count _ => inside count) finite
  rcases Nat.lt_or_gt_of_ne different with less | more
  · exact ⟨first,second,less,named first,by rw [at_,at_,same]⟩
  · exact ⟨second,first,more,named second,by rw [at_,at_,same]⟩

end Library.Links
