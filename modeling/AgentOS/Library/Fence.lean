import Mathlib.Data.List.Basic

/-! Fencing tokens of one resource that is claimed by owners, taken over and
deleted. A take-over counts the version up; a resource claimed anew after its
deletion starts at version one again. -/
namespace Library

structure Token (Owner : Type) where
  owner : Owner
  version : Nat
  deriving DecidableEq

/-- The token in force and the tokens that claims have answered: those of the
present life, those from before a deletion, and those superseded since. -/
structure Fence (Owner : Type) where
  current : Option (Token Owner) := none
  life : List (Token Owner) := []
  bygone : List (Token Owner) := []
  superseded : List (Token Owner) := []

namespace Fence
variable {Owner : Type}

def delete (fence : Fence Owner) : Fence Owner where
  current := none
  life := []
  bygone := fence.life ++ fence.bygone
  superseded := fence.superseded

variable (fence : Fence Owner)

def Fenced : Prop := ∀ token ∈ fence.superseded, fence.current ≠ some token

structure Sound (fence : Fence Owner) : Prop where
  empty : fence.current = none → fence.life = []
  bounded : ∀ held, fence.current = some held → ∀ token ∈ fence.life, token.version ≤ held.version
  bygone : ∀ held, fence.current = some held → ∀ token ∈ fence.bygone, token ∈ fence.superseded
  answered : ∀ token ∈ fence.superseded, token ∈ fence.life ∨ token ∈ fence.bygone

theorem sound_empty : ({} : Fence Owner).Sound where
  empty _ := rfl
  bounded _ none := by cases none
  bygone _ none := by cases none
  answered _ inside := by simp at inside

theorem Sound.delete {fence : Fence Owner} (sound : fence.Sound) : fence.delete.Sound where
  empty _ := rfl
  bounded _ none := by cases none
  bygone _ none := by cases none
  answered token gone := .inr (List.mem_append.mpr (sound.answered token gone))

theorem Fenced.delete : fence.delete.Fenced := by
  intro _ _ current
  cases current

variable [DecidableEq Owner]

/-- A claim that gets the resource supersedes the tokens of other owners and those from before a deletion. -/
def enter (fence : Fence Owner) (token : Token Owner) : Fence Owner where
  current := some token
  life := token::fence.life
  bygone := fence.bygone
  superseded := fence.superseded ++ fence.bygone ++ fence.life.filter fun other => other.owner ≠ token.owner

section
variable (owner : Owner) (free : Bool)

/-- A claim by an owner; another owner's resource must be free to be taken over. -/
def claim : Fence Owner :=
  match fence.current with
  | none => fence.enter ⟨owner,1⟩
  | some held =>
    if held.owner = owner then fence.enter held
    else if free then fence.enter ⟨owner,held.version + 1⟩
    else {fence with life := held::fence.life}

def grants : Option (Token Owner) :=
  match fence.current with
  | none => some ⟨owner,1⟩
  | some held => if held.owner ≠ owner ∧ free then some ⟨owner,held.version + 1⟩ else none

def Fresh : Prop :=
  ∀ token, fence.grants owner free = some token → token ∉ fence.bygone

end

theorem mem_enter_superseded (token other : Token Owner) : other ∈ (fence.enter token).superseded ↔
      other ∈ fence.superseded ∨ other ∈ fence.bygone ∨ (other ∈ fence.life ∧ other.owner ≠ token.owner) := by
  simp [enter]

theorem Sound.enter {fence : Fence Owner} (sound : fence.Sound) (token : Token Owner)
    (above : ∀ other ∈ fence.life, other.version ≤ token.version) : (fence.enter token).Sound where
  empty none := by cases none
  bounded := by
    intro held current other inside
    cases current
    rcases List.mem_cons.mp inside with rfl | before
    · exact Nat.le_refl _
    · exact above other before
  bygone := by
    intro _ _ other before
    exact (mem_enter_superseded fence token other).mpr (.inr (.inl before))
  answered := by
    intro other gone
    have present : ∀ {kept}, kept ∈ fence.life → kept ∈ (fence.enter token).life := List.mem_cons_of_mem token
    rcases (mem_enter_superseded fence token other).mp gone with before | before | ⟨before,_⟩
    · exact (sound.answered other before).imp present id
    · exact .inr before
    · exact .inl (present before)

theorem Sound.claim {fence : Fence Owner} (sound : fence.Sound) (owner : Owner) (free : Bool) : (fence.claim owner free).Sound := by
  unfold Fence.claim
  split
  · rename_i none
    apply sound.enter
    simp [sound.empty none]
  · rename_i held current
    have below := sound.bounded held current
    split_ifs
    · exact sound.enter held below
    · apply sound.enter
      intro other inside
      have bound := below other inside
      change other.version ≤ held.version + 1
      omega
    · refine ⟨fun none => ?_,?_,sound.bygone,?_⟩
      · simp [current] at none
      · intro same found other inside
        cases current.symm.trans found
        rcases List.mem_cons.mp inside with rfl | before
        · exact Nat.le_refl _
        · exact below other before
      · intro other gone
        exact (sound.answered other gone).imp (List.mem_cons_of_mem held) id

theorem fenced_enter_iff (token : Token Owner) : (fence.enter token).Fenced ↔ token ∉ fence.superseded ∧ token ∉ fence.bygone := by
  have gone := mem_enter_superseded fence token
  constructor
  · intro fenced
    constructor
    · exact fun before => fenced token ((gone token).mpr (.inl before)) rfl
    · exact fun before => fenced token ((gone token).mpr (.inr (.inl before))) rfl
  · rintro ⟨standing,fresh⟩ other inside current
    cases current
    rcases (gone token).mp inside with before | before | ⟨_,foreign⟩
    · exact standing before
    · exact fresh before
    · exact foreign rfl

theorem fenced_claim_iff {fence : Fence Owner} (sound : fence.Sound) (fenced : fence.Fenced) (owner : Owner)
    (free : Bool) : (fence.claim owner free).Fenced ↔ fence.Fresh owner free := by
  cases current : fence.current with
  | none =>
    have entered : fence.claim owner free = fence.enter ⟨owner,1⟩ := by simp [claim,current]
    have life := sound.empty current
    rw [entered,fenced_enter_iff]
    simp only [Fresh,grants,current,Option.some.injEq,forall_eq']
    refine ⟨fun fresh => fresh.2,fun fresh => ⟨fun gone => ?_,fresh⟩⟩
    rcases sound.answered _ gone with present | before
    · simp [life] at present
    · exact fresh before
  | some held =>
    have standing : held ∉ fence.superseded := fun gone => fenced held gone current
    by_cases mine : held.owner = owner
    · have entered : fence.claim owner free = fence.enter held := by simp [claim,current,mine]
      have whole : (fence.enter held).Fenced :=
        (fenced_enter_iff fence held).mpr ⟨standing,fun before => standing (sound.bygone held current held before)⟩
      rw [entered]
      simp [whole,Fresh,grants,current,mine]
    · cases free with
      | false =>
        have same : (fence.claim owner false).Fenced ↔ fence.Fenced := by simp [claim,current,mine,Fenced]
        rw [same]
        simp [fenced,Fresh,grants,current]
      | true =>
        have entered : fence.claim owner true = fence.enter ⟨owner,held.version + 1⟩ := by simp [claim,current,mine]
        rw [entered,fenced_enter_iff]
        simp only [Fresh,grants,current,mine,ne_eq,not_false_eq_true,and_self,if_true,Option.some.injEq,forall_eq']
        refine ⟨fun fresh => fresh.2,fun fresh => ⟨fun gone => ?_,fresh⟩⟩
        -- The counter only grows within a life, so a superseded token of this version is from before a deletion.
        rcases sound.answered _ gone with present | before
        · have bound := sound.bounded held current _ present
          change held.version + 1 ≤ held.version at bound
          omega
        · exact fresh before

end Fence
end Library
