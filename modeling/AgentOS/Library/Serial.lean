import Mathlib.Data.List.Basic

/-! Things that begin one after the other: each waits until the one before it has settled. -/
namespace Library.Serial
variable {α : Type} {begun settled : α → Prop} {items : List α}

def InTurn (begun settled : α → Prop) (items : List α) : Prop :=
  ∀ (first second : Nat) (one other : α), first < second → items[first]? = some one → items[second]? = some other →
    begun other → settled one

theorem inTurn_nil : InTurn begun settled [] := by
  intro first second one other _ found
  cases found

theorem InTurn.unique (inTurn : InTurn begun settled items) {first second : Nat} {one other : α} (here : items[first]? = some one)
    (there : items[second]? = some other) (begins : begun one) (begins' : begun other) (busy : ¬ settled one)
    (busy' : ¬ settled other) : first = second := by
  rcases Nat.lt_trichotomy first second with less | same | more
  · exact absurd (inTurn first second one other less here there begins') busy
  · exact same
  · exact absurd (inTurn second first other one more there here begins) busy'

theorem InTurn.settled_before (inTurn : InTurn begun settled items) (ended : ∀ item, settled item → begun item) {place first : Nat}
    {previous one : α} (here : items[place]? = some previous) (done : settled previous) (before : first ≤ place)
    (there : items[first]? = some one) : settled one := by
  rcases Nat.lt_or_eq_of_le before with less | rfl
  · exact inTurn first place one previous less there here (ended previous done)
  · rw [there] at here
    cases here
    exact done

theorem InTurn.step {after : List α} (inTurn : InTurn begun settled items)
    (kept : ∀ (place : Nat) (old : α), items[place]? = some old → ∃ new, after[place]? = some new ∧ (settled old → settled new) ∧
      (begun new → begun old ∨ ∀ (first : Nat) (one : α), first < place → items[first]? = some one → settled one))
    (fresh : ∀ (place : Nat) (new : α), items[place]? = none → after[place]? = some new → ¬ begun new) :
    InTurn begun settled after := by
  intro first second one other less found found' begins
  cases was : items[second]? with
  | none => exact absurd begins (fresh second other was found')
  | some old =>
    have inside : first < items.length := Nat.lt_trans less (List.getElem?_eq_some_iff.mp was).1
    obtain ⟨new,there,settles,_⟩ := kept first items[first] (List.getElem?_eq_getElem inside)
    obtain ⟨new',there',_,begins'⟩ := kept second old was
    cases there.symm.trans found
    cases there'.symm.trans found'
    apply settles
    rcases begins' begins with earlier | all
    · exact inTurn first second _ old less (List.getElem?_eq_getElem inside) was earlier
    · exact all first _ less (List.getElem?_eq_getElem inside)

end Library.Serial
