import Mathlib.Data.List.Sort

/-! Listings sorted by a strict order and read page by page: a page holds the
items after the last one that was read, as many as fit. -/
namespace Library.Paging
variable {α : Type}

structure Strict (earlier : α → α → Bool) : Prop where
  asymmetric : ∀ left right, earlier left right = true → earlier right left = false
  weakly : ∀ first second third, earlier second first = false → earlier third second = false →
    earlier third first = false

namespace Strict
variable {earlier : α → α → Bool}

section
variable (order : Strict earlier)
include order

theorem irreflexive (item : α) : earlier item item = false := by
  cases looped : earlier item item with
  | false => rfl
  | true => exact (order.asymmetric item item looped).symm.trans looped |>.symm

variable (le : α → α → Prop)

theorem sorts [DecidableRel le] (weak : ∀ left right, le left right ↔ earlier right left = false) (items : List α) :
    (items.insertionSort le).Pairwise le := by
  have total : Std.Total le := ⟨fun left right => by
    rw [weak,weak]
    cases before : earlier left right with
    | false => exact .inr rfl
    | true => exact .inl (order.asymmetric left right before)⟩
  have trans : IsTrans α le := ⟨fun first second third => by
    rw [weak,weak,weak]
    exact order.weakly first second third⟩
  exact List.pairwise_insertionSort le items

variable {items : List α} {read rest : List α}

theorem sorted [DecidableRel le] (weak : ∀ left right, le left right ↔ earlier right left = false)
    (apart : items.Pairwise fun left right => earlier left right = true ∨ earlier right left = true) :
    (items.insertionSort le).Pairwise fun left right => earlier left right = true := by
  have inOrder := order.sorts le weak items
  have stillApart : (items.insertionSort le).Pairwise
      fun left right => earlier left right = true ∨ earlier right left = true :=
    ((List.perm_insertionSort le items).pairwise_iff fun swapped => Or.symm swapped).mpr apart
  apply (inOrder.and stillApart).imp
  intro left right both
  rcases both.2 with before | after
  · exact before
  · exact absurd ((weak left right).mp both.1) (by simp [after])

theorem first [DecidableRel le] (weak : ∀ left right, le left right ↔ earlier right left = false) {item : α}
    (head : (items.insertionSort le).head? = some item) : item ∈ items ∧ ∀ other ∈ items, earlier other item = false := by
  have inOrder := order.sorts le weak items
  obtain ⟨rest,sorted⟩ := List.head?_eq_some_iff.mp head
  rw [sorted] at inOrder
  have inside : ∀ other, other ∈ items ↔ other ∈ item::rest := by
    intro other
    rw [← sorted,List.mem_insertionSort]
  refine ⟨(inside item).mpr List.mem_cons_self,fun other listed => ?_⟩
  rcases List.mem_cons.mp ((inside other).mp listed) with rfl | later
  · exact order.irreflexive _
  · exact (weak item other).mp (List.rel_of_pairwise_cons inOrder later)

theorem first_of [DecidableRel le] (weak : ∀ left right, le left right ↔ earlier right left = false) {item : α} (listed : item ∈ items)
    (least : ∀ other ∈ items, other = item ∨ earlier item other = true) : (items.insertionSort le).head? = some item := by
  cases head : (items.insertionSort le).head? with
  | none =>
    rw [List.head?_eq_none_iff] at head
    have there := (List.mem_insertionSort le).mpr listed
    rw [head] at there
    cases there
  | some found =>
    obtain ⟨inside,none⟩ := order.first le weak head
    rcases least found inside with rfl | before
    · rfl
    · rw [none item listed] at before
      cases before

theorem unique {first second : List α} (firstSorted : first.Pairwise fun left right => earlier left right = true)
    (secondSorted : second.Pairwise fun left right => earlier left right = true)
    (same : ∀ item, item ∈ first ↔ item ∈ second) : first = second := by
  have distinct : ∀ left right : α, earlier left right = true → left ≠ right := by
    intro left right before equal
    rw [equal,order.irreflexive] at before
    cases before
  have permuted : first.Perm second :=
    (List.perm_ext_iff_of_nodup (firstSorted.imp (distinct _ _)) (secondSorted.imp (distinct _ _))).mpr same
  apply permuted.eq_of_pairwise _ firstSorted secondSorted
  intro left right _ _ before after
  rw [order.asymmetric left right before] at after
  cases after

theorem filter_after {last : α} (sorted : (read ++ rest).Pairwise fun left right => earlier left right = true)
    (final : read.getLast? = some last) : (read ++ rest).filter (earlier last) = rest := by
  obtain ⟨readSorted,_,ahead⟩ := List.pairwise_append.mp sorted
  have inside : last ∈ read := List.mem_of_getLast? final
  have unread : rest.filter (earlier last) = rest := List.filter_eq_self.mpr fun item later => ahead last inside item later
  have done : read.filter (earlier last) = [] := by
    rw [List.filter_eq_nil_iff]
    intro item here
    rw [Bool.not_eq_true]
    obtain ⟨init,same⟩ := List.getLast?_eq_some_iff.mp final
    subst same
    rcases List.mem_append.mp here with here | here
    · have before := (List.pairwise_append.mp readSorted).2.2 item here last (by simp)
      exact order.asymmetric item last before
    · have equal : item = last := by simpa using here
      rw [equal]
      exact order.irreflexive last
  rw [List.filter_append,done,unread,List.nil_append]

theorem sorted_after [DecidableRel le] (weak : ∀ left right, le left right ↔ earlier right left = false) {kept later : α → Bool}
    (apart : (items.filter kept).Pairwise fun left right => earlier left right = true ∨ earlier right left = true)
    (split : (items.filter kept).insertionSort le = read ++ rest) (from_ : ∀ item, later item = read.getLast?.all (earlier · item)) :
    (items.filter fun item => kept item && later item).insertionSort le = rest := by
  have inOrder := order.sorted le weak apart
  rw [split] at inOrder
  have unread : (read ++ rest).filter later = rest := by
    cases final : read.getLast? with
    | none =>
      rw [List.getLast?_eq_none_iff] at final
      rw [final,List.nil_append]
      exact List.filter_eq_self.mpr fun item _ => by rw [from_,final]; rfl
    | some last =>
      refine Eq.trans (List.filter_congr fun item _ => ?_) (order.filter_after inOrder final)
      rw [from_,final,Option.all_some]
  have narrowed : (items.filter fun item => kept item && later item) = (items.filter kept).filter later := by
    rw [List.filter_filter]
    exact List.filter_congr fun item _ => Bool.and_comm _ _
  rw [narrowed]
  refine order.unique (order.sorted le weak (apart.filter later)) (List.pairwise_append.mp inOrder).2.1 fun item => ?_
  rw [List.mem_insertionSort,List.mem_filter,← List.mem_insertionSort le,split,← List.mem_filter,unread]

end

end Strict

/-! ### Reading to the end -/

section
variable {κ ℓ : Type} (call : Option κ → ℓ → Option (List α)) (position : α → κ)

/-- What is read page after page, each from where the one before it ended, up to an empty page. Nothing is read where a
call fails or the turns run out. -/
def readAll : Nat → (Nat → ℓ) → Option κ → Option (List α)
  | 0,_,_ => none
  | turns + 1,limits,after => match call after (limits 0) with
    | none => none
    | some page => match page.getLast? with
      | none => some []
      | some last => (readAll turns (fun turn => limits (turn + 1)) (some (position last))).map (page ++ ·)

variable {call position}

theorem readAll_rest {listing read rest : List α} {limits : Nat → ℓ} {turns : Nat}
    (paged : ∀ read rest turn, listing = read ++ rest → ∃ size, 0 < size ∧
      call (read.getLast?.map position) (limits turn) = some (rest.take size))
    (split : listing = read ++ rest) (enough : rest.length < turns) :
    readAll call position turns limits (read.getLast?.map position) = some rest := by
  induction turns generalizing read rest limits with
  | zero => cases enough
  | succ turns ih =>
    obtain ⟨size,positive,called⟩ := paged read rest 0 split
    unfold readAll
    rw [called]
    dsimp only
    cases final : (rest.take size).getLast? with
    | none =>
      have empty := List.getLast?_eq_none_iff.mp final
      rcases List.take_eq_nil_iff.mp empty with none | done
      · omega
      · rw [done]
    | some last =>
      have further : listing = (read ++ rest.take size) ++ rest.drop size := by
        rw [List.append_assoc,List.take_append_drop,split]
      have ending : (read ++ rest.take size).getLast? = some last := by
        rw [List.getLast?_append,final]
        rfl
      have fewer : (rest.drop size).length < turns := by
        have some_ : rest ≠ [] := by
          intro none
          rw [none,List.take_nil] at final
          cases final
        have length := List.length_pos_of_ne_nil some_
        rw [List.length_drop]
        omega
      have more := @ih (read ++ rest.take size) (rest.drop size) (fun turn => limits (turn + 1))
        (fun read rest turn => paged read rest (turn + 1)) further fewer
      rw [ending,Option.map_some] at more
      dsimp only
      rw [more,Option.map_some,List.take_append_drop]

theorem readAll_eq {listing : List α} {limits : Nat → ℓ} {turns : Nat}
    (paged : ∀ read rest turn, listing = read ++ rest → ∃ size, 0 < size ∧
      call (read.getLast?.map position) (limits turn) = some (rest.take size))
    (enough : listing.length < turns) : readAll call position turns limits none = some listing :=
  readAll_rest paged (List.nil_append listing).symm enough

end

/-! ### Reading on from given cursors -/

section
variable {β κ ℓ : Type} (call : Option κ → ℓ → Option (List β × Option κ))

/-- What is read page after page, each from the cursor that the one before it gave, up to a page that gives none. -/
def readLinked : Nat → (Nat → ℓ) → Option κ → Option (List β)
  | 0,_,_ => none
  | turns + 1,limits,after => match call after (limits 0) with
    | none => none
    | some (page,none) => some page
    | some (page,some next) => (readLinked turns (fun turn => limits (turn + 1)) (some next)).map (page ++ ·)

variable {call} {position : α → κ} {shown : List α → List β}

theorem readLinked_rest (parts : ∀ first second, shown (first ++ second) = shown first ++ shown second)
    {listing read rest : List α} {limits : Nat → ℓ} {turns : Nat}
    (paged : ∀ read rest turn, listing = read ++ rest → ∃ size, 0 < size ∧ call (read.getLast?.map position) (limits turn) =
      some (shown (rest.take size),if rest.length ≤ size then none else (rest.take size).getLast?.map position))
    (split : listing = read ++ rest) (enough : rest.length < turns) :
    readLinked call turns limits (read.getLast?.map position) = some (shown rest) := by
  induction turns generalizing read rest limits with
  | zero => cases enough
  | succ turns ih =>
    obtain ⟨size,positive,called⟩ := paged read rest 0 split
    unfold readLinked
    rw [called]
    by_cases last : rest.length ≤ size
    · rw [if_pos last,List.take_of_length_le last]
    · rw [if_neg last]
      cases final : (rest.take size).getLast? with
      | none =>
        have empty := congrArg List.length (List.getLast?_eq_none_iff.mp final)
        rw [List.length_take,List.length_nil] at empty
        omega
      | some row =>
        have further : listing = (read ++ rest.take size) ++ rest.drop size := by
          rw [List.append_assoc,List.take_append_drop,split]
        have ending : (read ++ rest.take size).getLast? = some row := by
          rw [List.getLast?_append,final]
          rfl
        have fewer : (rest.drop size).length < turns := by
          rw [List.length_drop]
          omega
        have more := @ih (read ++ rest.take size) (rest.drop size) (fun turn => limits (turn + 1))
          (fun read rest turn => paged read rest (turn + 1)) further fewer
        rw [ending,Option.map_some] at more
        dsimp only [Option.map_some]
        rw [more,Option.map_some,← parts,List.take_append_drop]

end

section
variable (first second : α → α → Prop) [DecidableRel first] [DecidableRel second]

theorem orderedInsert_agree {item : α} {items : List α} (agree : ∀ other ∈ items, first item other ↔ second item other) :
    items.orderedInsert first item = items.orderedInsert second item := by
  induction items with
  | nil => rfl
  | cons other rest ih =>
    have heads := agree other List.mem_cons_self
    rw [List.orderedInsert_cons,List.orderedInsert_cons]
    by_cases before : first item other
    · rw [if_pos before,if_pos (heads.mp before)]
    · rw [if_neg before,if_neg (mt heads.mpr before),ih fun next inside => agree next (List.mem_cons_of_mem other inside)]

theorem insertionSort_agree {items : List α} (agree : items.Pairwise fun item later => first item later ↔ second item later) :
    items.insertionSort first = items.insertionSort second := by
  induction items with
  | nil => rfl
  | cons item rest ih =>
    obtain ⟨heads,tails⟩ := List.pairwise_cons.mp agree
    rw [List.insertionSort_cons,List.insertionSort_cons,ih tails]
    refine orderedInsert_agree first second fun other inside => heads other ?_
    exact (List.mem_insertionSort second).mp inside

end
end Library.Paging
