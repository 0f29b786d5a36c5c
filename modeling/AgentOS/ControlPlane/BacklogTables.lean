import AgentOS.ControlPlane.Backlogs

/-! What the operations on backlogs do to the tables. -/
namespace AgentOS.Repository
open Library
variable {before after : Repository}

/-! ### Listings -/

variable {repository : Repository} {backlogId : String} {item : BacklogItem} {id : String}

theorem mem_listBacklogItems {limit : Nat} (listed : item ∈ repository.listBacklogItems backlogId limit) :
    repository.backlogItems.get? item.id = some item ∧ item.backlogId = backlogId := by
  have sorted := List.mem_of_mem_take listed
  have stored := (List.mem_insertionSort _).mp sorted
  obtain ⟨held,mine⟩ := List.mem_filter.mp stored
  obtain ⟨key,found⟩ := (repository.backlogItems.mem_values item).mp held
  have named := repository.itemKeyed key item found
  exact ⟨named ▸ found,by simpa using mine⟩

def itemsOf (repository : Repository) (backlogId : String) : List BacklogItem :=
  repository.backlogItems.values.filter fun item => item.backlogId = backlogId

theorem mem_itemsOf :
    item ∈ repository.itemsOf backlogId ↔ repository.backlogItems.get? item.id = some item ∧ item.backlogId = backlogId := by
  unfold itemsOf
  rw [List.mem_filter,OrderedMap.mem_values,decide_eq_true_eq]
  refine and_congr_left fun _ => ⟨?_,fun found => ⟨_,found⟩⟩
  rintro ⟨key,found⟩
  exact (repository.itemKeyed key item found) ▸ found

theorem mem_page_iff (few : (repository.itemsOf backlogId).length ≤ 100)
    : item ∈ repository.listBacklogItems backlogId 100 ↔ item ∈ repository.itemsOf backlogId := by
  unfold listBacklogItems
  rw [List.take_of_length_le,List.mem_insertionSort]
  · rfl
  · rw [List.length_insertionSort]
    simpa [boundedListLimit,maxListLimit,itemsOf] using few

theorem page_nonempty (mine : item ∈ repository.itemsOf backlogId) : repository.listBacklogItems backlogId 100 ≠ [] := by
  intro empty
  have length := congrArg List.length empty
  unfold listBacklogItems at length
  rw [List.length_take,List.length_insertionSort] at length
  have some := List.length_pos_of_mem mine
  unfold itemsOf at some
  simp only [boundedListLimit,maxListLimit,List.length_nil] at length
  omega

theorem listBacklogItems_nodup (repository : Repository) (backlogId : String) (limit : Nat) :
    ((repository.listBacklogItems backlogId limit).map BacklogItem.id).Nodup := by
  have apart : repository.backlogItems.values.Pairwise fun left right => left.id ≠ right.id := by
    apply repository.backlogItems.pairwise_values
    intro left right first second different firstFound secondFound same
    apply different
    rw [← repository.itemKeyed _ _ firstFound,← repository.itemKeyed _ _ secondFound,same]
  have filtered := apart.filter fun item => item.backlogId = backlogId
  have sorted := ((List.perm_insertionSort (fun left right : BacklogItem => left.ordinal ≤ right.ordinal) _).pairwise_iff
    fun different => Ne.symm different).mpr filtered
  rw [List.Nodup,List.pairwise_map]
  exact sorted.sublist (List.take_sublist _ _)

/-! ### Writes -/

structure SameBacklogs (before after : Repository) : Prop where
  backlogs : after.backlogs = before.backlogs
  items : after.backlogItems = before.backlogItems
  ordinals : after.backlogItemOrdinals = before.backlogItemOrdinals
  itemRuns : after.backlogItemRuns = before.backlogItemRuns

theorem SameBacklogs.refl (repository : Repository) : SameBacklogs repository repository := ⟨rfl,rfl,rfl,rfl⟩

theorem SameBacklogs.transitionRun {statuses : List RunStatus} {update : RunUpdate} {version : Option Nat}
    {run : Option Run} (ok : before.transitionRun id statuses update version = .ok (run,after)) : SameBacklogs before after := by
  rcases transitionRun_ok ok with ⟨_,rfl⟩ | ⟨_,_,_,_,_,_,rfl⟩ <;> exact ⟨rfl,rfl,rfl,rfl⟩

theorem createRunIdempotently_eq {run created : Run} {fingerprint : Fingerprint}
    (ok : before.createRunIdempotently run fingerprint = .ok (created,after)) : SameBacklogs before after ∧
      (after = before ∧ before.runs.get? run.id = some created ∨
        before.runs.get? run.id = none ∧ created = run ∧ after.runs = before.runs.set run.id run) := by
  unfold createRunIdempotently at ok
  split at ok
  · rename_i existing found
    split at ok
    · cases ok
    · cases ok
      exact ⟨.refl _,.inl ⟨rfl,found⟩⟩
  · rename_i absent
    split at ok
    · cases ok
    split at ok
    · cases ok
    · cases ok
      exact ⟨⟨rfl,rfl,rfl,rfl⟩,.inr ⟨absent,rfl,rfl⟩⟩

theorem createBacklog_ok {backlog answer : Backlog} (ok : before.createBacklog backlog = .ok (answer,after)) :
    before.backlogs.get? backlog.id = none ∧ answer = backlog ∧ after = before.setBacklog backlog := by
  unfold createBacklog at ok
  split at ok
  · cases ok
  split at ok
  · cases ok
  · rename_i absent
    cases ok
    exact ⟨by simpa using absent,rfl,rfl⟩

theorem createBacklogItemIdempotently_ok {item answer : BacklogItem}
    (ok : before.createBacklogItemIdempotently item = .ok (answer,after)) : (before.backlogs.get? item.backlogId).isSome ∧
      (after = before ∧ before.backlogItems.get? item.id = some answer ∧ sameBacklogItem answer item = true ∨
        before.backlogItems.get? item.id = none ∧ answer = item ∧
          after.backlogItems = before.backlogItems.set item.id item ∧ after.backlogs = before.backlogs ∧
          after.runs = before.runs) := by
  unfold createBacklogItemIdempotently at ok
  split at ok
  · cases ok
  rename_i stored
  refine ⟨by simpa [Option.isSome_iff_ne_none] using stored,?_⟩
  split at ok
  · rename_i existing found
    split at ok
    · rename_i same
      cases ok
      exact .inl ⟨rfl,found,same⟩
    · cases ok
  · rename_i absent
    split at ok
    · cases ok
    · cases ok
      exact .inr ⟨absent,rfl,rfl,rfl,rfl⟩

theorem updateBacklogStatus_eq {expected : List BacklogStatus} {status : BacklogStatus} {reason : Option String}
    {at_ : Instant} (done : (before.updateBacklogStatus id expected status reason at_).2 = after) : after = before ∨
      ∃ existing updated, before.backlogs.get? id = some existing ∧ existing.status ∈ expected ∧ updated.id = id ∧
        updated.status = status ∧ updated.projectId = existing.projectId ∧ after = before.setBacklog updated := by
  subst done
  unfold updateBacklogStatus
  split
  · exact .inl rfl
  · rename_i existing found
    obtain ⟨held,expects⟩ := Option.filter_eq_some_iff.mp found
    have named : existing.id = id := before.backlogKeyed id existing held
    exact .inr ⟨existing,{existing with
      status := status
      pausedReason := if status = .paused then reason.or existing.pausedReason else none
      updatedAt := at_},held,by simpa using expects,named,rfl,rfl,rfl⟩

variable {expected : List BacklogItemStatus}

theorem updateBacklogItem_eq {status : BacklogItemStatus}
    {runId : Option String} {at_ : Instant} (done : (before.updateBacklogItem id expected status runId at_).2 = after) :
    after = before ∨ ∃ existing updated, before.backlogItems.get? id = some existing ∧ existing.status ∈ expected ∧
      updated = {existing with status := status,runId := runId.or existing.runId,updatedAt := at_} ∧
      after.backlogItems = before.backlogItems.set id updated ∧ after.backlogs = before.backlogs ∧
      after.runs = before.runs := by
  subst done
  unfold updateBacklogItem
  split
  · exact .inl rfl
  · rename_i existing found
    obtain ⟨held,expects⟩ := Option.filter_eq_some_iff.mp found
    have named : existing.id = id := before.itemKeyed _ _ held
    split
    · exact .inl rfl
    · refine .inr ⟨existing,_,held,by simpa using expects,rfl,?_⟩
      dsimp only
      split <;> simp [setBacklogItem,named]

theorem updateBacklogItem_found (before : Repository)
    (status : BacklogItemStatus) (at_ : Instant) {existing : BacklogItem} (found : before.backlogItems.get? id = some existing) (expects : existing.status ∈ expected) :
    (before.updateBacklogItem id expected status none at_).2.runs = before.runs ∧
      (before.updateBacklogItem id expected status none at_).2.backlogItems =
        before.backlogItems.set id {existing with status := status,updatedAt := at_} := by
  have named : existing.id = id := before.itemKeyed id existing found
  have kept : (before.backlogItems.get? id).filter (fun item => item.status ∈ expected) = some existing := by
    rw [found]
    simp [Option.filter,expects]
  unfold updateBacklogItem
  rw [kept]
  dsimp only
  rw [Option.any_none,if_neg Bool.false_ne_true]
  dsimp only
  split <;> simp [setBacklogItem,named]

theorem deleteBacklog_eq (done : (before.deleteBacklog id).2 = after) : after = before ∨
    (∀ item ∈ before.itemsOf id, item.runId = none) ∧ (before.backlogs.get? id).isSome ∧
      (∀ key, after.backlogs.get? key = if key = id then none else before.backlogs.get? key) ∧
      (∀ key item, after.backlogItems.get? key = some item ↔
        before.backlogItems.get? key = some item ∧ item.backlogId ≠ id) ∧ after.runs = before.runs := by
  subst done
  unfold deleteBacklog
  split
  · exact .inl rfl
  rename_i stored
  dsimp only
  split
  · exact .inl rfl
  · rename_i unrun
    refine .inr ⟨?_,by simpa [Option.isSome_iff_ne_none] using stored,fun key => OrderedMap.get?_erase _ _ _,?_,rfl⟩
    · intro item mine
      simp only [Bool.not_eq_true,List.any_eq_false,Option.isSome_eq_false_iff,Option.isNone_iff_eq_none] at unrun
      exact unrun item mine
    · intro key item
      dsimp only
      rw [OrderedMap.get?_filter,Option.filter_eq_some_iff]
      refine and_congr_right fun found => ?_
      have named := before.itemKeyed key item found
      rw [decide_eq_true_eq,not_iff_comm,not_not]
      constructor
      · intro mine
        exact List.mem_map.mpr ⟨item,mem_itemsOf.mpr ⟨named.symm ▸ found,mine⟩,named⟩
      · intro inside
        obtain ⟨other,listed,same⟩ := List.mem_map.mp inside
        obtain ⟨otherFound,mine⟩ := mem_itemsOf.mp listed
        rw [same,found] at otherFound
        cases otherFound
        exact mine

end AgentOS.Repository
