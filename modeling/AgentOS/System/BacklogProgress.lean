import AgentOS.ControlPlane.BacklogRules
import AgentOS.System.Bystanders

/-! The progress of backlogs. A pass that stands still waits for a run, unless the run
of an item succeeded after the item had been settled as failed. -/
namespace AgentOS.System
open Library ControlPlane LocalDirect Routine AgentOS.Action
variable {env : Environment} {pages : Nat} {world after : World}

/-! ### One pass -/

def InFlight (status : RunStatus) : Prop := status = .pending ∨ status = .running ∨ status = .waiting

def HasRunInFlight (repository : Repository) (backlogId : String) : Prop :=
  ∃ item ∈ repository.itemsOf backlogId, ∃ runId run, item.runId = some runId ∧ repository.getRun runId = some run ∧
    InFlight run.status

instance (status : RunStatus) : Decidable (InFlight status) := inferInstanceAs (Decidable (_ ∨ _ ∨ _))

instance (repository : Repository) (backlogId : String) : Decidable (HasRunInFlight repository backlogId) :=
  decidable_of_iff (∃ item ∈ repository.itemsOf backlogId, ∃ run ∈ (item.runId.bind repository.getRun).toList,
      InFlight run.status) (by
    refine exists_congr fun item => and_congr_right fun _ => ?_
    simp only [Option.mem_toList,Option.bind_eq_some_iff]
    constructor
    · rintro ⟨run,⟨runId,named,found⟩,flying⟩
      exact ⟨runId,run,named,found,flying⟩
    · rintro ⟨runId,run,named,found,flying⟩
      exact ⟨run,⟨runId,named,found⟩,flying⟩)

def Reads (repository : Repository) (runs : OrderedMap String BacklogItemRun) : Prop :=
  ∀ runId run, runs.get? runId = some run → ∃ held, repository.getRun runId = some held ∧ run.status = held.status

variable {items : List BacklogItem}

theorem exec_listItems_ok {backlogId : String} (done : (listItems env backlogId).exec world = (.ok items,after)) :
    items = world.repository.listBacklogItems backlogId 100 ∧ after.repository = world.repository := by
  obtain ⟨_,rfl,rfl⟩ := exec_readRepository_ok.mp done
  exact ⟨rfl,rfl⟩

theorem exec_readRuns_ok {runs answer : OrderedMap String BacklogItemRun}
    (done : (readRuns env items runs).exec world = (.ok answer,after)) (reads : Reads world.repository runs) :
    Reads world.repository answer ∧ after.repository = world.repository := by
  induction items generalizing runs world with
  | nil =>
    cases done
    exact ⟨reads,rfl⟩
  | cons item items ih =>
    unfold readRuns at done
    split at done
    · exact ih done reads
    · rename_i runId _
      rw [exec_bind_ok] at done
      obtain ⟨found,middle,read,done⟩ := done
      obtain ⟨_,rfl,rfl⟩ := exec_readRepository_ok.mp read
      split at done
      · have later := ih done reads
        exact later
      · rename_i held found
        have known : Reads world.ticked.repository (runs.set runId (itemRun runId held)) := by
          intro other run known
          rcases OrderedMap.get?_set_some known with ⟨rfl,rfl⟩ | ⟨_,known⟩
          · exact ⟨held,found,rfl⟩
          · exact reads other run known
        have later := ih done known
        exact later

structure SettledAs (runs : OrderedMap String BacklogItemRun) (items : List BacklogItem) (item settled : BacklogItem) :
    Prop where
  run : settled.runId = item.runId
  backlog : settled.backlogId = item.backlogId
  status : (settled.status = item.status ∧ (item ∈ items → settlement runs item = none)) ∨
    item ∈ items ∧ settlement runs item = some settled.status

theorem exec_settleItem_ok {runs : OrderedMap String BacklogItemRun} {item : BacklogItem} {answer : Unit}
    (done : (settleItem env runs item).exec world = (.ok answer,after))
    (stored : world.repository.backlogItems.get? item.id = some item) :
    after.repository.runs = world.repository.runs ∧ ∃ settled, SettledAs runs [item] item settled ∧
      ∀ id, after.repository.backlogItems.get? id = if id = item.id then some settled else world.repository.backlogItems.get? id := by
  unfold settleItem at done
  split at done
  · rename_i unsettled
    cases done
    refine ⟨rfl,item,⟨rfl,rfl,.inl ⟨rfl,fun _ => unsettled⟩⟩,fun id => ?_⟩
    split
    · rename_i same
      rw [same,stored]
    · rfl
  · rename_i status settles
    obtain ⟨running,_⟩ := settlement_cases settles
    rw [exec_bind_ok] at done
    obtain ⟨written,middle,writing,done⟩ := done
    cases done
    obtain ⟨_,ok,_⟩ := exec_repository_ok.mp writing
    have wrote := congrArg Prod.snd (Except.ok.inj ok)
    dsimp only at wrote
    have expects : item.status ∈ [BacklogItemStatus.running] := by simp [running]
    obtain ⟨sameRuns,items⟩ :=
      world.repository.updateBacklogItem_found status (env.clock world.tick) stored expects
    rw [wrote] at sameRuns items
    refine ⟨sameRuns,{item with status := status,updatedAt := env.clock world.tick},
      ⟨rfl,rfl,.inr ⟨List.mem_cons_self,settles⟩⟩,fun id => ?_⟩
    rw [items,OrderedMap.get?_set]

theorem exec_settleBacklogItems_ok {runs : OrderedMap String BacklogItemRun} {answer : Unit}
    (done : (settleBacklogItems env runs items).exec world = (.ok answer,after))
    (stored : ∀ item ∈ items, world.repository.backlogItems.get? item.id = some item)
    (distinct : (items.map BacklogItem.id).Nodup) : after.repository.runs = world.repository.runs ∧
      (∀ id, (after.repository.backlogItems.get? id).isSome = (world.repository.backlogItems.get? id).isSome) ∧
      ∀ id settled, after.repository.backlogItems.get? id = some settled →
        ∃ item, world.repository.backlogItems.get? id = some item ∧ SettledAs runs items item settled := by
  induction items generalizing world with
  | nil =>
    cases done
    exact ⟨rfl,fun _ => rfl,fun id settled held => ⟨settled,held,rfl,rfl,.inl ⟨rfl,by simp⟩⟩⟩
  | cons item items ih =>
    change (settleItem env runs item >>= fun _ => settleBacklogItems env runs items).exec world = _ at done
    obtain ⟨fresh,distinct⟩ := List.nodup_cons.mp distinct
    rw [exec_bind_ok] at done
    obtain ⟨_,middle,first,rest⟩ := done
    obtain ⟨runsMiddle,settled,settledAs,tables⟩ := exec_settleItem_ok first (stored item List.mem_cons_self)
    have others : ∀ other ∈ items, other.id ≠ item.id := fun other inside same =>
      fresh (same ▸ List.mem_map_of_mem inside)
    have storedMiddle : ∀ other ∈ items, middle.repository.backlogItems.get? other.id = some other := by
      intro other inside
      rw [tables,if_neg (others other inside)]
      exact stored other (List.mem_cons_of_mem _ inside)
    obtain ⟨runsAfter,presence,found⟩ := ih rest storedMiddle distinct
    refine ⟨runsAfter.trans runsMiddle,fun id => ?_,fun id later held => ?_⟩
    · rw [presence,tables]
      split
      · rename_i same
        rw [same,stored item List.mem_cons_self]
        rfl
      · rfl
    · obtain ⟨here,heldMiddle,settledLater⟩ := found id later held
      rw [tables] at heldMiddle
      split at heldMiddle
      · rename_i same
        cases heldMiddle
        have named : settled.id = item.id := middle.repository.itemKeyed item.id settled (by rw [tables,if_pos rfl])
        have outside : settled ∉ items := fun inside => others settled inside named
        have status : later.status = settled.status :=
          settledLater.status.elim (fun kept => kept.1) fun again => absurd again.1 outside
        refine ⟨item,same ▸ stored item List.mem_cons_self,settledLater.run.trans settledAs.run,
          settledLater.backlog.trans settledAs.backlog,?_⟩
        rcases settledAs.status with ⟨kept,unsettled⟩ | ⟨_,settles⟩
        · exact .inl ⟨status.trans kept,fun _ => unsettled List.mem_cons_self⟩
        · exact .inr ⟨List.mem_cons_self,status.symm ▸ settles⟩
      · rename_i different
        refine ⟨here,heldMiddle,settledLater.run,settledLater.backlog,?_⟩
        rcases settledLater.status with ⟨kept,unsettled⟩ | ⟨inside,settles⟩
        · refine .inl ⟨kept,fun inside => ?_⟩
          rcases List.mem_cons.mp inside with rfl | inside
          · exact absurd (world.repository.itemKeyed id _ heldMiddle).symm different
          · exact unsettled inside
        · exact .inr ⟨List.mem_cons_of_mem _ inside,settles⟩

/-! ### The decision to stand still -/

section
variable {runs : OrderedMap String BacklogItemRun}

theorem awaitRun_idle {runId : String} (idle : awaitRun runs runId = .idle) :
    ∃ run, runs.get? runId = some run ∧ (InFlight run.status ∨ run.status = .succeeded) := by
  unfold awaitRun at idle
  split at idle
  · cases idle
  · rename_i run found
    refine ⟨run,found,?_⟩
    unfold InFlight
    cases status : run.status <;> simp [status] at idle ⊢

variable {previousRunId : Option String}

theorem startItem_not_idle {item : BacklogItem} : startItem runs item previousRunId ≠ .idle := by
  unfold startItem
  split
  · simp
  · split
    · simp
    · split <;> simp

theorem standing_idle {item : BacklogItem} (idle : standing runs item previousRunId = .idle) : ∃ runId run, item.runId = some runId ∧
      runs.get? runId = some run ∧ (InFlight run.status ∨ run.status = .succeeded) := by
  unfold standing at idle
  split at idle
  · rename_i runId named
    obtain ⟨run,found,waits⟩ := awaitRun_idle idle
    exact ⟨runId,run,named,found,waits⟩
  · split at idle
    · cases idle
    · exact absurd idle startItem_not_idle

theorem firstStanding_idle {items : List BacklogItem}
    (idle : firstStanding runs previousRunId items = .idle) : ∃ item ∈ items, item.status ≠ .skipped ∧
      item.status ≠ .succeeded ∧ ∃ previousRunId, standing runs item previousRunId = .idle := by
  induction items generalizing previousRunId with
  | nil => cases idle
  | cons item items ih =>
    unfold firstStanding at idle
    split at idle
    · obtain ⟨found,inside,rest⟩ := ih idle
      exact ⟨found,List.mem_cons_of_mem _ inside,rest⟩
    · rename_i unskipped
      split at idle
      · obtain ⟨found,inside,rest⟩ := ih idle
        exact ⟨found,List.mem_cons_of_mem _ inside,rest⟩
      · rename_i unfinished
        exact ⟨item,List.mem_cons_self,unskipped,unfinished,previousRunId,idle⟩

end

/-- A pending item has no run, and no item stands failed whose run has succeeded. -/
structure Coherent (repository : Repository) : Prop where
  unstarted : ∀ id item, repository.backlogItems.get? id = some item → item.status = .pending → item.runId = none
  unfailed : ∀ id item runId run, repository.backlogItems.get? id = some item → item.status = .failed →
    item.runId = some runId → repository.getRun runId = some run → run.status ≠ .succeeded

theorem Coherent.of_empty {repository : Repository} (empty : repository.backlogItems = .empty) : Coherent repository := by
  constructor
  · intro id item held
    rw [empty] at held
    cases held
  · intro id item runId run held
    rw [empty] at held
    cases held

theorem decideBacklog_waits {backlog : Backlog} (coherent : Coherent world.repository) (active : backlog.status = .active)
    (nonempty : world.repository.itemsOf backlog.id ≠ []) (few : (world.repository.itemsOf backlog.id).length ≤ 100)
    (done : (decideBacklog env backlog).exec world = (.ok .idle,after)) : HasRunInFlight world.repository backlog.id := by
  unfold decideBacklog at done
  rw [exec_bind_ok] at done
  obtain ⟨items,first,listing,done⟩ := done
  rw [exec_bind_ok] at done
  obtain ⟨runs,second,reading,done⟩ := done
  rw [exec_bind_ok] at done
  obtain ⟨_,third,settling,done⟩ := done
  rw [exec_bind_ok] at done
  obtain ⟨settled,fourth,relisting,done⟩ := done
  obtain ⟨rfl,firstSame⟩ := exec_listItems_ok listing
  obtain ⟨reads,secondSame⟩ := exec_readRuns_ok reading fun _ _ impossible => by cases impossible
  rw [firstSame] at reads secondSame
  obtain ⟨_,presence,versions⟩ := exec_settleBacklogItems_ok settling
    (fun item listed => by rw [secondSame]; exact (Repository.mem_listBacklogItems listed).1)
    (world.repository.listBacklogItems_nodup backlog.id 100)
  rw [secondSame] at presence versions
  obtain ⟨rfl,_⟩ := exec_listItems_ok relisting
  rw [exec_pure] at done
  have idle : advanceBacklog runs backlog (third.repository.listBacklogItems backlog.id 100) = .idle :=
    Except.ok.inj (Prod.mk.inj done).1
  unfold advanceBacklog at idle
  rw [if_neg (not_not.mpr active)] at idle
  have listed : byOrdinal (third.repository.listBacklogItems backlog.id 100) ≠ [] := by
    obtain ⟨item,mine⟩ := List.exists_mem_of_ne_nil _ nonempty
    obtain ⟨held,ofBacklog⟩ := Repository.mem_itemsOf.mp mine
    have still := presence item.id
    rw [held] at still
    obtain ⟨settled,heldSettled⟩ := Option.isSome_iff_exists.mp still
    obtain ⟨before,heldBefore,version⟩ := versions _ _ heldSettled
    cases heldBefore.symm.trans held
    have named := third.repository.itemKeyed _ _ heldSettled
    have page : third.repository.listBacklogItems backlog.id 100 ≠ [] :=
      Repository.page_nonempty (Repository.mem_itemsOf.mpr ⟨named.symm ▸ heldSettled,version.backlog.trans ofBacklog⟩)
    intro empty
    apply page
    exact List.length_eq_zero_iff.mp ((List.length_insertionSort _ _).symm.trans (congrArg List.length empty))
  rw [if_neg listed] at idle
  obtain ⟨settled,inside,unskipped,unfinished,_,stands⟩ := firstStanding_idle idle
  obtain ⟨heldSettled,ofBacklog⟩ := Repository.mem_listBacklogItems ((List.mem_insertionSort _).mp inside)
  obtain ⟨item,held,version⟩ := versions _ _ heldSettled
  obtain ⟨runId,run,named,known,waits⟩ := standing_idle stands
  obtain ⟨current,found,status⟩ := reads runId run known
  have named : item.runId = some runId := version.run.symm.trans named
  have itemNamed := world.repository.itemKeyed _ _ held
  have mine : item ∈ world.repository.itemsOf backlog.id :=
    Repository.mem_itemsOf.mpr ⟨itemNamed.symm ▸ held,version.backlog.symm.trans ofBacklog⟩
  rw [status] at waits
  rcases waits with flying | succeeded
  · exact ⟨item,mine,runId,current,named,found,flying⟩
  · exfalso
    have listed : item ∈ world.repository.listBacklogItems backlog.id 100 := (Repository.mem_page_iff few).mpr mine
    rcases version.status with ⟨kept,unsettled⟩ | ⟨_,settles⟩
    · cases itemStatus : item.status with
      | pending =>
        have unstarted := coherent.unstarted _ item held itemStatus
        rw [named] at unstarted
        cases unstarted
      | running =>
        have settles : settlement runs item = some .succeeded := by
          simp [settlement,itemStatus,named,known,settledStatus,status,succeeded]
        rw [unsettled listed] at settles
        cases settles
      | succeeded => exact unfinished (kept.trans itemStatus)
      | skipped => exact unskipped (kept.trans itemStatus)
      | failed => exact coherent.unfailed _ item runId current held itemStatus named found succeeded
    · obtain ⟨_,_,run',named',known',ended⟩ := settlement_cases settles
      cases named'.symm.trans named
      cases known'.symm.trans known
      rw [status,succeeded] at ended
      exact unfinished (Option.some.inj ended).symm

/-! ### What a step does to the items -/

inductive ItemStep (before : Repository) (id : String) (item : BacklogItem) : Prop
  | same (held : before.backlogItems.get? id = some item)
  | filed (pending : item.status = .pending) (unstarted : item.runId = none)
  | moved (status : item.status = .running ∨ item.status = .succeeded ∨ item.status = .skipped)
  | failed (status : item.status = .failed) (fresh : ∀ old, before.backlogItems.get? id = some old → old.status ≠ .failed)

def ItemSteps (before after : Repository) : Prop :=
  ∀ id item, after.backlogItems.get? id = some item → ItemStep before id item

namespace ItemSteps
variable {before after : Repository}

theorem of_items (same : after.backlogItems = before.backlogItems) : ItemSteps before after :=
  fun _ _ held => .same (same ▸ held)

variable {id : String}

theorem of_set {item : BacklogItem} (set : after.backlogItems = before.backlogItems.set id item)
    (here : ItemStep before id item) : ItemSteps before after := by
  intro other found held
  rw [set] at held
  rcases OrderedMap.get?_set_some held with ⟨rfl,rfl⟩ | ⟨_,held⟩
  · exact here
  · exact .same held

theorem update {expected : List BacklogItemStatus} {status : BacklogItemStatus} {runId : Option String}
    {at_ : Instant} (done : (before.updateBacklogItem id expected status runId at_).2 = after)
    (moves : status = .running ∨ status = .succeeded ∨ status = .skipped ∨ status = .failed ∧ .failed ∉ expected) :
    ItemSteps before after := by
  rcases Repository.updateBacklogItem_eq done with rfl | ⟨existing,updated,found,expects,rfl,items,_,_⟩
  · exact of_items rfl
  · apply of_set items
    rcases moves with moves | moves | moves | ⟨fails,fresh⟩
    · exact .moved (.inl moves)
    · exact .moved (.inr (.inl moves))
    · exact .moved (.inr (.inr moves))
    · refine .failed fails fun old held failed => ?_
      cases held.symm.trans found
      rw [failed] at expects
      exact fresh expects

theorem file {item answer : BacklogItem} (ok : before.createBacklogItemIdempotently item = .ok (answer,after))
    (pending : item.status = .pending) (unstarted : item.runId = none) : ItemSteps before after := by
  obtain ⟨_,⟨rfl,_⟩ | ⟨_,rfl,items,_⟩⟩ := Repository.createBacklogItemIdempotently_ok ok
  · exact of_items rfl
  · exact of_set items (.filed pending unstarted)

theorem delete (done : (before.deleteBacklog id).2 = after) : ItemSteps before after := by
  rcases Repository.deleteBacklog_eq done with rfl | ⟨_,_,_,items,_⟩
  · exact of_items rfl
  · exact fun key item held => .same ((items key item).mp held).1

theorem status {expected : List BacklogStatus} {status : BacklogStatus} {reason : Option String} {at_ : Instant}
    (done : (before.updateBacklogStatus id expected status reason at_).2 = after) : ItemSteps before after := by
  rcases Repository.updateBacklogStatus_eq done with rfl | ⟨_,_,_,_,_,_,_,rfl⟩ <;> exact of_items rfl

end ItemSteps

def LateSuccess (before after : Repository) : Prop :=
  ∃ id item runId run, before.backlogItems.get? id = some item ∧ item.status = .failed ∧ item.runId = some runId ∧
    (∀ run, before.getRun runId = some run → run.status ≠ .succeeded) ∧ after.getRun runId = some run ∧ run.status = .succeeded

def StaleFailure (before after : Repository) : Prop :=
  ∃ id item runId run, after.backlogItems.get? id = some item ∧ item.status = .failed ∧
    (∀ old, before.backlogItems.get? id = some old → old.status ≠ .failed) ∧ item.runId = some runId ∧
    after.getRun runId = some run ∧ run.status = .succeeded

theorem Coherent.step {before after : Repository} (coherent : Coherent before) (steps : ItemSteps before after)
    (timely : ¬ LateSuccess before after) (current : ¬ StaleFailure before after) : Coherent after := by
  constructor
  · intro id item held pending
    cases steps id item held with
    | same held => exact coherent.unstarted id item held pending
    | filed _ unstarted => exact unstarted
    | moved status => simp [pending] at status
    | failed status => simp [pending] at status
  · intro id item runId run held failed named found succeeded
    cases steps id item held with
    | same heldBefore =>
      refine timely ⟨id,item,runId,run,heldBefore,failed,named,fun old foundBefore => ?_,found,succeeded⟩
      exact coherent.unfailed id item runId old heldBefore failed named foundBefore
    | filed pending => simp [failed] at pending
    | moved status => simp [failed] at status
    | failed _ fresh => exact current ⟨id,item,runId,run,held,failed,fresh,named,found,succeeded⟩

/-! ### Histories -/

def Apart (before after : World) : Prop := Repository.SameBacklogs before.repository after.repository

theorem creates_apart : Creates (fun _ => True) Apart where
  quiet _ _ unmoved := unmoved.toSameBacklogs
  undispatched := by
    rintro before _ ⟨_,_,_,_,_,_,ok,rfl⟩
    exact .transitionRun ok
  inserted _ _ _ _ _ _ ok := (Repository.createRunIdempotently_eq ok).1

theorem commitStagedEvent_apart (repository : Repository) (staged : Repository.Staged repository) :
    Repository.SameBacklogs repository (repository.commitStagedEvent staged) := by
  unfold Repository.commitStagedEvent
  split <;> exact ⟨rfl,rfl,rfl,rfl⟩

theorem appendEvent_apart {before after : Repository} {draft : EventDraft} {event : Event}
    (ok : before.appendEvent draft = .ok (event,after)) : Repository.SameBacklogs before after := by
  obtain ⟨staged,_,_,rfl⟩ := Repository.appendEvent_ok ok
  exact commitStagedEvent_apart before staged

theorem resumes_apart : Resumes env Apart where
  passed := creates_apart.passed
  released _ _ := .refl _
  start _ _ _ := creates_apart.requestStart _
  reopen _ _ _ := takes_repository creates_apart.passed fun _ _ _ _ ok => .transitionRun ok
  record _ _ _ := takes_repository creates_apart.passed fun _ _ _ _ ok => appendEvent_apart ok

theorem transitionRun_leaves_backlogs (id : String) (statuses : List RunStatus) (update : Instant → RunUpdate) (version : Option Nat) :
    (repository env fun at_ repository => repository.transitionRun id statuses (update at_) version).Takes Apart :=
  takes_repository creates_apart.passed fun _ _ _ _ ok => .transitionRun ok

/-- Whatever acts on backlogs or beside them. A run completes, fails, is cancelled or
resumed beside them. -/
inductive BacklogActor (env : Environment) (pages : Nat) : Thread World → Prop
  | pass (projectId : String) : BacklogActor env pages (advanceBacklogs env pages projectId).thread
  | creation (idempotencyKey : String) (input : BacklogInput) :
      BacklogActor env pages (createBacklog env idempotencyKey input).thread
  | status (id : String) (asked : AskedStatus) : BacklogActor env pages (setBacklogStatus env id asked).thread
  | deletion (id : String) : BacklogActor env pages (deleteBacklog env id).thread
  | skip (id : String) (expected : List BacklogItemStatus) : BacklogActor env pages
      (repository env fun at_ repository => .ok (repository.updateBacklogItem id expected .skipped none at_)).thread
  | beside {thread : Thread World} (apart : thread.Takes Apart) : BacklogActor env pages thread

theorem advances_items : ControlPlane.Advances (fun _ => True) fun before after : World => ItemSteps before.repository after.repository where
  quiet _ _ unmoved := .of_items unmoved.items
  undispatched := by
    rintro before _ ⟨_,_,_,_,_,_,ok,rfl⟩
    exact .of_items (Repository.SameBacklogs.transitionRun ok).items
  inserted _ _ _ _ _ _ ok := .of_items (Repository.createRunIdempotently_eq ok).1.items
  settled _ _ _ _ _ status done := .update done (by
    rcases status with status | status
    · exact .inr (.inl status)
    · exact .inr (.inr (.inr ⟨status,by simp⟩)))
  attached _ _ _ _ _ done := .update done (.inl rfl)
  paused _ _ _ _ _ done := .status done

theorem BacklogActor.takes {thread : Thread World} (actor : BacklogActor env pages thread) :
    thread.Takes fun before after => ItemSteps before.repository after.repository := by
  cases actor with
  | pass projectId =>
    exact (advances_items.advanceBacklogs projectId (fun _ => trivial) fun _ _ _ _ done => .status done).thread
  | creation idempotencyKey input =>
    refine (createBacklog_takes advances_items.quiet (fun _ _ _ _ ok => ?_) fun _ _ _ _ _ _ _ ok => ?_).thread
    · obtain ⟨_,_,rfl⟩ := Repository.createBacklog_ok ok
      exact .of_items rfl
    · exact .file ok rfl rfl
  | status id asked => exact (setBacklogStatus_takes advances_items.quiet fun _ _ _ done => .status done).thread
  | deletion id => exact (deleteBacklog_takes advances_items.quiet fun _ _ done => .delete done).thread
  | skip id expected =>
    refine (takes_repository advances_items.passed fun at_ world _ next ok => ?_).thread
    exact .update (congrArg Prod.snd (Except.ok.inj ok)) (.inr (.inr (.inl rfl)))
  | beside apart => exact apart.mono fun _ _ same => .of_items same.items

theorem Coherent.history {ι : Type} [DecidableEq ι] {pool later : ι → Thread World} {trace : List (Moment ι World)}
    (actors : ∀ who, BacklogActor env pages (pool who)) (ran : Interleaved pool world trace later after)
    (coherent : Coherent world.repository) (timely : ∀ moment ∈ trace, ¬ LateSuccess moment.before.repository moment.after.repository)
    (current : ∀ moment ∈ trace, ¬ StaleFailure moment.before.repository moment.after.repository) : Coherent after.repository := by
  have steps := ran.moments fun who => (actors who).takes
  refine ran.preserved (fun world => Coherent world.repository) (fun moment inside held => ?_) coherent
  exact held.step (steps moment inside) (timely moment inside) (current moment inside)

/-- In every history in which no run succeeds while its item stands failed and no item is
settled as failed after its run succeeded, a pass that stands still on an active backlog
with items, a page of them at most, waits for a run of one of them. -/
theorem idle_backlog_waits {ι : Type} [DecidableEq ι] {pool later : ι → Thread World} {trace : List (Moment ι World)}
    (actors : ∀ who, BacklogActor env pages (pool who)) (ran : Interleaved pool world trace later after)
    (coherent : Coherent world.repository) (timely : ∀ moment ∈ trace, ¬ LateSuccess moment.before.repository moment.after.repository)
    (current : ∀ moment ∈ trace, ¬ StaleFailure moment.before.repository moment.after.repository)
    {backlog : Backlog} {decided : World} (active : backlog.status = .active)
    (nonempty : after.repository.itemsOf backlog.id ≠ []) (few : (after.repository.itemsOf backlog.id).length ≤ 100)
    (idle : (decideBacklog env backlog).exec after = (.ok .idle,decided)) : HasRunInFlight after.repository backlog.id :=
  decideBacklog_waits (coherent.history actors ran timely current) active nonempty few idle

/-! ### A resumed item -/

def plainEnvironment : Environment := {Environment.steady with composition := {workflowDispatch := false}}

def configuredWorld : World := {repository := {
  projects := OrderedMap.empty.set "project-1" {id := "project-1",name := "",createdAt := 0,updatedAt := 0}
  configRevisions := OrderedMap.empty.set "revision-1"
    {id := "revision-1",projectId := "project-1",revision := 1,config := .obj [],createdAt := 0}}}

def oneFeature : BacklogInput where
  projectId := "project-1"
  title := "Features"
  items := [("First feature","")]

def firstRun : String := "feature:backlog:backlog:key-1:item:1"

def endingRun (statuses : List RunStatus) (status : RunStatus) : Thread World :=
  (repository plainEnvironment fun at_ repository => repository.transitionRun firstRun statuses
    {status := some status,updatedAt := at_} none).thread

/-- A backlog is created and dispatched, its run fails, a pass settles and pauses it; the
operator resumes the run, which succeeds, and then the backlog. -/
def resumption : Fin 7 → Thread World
  | 0 => (createBacklog plainEnvironment "key-1" oneFeature).thread
  | 1 => (advanceBacklogs plainEnvironment 1 "project-1").thread
  | 2 => endingRun [.pending] .failed
  | 3 => (advanceBacklogs plainEnvironment 1 "project-1").thread
  | 4 => (resumeRun plainEnvironment firstRun {}).thread
  | 5 => endingRun [.pending] .succeeded
  | 6 => (setBacklogStatus plainEnvironment "backlog:key-1" .active).thread

theorem resumption_acts (who : Fin 7) : BacklogActor plainEnvironment 1 (resumption who) := by
  match who with
  | 0 => exact .creation _ _
  | 1 => exact .pass _
  | 2 => exact .beside (transitionRun_leaves_backlogs _ _ _ _).thread
  | 3 => exact .pass _
  | 4 => exact .beside (resumes_apart.resumeRun _ _).thread
  | 5 => exact .beside (transitionRun_leaves_backlogs _ _ _ _).thread
  | 6 => exact .status _ _

def inTurn : List (Fin 7) :=
  List.replicate 6 0 ++ List.replicate 9 1 ++ [2] ++ List.replicate 6 3 ++ List.replicate 7 4 ++ [5] ++ [6,6]

def stalledBacklog : Backlog where
  id := "backlog:key-1"
  projectId := "project-1"
  title := "Features"
  status := .active
  createdAt := 60000
  updatedAt := 1800000

/-- The next pass stands still on the active backlog, and nothing is in flight. -/
theorem resumed_item_stalls : (∀ who, BacklogActor plainEnvironment 1 (resumption who)) ∧ Coherent configuredWorld.repository ∧
    ∃ trace later after, Interleaved resumption configuredWorld trace later after ∧
      after.repository.getBacklog "backlog:key-1" = some stalledBacklog ∧ (after.repository.itemsOf "backlog:key-1").length = 1 ∧
      ((decideBacklog plainEnvironment stalledBacklog).exec after).1.toOption = some .idle ∧
      ¬ HasRunInFlight after.repository "backlog:key-1" := by
  refine ⟨resumption_acts,.of_empty rfl,_,_,_,interleaved_play inTurn resumption configuredWorld,?_⟩
  decide +kernel

def dispatched : List (Fin 7) := List.replicate 6 0 ++ List.replicate 9 1

def dispatchedWorld : World := (play dispatched resumption configuredWorld).2.2

theorem idle_backlog_waits_dispatched : HasRunInFlight dispatchedWorld.repository "backlog:key-1" := by
  have calm : ∀ moment ∈ (play dispatched resumption configuredWorld).1,
      (∀ item ∈ moment.before.repository.backlogItems.values, item.status ≠ .failed) ∧
        ∀ item ∈ moment.after.repository.backlogItems.values, item.status ≠ .failed := by
    decide +kernel
  have active : (newBacklog "backlog:key-1" oneFeature 60000).status = .active := rfl
  have idle : ((decideBacklog plainEnvironment (newBacklog "backlog:key-1" oneFeature 60000)).exec dispatchedWorld).1 =
      .ok .idle := by rfl
  refine idle_backlog_waits resumption_acts (interleaved_play dispatched resumption configuredWorld) (.of_empty rfl) ?_ ?_
    active (by decide +kernel) (by decide +kernel) (Prod.ext idle rfl)
  · rintro moment inside ⟨id,item,_,_,held,failed,_⟩
    exact (calm moment inside).1 item ((OrderedMap.mem_values _ _).mpr ⟨id,held⟩) failed
  · rintro moment inside ⟨id,item,_,_,held,failed,_⟩
    exact (calm moment inside).2 item ((OrderedMap.mem_values _ _).mpr ⟨id,held⟩) failed

end AgentOS.System
