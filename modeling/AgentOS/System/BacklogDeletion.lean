import AgentOS.System.BacklogCompletion

/-! The deletion of backlogs. A deleted backlog has produced no run and none is created
for it later, unless the deletion falls into a dispatch of one of its items. -/
namespace AgentOS.System
open Library ControlPlane Routine AgentOS.Action
open OrderedMap (get?_set get?_set_some)
variable {env : Environment} {pages : Nat}

/-! ### What every step does to the backlogs -/

structure Shelves (before after : Repository) : Prop where
  attached : ∀ id item, before.backlogItems.get? id = some item → item.runId.isSome →
    ∃ later, after.backlogItems.get? id = some later ∧ later.backlogId = item.backlogId ∧ later.runId.isSome
  stored : ∀ id item, before.backlogItems.get? id = some item → (after.getBacklog item.backlogId).isSome →
    ∃ later, after.backlogItems.get? id = some later ∧ later.backlogId = item.backlogId
  sheltered : ∀ id later, after.backlogItems.get? id = some later →
    (∃ item, before.backlogItems.get? id = some item ∧ item.backlogId = later.backlogId) ∨
      (after.getBacklog later.backlogId).isSome
  emptied : ∀ id, (before.getBacklog id).isSome → after.getBacklog id = none →
    ∀ key item, after.backlogItems.get? key = some item → item.backlogId ≠ id

namespace Shelves
variable {before after : Repository}

theorem of_items (items : after.backlogItems = before.backlogItems)
    (backlogs : ∀ id, (before.getBacklog id).isSome → (after.getBacklog id).isSome) : Shelves before after where
  attached id item held run := ⟨item,items ▸ held,rfl,run⟩
  stored id item held _ := ⟨item,items ▸ held,rfl⟩
  sheltered id later held := .inl ⟨later,items ▸ held,rfl⟩
  emptied id there gone := by
    have still := backlogs id there
    rw [gone] at still
    cases still

theorem of_same (items : after.backlogItems = before.backlogItems) (backlogs : after.backlogs = before.backlogs) :
    Shelves before after := of_items items fun id there => by rwa [Repository.getBacklog,backlogs]

theorem of_tables (same : Repository.SameBacklogs before after) : Shelves before after := of_same same.items same.backlogs

theorem shelve {backlog : Backlog} (set : after = before.setBacklog backlog) : Shelves before after := by
  subst set
  refine of_items rfl fun id there => ?_
  change ((before.backlogs.set backlog.id backlog).get? id).isSome
  rw [get?_set]
  split
  · rfl
  · exact there

theorem status {id : String} {expected : List BacklogStatus} {status : BacklogStatus} {reason : Option String} {at_ : Instant}
    (done : (before.updateBacklogStatus id expected status reason at_).2 = after) : Shelves before after := by
  rcases Repository.updateBacklogStatus_eq done with rfl | ⟨_,_,_,_,_,_,_,set⟩
  · exact of_same rfl rfl
  · exact shelve set

theorem update {id : String} {expected : List BacklogItemStatus} {status : BacklogItemStatus} {runId : Option String}
    {at_ : Instant} (done : (before.updateBacklogItem id expected status runId at_).2 = after) : Shelves before after := by
  rcases Repository.updateBacklogItem_eq done with rfl | ⟨existing,updated,held,_,rfl,set,backlogs,_⟩
  · exact of_same rfl rfl
  have moved : ∀ other item, before.backlogItems.get? other = some item → ∃ later, after.backlogItems.get? other = some later ∧
      later.backlogId = item.backlogId ∧ (item.runId.isSome → later.runId.isSome) := by
    intro other item found
    rw [set,get?_set]
    split
    · rename_i same
      cases (same ▸ held).symm.trans found
      refine ⟨_,rfl,rfl,fun run => ?_⟩
      rw [Option.isSome_or,run,Bool.or_true]
    · exact ⟨item,found,rfl,fun run => run⟩
  constructor
  · intro other item found run
    obtain ⟨later,there,same,kept⟩ := moved other item found
    exact ⟨later,there,same,kept run⟩
  · intro other item found _
    obtain ⟨later,there,same,_⟩ := moved other item found
    exact ⟨later,there,same⟩
  · intro other later found
    rw [set] at found
    rcases get?_set_some found with ⟨rfl,rfl⟩ | ⟨_,found⟩
    · exact .inl ⟨existing,held,rfl⟩
    · exact .inl ⟨later,found,rfl⟩
  · intro other there gone
    rw [Repository.getBacklog,backlogs] at gone
    rw [Repository.getBacklog,gone] at there
    cases there

theorem file {item answer : BacklogItem} (ok : before.createBacklogItemIdempotently item = .ok (answer,after)) :
    Shelves before after := by
  obtain ⟨there,⟨rfl,_⟩ | ⟨fresh,_,set,backlogs,_⟩⟩ := Repository.createBacklogItemIdempotently_ok ok
  · exact of_same rfl rfl
  have kept : ∀ other found, before.backlogItems.get? other = some found → after.backlogItems.get? other = some found := by
    intro other found held
    rw [set,get?_set,if_neg]
    · exact held
    · rintro rfl
      rw [fresh] at held
      cases held
  constructor
  · exact fun other found held run => ⟨found,kept other found held,rfl,run⟩
  · exact fun other found held _ => ⟨found,kept other found held,rfl⟩
  · intro other later held
    rw [set] at held
    rcases get?_set_some held with ⟨_,rfl⟩ | ⟨_,held⟩
    · right
      rwa [Repository.getBacklog,backlogs]
    · exact .inl ⟨later,held,rfl⟩
  · intro id stored gone
    rw [Repository.getBacklog,backlogs] at gone
    rw [Repository.getBacklog,gone] at stored
    cases stored

theorem delete {id : String} (done : (before.deleteBacklog id).2 = after) : Shelves before after := by
  rcases Repository.deleteBacklog_eq done with rfl | ⟨unrun,_,backlogs,items,_⟩
  · exact of_same rfl rfl
  have erased : after.getBacklog id = none := by
    rw [Repository.getBacklog,backlogs,if_pos rfl]
  constructor
  · intro other item held run
    refine ⟨item,(items other item).mpr ⟨held,fun same => ?_⟩,rfl,run⟩
    have named := before.itemKeyed other item held
    rw [unrun item (Repository.mem_itemsOf.mpr ⟨named.symm ▸ held,same⟩)] at run
    cases run
  · intro other item held still
    refine ⟨item,(items other item).mpr ⟨held,fun same => ?_⟩,rfl⟩
    rw [same,erased] at still
    cases still
  · exact fun other later held => .inl ⟨later,((items other later).mp held).1,rfl⟩
  · intro other there gone key item held
    by_cases same : other = id
    · rw [same]
      exact ((items key item).mp held).2
    · rw [Repository.getBacklog,backlogs,if_neg same] at gone
      rw [Repository.getBacklog,gone] at there
      cases there

end Shelves

def Sheltered (repository : Repository) : Prop :=
  ∀ id item, repository.backlogItems.get? id = some item → (repository.getBacklog item.backlogId).isSome

theorem Sheltered.step {before after : Repository} (sheltered : Sheltered before) (shelves : Shelves before after) :
    Sheltered after := by
  intro id later held
  rcases shelves.sheltered id later held with ⟨item,found,same⟩ | there
  · have there := sheltered id item found
    rw [same] at there
    by_contra gone
    exact shelves.emptied _ there (Option.not_isSome_iff_eq_none.mp gone) id later held rfl
  · exact there

theorem advances_shelves : ControlPlane.Advances (fun _ => True)
    fun before after : World => Shelves before.repository after.repository where
  quiet _ _ unmoved := .of_tables unmoved.toSameBacklogs
  undispatched := by
    rintro before _ ⟨_,_,_,_,_,_,ok,rfl⟩
    exact .of_tables (.transitionRun ok)
  inserted _ _ _ _ _ _ ok := .of_tables (Repository.createRunIdempotently_eq ok).1
  settled _ _ _ _ _ _ done := .update done
  attached _ _ _ _ _ done := .update done
  paused _ _ _ _ _ done := .status done

theorem BacklogActor.shelves {thread : Thread World} (actor : BacklogActor env pages thread) :
    thread.Takes fun before after => Shelves before.repository after.repository := by
  have quiet := advances_shelves.quiet
  cases actor with
  | pass projectId =>
    exact (advances_shelves.advanceBacklogs projectId (fun _ => trivial) fun _ _ _ _ done => .status done).thread
  | creation idempotencyKey input =>
    refine (createBacklog_takes quiet (fun _ _ _ _ ok => ?_) fun _ _ _ _ _ _ _ ok => .file ok).thread
    obtain ⟨_,_,set⟩ := Repository.createBacklog_ok ok
    exact .shelve set
  | status id asked => exact (setBacklogStatus_takes quiet fun _ _ _ done => .status done).thread
  | deletion id => exact (deleteBacklog_takes quiet fun _ _ done => .delete done).thread
  | skip id expected =>
    refine (takes_repository advances_shelves.passed fun at_ world _ next ok => ?_).thread
    exact .update (congrArg Prod.snd (Except.ok.inj ok))
  | beside apart => exact apart.mono fun _ _ same => .of_tables same

/-! ### Creating and deleting -/

def Deletes (id : String) (before after : World) : Prop :=
  (before.repository.getBacklog id).isSome ∧ after.repository.getBacklog id = none

instance (id : String) (before after : World) : Decidable (Deletes id before after) := inferInstanceAs (Decidable (_ ∧ _))

def Inserts (before after : World) : Prop :=
  ∃ id, before.repository.getRun id = none ∧ (after.repository.getRun id).isSome

theorem not_inserts {before after : World} (same : after.repository.runs = before.repository.runs) : ¬ Inserts before after := by
  rintro ⟨id,absent,there⟩
  rw [Repository.getRun,same,← Repository.getRun,absent] at there
  cases there

theorem advances_uninserting : ControlPlane.Advances (fun _ => False) fun before after => ¬ Inserts before after where
  quiet _ _ unmoved := not_inserts unmoved.runs
  undispatched := by
    rintro before _ ⟨_,_,_,_,_,_,ok,rfl⟩ ⟨id,absent,there⟩
    rcases Repository.transitionRun_ok ok with ⟨_,rfl⟩ | ⟨current,moved,found,_,moves,_,rfl⟩
    · rw [absent] at there
      cases there
    · have named : moved.id = current.id := by rw [moves]; rfl
      obtain ⟨run,held⟩ := Option.isSome_iff_exists.mp there
      rcases get?_set_some held with ⟨rfl,_⟩ | ⟨_,held⟩
      · rw [named,before.repository.keyed _ _ found,found] at absent
        cases absent
      · rw [Repository.getRun,held] at absent
        cases absent
  inserted _ _ _ _ _ impossible := impossible.elim
  settled world _ _ _ _ _ done := by
    rcases Repository.updateBacklogItem_eq done with rfl | ⟨_,_,_,_,_,_,_,runs⟩
    · exact not_inserts rfl
    · exact not_inserts runs
  attached world _ _ _ _ done := by
    rcases Repository.updateBacklogItem_eq done with rfl | ⟨_,_,_,_,_,_,_,runs⟩
    · exact not_inserts rfl
    · exact not_inserts runs
  paused world _ _ _ _ done := by
    rcases Repository.updateBacklogStatus_eq done with rfl | ⟨_,_,_,_,_,_,_,rfl⟩ <;> exact not_inserts rfl

theorem pass_keeps_backlogs (env : Environment) (pages : Nat) (projectId id : String) : (advanceBacklogs env pages projectId).Takes fun before after =>
    (after.repository.getBacklog id).isSome = (before.repository.getBacklog id).isSome := by
  have same : ∀ before after : World, after.repository.backlogs = before.repository.backlogs →
      (after.repository.getBacklog id).isSome = (before.repository.getBacklog id).isSome := by
    intro before after same
    rw [Repository.getBacklog,same]
    rfl
  have status : ∀ (world : World) other expected status reason at_ next,
      (world.repository.updateBacklogStatus other expected status reason at_).2 = next →
      (next.getBacklog id).isSome = (world.repository.getBacklog id).isSome := by
    intro world other expected status reason at_ next done
    rcases Repository.updateBacklogStatus_eq done with rfl | ⟨existing,updated,found,_,named,_,_,rfl⟩
    · rfl
    · change ((world.repository.backlogs.set updated.id updated).get? id).isSome = _
      rw [get?_set]
      split
      · rename_i here
        rw [here,named,Repository.getBacklog,found]
        rfl
      · rfl
  have item : ∀ (world : World) other expected status runId at_ next,
      (world.repository.updateBacklogItem other expected status runId at_).2 = next →
      next.backlogs = world.repository.backlogs := by
    intro world other expected status runId at_ next done
    rcases Repository.updateBacklogItem_eq done with rfl | ⟨_,_,_,_,_,_,backlogs,_⟩
    · rfl
    · exact backlogs
  have advances : ControlPlane.Advances (fun _ => True) fun before after =>
      (after.repository.getBacklog id).isSome = (before.repository.getBacklog id).isSome := by
    constructor
    · constructor
      · exact fun _ _ unmoved => same _ _ unmoved.backlogs
      · rintro before _ ⟨_,_,_,_,_,_,ok,rfl⟩
        exact same _ _ (Repository.SameBacklogs.transitionRun ok).backlogs
      · exact fun _ _ _ _ _ _ ok => same _ _ (Repository.createRunIdempotently_eq ok).1.backlogs
    · exact fun world _ _ _ _ _ done => same world _ (item world _ _ _ _ _ _ done)
    · exact fun world _ _ _ _ done => same world _ (item world _ _ _ _ _ _ done)
    · exact fun world _ _ _ _ done => status world _ _ _ _ _ _ done
  exact advances.advanceBacklogs projectId (fun _ => trivial) fun world _ _ _ done => status world _ _ _ _ _ _ done

theorem not_deletes {id : String} {before after : World}
    (same : (after.repository.getBacklog id).isSome = (before.repository.getBacklog id).isSome) : ¬ Deletes id before after := by
  rintro ⟨there,gone⟩
  rw [there,gone] at same
  cases same

/-! ### Dispatches -/

variable {runs : OrderedMap String BacklogItemRun}

theorem standing_dispatch {item dispatched : BacklogItem} {previousRunId baseRunId : Option String}
    (decided : standing runs item previousRunId = .dispatch dispatched baseRunId) : dispatched = item := by
  unfold standing awaitRun startItem at decided
  repeat' split at decided
  all_goals cases decided
  all_goals rfl

theorem advanceBacklog_dispatch {backlog : Backlog} {items : List BacklogItem} {dispatched : BacklogItem} {baseRunId : Option String}
    (decided : advanceBacklog runs backlog items = .dispatch dispatched baseRunId) : dispatched ∈ items := by
  have listed : ∀ items previousRunId, firstStanding runs previousRunId items = .dispatch dispatched baseRunId →
      dispatched ∈ items := by
    intro items
    induction items with
    | nil => exact nofun
    | cons item items ih =>
      intro previousRunId decided
      unfold firstStanding at decided
      split at decided
      · exact List.mem_cons_of_mem _ (ih _ decided)
      · split at decided
        · exact List.mem_cons_of_mem _ (ih _ decided)
        · rw [standing_dispatch decided]
          exact List.mem_cons_self
  unfold advanceBacklog at decided
  split at decided
  · cases decided
  split at decided
  · cases decided
  · exact (List.mem_insertionSort _).mp (listed _ _ decided)

def Begun (env : Environment) (pages : Nat) (projectId : String) (backlog : Backlog) (item : BacklogItem)
    (baseRunId : Option String) (taken : List (World × World)) : Prop :=
  ∃ path listed, taken = path ++ listed ∧
    Calls (decideBacklog env backlog) (advanceBacklogs env pages projectId) path ∧
    (decideBacklog env backlog).Ends listed (.ok (.dispatch item baseRunId))

theorem inserts_dispatched {projectId : String} {early : List (World × World)} {moment : World × World}
    (walks : (advanceBacklogs env pages projectId).Walks (early ++ [moment])) (inserts : Inserts moment.1 moment.2) :
    ∃ backlog item baseRunId taken rest, early = taken ++ rest ∧
      (∃ first ∈ early, backlog ∈ first.1.repository.listBacklogs projectId 100) ∧
      Begun env pages projectId backlog item baseRunId taken ∧
      (dispatchBacklogItem env pages backlog item baseRunId).Walks (rest ++ [moment]) := by
  have quiet := advances_uninserting
  obtain ⟨backlog,path,listed,decision,acting,rfl,⟨first,inside,there⟩,calls,decides,acts⟩ :=
    pass_acts quiet walks (not_not.mpr inserts)
  have seen : ∃ first ∈ path ++ listed ++ acting, backlog ∈ first.1.repository.listBacklogs projectId 100 :=
    ⟨first,by simp [inside],there⟩
  cases decision with
  | idle =>
    have nothing := walks_pure.mp acts
    simp at nothing
  | complete =>
    have writes : (completeBacklog env backlog.id).Takes fun before after => ¬ Inserts before after := by
      refine .bind (takes_repository quiet.passed fun at_ world _ next ok => ?_) fun _ => takes_pure _
      rcases Repository.updateBacklogStatus_eq (congrArg Prod.snd (Except.ok.inj ok)) with rfl | ⟨_,_,_,_,_,_,_,rfl⟩ <;>
        exact not_inserts rfl
    exact absurd inserts (writes.walks acts moment (by simp))
  | pause reason => exact absurd inserts ((quiet.pauseBacklog _ _).walks acts moment (by simp))
  | dispatch item baseRunId => exact ⟨backlog,item,baseRunId,_,acting,rfl,seen,⟨path,listed,rfl,calls,decides⟩,acts⟩

/-! ### Histories -/

def Attached (id itemId : String) (repository : Repository) : Prop :=
  ∃ item, repository.backlogItems.get? itemId = some item ∧ item.backlogId = id ∧ item.runId.isSome

theorem Shelves.keeps_attached {before after : Repository} (shelves : Shelves before after) {id itemId : String}
    (attached : Attached id itemId before) : Attached id itemId after := by
  obtain ⟨item,held,mine,run⟩ := attached
  obtain ⟨later,there,same,still⟩ := shelves.attached itemId item held run
  exact ⟨later,there,same.trans mine,still⟩

theorem Shelves.not_attached {before after : World} (shelves : Shelves before.repository after.repository) {id : String}
    (deletes : Deletes id before after) (itemId : String) : ¬ Attached id itemId before.repository := by
  intro attached
  obtain ⟨item,held,mine,_⟩ := shelves.keeps_attached attached
  exact shelves.emptied id deletes.1 deletes.2 itemId item held mine

def Recorded (id itemId : String) (taken : List (World × World)) : Prop :=
  (∃ step ∈ taken, Inserts step.1 step.2) → ∃ step ∈ taken, Attached id itemId step.2.repository

def Quiesced (env : Environment) (pages : Nat) (backlog : Backlog) (item : BacklogItem) (baseRunId : Option String)
    (rest remaining : List (World × World)) : Prop :=
  (∃ taken more answer, rest = taken ++ more ∧
    (dispatchBacklogItem env pages backlog item baseRunId).Ends taken answer ∧ Recorded backlog.id item.id taken) ∨
  remaining = [] ∧ Recorded backlog.id item.id rest

section
variable {ι : Type} [DecidableEq ι]

/-- At this moment a pass inserts a run in its dispatch of an item of the backlog. -/
def CreatedFor (env : Environment) (pages : Nat) (id : String) (pool : ι → Thread World) (early : List (Moment ι World))
    (moment : Moment ι World) : Prop :=
  ∃ projectId backlog item baseRunId taken rest, pool moment.who = (advanceBacklogs env pages projectId).thread ∧
    backlog.id = id ∧ own moment.who early = taken ++ rest ∧ Begun env pages projectId backlog item baseRunId taken ∧
    (dispatchBacklogItem env pages backlog item baseRunId).Walks (rest ++ [(moment.before,moment.after)]) ∧
    Inserts moment.before moment.after

/-- When the backlog is deleted, no dispatch of one of its items is under way, and every
one that inserted a run has seen its item with one. -/
def DeletedAtRest (env : Environment) (pages : Nat) (id : String) (pool : ι → Thread World) (trace : List (Moment ι World)) :
    Prop :=
  ∀ early deletion late, trace = early ++ deletion::late → Deletes id deletion.before deletion.after →
    ∀ who projectId backlog item baseRunId taken rest, pool who = (advanceBacklogs env pages projectId).thread →
      backlog.id = id → own who early = taken ++ rest → Begun env pages projectId backlog item baseRunId taken →
      Quiesced env pages backlog item baseRunId rest (own who late)

variable {pool later : ι → Thread World} {world after : World} {trace : List (Moment ι World)} {id : String}

theorem stays_attached {itemId : String} (ran : Interleaved pool world trace later after)
    (steps : ∀ moment ∈ trace, Shelves moment.before.repository moment.after.repository)
    (attached : Attached id itemId world.repository) : Attached id itemId after.repository :=
  ran.preserved (fun world => Attached id itemId world.repository)
    (fun moment inside held => (steps moment inside).keeps_attached held) attached

variable {early rest : List (Moment ι World)} {creation : Moment ι World} {baseRunId : Option String} {step : World × World}
  {item : BacklogItem} {backlog : Backlog}

theorem insert_recorded {rest more remaining : List (World × World)}
    (quiesced : Quiesced env pages backlog item baseRunId (rest ++ step::more) remaining)
    (walks : (dispatchBacklogItem env pages backlog item baseRunId).Walks (rest ++ [step])) (inserts : Inserts step.1 step.2) :
    ∃ seen ∈ rest ++ step::more, Attached backlog.id item.id seen.2.repository := by
  rcases quiesced with ⟨taken,unrelated,answer,same,ends,recorded⟩ | ⟨_,recorded⟩
  · rcases List.append_eq_append_iff.mp same with ⟨shared,rfl,split⟩ | ⟨shared,rfl,_⟩
    · cases shared with
      | nil =>
        rw [List.append_nil] at ends
        have nothing := ends.stop walks
        cases nothing
      | cons first shared =>
        cases split
        obtain ⟨seen,inside,attached⟩ := recorded ⟨step,by simp,inserts⟩
        exact ⟨seen,by rw [same]; exact List.mem_append_left _ inside,attached⟩
    · rw [List.append_assoc] at walks
      have nothing := ends.stop walks
      simp at nothing
  · exact recorded ⟨step,by simp,inserts⟩

theorem quiesced_stops {rest between remaining : List (World × World)}
    (quiesced : Quiesced env pages backlog item baseRunId rest remaining) (later : step ∈ remaining) :
    ¬ (dispatchBacklogItem env pages backlog item baseRunId).Walks (rest ++ between ++ [step]) := by
  intro walks
  rcases quiesced with ⟨taken,more,answer,rfl,ends,_⟩ | ⟨rfl,_⟩
  · rw [List.append_assoc,List.append_assoc] at walks
    have nothing := ends.stop walks
    simp at nothing
  · cases later

theorem deletes_unproductive (actors : ∀ who, BacklogActor env pages (pool who))
    (ran : Interleaved pool world trace later after) (atRest : DeletedAtRest env pages id pool trace)
    {early second rest : List (Moment ι World)} {deletion creation : Moment ι World}
    (history : trace = early ++ creation::second ++ deletion::rest)
    (deletes : Deletes id deletion.before deletion.after) : ¬ CreatedFor env pages id pool early creation := by
  rintro ⟨projectId,backlog,item,baseRunId,taken,before,isPass,named,mine,begun,walks,inserts⟩
  have shelves := ran.moments fun who => (actors who).shelves
  have ownEarly : own creation.who (early ++ creation::second) =
      taken ++ (before ++ (creation.before,creation.after)::own creation.who second) := by
    rw [own_append,own_cons_self,mine,List.append_assoc]
  have quiesced := atRest _ deletion rest history deletes creation.who projectId backlog item baseRunId taken _ isPass named
    ownEarly begun
  obtain ⟨seen,inside,attached⟩ := insert_recorded quiesced walks inserts
  have inside : seen ∈ own creation.who (early ++ creation::second) := by
    rw [ownEarly]
    exact List.mem_append_right _ inside
  obtain ⟨moment,inMoments,_,rfl⟩ := mem_own_iff.mp inside
  obtain ⟨first,last,split⟩ := List.append_of_mem inMoments
  subst history
  rw [split,List.append_assoc,List.cons_append] at ran shelves
  obtain ⟨_,_,between⟩ := ran.between
  have attached := stays_attached between (fun moment inside => shelves moment (by simp [inside])) attached
  rw [named] at attached
  exact (shelves deletion (by simp)).not_attached deletes item.id attached

theorem stays_stored {itemId : String} (ran : Interleaved pool world trace later after)
    (steps : ∀ moment ∈ trace, Shelves moment.before.repository moment.after.repository)
    (kept : ∀ moment ∈ trace, ¬ Deletes id moment.before moment.after) (sheltered : Sheltered world.repository)
    (stored : ∃ item, world.repository.backlogItems.get? itemId = some item ∧ item.backlogId = id) :
    Sheltered after.repository ∧ ∃ item, after.repository.backlogItems.get? itemId = some item ∧ item.backlogId = id := by
  refine ran.preserved (fun world => Sheltered world.repository ∧
    ∃ item, world.repository.backlogItems.get? itemId = some item ∧ item.backlogId = id) ?_ ⟨sheltered,stored⟩
  rintro moment inside ⟨sheltered,item,held,mine⟩
  have shelves := steps moment inside
  have there := sheltered itemId item held
  have still : (moment.after.repository.getBacklog item.backlogId).isSome := by
    by_contra gone
    refine kept moment inside ⟨mine ▸ there,?_⟩
    rw [← mine]
    exact Option.not_isSome_iff_eq_none.mp gone
  obtain ⟨later,found,same⟩ := shelves.stored itemId item held still
  exact ⟨sheltered.step shelves,later,found,same.trans mine⟩

theorem creates_stored (actors : ∀ who, BacklogActor env pages (pool who))
    (ran : Interleaved pool world trace later after) (sheltered : Sheltered world.repository)
    (atRest : DeletedAtRest env pages id pool trace)
    (history : trace = early ++ creation::rest) (created : CreatedFor env pages id pool early creation) :
    (creation.before.repository.getBacklog id).isSome := by
  obtain ⟨projectId,backlog,item,baseRunId,_,after,isPass,named,mine,begun,walks,_⟩ := created
  have shelves := ran.moments fun who => (actors who).shelves
  have decision := begun
  obtain ⟨path,listed,rfl,_,decides⟩ := decision
  obtain ⟨earlier,reading,runs,rfl,decision⟩ := decideBacklog_ends decides
  obtain ⟨held,ofBacklog⟩ := Repository.mem_listBacklogItems (advanceBacklog_dispatch decision.symm)
  have located : own creation.who early = (path ++ earlier) ++ reading::after := by
    rw [mine]
    simp
  obtain ⟨before,read,between,rfl,isWho,ownBefore,rfl⟩ := own_split located
  have ownBetween : own creation.who between = after := by
    rw [own_append,ownBefore,← isWho,own_cons_self,List.append_cancel_left_eq,List.cons_inj_right] at located
    rw [← isWho]
    exact located
  subst history
  have splitRun := ran
  rw [List.append_assoc,List.cons_append] at splitRun
  obtain ⟨_,first,fromRead⟩ := splitRun.upto
  rw [← List.cons_append] at fromRead
  obtain ⟨_,meanwhile,_⟩ := fromRead.upto
  have shelteredThen := first.preserved (fun world => Sheltered world.repository)
    (fun moment inside held => held.step (shelves moment (by simp [inside]))) sheltered
  have kept : ∀ moment ∈ read::between, ¬ Deletes id moment.before moment.after := by
    intro moment inside deletes
    rcases List.mem_cons.mp inside with rfl | inside
    · have takes := (pass_keeps_backlogs env pages projectId id).thread
      rw [← isPass,← isWho] at takes
      exact not_deletes (ran.moment (by simp) takes) deletes
    · obtain ⟨start,finish,rfl⟩ := List.append_of_mem inside
      have history : before ++ read::(start ++ moment::finish) ++ creation::rest =
          (before ++ read::start) ++ moment::(finish ++ creation::rest) := by simp
      have ownStart : own creation.who (before ++ read::start) =
          path ++ (earlier ++ [(read.before,read.after)]) ++ own creation.who start := by
        rw [own_append,ownBefore,← isWho,own_cons_self]
        simp
      have quiesced := atRest _ moment _ history deletes creation.who projectId backlog item baseRunId _ _ isPass named
        ownStart begun
      have remains : (creation.before,creation.after) ∈ own creation.who (finish ++ creation::rest) :=
        mem_own_iff.mpr ⟨creation,by simp,rfl,rfl⟩
      rw [own_append] at ownBetween
      rw [← ownBetween] at walks
      exact quiesced_stops quiesced remains walks
  obtain ⟨shelteredNow,item,found,same⟩ := stays_stored meanwhile
    (fun moment inside => shelves moment (by
      rw [List.append_assoc]
      exact List.mem_append_right _ (List.mem_append_left _ inside))) kept shelteredThen ⟨_,held,ofBacklog.trans named⟩
  rw [← same]
  exact shelteredNow _ item found

theorem inserts_created {projectId : String} (ran : Interleaved pool world (early ++ creation::rest) later after)
    (isPass : pool creation.who = (advanceBacklogs env pages projectId).thread) (inserts : Inserts creation.before creation.after)
    (only : ∀ moment ∈ early, ∀ backlog ∈ moment.before.repository.listBacklogs projectId 100, backlog.id = id) :
    CreatedFor env pages id pool early creation := by
  obtain ⟨backlog,item,baseRunId,taken,remaining,mine,⟨first,inside,listed⟩,begun,walks⟩ :=
    inserts_dispatched (ran.walks_to isPass) inserts
  obtain ⟨moment,there,_,rfl⟩ := mem_own_iff.mp inside
  exact ⟨projectId,backlog,item,baseRunId,taken,remaining,isPass,only moment there backlog listed,mine,begun,walks,inserts⟩

/-- In every history in which the backlog is deleted only at rest, no run was created for a
backlog that is deleted, and a run is created for it only while it is there. -/
theorem deleted_backlogs_have_no_run (actors : ∀ who, BacklogActor env pages (pool who))
    (ran : Interleaved pool world trace later after) (sheltered : Sheltered world.repository)
    (atRest : DeletedAtRest env pages id pool trace) :
    (∀ early creation second deletion rest, trace = early ++ creation::second ++ deletion::rest →
      Deletes id deletion.before deletion.after → ¬ CreatedFor env pages id pool early creation) ∧
    ∀ early creation rest, trace = early ++ creation::rest → CreatedFor env pages id pool early creation →
      (creation.before.repository.getBacklog id).isSome :=
  ⟨fun _ _ _ _ _ history deletes => deletes_unproductive actors ran atRest history deletes,
    fun _ _ _ history created => creates_stored actors ran sheltered atRest history created⟩

end

/-! ### A deletion within a dispatch -/

/-- A backlog is created, a pass dispatches its item, the backlog is deleted and created again. -/
def deleting : Fin 4 → Thread World
  | 0 => (createBacklog plainEnvironment "key-1" oneFeature).thread
  | 1 => (advanceBacklogs plainEnvironment 1 "project-1").thread
  | 2 => (deleteBacklog plainEnvironment "backlog:key-1").thread
  | 3 => (createBacklog plainEnvironment "key-1" oneFeature).thread

theorem deleting_acts (who : Fin 4) : BacklogActor plainEnvironment 1 (deleting who) := by
  match who with
  | 0 => exact .creation _ _
  | 1 => exact .pass _
  | 2 => exact .deletion _
  | 3 => exact .creation _ _

instance fourParties : NeZero 4 := ⟨by decide⟩

def unattached : List (Fin 4) := List.replicate 6 0 ++ List.replicate 8 1 ++ [2]

theorem cut_twice {α : Type} (list : List α) {first second : Nat} (ordered : first < second) (bound : second < list.length) :
    list = list.take first ++ list[first]::(list.drop (first + 1)).take (second - first - 1) ++
      list[second]::list.drop (second + 1) := by
  have between : list.drop (first + 1) = (list.drop (first + 1)).take (second - first - 1) ++ list.drop second := by
    conv_lhs => rw [← List.take_append_drop (second - first - 1) (list.drop (first + 1))]
    rw [List.drop_drop]
    congr 2
    omega
  conv_lhs => rw [← List.take_append_drop first list,List.drop_eq_getElem_cons (by omega),between,
    List.drop_eq_getElem_cons bound]
  simp

theorem unattached_length : 14 < (play unattached deleting configuredWorld).1.length := by decide +kernel

def insertion : Moment (Fin 4) World := (play unattached deleting configuredWorld).1.get ⟨12,by decide +kernel⟩

/-- The deletion succeeds although the pass has created a run for the backlog's item. -/
theorem dispatched_backlog_deleted : (∀ who, BacklogActor plainEnvironment 1 (deleting who)) ∧
    Sheltered configuredWorld.repository ∧ ∃ trace later after, Interleaved deleting configuredWorld trace later after ∧
      ∃ early creation second deletion rest, trace = early ++ creation::second ++ deletion::rest ∧
        Deletes "backlog:key-1" deletion.before deletion.after ∧
        CreatedFor plainEnvironment 1 "backlog:key-1" deleting early creation := by
  refine ⟨deleting_acts,nofun,_,_,_,interleaved_play unattached deleting configuredWorld,?_⟩
  have ran := interleaved_play unattached deleting configuredWorld
  have cut := cut_twice (play unattached deleting configuredWorld).1 (show 12 < 14 by decide) unattached_length
  refine ⟨_,_,_,_,_,cut,by decide +kernel,?_⟩
  rw [cut,List.append_assoc,List.cons_append] at ran
  have mover : insertion.who = 1 := by decide +kernel
  have isPass : deleting insertion.who = (advanceBacklogs plainEnvironment 1 "project-1").thread := by
    rw [mover]
    rfl
  have inserts : Inserts insertion.before insertion.after := ⟨firstRun,by decide +kernel,by decide +kernel⟩
  have only : ∀ moment ∈ (play unattached deleting configuredWorld).1,
      ∀ backlog ∈ moment.before.repository.listBacklogs "project-1" 100, backlog.id = "backlog:key-1" := by
    decide +kernel
  exact inserts_created ran isPass inserts fun moment inside => only moment (List.mem_of_mem_take inside)

def recreated : List (Fin 4) := List.replicate 6 0 ++ [2] ++ List.replicate 6 3 ++ List.replicate 9 1

def recreatedTrace : List (Moment (Fin 4) World) := (play recreated deleting configuredWorld).1

theorem recreated_at_rest : DeletedAtRest plainEnvironment 1 "backlog:key-1" deleting recreatedTrace := by
  intro early deletion late history deletes who projectId backlog item baseRunId taken rest isPass _ mine begun
  exfalso
  have alone : ∀ index < recreatedTrace.length, ∀ moment ∈ recreatedTrace[index]?,
      Deletes "backlog:key-1" moment.before moment.after → ∀ before ∈ recreatedTrace.take index, before.who = 0 := by
    decide +kernel
  have position : recreatedTrace[early.length]? = some deletion := by
    rw [history]
    simp
  have first := alone early.length (by rw [history]; simp) deletion position deletes
  have earliest : recreatedTrace.take early.length = early := by
    rw [history]
    simp
  rw [earliest] at first
  have quiet := (pass_keeps_backlogs plainEnvironment 1 projectId "backlog:key-1").thread
  rw [← isPass] at quiet
  have ran := interleaved_play recreated deleting configuredWorld
  have notFirst : who ≠ 0 := by
    rintro rfl
    have shelved : ∃ moment ∈ recreatedTrace, moment.who = 0 ∧ (moment.after.repository.getBacklog "backlog:key-1").isSome ≠
        (moment.before.repository.getBacklog "backlog:key-1").isSome := by
      decide +kernel
    obtain ⟨moment,inside,mover,changed⟩ := shelved
    rw [← mover] at quiet
    exact changed (ran.moment inside quiet)
  obtain ⟨path,listed,rfl,_,decides⟩ := begun
  obtain ⟨earlier,reading,_,rfl,_⟩ := decideBacklog_ends decides
  have inside : reading ∈ own who early := by
    rw [mine]
    simp
  obtain ⟨moment,there,mover,_⟩ := mem_own_iff.mp inside
  exact notFirst (mover.symm.trans (first moment there))

theorem deleted_backlogs_have_no_run_recreated :
    (∀ early creation second deletion rest, recreatedTrace = early ++ creation::second ++ deletion::rest →
      Deletes "backlog:key-1" deletion.before deletion.after →
      ¬ CreatedFor plainEnvironment 1 "backlog:key-1" deleting early creation) ∧
    ∀ early creation rest, recreatedTrace = early ++ creation::rest →
      CreatedFor plainEnvironment 1 "backlog:key-1" deleting early creation →
      (creation.before.repository.getBacklog "backlog:key-1").isSome :=
  deleted_backlogs_have_no_run deleting_acts (interleaved_play recreated deleting configuredWorld) nofun recreated_at_rest

end AgentOS.System
