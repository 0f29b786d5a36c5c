import AgentOS.System.BacklogProgress
import AgentOS.Library.Paths

/-! The completion of backlogs. A pass completes a backlog whose call has finished only
when every item of the call has succeeded, unless the page it decided from lacked one. -/
namespace AgentOS.System
open Library ControlPlane Routine AgentOS.Action
open OrderedMap (get?_set_some get?_set)
open Repository (deleteBacklog_eq mem_itemsOf updateBacklogStatus_eq createBacklog_ok)
variable {env : Environment} {pages : Nat} {key : String} {input : BacklogInput}

/-! ### The items of a call -/

def Done (item : BacklogItem) : Prop := item.status = .succeeded ∨ item.status = .skipped

def AllDone (env : Environment) (key : String) (input : BacklogInput) (repository : Repository) : Prop :=
  ∀ ordinal item, ItemAt input ordinal item → ∃ stored ∈ repository.itemsOf (backlogId env key),
    stored.ordinal = ordinal ∧ stored.title = item.1 ∧ stored.description = item.2 ∧ Done stored

def Completed (repository : Repository) (id : String) : Prop :=
  ∃ backlog, repository.getBacklog id = some backlog ∧ backlog.status = .completed

instance (repository : Repository) (id : String) : Decidable (Completed repository id) :=
  decidable_of_iff ((repository.getBacklog id).any (fun backlog => backlog.status = .completed) = true) (by
    unfold Completed
    rw [Option.any_eq_true]
    simp only [decide_eq_true_eq])

def Completes (id : String) (before after : World) : Prop :=
  ¬ Completed before.repository id ∧ Completed after.repository id

instance (id : String) (before after : World) : Decidable (Completes id before after) := inferInstanceAs (Decidable (_ ∧ _))

structure Filed (env : Environment) (key : String) (input : BacklogInput) (item : BacklogItem) : Prop where
  here : ItemAt input item.ordinal (item.title,item.description)
  named : item.id = backlogItemId env (backlogId env key) item.ordinal
  started : item.status ≠ .pending → item.runId.isSome
  unskipped : item.status ≠ .skipped

def AllFiled (env : Environment) (key : String) (input : BacklogInput) (repository : Repository) : Prop :=
  ∀ id item, repository.backlogItems.get? id = some item → item.backlogId = backlogId env key → Filed env key input item

/-- A settlement of a running item, or the attachment of a run to a pending one. -/
structure Moves (existing updated : BacklogItem) : Prop where
  backlog : updated.backlogId = existing.backlogId
  ordinal : updated.ordinal = existing.ordinal
  title : updated.title = existing.title
  description : updated.description = existing.description
  named : updated.id = existing.id
  run : existing.status = .running ∧ updated.runId = existing.runId ∨ existing.status = .pending ∧ updated.runId.isSome
  unskipped : updated.status ≠ .skipped

inductive ListStep (env : Environment) (key : String) (input : BacklogInput) (before after : Repository) : Prop
  | kept (fewer : ∀ id item, item.backlogId = backlogId env key → after.backlogItems.get? id = some item →
        before.backlogItems.get? id = some item)
      (stands : ∀ id item, item.backlogId = backlogId env key → item.runId.isSome → before.backlogItems.get? id = some item →
        after.backlogItems.get? id = some item)
  | filed (ordinal : Nat) (item : String × String) (now : Instant) (here : ItemAt input ordinal item)
      (fresh : before.backlogItems.get? (backlogItemId env (backlogId env key) ordinal) = none)
      (set : after.backlogItems = before.backlogItems.set (backlogItemId env (backlogId env key) ordinal)
        (newItem env (backlogId env key) ordinal item now))
  | moved (id : String) (existing updated : BacklogItem) (held : before.backlogItems.get? id = some existing)
      (moves : Moves existing updated) (set : after.backlogItems = before.backlogItems.set id updated)

namespace ListStep
variable {before after : Repository}

theorem of_items (same : after.backlogItems = before.backlogItems) : ListStep env key input before after :=
  .kept (fun _ _ _ held => same ▸ held) fun _ _ _ _ held => same ▸ held

theorem update {id : String} {expected : List BacklogItemStatus} {status : BacklogItemStatus} {runId : Option String}
    {at_ : Instant} (done : (before.updateBacklogItem id expected status runId at_).2 = after) (unskipped : status ≠ .skipped)
    (moves : expected = [.running] ∧ runId = none ∨ expected = [.pending] ∧ runId.isSome) :
    ListStep env key input before after := by
  rcases Repository.updateBacklogItem_eq done with rfl | ⟨existing,updated,held,expects,rfl,set,_,_⟩
  · exact of_items rfl
  · refine .moved id existing {existing with status := status,runId := runId.or existing.runId,updatedAt := at_} held
      ⟨rfl,rfl,rfl,rfl,rfl,?_,unskipped⟩ set
    rcases moves with ⟨rfl,rfl⟩ | ⟨rfl,run⟩
    · exact .inl ⟨List.mem_singleton.mp expects,rfl⟩
    · refine .inr ⟨List.mem_singleton.mp expects,?_⟩
      rw [Option.isSome_or,run]
      rfl

theorem file {ordinal : Nat} {item : String × String} {now : Instant} {answer : BacklogItem} (here : ItemAt input ordinal item)
    (ok : before.createBacklogItemIdempotently (newItem env (backlogId env key) ordinal item now) = .ok (answer,after)) :
    ListStep env key input before after := by
  obtain ⟨_,⟨rfl,_⟩ | ⟨fresh,_,set,_⟩⟩ := Repository.createBacklogItemIdempotently_ok ok
  · exact of_items rfl
  · exact .filed ordinal item now here fresh set

theorem elsewhere {item answer : BacklogItem} (other : item.backlogId ≠ backlogId env key)
    (ok : before.createBacklogItemIdempotently item = .ok (answer,after)) : ListStep env key input before after := by
  obtain ⟨_,⟨rfl,_⟩ | ⟨fresh,_,set,_⟩⟩ := Repository.createBacklogItemIdempotently_ok ok
  · exact of_items rfl
  · refine .kept (fun id found mine held => ?_) fun id found mine _ held => ?_
    · rw [set] at held
      rcases get?_set_some held with ⟨_,rfl⟩ | ⟨_,held⟩
      · exact absurd mine other
      · exact held
    · rw [set,get?_set,if_neg]
      · exact held
      · rintro rfl
        rw [fresh] at held
        cases held

theorem delete {id : String} (done : (before.deleteBacklog id).2 = after) : ListStep env key input before after := by
  rcases deleteBacklog_eq done with rfl | ⟨unrun,_,_,items,_⟩
  · exact of_items rfl
  · refine .kept (fun other item _ held => ((items other item).mp held).1) fun other item mine run held => ?_
    refine (items other item).mpr ⟨held,fun same => ?_⟩
    have named := before.itemKeyed other item held
    have alone := unrun item (mem_itemsOf.mpr ⟨named.symm ▸ held,same⟩)
    rw [alone] at run
    cases run

theorem status {id : String} {expected : List BacklogStatus} {status : BacklogStatus} {reason : Option String} {at_ : Instant}
    (done : (before.updateBacklogStatus id expected status reason at_).2 = after) : ListStep env key input before after := by
  rcases updateBacklogStatus_eq done with rfl | ⟨_,_,_,_,_,_,_,rfl⟩ <;> exact of_items rfl

section
variable (step : ListStep env key input before after)
include step

theorem allFiled (filed : AllFiled env key input before) : AllFiled env key input after := by
  intro id item held mine
  cases step with
  | kept fewer stands => exact filed id item (fewer id item mine held) mine
  | filed ordinal asked now here fresh set =>
    rw [set] at held
    rcases get?_set_some held with ⟨_,rfl⟩ | ⟨_,held⟩
    · exact ⟨here,rfl,fun moved => absurd rfl moved,nofun⟩
    · exact filed id item held mine
  | moved other existing updated found moves set =>
    rw [set] at held
    rcases get?_set_some held with ⟨_,rfl⟩ | ⟨_,held⟩
    · have before := filed other existing found (moves.backlog.symm.trans mine)
      refine ⟨?_,?_,fun _ => ?_,moves.unskipped⟩
      · rw [moves.ordinal,moves.title,moves.description]
        exact before.here
      · rw [moves.named,moves.ordinal]
        exact before.named
      · rcases moves.run with ⟨running,same⟩ | ⟨_,run⟩
        · rw [same]
          exact before.started (by simp [running])
        · exact run
    · exact filed id item held mine

theorem succeeded {id : String} {item : BacklogItem}
    (held : before.backlogItems.get? id = some item) (mine : item.backlogId = backlogId env key)
    (run : item.runId.isSome) (succeeded : item.status = .succeeded) : after.backlogItems.get? id = some item := by
  cases step with
  | kept fewer stands => exact stands id item mine run held
  | filed ordinal asked now here fresh set =>
    rw [set,get?_set,if_neg]
    · exact held
    · rintro rfl
      rw [fresh] at held
      cases held
  | moved other existing updated found moves set =>
    rw [set,get?_set,if_neg]
    · exact held
    · rintro rfl
      cases held.symm.trans found
      rcases moves.run with ⟨running,_⟩ | ⟨pending,_⟩
      · simp [running] at succeeded
      · simp [pending] at succeeded

theorem finished (filed : AllFiled env key input before) (finished : AllDone env key input before) : AllDone env key input after := by
  intro ordinal item here
  obtain ⟨stored,inside,same,title,description,done⟩ := finished ordinal item here
  obtain ⟨held,mine⟩ := mem_itemsOf.mp inside
  have rules := filed _ stored held mine
  have succeeded : stored.status = .succeeded := done.resolve_right rules.unskipped
  have run := rules.started (by simp [succeeded])
  exact ⟨stored,mem_itemsOf.mpr ⟨step.succeeded held mine run succeeded,mine⟩,same,title,description,done⟩

end

end ListStep

variable {repository : Repository} {runs : OrderedMap String BacklogItemRun} {early : List (World × World)}
  {items : List BacklogItem} {moment : World × World} {thread : Thread World} {projectId : String} {backlog : Backlog}

theorem AllDone.done (finished : AllDone env key input repository)
    (filed : AllFiled env key input repository) : ∀ item ∈ repository.itemsOf (backlogId env key), Done item := by
  intro item inside
  obtain ⟨held,mine⟩ := mem_itemsOf.mp inside
  have rules := filed _ item held mine
  obtain ⟨stored,listed,ordinal,_,_,done⟩ := finished item.ordinal (item.title,item.description) rules.here
  obtain ⟨found,ofBacklog⟩ := mem_itemsOf.mp listed
  have named := (filed _ stored found ofBacklog).named
  rw [named,ordinal,← rules.named,held] at found
  cases found
  exact done

/-! ### What the parties do -/

/-- Whatever runs while a backlog is created: its call and the retries of it, the passes,
the operator's other calls, and what leaves the backlogs alone. -/
inductive BacklogParty (env : Environment) (pages : Nat) (key : String) (input : BacklogInput) : Thread World → Prop
  | call : BacklogParty env pages key input (createBacklog env key input).thread
  | pass (projectId : String) : BacklogParty env pages key input (advanceBacklogs env pages projectId).thread
  | creation (key' : String) (input' : BacklogInput) (other : backlogId env key' ≠ backlogId env key) :
      BacklogParty env pages key input (createBacklog env key' input').thread
  | status (id : String) (asked : AskedStatus) : BacklogParty env pages key input (setBacklogStatus env id asked).thread
  | deletion (id : String) : BacklogParty env pages key input (deleteBacklog env id).thread
  | beside {thread : Thread World} (apart : thread.Takes Apart) : BacklogParty env pages key input thread

theorem advances_list : ControlPlane.Advances (fun _ => True)
    fun before after : World => ListStep env key input before.repository after.repository where
  quiet _ _ unmoved := .of_items unmoved.items
  undispatched := by
    rintro before _ ⟨_,_,_,_,_,_,ok,rfl⟩
    exact .of_items (Repository.SameBacklogs.transitionRun ok).items
  inserted _ _ _ _ _ _ ok := .of_items (Repository.createRunIdempotently_eq ok).1.items
  settled _ _ _ _ _ status done := .update done (by rcases status with rfl | rfl <;> exact nofun) (.inl ⟨rfl,rfl⟩)
  attached _ _ _ _ _ done := .update done nofun (.inr ⟨rfl,rfl⟩)
  paused _ _ _ _ _ done := .status done

theorem BacklogParty.takes (party : BacklogParty env pages key input thread) :
    thread.Takes fun before after => ListStep env key input before.repository after.repository := by
  have advances : ControlPlane.Advances (fun _ => True) fun before after : World =>
    ListStep env key input before.repository after.repository := advances_list
  have quiet := advances.quiet
  cases party with
  | call =>
    refine (createBacklog_takes quiet (fun _ _ _ _ ok => ?_) fun _ _ _ _ _ _ here ok => .file here ok).thread
    obtain ⟨_,_,rfl⟩ := createBacklog_ok ok
    exact .of_items rfl
  | pass projectId =>
    exact (advances_list.advanceBacklogs projectId (fun _ => trivial) fun _ _ _ _ done => .status done).thread
  | creation key' input' other =>
    refine (createBacklog_takes quiet (fun _ _ _ _ ok => ?_) fun _ _ _ _ _ _ _ ok => .elsewhere other ok).thread
    obtain ⟨_,_,rfl⟩ := createBacklog_ok ok
    exact .of_items rfl
  | status id asked => exact (setBacklogStatus_takes quiet fun _ _ _ done => .status done).thread
  | deletion id => exact (deleteBacklog_takes quiet fun _ _ done => .delete done).thread
  | beside apart => exact apart.mono fun _ _ same => .of_items same.items

/-! ### Completing -/

section
variable {id : String} {before after : World}

theorem not_completes (kept : ∀ backlog, after.repository.getBacklog id = some backlog →
    before.repository.getBacklog id = some backlog ∨ backlog.status ≠ .completed) : ¬ Completes id before after := by
  rintro ⟨unfinished,backlog,found,completed⟩
  rcases kept backlog found with same | other
  · exact unfinished ⟨backlog,same,completed⟩
  · exact other completed

theorem not_completes_same (same : after.repository.backlogs = before.repository.backlogs) : ¬ Completes id before after :=
  not_completes fun _ found => .inl (by rwa [Repository.getBacklog,same] at found)

theorem not_completes_set {backlog : Backlog} (set : after.repository = before.repository.setBacklog backlog)
    (uncompleted : backlog.status ≠ .completed) : ¬ Completes id before after := by
  apply not_completes
  intro found held
  rw [set] at held
  rcases get?_set_some held with ⟨_,rfl⟩ | ⟨_,held⟩
  · exact .inr uncompleted
  · exact .inl held

theorem not_completes_status {expected : List BacklogStatus} {status : BacklogStatus} {reason : Option String} {at_ : Instant}
    {other : String} (done : (before.repository.updateBacklogStatus other expected status reason at_).2 = after.repository)
    (uncompleted : status ≠ .completed) : ¬ Completes id before after := by
  rcases updateBacklogStatus_eq done with same | ⟨_,updated,_,_,_,stands,_,set⟩
  · exact not_completes_same (congrArg Repository.backlogs same)
  · exact not_completes_set set (stands ▸ uncompleted)

theorem not_completes_item {expected : List BacklogItemStatus} {status : BacklogItemStatus} {runId : Option String}
    {at_ : Instant} {other : String}
    (done : (before.repository.updateBacklogItem other expected status runId at_).2 = after.repository) :
    ¬ Completes id before after := by
  rcases Repository.updateBacklogItem_eq done with same | ⟨_,_,_,_,_,_,same,_⟩
  · exact not_completes_same (congrArg Repository.backlogs same)
  · exact not_completes_same same

end

theorem advances_uncompleting (id : String) : ControlPlane.Advances (fun _ => True) fun before after => ¬ Completes id before after where
  quiet _ _ unmoved := not_completes_same unmoved.backlogs
  undispatched := by
    rintro before _ ⟨_,_,_,_,_,_,ok,rfl⟩
    exact not_completes_same (Repository.SameBacklogs.transitionRun ok).backlogs
  inserted _ _ _ _ _ _ ok := not_completes_same (Repository.createRunIdempotently_eq ok).1.backlogs
  settled _ _ _ _ _ _ done := not_completes_item done
  attached _ _ _ _ _ done := not_completes_item done
  paused _ _ _ _ _ done := not_completes_status done nofun

theorem BacklogParty.completes (party : BacklogParty env pages key input thread) (id : String) :
    (∃ projectId, thread = (advanceBacklogs env pages projectId).thread) ∨
      thread.Takes fun before after => ¬ Completes id before after := by
  have quiet := (advances_uncompleting id).quiet
  have created : ∀ key' input', (createBacklog env key' input').Takes fun before after => ¬ Completes id before after := by
    intro key' input'
    refine createBacklog_takes quiet (fun world _ _ _ ok => ?_) fun world _ _ _ _ _ _ ok => ?_
    · obtain ⟨_,_,set⟩ := createBacklog_ok ok
      exact not_completes_set set nofun
    · obtain ⟨_,⟨rfl,_⟩ | ⟨_,_,_,same,_⟩⟩ := Repository.createBacklogItemIdempotently_ok ok
      · exact not_completes_same rfl
      · exact not_completes_same same
  cases party with
  | call => exact .inr (created key input).thread
  | pass projectId => exact .inl ⟨projectId,rfl⟩
  | creation key' input' => exact .inr (created key' input').thread
  | status other asked =>
    refine .inr (setBacklogStatus_takes quiet fun _ _ _ done => not_completes_status done ?_).thread
    cases asked <;> exact nofun
  | deletion other =>
    refine .inr (deleteBacklog_takes quiet fun world next done => ?_).thread
    rcases deleteBacklog_eq done with rfl | ⟨_,_,backlogs,_⟩
    · exact not_completes_same rfl
    · refine not_completes fun backlog found => .inl ?_
      rw [Repository.getBacklog,backlogs] at found
      split at found
      · cases found
      · exact found
  | beside apart => exact .inr (apart.mono fun _ _ same => not_completes_same same.backlogs)

/-! ### The decision to complete -/

theorem firstStanding_complete {previousRunId : Option String}
    (complete : firstStanding runs previousRunId items = .complete) : ∀ item ∈ items, Done item := by
  induction items generalizing previousRunId with
  | nil => exact nofun
  | cons item items ih =>
    unfold firstStanding at complete
    split at complete
    · rename_i skipped
      exact List.forall_mem_cons.mpr ⟨.inr skipped,ih complete⟩
    · split at complete
      · rename_i succeeded
        exact List.forall_mem_cons.mpr ⟨.inl succeeded,ih complete⟩
      · exfalso
        unfold standing awaitRun startItem at complete
        repeat' split at complete
        all_goals cases complete

theorem advanceBacklog_complete
    (complete : advanceBacklog runs backlog items = .complete) : items ≠ [] ∧ ∀ item ∈ items, Done item := by
  unfold advanceBacklog at complete
  split at complete
  · cases complete
  split at complete
  · cases complete
  · rename_i some
    refine ⟨?_,fun item inside => firstStanding_complete complete item ((List.mem_insertionSort _).mpr inside)⟩
    rintro rfl
    exact some rfl

theorem decideBacklog_ends {listed : List (World × World)} {decision : BacklogAdvance}
    (ends : (decideBacklog env backlog).Ends listed (.ok decision)) : ∃ earlier reading runs, listed = earlier ++ [reading] ∧
      decision = advanceBacklog runs backlog (reading.1.repository.listBacklogItems backlog.id 100) := by
  unfold decideBacklog at ends
  obtain ⟨first,_,_,rfl,_,ends⟩ := ends_bind_ok.mp ends
  obtain ⟨second,runs,_,rfl,_,ends⟩ := ends_bind_ok.mp ends
  obtain ⟨third,_,_,rfl,_,ends⟩ := ends_bind_ok.mp ends
  obtain ⟨fourth,settled,_,rfl,reading,ends⟩ := ends_bind_ok.mp ends
  obtain ⟨rfl,decided⟩ := Routine.ends_pure.mp ends
  cases decided
  have single : (listItems env backlog.id).Single := ⟨_,rfl⟩
  obtain ⟨before,after,rfl,read⟩ := single.ends.mp reading
  obtain ⟨rfl,_⟩ := exec_listItems_ok read
  exact ⟨first ++ (second ++ third),(before,after),runs,by simp,rfl⟩

/-- The step ends a pass's decision on the backlog: it reads the page that the decision is made from. -/
def Deciding {ι : Type} [DecidableEq ι] (env : Environment) (pages : Nat) (id : String) (pool : ι → Thread World)
    (early : List (Moment ι World)) (moment : Moment ι World) : Prop :=
  ∃ projectId backlog path listed decision, pool moment.who = (advanceBacklogs env pages projectId).thread ∧
    own moment.who early ++ [(moment.before,moment.after)] = path ++ listed ∧
    Calls (decideBacklog env backlog) (advanceBacklogs env pages projectId) path ∧
    (decideBacklog env backlog).Ends listed (.ok decision) ∧ backlog.id = id

def Misleading (env : Environment) (key : String) (input : BacklogInput) (repository : Repository) : Prop :=
  repository.listBacklogItems (backlogId env key) 100 ≠ [] ∧
    (∀ item ∈ repository.listBacklogItems (backlogId env key) 100, Done item) ∧
    ∃ ordinal item, ItemAt input ordinal item ∧
      ∀ stored ∈ repository.listBacklogItems (backlogId env key) 100, stored.ordinal ≠ ordinal

theorem finished_of_page (filed : AllFiled env key input repository)
    (some : repository.listBacklogItems (backlogId env key) 100 ≠ [])
    (done : ∀ item ∈ repository.listBacklogItems (backlogId env key) 100, Done item)
    (whole : ¬ Misleading env key input repository) : AllDone env key input repository := by
  intro ordinal item here
  have listed : ∃ stored ∈ repository.listBacklogItems (backlogId env key) 100, stored.ordinal = ordinal := by
    by_contra missing
    refine whole ⟨some,done,ordinal,item,here,fun stored inside same => ?_⟩
    exact missing ⟨stored,inside,same⟩
  obtain ⟨stored,inside,same⟩ := listed
  obtain ⟨held,mine⟩ := Repository.mem_listBacklogItems inside
  have rules := filed _ stored held mine
  have texts := rules.here.2
  rw [same,here.2] at texts
  cases texts
  exact ⟨stored,mem_itemsOf.mpr ⟨held,mine⟩,same,rfl,rfl,done stored inside⟩

theorem pass_acts {inserts : Run → Prop} {quiet : World → World → Prop} (advances : ControlPlane.Advances inserts quiet)
    (walks : (advanceBacklogs env pages projectId).Walks (early ++ [moment])) (loud : ¬ quiet moment.1 moment.2) :
    ∃ backlog path listed decision acting, early = path ++ listed ++ acting ∧
      (∃ first ∈ path, backlog ∈ first.1.repository.listBacklogs projectId 100) ∧
      Calls (decideBacklog env backlog) (advanceBacklogs env pages projectId) path ∧
      (decideBacklog env backlog).Ends listed (.ok decision) ∧ (actOn env pages backlog decision).Walks (acting ++ [moment]) := by
  have silent : (readRepository env fun repository => repository.listBacklogs projectId 100).Takes quiet :=
    takes_readRepository advances.passed
  obtain ⟨first,backlogs,second,rfl,listing,rest⟩ := walks.reached silent loud
  have single : (readRepository env fun repository => repository.listBacklogs projectId 100).Single := ⟨_,rfl⟩
  obtain ⟨before,_,rfl,read⟩ := single.ends.mp listing
  obtain ⟨_,rfl,rfl⟩ := exec_readRepository_ok.mp read
  obtain ⟨backlog,inside,third,fourth,rfl,calls,body⟩ := walks_forM rest
  have called : Calls (advanceOne env pages backlog) (advanceBacklogs env pages projectId) ([(before,before.ticked)] ++ third) :=
    .later listing calls
  unfold advanceOne at body called
  split at body
  · have nothing := walks_pure.mp body
    simp at nothing
  · rename_i active
    rw [if_neg active] at called
    obtain ⟨listed,decision,acting,rfl,decides,acts⟩ := body.reached (advances.decideBacklog backlog) loud
    have decided := called.trans (.now _)
    rw [List.append_nil] at decided
    exact ⟨backlog,_,listed,decision,acting,by simp,⟨_,List.mem_append_left _ (List.mem_singleton_self _),inside⟩,decided,
      decides,acts⟩

theorem completeBacklog_takes (other id : String) :
    (completeBacklog env other).Takes fun before after => Completes id before after → other = id := by
  refine .bind (takes_repository ?_ fun at_ world _ next ok => ?_) fun _ => takes_pure _
  · exact fun world completes => absurd completes (not_completes_same rfl)
  · intro completes
    by_contra different
    have done := congrArg Prod.snd (Except.ok.inj ok)
    rcases updateBacklogStatus_eq done with rfl | ⟨_,updated,_,_,named,_,_,rfl⟩
    · exact not_completes_same rfl completes
    · refine not_completes (fun backlog found => .inl ?_) completes
      rcases get?_set_some found with ⟨rfl,_⟩ | ⟨_,held⟩
      · exact absurd named.symm different
      · exact held

theorem completes_decided {id : String}
    (walks : (advanceBacklogs env pages projectId).Walks (early ++ [moment])) (completes : Completes id moment.1 moment.2) :
    ∃ backlog path listed, early = path ++ listed ∧ backlog.id = id ∧
      Calls (decideBacklog env backlog) (advanceBacklogs env pages projectId) path ∧
      (decideBacklog env backlog).Ends listed (.ok .complete) := by
  have quiet := advances_uncompleting id
  obtain ⟨backlog,path,listed,decision,acting,rfl,_,calls,decides,acts⟩ := pass_acts quiet walks (not_not.mpr completes)
  cases decision with
  | idle =>
    have nothing := walks_pure.mp acts
    simp at nothing
  | complete =>
    have same := (completeBacklog_takes backlog.id id).walks acts moment (by simp) completes
    have single : (repository env fun at_ repository =>
      .ok (repository.updateBacklogStatus backlog.id [.active] .completed none at_)).Single := ⟨_,rfl⟩
    rcases acts.bind with writes | ⟨_,_,_,_,some,_,nothing⟩
    · obtain ⟨rfl,_⟩ := single.walks writes
      exact ⟨backlog,path,listed,List.append_nil _,same,calls,decides⟩
    · exact absurd (walks_pure.mp nothing) some
  | pause reason => exact absurd completes ((quiet.pauseBacklog _ _).walks acts moment (by simp))
  | dispatch item baseRunId =>
    exact absurd completes ((quiet.dispatchBacklogItem _ _ _ fun _ _ _ => trivial).walks acts moment (by simp))

/-! ### Histories -/

section
variable {ι : Type} [DecidableEq ι] {pool later : ι → Thread World} {world after : World} {trace : List (Moment ι World)}

section
variable (ran : Interleaved pool world trace later after)
  (steps : ∀ moment ∈ trace, ListStep env key input moment.before.repository moment.after.repository)
  (filed : AllFiled env key input world.repository)
include ran steps filed

theorem all_filed : AllFiled env key input after.repository :=
  ran.preserved (fun world => AllFiled env key input world.repository)
    (fun moment inside held => (steps moment inside).allFiled held) filed

theorem stays_finished (finished : AllDone env key input world.repository) : AllDone env key input after.repository := by
  have both := ran.preserved
    (fun world => AllFiled env key input world.repository ∧ AllDone env key input world.repository)
    (fun moment inside held => ⟨(steps moment inside).allFiled held.1,(steps moment inside).finished held.1 held.2⟩)
    ⟨filed,finished⟩
  exact both.2

end

/-- No pass decides from a page of done items while an item of the call is missing from it. -/
def PagesWhole (env : Environment) (pages : Nat) (key : String) (input : BacklogInput) (pool : ι → Thread World)
    (trace : List (Moment ι World)) : Prop :=
  ∀ early moment late, trace = early ++ moment::late → Deciding env pages (backlogId env key) pool early moment →
    ¬ Misleading env key input moment.before.repository

theorem completes_finished (parties : ∀ who, BacklogParty env pages key input (pool who))
    (ran : Interleaved pool world trace later after) (filed : AllFiled env key input world.repository)
    (whole : PagesWhole env pages key input pool trace) {moment : Moment ι World} (inside : moment ∈ trace)
    (completes : Completes (backlogId env key) moment.before moment.after) : AllDone env key input moment.before.repository := by
  have steps := ran.moments fun who => (parties who).takes
  rcases (parties moment.who).completes (backlogId env key) with ⟨projectId,isPass⟩ | never
  · obtain ⟨early,late,rfl⟩ := List.append_of_mem inside
    obtain ⟨backlog,path,listed,mine,same,calls,ends⟩ := completes_decided (ran.walks_to isPass) completes
    obtain ⟨earlier,reading,runs,rfl,complete⟩ := decideBacklog_ends ends
    rw [same] at complete
    obtain ⟨some,done⟩ := advanceBacklog_complete complete.symm
    rw [← List.append_assoc] at mine
    obtain ⟨before,read,between,rfl,isWho,own,rfl⟩ := own_split mine
    rw [List.append_assoc,List.cons_append] at ran whole steps
    obtain ⟨_,first,rest⟩ := ran.upto
    have filedThen := all_filed first (fun moment early => steps moment (by simp [early])) filed
    have deciding : Deciding env pages (backlogId env key) pool before read :=
      ⟨projectId,backlog,path,_,_,isWho ▸ isPass,by rw [isWho,own,List.append_assoc],calls,ends,same⟩
    have finished := finished_of_page filedThen some done (whole before read _ rfl deciding)
    rw [← List.cons_append] at rest
    obtain ⟨_,second,_⟩ := rest.upto
    have meanwhile : ∀ moment ∈ read::between, ListStep env key input moment.before.repository moment.after.repository :=
      fun moment inside => steps moment (by
        rw [← List.cons_append]
        exact List.mem_append_right _ (List.mem_append_left _ inside))
    exact stays_finished second meanwhile filedThen finished
  · exact absurd completes (ran.moment inside never)

/-- In every history in which no pass decides from a page of done items that lacks one of
the call's, a backlog is completed only when every item of the call is done, and then none
of its items is ever pending. -/
theorem backlogs_complete_finished (parties : ∀ who, BacklogParty env pages key input (pool who))
    (ran : Interleaved pool world trace later after) (new : world.repository.getBacklog (backlogId env key) = none)
    (empty : world.repository.itemsOf (backlogId env key) = []) (whole : PagesWhole env pages key input pool trace) :
    (∀ moment ∈ trace, Completes (backlogId env key) moment.before moment.after → AllDone env key input moment.before.repository) ∧
    (Completed after.repository (backlogId env key) → AllDone env key input after.repository ∧
      ∀ item ∈ after.repository.itemsOf (backlogId env key), Done item) := by
  have steps := ran.moments fun who => (parties who).takes
  have filed : AllFiled env key input world.repository := by
    intro id item held mine
    have named := world.repository.itemKeyed id item held
    have inside := Repository.mem_itemsOf.mpr ⟨named.symm ▸ held,mine⟩
    rw [empty] at inside
    cases inside
  have completing : ∀ moment ∈ trace, Completes (backlogId env key) moment.before moment.after →
      AllDone env key input moment.before.repository :=
    fun moment inside completes => completes_finished parties ran filed whole inside completes
  refine ⟨completing,fun completed => ?_⟩
  have filedAfter := all_filed ran steps filed
  have held := ran.preserved
    (fun world => AllFiled env key input world.repository ∧
      (Completed world.repository (backlogId env key) → AllDone env key input world.repository))
    (fun moment inside held => ⟨(steps moment inside).allFiled held.1,fun completed => by
      by_cases before : Completed moment.before.repository (backlogId env key)
      · exact (steps moment inside).finished held.1 (held.2 before)
      · exact (steps moment inside).finished held.1 (completing moment inside ⟨before,completed⟩)⟩)
    ⟨filed,fun ⟨_,found,_⟩ => by rw [new] at found; cases found⟩
  have finished := held.2 completed
  exact ⟨finished,finished.done filedAfter⟩

end

/-! ### A call that crashed -/

def twoFeatures : BacklogInput where
  projectId := "project-1"
  title := "Features"
  items := [("First feature",""),("Second feature","")]

/-- A backlog is created, its item is dispatched and succeeds, a pass completes the
backlog; the call is made again. -/
def building (input : BacklogInput) : Fin 5 → Thread World
  | 0 => (createBacklog plainEnvironment "key-1" input).thread
  | 1 => (advanceBacklogs plainEnvironment 1 "project-1").thread
  | 2 => endingRun [.pending] .succeeded
  | 3 => (advanceBacklogs plainEnvironment 1 "project-1").thread
  | 4 => (createBacklog plainEnvironment "key-1" input).thread

theorem building_parties (input : BacklogInput) (who : Fin 5) :
    BacklogParty plainEnvironment 1 "key-1" input (building input who) := by
  match who with
  | 0 => exact .call
  | 1 => exact .pass _
  | 2 => exact .beside (transitionRun_leaves_backlogs _ _ _ _).thread
  | 3 => exact .pass _
  | 4 => exact .call

def crashed : List (Fin 5) := List.replicate 5 0 ++ List.replicate 9 1 ++ [2] ++ List.replicate 6 3 ++ List.replicate 6 4

theorem unfinished_of_missing (missing : ∀ stored ∈ repository.itemsOf "backlog:key-1", stored.ordinal ≠ 2) :
    ¬ AllDone plainEnvironment "key-1" twoFeatures repository := by
  intro finished
  have second : ItemAt twoFeatures 2 ("Second feature","") := ⟨by decide,rfl⟩
  obtain ⟨stored,inside,ordinal,_⟩ := finished 2 ("Second feature","") second
  exact missing stored inside ordinal

/-- A pass completes the backlog that has one of the call's two items; the call is made
again, returns, and leaves the other item pending. -/
theorem crashed_call_completes : (∀ who, BacklogParty plainEnvironment 1 "key-1" twoFeatures (building twoFeatures who)) ∧
    configuredWorld.repository.getBacklog "backlog:key-1" = none ∧ configuredWorld.repository.itemsOf "backlog:key-1" = [] ∧
    ∃ trace later after, Interleaved (building twoFeatures) configuredWorld trace later after ∧
      (∃ moment ∈ trace, Completes "backlog:key-1" moment.before moment.after ∧
        ¬ AllDone plainEnvironment "key-1" twoFeatures moment.before.repository) ∧
      (∃ answer, later 4 = (Routine.settle (.ok answer) : Action (Backlog × List BacklogItem)).thread) ∧
      Completed after.repository "backlog:key-1" ∧ ∃ item ∈ after.repository.itemsOf "backlog:key-1", item.status = .pending := by
  refine ⟨building_parties twoFeatures,by decide +kernel,by decide +kernel,_,_,_,
    interleaved_play crashed (building twoFeatures) configuredWorld,?_,⟨_,by rfl⟩,by decide +kernel,by decide +kernel⟩
  have early : ∃ moment ∈ (play crashed (building twoFeatures) configuredWorld).1,
      Completes "backlog:key-1" moment.before moment.after ∧
        ∀ stored ∈ moment.before.repository.itemsOf "backlog:key-1", stored.ordinal ≠ 2 := by
    decide +kernel
  obtain ⟨moment,inside,completes,missing⟩ := early
  exact ⟨moment,inside,completes,unfinished_of_missing missing⟩

/-- A call with one item runs to its end before the passes, and is made again. -/
def built : List (Fin 5) := List.replicate 6 0 ++ List.replicate 9 1 ++ [2] ++ List.replicate 6 3 ++ List.replicate 5 4

def builtWorld : World := (play built (building oneFeature) configuredWorld).2.2

theorem backlogs_complete_finished_built : Completed builtWorld.repository "backlog:key-1" ∧
    AllDone plainEnvironment "key-1" oneFeature builtWorld.repository := by
  have pages : ∀ moment ∈ (play built (building oneFeature) configuredWorld).1,
      moment.before.repository.listBacklogItems "backlog:key-1" 100 = [] ∨
        ∃ stored ∈ moment.before.repository.listBacklogItems "backlog:key-1" 100, stored.ordinal = 1 := by
    decide +kernel
  have whole : PagesWhole plainEnvironment 1 "key-1" oneFeature (building oneFeature)
      (play built (building oneFeature) configuredWorld).1 := by
    rintro early moment late same _ ⟨some,_,ordinal,item,here,missing⟩
    rcases pages moment (by rw [same]; simp) with empty | ⟨stored,inside,first⟩
    · exact some empty
    · obtain ⟨bound,_⟩ := List.getElem?_eq_some_iff.mp here.2
      have only : ordinal - 1 < 1 := bound
      have positive := here.1
      exact missing stored inside (by omega)
  have completed : Completed builtWorld.repository "backlog:key-1" := by decide +kernel
  have both := backlogs_complete_finished (building_parties oneFeature) (interleaved_play built (building oneFeature) configuredWorld)
    (by decide +kernel) (by decide +kernel) whole
  exact ⟨completed,(both.2 completed).1⟩

end AgentOS.System
