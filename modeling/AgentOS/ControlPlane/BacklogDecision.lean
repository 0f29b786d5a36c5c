import AgentOS.ControlPlane.Backlogs
import Mathlib.Data.List.Induction

/-! What the decision about a backlog comes to: the first item that is not over, and the run it builds on. -/
namespace AgentOS.ControlPlane
open Library

def Over (item : BacklogItem) : Prop := item.status = .succeeded ∨ item.status = .skipped

/-- The run of the latest succeeded item before this one that has a run, or that there is none. -/
def BuildsOn (items : List BacklogItem) (item : BacklogItem) : Option String → Prop
  | none => ∀ earlier ∈ items, earlier.ordinal < item.ordinal → earlier.status = .succeeded → earlier.runId = none
  | some runId => ∃ earlier ∈ items, earlier.ordinal < item.ordinal ∧ earlier.status = .succeeded ∧
      earlier.runId = some runId ∧ ∀ other ∈ items, earlier.ordinal < other.ordinal → other.ordinal < item.ordinal →
        other.status = .succeeded → other.runId = none

/-- The run to build on, where there is one, is known with its branch and its commit. -/
def Published (runs : OrderedMap String BacklogItemRun) : Option String → Prop
  | none => True
  | some runId => ∃ run, runs.get? runId = some run ∧ run.publishedBranch.isSome ∧ run.publishedCommitSha.isSome

structure Dispatchable (runs : OrderedMap String BacklogItemRun) (items : List BacklogItem) (item : BacklogItem)
    (baseRunId : Option String) : Prop where
  listed : item ∈ items
  unbound : item.runId = none
  waits : ¬ Over item
  unfailed : item.status ≠ .failed
  earlier : ∀ other ∈ items, other.ordinal < item.ordinal → Over other
  base : BuildsOn items item baseRunId
  published : Published runs baseRunId

def lastRun (previousRunId : Option String) (items : List BacklogItem) : Option String :=
  items.foldl (fun previous item => if item.status = .succeeded then item.runId.or previous else previous) previousRunId

section
variable {runs : OrderedMap String BacklogItemRun} {backlog : Backlog} {items others : List BacklogItem}
  {item : BacklogItem} {previousRunId baseRunId : Option String}

variable {before after : List BacklogItem} {dispatched : BacklogItem}

theorem startItem_dispatch : startItem runs item previousRunId = .dispatch dispatched baseRunId ↔
    dispatched = item ∧ baseRunId = previousRunId ∧ Published runs previousRunId := by
  unfold startItem Published
  cases previousRunId with
  | none => simp [eq_comm]
  | some runId =>
    dsimp only
    cases found : runs.get? runId with
    | none => simp
    | some run =>
      dsimp only
      by_cases unpublished : run.publishedBranch.isNone = true ∨ run.publishedCommitSha.isNone = true
      · rw [if_pos unpublished]
        constructor
        · exact fun impossible => by cases impossible
        · rintro ⟨_,_,_,same,branch,commit⟩
          cases same
          rcases unpublished with none_ | none_
          · simp [Option.isNone_iff_eq_none.mp none_] at branch
          · simp [Option.isNone_iff_eq_none.mp none_] at commit
      · rw [if_neg unpublished]
        obtain ⟨branch,commit⟩ := not_or.mp unpublished
        have published : run.publishedBranch.isSome = true ∧ run.publishedCommitSha.isSome = true :=
          ⟨by simpa using Option.isSome_iff_ne_none.mpr (by simpa using branch),
            by simpa using Option.isSome_iff_ne_none.mpr (by simpa using commit)⟩
        constructor
        · intro same
          cases same
          exact ⟨rfl,rfl,run,rfl,published⟩
        · rintro ⟨rfl,rfl,_⟩
          rfl

theorem standing_dispatch_iff : standing runs item previousRunId = .dispatch dispatched baseRunId ↔
    dispatched = item ∧ item.runId = none ∧ item.status ≠ .failed ∧ baseRunId = previousRunId ∧ Published runs previousRunId := by
  unfold standing
  cases bound : item.runId with
  | some runId =>
    unfold awaitRun
    constructor
    · intro impossible
      dsimp only at impossible
      repeat' split at impossible
      all_goals cases impossible
    · rintro ⟨_,impossible,_⟩
      cases impossible
  | none =>
    by_cases failed : item.status = .failed
    · simp [failed]
    · dsimp only
      rw [if_neg failed,startItem_dispatch]
      simp [failed]

theorem standing_not_complete : standing runs item previousRunId ≠ .complete := by
  unfold standing awaitRun startItem
  intro complete
  repeat' split at complete
  all_goals cases complete

theorem firstStanding_over (passed : Over item) :
    firstStanding runs previousRunId (item::items) = firstStanding runs (lastRun previousRunId [item]) items := by
  rw [firstStanding]
  rcases passed with succeeded | skipped
  · simp [succeeded,lastRun]
  · simp [skipped,lastRun]

theorem firstStanding_waits (waits : ¬ Over item) :
    firstStanding runs previousRunId (item::items) = standing runs item previousRunId := by
  obtain ⟨unsucceeded,unskipped⟩ := not_or.mp waits
  rw [firstStanding,if_neg unskipped,if_neg unsucceeded]

theorem firstStanding_dispatch : firstStanding runs previousRunId items = .dispatch item baseRunId ↔
    ∃ before after, items = before ++ item::after ∧ (∀ earlier ∈ before, Over earlier) ∧ ¬ Over item ∧ item.runId = none ∧
      item.status ≠ .failed ∧ baseRunId = lastRun previousRunId before ∧ Published runs baseRunId := by
  induction items generalizing previousRunId with
  | nil =>
    constructor
    · exact fun impossible => by cases impossible
    · rintro ⟨before,after,impossible,_⟩
      simp at impossible
  | cons first rest ih =>
    by_cases passed : Over first
    · rw [firstStanding_over passed,ih]
      constructor
      · rintro ⟨before,after,rfl,overs,waits,facts⟩
        refine ⟨first::before,after,rfl,?_,waits,facts⟩
        intro earlier inside
        rcases List.mem_cons.mp inside with rfl | later
        · exact passed
        · exact overs earlier later
      · rintro ⟨before,after,same,overs,waits,facts⟩
        cases before with
        | nil =>
          cases same
          exact absurd passed waits
        | cons head before =>
          cases same
          exact ⟨before,after,rfl,fun earlier inside => overs earlier (List.mem_cons_of_mem _ inside),waits,facts⟩
    · rw [firstStanding_waits passed,standing_dispatch_iff]
      constructor
      · rintro ⟨rfl,unbound,unfailed,rfl,published⟩
        exact ⟨[],rest,rfl,nofun,passed,unbound,unfailed,rfl,published⟩
      · rintro ⟨before,after,same,overs,_,unbound,unfailed,base,published⟩
        cases before with
        | nil =>
          cases same
          rw [base] at published ⊢
          exact ⟨rfl,unbound,unfailed,rfl,published⟩
        | cons head before =>
          obtain ⟨rfl,_⟩ := List.cons.inj same
          exact absurd (overs first List.mem_cons_self) passed

theorem firstStanding_complete : firstStanding runs previousRunId items = .complete ↔ ∀ item ∈ items, Over item := by
  induction items generalizing previousRunId with
  | nil => simp [firstStanding]
  | cons first rest ih =>
    by_cases passed : Over first
    · rw [firstStanding_over passed,ih]
      simp [passed]
    · rw [firstStanding_waits passed]
      constructor
      · exact fun complete => absurd complete standing_not_complete
      · exact fun overs => absurd (overs first List.mem_cons_self) passed

/-! ### The order of the items -/

def DistinctOrdinals (items : List BacklogItem) : Prop :=
  items.Pairwise fun left right => left.ordinal ≠ right.ordinal

theorem byOrdinal_sorted (distinct : DistinctOrdinals items) :
    (byOrdinal items).Pairwise fun left right => left.ordinal < right.ordinal := by
  have inOrder : (byOrdinal items).Pairwise fun left right => left.ordinal ≤ right.ordinal := by
    have total : Std.Total fun left right : BacklogItem => left.ordinal ≤ right.ordinal := ⟨fun _ _ => Nat.le_total _ _⟩
    have trans : IsTrans BacklogItem fun left right => left.ordinal ≤ right.ordinal := ⟨fun _ _ _ => Nat.le_trans⟩
    exact List.pairwise_insertionSort _ items
  have apart : DistinctOrdinals (byOrdinal items) :=
    ((List.perm_insertionSort _ items).pairwise_iff fun differ => Ne.symm differ).mpr distinct
  exact (inOrder.and apart).imp fun both => lt_of_le_of_ne both.1 both.2

theorem mem_byOrdinal : item ∈ byOrdinal items ↔ item ∈ items := List.mem_insertionSort _

theorem byOrdinal_perm (distinct : DistinctOrdinals items) (same : items.Perm others) : byOrdinal others = byOrdinal items := by
  have distinct' : DistinctOrdinals others := (same.pairwise_iff fun differ => Ne.symm differ).mp distinct
  refine List.Perm.eq_of_pairwise (fun left right _ _ before after => absurd after (Nat.lt_asymm before))
    (byOrdinal_sorted distinct') (byOrdinal_sorted distinct) ?_
  exact (List.perm_insertionSort _ others).trans (same.symm.trans (List.perm_insertionSort _ items).symm)

theorem before_iff {other : BacklogItem} (sorted : (before ++ item::after).Pairwise fun left right => left.ordinal < right.ordinal) :
    other ∈ before ↔ other ∈ before ++ item::after ∧ other.ordinal < item.ordinal := by
  obtain ⟨_,tail,ahead⟩ := List.pairwise_append.mp sorted
  constructor
  · exact fun inside => ⟨List.mem_append_left _ inside,ahead other inside item List.mem_cons_self⟩
  · rintro ⟨inside,smaller⟩
    rcases List.mem_append.mp inside with here | there
    · exact here
    rcases List.mem_cons.mp there with rfl | later
    · exact absurd smaller (Nat.lt_irrefl _)
    · exact absurd smaller (Nat.lt_asymm (List.rel_of_pairwise_cons tail later))

theorem lastRun_append (before : List BacklogItem) : lastRun previousRunId (before ++ [item]) =
    if item.status = .succeeded then item.runId.or (lastRun previousRunId before) else lastRun previousRunId before := by
  unfold lastRun
  rw [List.foldl_append]
  rfl

theorem lastRun_iff {before : List BacklogItem} (sorted : before.Pairwise fun left right => left.ordinal < right.ordinal) :
    lastRun none before = baseRunId ↔ match baseRunId with
      | none => ∀ earlier ∈ before, earlier.status = .succeeded → earlier.runId = none
      | some runId => ∃ earlier ∈ before, earlier.status = .succeeded ∧ earlier.runId = some runId ∧
          ∀ other ∈ before, earlier.ordinal < other.ordinal → other.status = .succeeded → other.runId = none := by
  induction before using List.reverseRecOn generalizing baseRunId with
  | nil => cases baseRunId <;> simp [lastRun]
  | append_singleton before last ih =>
    obtain ⟨sorted',_,ahead⟩ := List.pairwise_append.mp sorted
    have final : ∀ earlier ∈ before, earlier.ordinal < last.ordinal := fun earlier inside => ahead earlier inside last (by simp)
    rw [lastRun_append]
    by_cases passed : last.status = .succeeded ∧ last.runId ≠ none
    · obtain ⟨runId,bound⟩ := Option.ne_none_iff_exists'.mp passed.2
      rw [if_pos passed.1,bound,Option.some_or]
      cases baseRunId with
      | none =>
        simp only [reduceCtorEq,false_iff,not_forall]
        exact ⟨last,by simp,passed.1,by simp [bound]⟩
      | some baseRunId =>
        dsimp only
        constructor
        · intro same
          cases same
          refine ⟨last,by simp,passed.1,bound,fun other inside later => ?_⟩
          rcases List.mem_append.mp inside with here | here
          · exact absurd later (Nat.lt_asymm (final other here))
          · rw [List.mem_singleton.mp here] at later
            exact absurd later (Nat.lt_irrefl _)
        · rintro ⟨earlier,inside,_,named,latest⟩
          rcases List.mem_append.mp inside with here | here
          · have unbound := latest last (by simp) (final earlier here) passed.1
            rw [bound] at unbound
            cases unbound
          · rw [List.mem_singleton.mp here,bound] at named
            exact named
    · have ignored : (if last.status = .succeeded then last.runId.or (lastRun none before) else lastRun none before) =
          lastRun none before := by
        split
        · rename_i succeeded
          rw [Classical.not_not.mp fun bound => passed ⟨succeeded,bound⟩,Option.none_or]
        · rfl
      have unbound : last.status = .succeeded → last.runId = none := fun succeeded =>
        Classical.not_not.mp fun bound => passed ⟨succeeded,bound⟩
      rw [ignored,ih sorted']
      cases baseRunId with
      | none =>
        simp only [List.mem_append,List.mem_singleton]
        constructor
        · rintro none_ earlier (here | rfl)
          · exact none_ earlier here
          · exact unbound
        · exact fun none_ earlier here => none_ earlier (.inl here)
      | some baseRunId =>
        simp only [List.mem_append,List.mem_singleton]
        constructor
        · rintro ⟨earlier,here,succeeded,named,latest⟩
          refine ⟨earlier,.inl here,succeeded,named,?_⟩
          rintro other (there | rfl)
          · exact latest other there
          · exact fun _ => unbound
        · rintro ⟨earlier,here | rfl,succeeded,named,latest⟩
          · exact ⟨earlier,here,succeeded,named,fun other there => latest other (.inl there)⟩
          · rw [unbound succeeded] at named
            cases named

theorem buildsOn_iff (listed : ∀ other, other ∈ items ↔ other ∈ before ++ item::after)
    (sorted : (before ++ item::after).Pairwise fun left right => left.ordinal < right.ordinal) :
    baseRunId = lastRun none before ↔ BuildsOn items item baseRunId := by
  have smaller : ∀ other, other ∈ before ↔ other ∈ items ∧ other.ordinal < item.ordinal := fun other => by
    rw [before_iff sorted,listed]
  rw [eq_comm,lastRun_iff (List.pairwise_append.mp sorted).1]
  cases baseRunId with
  | none =>
    unfold BuildsOn
    simp only [smaller,and_imp]
  | some runId =>
    unfold BuildsOn
    simp only [smaller,and_assoc,and_imp]
    refine exists_congr fun earlier => and_congr_right fun _ => and_congr_right fun _ => and_congr_right fun _ =>
      and_congr_right fun _ => forall_congr' fun other => ?_
    exact ⟨fun none_ inside later before => none_ inside before later,fun none_ inside before later => none_ inside later before⟩

section
variable (active : backlog.status = .active)
include active

theorem advanceBacklog_active (some_ : items ≠ []) :
    advanceBacklog runs backlog items = firstStanding runs none (byOrdinal items) := by
  have sorted : byOrdinal items ≠ [] := by
    intro empty
    have lengths := List.length_insertionSort (fun left right : BacklogItem => left.ordinal ≤ right.ordinal) items
    unfold byOrdinal at empty
    rw [empty] at lengths
    exact some_ (List.length_eq_zero_iff.mp lengths.symm)
  unfold advanceBacklog
  rw [if_neg (not_not.mpr active),if_neg sorted]

theorem advanceBacklog_empty : advanceBacklog runs backlog [] = .idle := by
  unfold advanceBacklog
  rw [if_neg (not_not.mpr active)]
  rfl

theorem advanceBacklog_dispatch_iff (distinct : DistinctOrdinals items) :
    advanceBacklog runs backlog items = .dispatch item baseRunId ↔ Dispatchable runs items item baseRunId := by
  have sorted := byOrdinal_sorted distinct
  by_cases some_ : items = []
  · subst some_
    rw [advanceBacklog_empty active]
    constructor
    · intro impossible
      cases impossible
    · intro dispatchable
      cases dispatchable.listed
  rw [advanceBacklog_active active some_,firstStanding_dispatch]
  constructor
  · rintro ⟨before,after,split,overs,waits,unbound,unfailed,base,published⟩
    rw [split] at sorted
    have listed : ∀ other, other ∈ items ↔ other ∈ before ++ item::after := fun other => by rw [← split,mem_byOrdinal]
    refine ⟨(listed item).mpr (by simp),unbound,waits,unfailed,?_,(buildsOn_iff listed sorted).mp base,published⟩
    exact fun other inside less => overs other ((before_iff sorted).mpr ⟨(listed other).mp inside,less⟩)
  · intro dispatchable
    obtain ⟨before,after,split⟩ := List.append_of_mem (mem_byOrdinal.mpr dispatchable.listed)
    rw [split] at sorted
    have listed : ∀ other, other ∈ items ↔ other ∈ before ++ item::after := fun other => by rw [← split,mem_byOrdinal]
    refine ⟨before,after,split,?_,dispatchable.waits,dispatchable.unbound,dispatchable.unfailed,
      (buildsOn_iff listed sorted).mpr dispatchable.base,dispatchable.published⟩
    intro earlier inside
    obtain ⟨there,less⟩ := (before_iff sorted).mp inside
    exact dispatchable.earlier earlier ((listed earlier).mpr there) less

theorem advanceBacklog_complete_iff : advanceBacklog runs backlog items = .complete ↔ items ≠ [] ∧ ∀ item ∈ items, Over item := by
  by_cases some_ : items = []
  · subst some_
    rw [advanceBacklog_empty active]
    simp
  · rw [advanceBacklog_active active some_,firstStanding_complete]
    simp only [mem_byOrdinal,ne_eq,some_,not_false_eq_true,true_and]

end

theorem advanceBacklog_perm (distinct : DistinctOrdinals items) (same : items.Perm others) :
    advanceBacklog runs backlog others = advanceBacklog runs backlog items := by
  unfold advanceBacklog
  rw [byOrdinal_perm distinct same]

/-- A backlog dispatches its first item that is not over, on the latest published run before it, and completes when all
are over; the order in which the items are listed does not matter. -/
theorem backlog_dispatches_safely (runs : OrderedMap String BacklogItemRun) (backlog : Backlog) (items : List BacklogItem)
    (active : backlog.status = .active) (distinct : DistinctOrdinals items) :
    (∀ item baseRunId, advanceBacklog runs backlog items = .dispatch item baseRunId ↔ Dispatchable runs items item baseRunId) ∧
      (advanceBacklog runs backlog items = .complete ↔ items ≠ [] ∧ ∀ item ∈ items, Over item) ∧
      ∀ others, items.Perm others → advanceBacklog runs backlog others = advanceBacklog runs backlog items :=
  ⟨fun _ _ => advanceBacklog_dispatch_iff active distinct,advanceBacklog_complete_iff active,
    fun _ => advanceBacklog_perm distinct⟩

def listedItems : List BacklogItem :=
  [{id := "item-2",backlogId := "backlog-1",ordinal := 2,title := "b",description := "b",status := .pending,createdAt := 0
    updatedAt := 0},
    {id := "item-1",backlogId := "backlog-1",ordinal := 1,title := "a",description := "a",status := .succeeded
     runId := some "run-1",createdAt := 0,updatedAt := 0}]

def publishedRuns : OrderedMap String BacklogItemRun := OrderedMap.empty.set "run-1"
  {runId := "run-1",status := .succeeded,publishedBranch := some "agentos/run-1",publishedCommitSha := some "c0ffee"}

def activeBacklog : Backlog :=
  {id := "backlog-1",projectId := "project-1",title := "a and b",status := .active,createdAt := 0,updatedAt := 0}

theorem pending_item_dispatched : ∃ item ∈ listedItems, item.id = "item-2" ∧
    Dispatchable publishedRuns listedItems item (some "run-1") := by
  have distinct : DistinctOrdinals listedItems := by
    unfold DistinctOrdinals
    decide
  refine ⟨_,List.mem_cons_self,rfl,?_⟩
  exact ((backlog_dispatches_safely publishedRuns activeBacklog listedItems rfl distinct).1 _ _).mp (by decide)

end

end AgentOS.ControlPlane
