import AgentOS.ControlPlane.BacklogTables
import AgentOS.Library.Machines

/-! Backlogs in Postgres beside backlogs in memory. The database keeps an item's run to itself by a unique index and
by writing a run only to items that have none; the memory keeps a map from runs to items. -/
namespace AgentOS.ControlPlane
open Library Machines
open OrderedMap (get?_set get?_set_some)

/-! ### The tables -/

inductive Violation where
  | integerRange
  | backlogsKey
  | backlogsProject
  | itemsOrdinalPositive
  | itemsBacklogOrdinalUnique
  | itemsRunUnique
  | itemsBacklog
  | itemsRun

def isPostgresUniqueViolation : Violation → Bool
  | .backlogsKey | .itemsBacklogOrdinalUnique | .itemsRunUnique => true
  | _ => false

inductive NeonFault where
  | idempotencyConflict (subject id : String)
  | violates (constraint : Violation)

structure BacklogRows where
  projects : List String
  runs : List String
  backlogs : OrderedMap String Backlog := .empty
  items : OrderedMap String BacklogItem := .empty
  itemKeyed : ∀ id item, items.get? id = some item → item.id = id := by simp
  inRange : ∀ id item, items.get? id = some item → 1 ≤ item.ordinal ∧ item.ordinal ≤ 2147483647 := by simp
  inBacklog : ∀ id item, items.get? id = some item → (backlogs.get? item.backlogId).isSome := by simp
  ofRun : ∀ id item runId, items.get? id = some item → item.runId = some runId → runId ∈ runs := by simp
  ordinalUnique : ∀ id item other found, items.get? id = some item → items.get? other = some found →
    item.backlogId = found.backlogId → item.ordinal = found.ordinal → id = other := by simp
  runUnique : ∀ id item other found runId, items.get? id = some item → items.get? other = some found →
    item.runId = some runId → found.runId = some runId → id = other := by simp

namespace BacklogRows

def others (rows : BacklogRows) (item : BacklogItem) : List BacklogItem :=
  rows.items.values.filter fun other => other.id ≠ item.id

def violation (rows : BacklogRows) (item : BacklogItem) : Option Violation :=
  if 2147483647 < item.ordinal then some .integerRange
  else if item.ordinal < 1 then some .itemsOrdinalPositive
  else if (rows.others item).any fun other => other.backlogId = item.backlogId && other.ordinal = item.ordinal then
    some .itemsBacklogOrdinalUnique
  else if item.runId.any fun runId => (rows.others item).any fun other => other.runId = some runId then some .itemsRunUnique
  else if (rows.backlogs.get? item.backlogId).isNone then some .itemsBacklog
  else if item.runId.any (· ∉ rows.runs) then some .itemsRun
  else none

structure Fits (rows : BacklogRows) (item : BacklogItem) : Prop where
  range : item.ordinal ≤ 2147483647
  positive : 1 ≤ item.ordinal
  ordinal : ∀ id other, rows.items.get? id = some other → id ≠ item.id → other.backlogId = item.backlogId →
    other.ordinal ≠ item.ordinal
  run : ∀ id other runId, rows.items.get? id = some other → id ≠ item.id → item.runId = some runId → other.runId ≠ some runId
  backlog : (rows.backlogs.get? item.backlogId).isSome
  ofRun : ∀ runId, item.runId = some runId → runId ∈ rows.runs

section
variable {rows : BacklogRows} {item other : BacklogItem}

theorem mem_others : other ∈ rows.others item ↔ rows.items.get? other.id = some other ∧ other.id ≠ item.id := by
  unfold others
  rw [List.mem_filter,OrderedMap.mem_values,decide_eq_true_eq]
  refine and_congr_left fun _ => ⟨?_,fun found => ⟨_,found⟩⟩
  rintro ⟨key,found⟩
  exact (rows.itemKeyed key other found) ▸ found

theorem refused_none {condition : Prop} [Decidable condition] {violated : Violation} {rest : Option Violation} :
    (if condition then some violated else rest) = none ↔ ¬ condition ∧ rest = none := by
  split
  · rename_i holds
    exact iff_of_false (by simp) fun both => both.1 holds
  · rename_i fails
    exact (and_iff_right fails).symm

theorem violation_none_iff : rows.violation item = none ↔ rows.Fits item := by
  unfold violation
  simp only [refused_none,Bool.not_eq_true,List.any_eq_false,Option.any_eq_false,Bool.and_eq_true,decide_eq_true_eq,
    decide_eq_false_iff_not,not_lt,not_and,Option.isNone_eq_false_iff,not_not,and_true]
  constructor
  · rintro ⟨range,positive,ordinal,run,backlog,ofRun⟩
    refine ⟨range,positive,fun id other found apart => ?_,fun id other runId found apart mine => ?_,backlog,ofRun⟩
    · have named := rows.itemKeyed id other found
      exact ordinal other (mem_others.mpr (named.symm ▸ ⟨found,apart⟩))
    · have named := rows.itemKeyed id other found
      exact run runId mine other (mem_others.mpr (named.symm ▸ ⟨found,apart⟩))
  · intro fits
    refine ⟨fits.range,fits.positive,?_,?_,fits.backlog,fits.ofRun⟩
    · intro other inside
      obtain ⟨found,apart⟩ := mem_others.mp inside
      exact fits.ordinal _ other found apart
    · intro runId mine other inside
      obtain ⟨found,apart⟩ := mem_others.mp inside
      exact fits.run _ other runId found apart mine

end

def put (rows : BacklogRows) (item : BacklogItem) (fits : rows.Fits item) : BacklogRows :=
  {rows with
    items := rows.items.set item.id item
    itemKeyed := Repository.keyed_set rows.itemKeyed item
    inRange := by
      intro id found held
      rcases get?_set_some held with ⟨_,rfl⟩ | ⟨_,there⟩
      · exact ⟨fits.positive,fits.range⟩
      · exact rows.inRange id found there
    inBacklog := by
      intro id found held
      rcases get?_set_some held with ⟨_,rfl⟩ | ⟨_,there⟩
      · exact fits.backlog
      · exact rows.inBacklog id found there
    ofRun := by
      intro id found runId held
      rcases get?_set_some held with ⟨_,rfl⟩ | ⟨_,there⟩
      · exact fits.ofRun runId
      · exact rows.ofRun id found runId there
    ordinalUnique := by
      intro id first other second held held' backlogs ordinals
      rcases get?_set_some held with ⟨rfl,rfl⟩ | ⟨apart,there⟩ <;>
        rcases get?_set_some held' with ⟨rfl,rfl⟩ | ⟨apart',there'⟩
      · rfl
      · exact absurd ordinals.symm (fits.ordinal other second there' apart' backlogs.symm)
      · exact absurd ordinals (fits.ordinal id first there apart backlogs)
      · exact rows.ordinalUnique id first other second there there' backlogs ordinals
    runUnique := by
      intro id first other second runId held held' mine mine'
      rcases get?_set_some held with ⟨rfl,rfl⟩ | ⟨apart,there⟩ <;>
        rcases get?_set_some held' with ⟨rfl,rfl⟩ | ⟨apart',there'⟩
      · rfl
      · exact absurd mine' (fits.run other second runId there' apart' mine)
      · exact absurd mine (fits.run id first runId there apart mine')
      · exact rows.runUnique id first other second runId there there' mine mine'}

def write (rows : BacklogRows) (item : BacklogItem) : Except Violation BacklogRows :=
  match violated : rows.violation item with
  | some violation => .error violation
  | none => .ok (rows.put item (violation_none_iff.mp violated))

theorem write_fits {rows : BacklogRows} {item : BacklogItem} (fits : rows.Fits item) : rows.write item = .ok (rows.put item fits) := by
  unfold write
  split
  · rename_i violation violated
    rw [violation_none_iff.mpr fits] at violated
    cases violated
  · rfl

theorem write_violates {rows : BacklogRows} {item : BacklogItem} {violated : Violation} (found : rows.violation item = some violated) :
    rows.write item = .error violated := by
  unfold write
  split
  · rename_i violation same
    exact congrArg _ (Option.some.inj (same.symm.trans found))
  · rename_i none_
    rw [none_] at found
    cases found

/-! ### The statements -/

def createBacklog (rows : BacklogRows) (backlog : Backlog) : Except NeonFault (Backlog × BacklogRows) :=
  if (rows.backlogs.get? backlog.id).isSome then .error (.violates .backlogsKey)
  else if backlog.projectId ∉ rows.projects then .error (.violates .backlogsProject)
  else .ok (backlog,{rows with
    backlogs := rows.backlogs.set backlog.id backlog
    inBacklog := by
      intro id item held
      rw [get?_set]
      split
      · rfl
      · exact rows.inBacklog id item held})

/-- The insertion answers the row that has the key already; only then are the other constraints not looked at. -/
def createBacklogItemIdempotently (rows : BacklogRows) (item : BacklogItem) : Except NeonFault (BacklogItem × BacklogRows) :=
  if 2147483647 < item.ordinal then .error (.violates .integerRange)
  else if item.ordinal < 1 then .error (.violates .itemsOrdinalPositive)
  else match rows.items.get? item.id with
    | some existing =>
      if Repository.sameBacklogItem existing item then .ok (existing,rows)
      else .error (.idempotencyConflict "Backlog item" item.id)
    | none => match rows.write item with
      | .ok written => .ok (item,written)
      | .error violated =>
        if isPostgresUniqueViolation violated then
          .error (.idempotencyConflict "Backlog item ordinal" (item.backlogId ++ ":" ++ toString item.ordinal))
        else .error (.violates violated)

def rewritten (existing : BacklogItem) (status : BacklogItemStatus) (runId : Option String) (updatedAt : Instant) : BacklogItem :=
  {existing with status := status,runId := runId.or existing.runId,updatedAt := updatedAt}

def overwrite (rows : BacklogRows) (updated : BacklogItem) : Except NeonFault (Option BacklogItem × BacklogRows) :=
  match rows.write updated with
  | .ok written => .ok (some updated,written)
  | .error violated => if isPostgresUniqueViolation violated then .ok (none,rows) else .error (.violates violated)

def updateBacklogItem (rows : BacklogRows) (id : String) (expected : List BacklogItemStatus) (status : BacklogItemStatus)
    (runId : Option String) (updatedAt : Instant) : Except NeonFault (Option BacklogItem × BacklogRows) :=
  match (rows.items.get? id).filter fun item => item.status ∈ expected && (runId.isNone || item.runId.isNone) with
  | none => .ok (none,rows)
  | some existing => rows.overwrite (rewritten existing status runId updatedAt)

theorem createBacklogItemIdempotently_fits {rows : BacklogRows} {item : BacklogItem} (new : rows.items.get? item.id = none)
    (fits : rows.Fits item) : rows.createBacklogItemIdempotently item = .ok (item,rows.put item fits) := by
  unfold createBacklogItemIdempotently
  rw [if_neg fits.range.not_gt,if_neg fits.positive.not_gt,new]
  dsimp only
  rw [write_fits fits]

theorem createBacklogItemIdempotently_unfit {rows : BacklogRows} {item : BacklogItem} (new : rows.items.get? item.id = none)
    (unfit : ¬ rows.Fits item) : ∃ fault, rows.createBacklogItemIdempotently item = .error fault := by
  obtain ⟨violated,found⟩ := Option.ne_none_iff_exists'.mp (mt violation_none_iff.mp unfit)
  unfold createBacklogItemIdempotently
  rw [new]
  dsimp only
  rw [write_violates found]
  dsimp only
  split_ifs <;> exact ⟨_,rfl⟩

section
variable {rows : BacklogRows} {id : String} {existing : BacklogItem}
  {status : BacklogItemStatus} {runId : Option String} {updatedAt : Instant}

theorem fits_updated (held : rows.items.get? id = some existing)
    (run : ∀ other found, rows.items.get? other = some found → other ≠ id → ∀ mine, runId.or existing.runId = some mine →
      found.runId ≠ some mine) (ofRun : ∀ mine, runId = some mine → mine ∈ rows.runs) :
    rows.Fits (rewritten existing status runId updatedAt) := by
  have named := rows.itemKeyed id existing held
  refine {range := (rows.inRange id existing held).2,positive := (rows.inRange id existing held).1,ordinal := ?_,run := ?_
          backlog := rows.inBacklog id existing held,ofRun := ?_}
  · intro other found there apart backlogs ordinals
    exact apart ((rows.ordinalUnique other found id existing there held backlogs ordinals).trans named.symm)
  · intro other found mine there apart here
    exact run other found there (fun same => apart (same.trans named.symm)) mine here
  · intro mine here
    cases runId with
    | none => exact rows.ofRun id existing mine held here
    | some runId => exact ofRun mine here

theorem violation_run_taken {taken other : String} {found : BacklogItem} (held : rows.items.get? id = some existing)
    (there : rows.items.get? other = some found) (apart : other ≠ id) (bound : found.runId = some taken) :
    rows.violation (rewritten existing status (some taken) updatedAt) = some .itemsRunUnique := by
  have named := rows.itemKeyed id existing held
  have namedOther := rows.itemKeyed other found there
  unfold violation rewritten
  dsimp only
  rw [if_neg (rows.inRange id existing held).2.not_gt,if_neg (rows.inRange id existing held).1.not_gt,if_neg,if_pos]
  · simp only [Option.some_or,Option.any_some,List.any_eq_true,decide_eq_true_eq]
    exact ⟨found,mem_others.mpr ⟨namedOther.symm ▸ there,fun same => apart (namedOther.symm.trans (same.trans named))⟩,bound⟩
  · simp only [List.any_eq_true,Bool.and_eq_true,decide_eq_true_eq,not_exists,not_and]
    intro row inside backlogs ordinals
    obtain ⟨present,apart⟩ := mem_others.mp inside
    exact apart ((rows.ordinalUnique row.id row id existing present held backlogs ordinals).trans named.symm)

end
end BacklogRows

/-! ### The calls -/

inductive BacklogCall where
  | storeRun (run : Run)
  | createBacklog (backlog : Backlog)
  | createItem (item : BacklogItem)
  | updateItem (id : String) (expected : List BacklogItemStatus) (status : BacklogItemStatus) (runId : Option String)
      (updatedAt : Instant)

inductive BacklogAnswer where
  | backlog (created : Backlog)
  | item (item : BacklogItem)
  | nothing
  | refused
  deriving DecidableEq

def BacklogAnswer.ofItem : Option BacklogItem → BacklogAnswer
  | none => .nothing
  | some found => .item found

def settled {σ ε α : Type} (store : σ) (answer : α → BacklogAnswer) : Except ε (α × σ) → BacklogAnswer × σ
  | .ok (value,stored) => (answer value,stored)
  | .error _ => (.refused,store)

def memoryStep (memory : Repository) : BacklogCall → BacklogAnswer × Repository
  | .storeRun run => (.nothing,memory.setRun run)
  | .createBacklog backlog => settled memory .backlog (memory.createBacklog backlog)
  | .createItem item => settled memory .item (memory.createBacklogItemIdempotently item)
  | .updateItem id expected status runId updatedAt =>
    let ended := memory.updateBacklogItem id expected status runId updatedAt
    (.ofItem ended.1,ended.2)

def neonStep (rows : BacklogRows) : BacklogCall → BacklogAnswer × BacklogRows
  | .storeRun run => (.nothing,{rows with
      runs := run.id::rows.runs
      ofRun := fun id item runId held mine => List.mem_cons_of_mem _ (rows.ofRun id item runId held mine)})
  | .createBacklog backlog => settled rows .backlog (rows.createBacklog backlog)
  | .createItem item => settled rows .item (rows.createBacklogItemIdempotently item)
  | .updateItem id expected status runId updatedAt =>
    settled rows .ofItem (rows.updateBacklogItem id expected status runId updatedAt)

/-- The calls that both stores take alike: a new item has an ordinal that the column holds, and a run that there is and
that is no item's; a run is attached to no item that has it already, and there is such a run. -/
def TakenAlike (memory : Repository) : BacklogCall → Prop
  | .storeRun _ | .createBacklog _ => True
  | .createItem item => (memory.backlogs.get? item.backlogId).isSome → memory.backlogItems.get? item.id = none →
      memory.backlogItemOrdinals.get? (item.backlogId,item.ordinal) = none →
      (1 ≤ item.ordinal ∧ item.ordinal ≤ 2147483647) ∧
        ∀ runId, item.runId = some runId → (memory.runs.get? runId).isSome ∧ memory.backlogItemRuns.get? runId = none
  | .updateItem id expected _ runId _ => ∀ item attached, memory.backlogItems.get? id = some item → item.status ∈ expected →
      runId = some attached → item.runId ≠ some attached ∧ (item.runId = none → (memory.runs.get? attached).isSome)

structure Mirrors (memory : Repository) (rows : BacklogRows) : Prop where
  projects : ∀ id, (memory.projects.get? id).isSome ↔ id ∈ rows.projects
  runs : ∀ id, (memory.runs.get? id).isSome ↔ id ∈ rows.runs
  backlogs : memory.backlogs = rows.backlogs
  items : memory.backlogItems = rows.items
  ordinals : ∀ backlogId ordinal, (memory.backlogItemOrdinals.get? (backlogId,ordinal)).isSome ↔
    ∃ id item, rows.items.get? id = some item ∧ item.backlogId = backlogId ∧ item.ordinal = ordinal
  itemRuns : ∀ runId id, memory.backlogItemRuns.get? runId = some id ↔
    ∃ item, rows.items.get? id = some item ∧ item.runId = some runId

section
variable {memory : Repository} {rows : BacklogRows} {item : BacklogItem}

section
variable (mirrors : Mirrors memory rows) (new : rows.items.get? item.id = none)
include mirrors new

theorem Mirrors.ordinal_free (fits : rows.Fits item) : memory.backlogItemOrdinals.get? (item.backlogId,item.ordinal) = none := by
  rw [← Option.not_isSome_iff_eq_none]
  intro filed
  obtain ⟨id,found,there,backlogs,ordinals⟩ := (mirrors.ordinals _ _).mp filed
  refine fits.ordinal id found there ?_ backlogs ordinals
  rintro rfl
  rw [new] at there
  cases there

theorem Mirrors.fits_iff (backlog : (memory.backlogs.get? item.backlogId).isSome)
    (free : memory.backlogItemOrdinals.get? (item.backlogId,item.ordinal) = none) :
    rows.Fits item ↔ (1 ≤ item.ordinal ∧ item.ordinal ≤ 2147483647) ∧
      ∀ runId, item.runId = some runId → (memory.runs.get? runId).isSome ∧ memory.backlogItemRuns.get? runId = none := by
  constructor
  · intro fits
    refine ⟨⟨fits.positive,fits.range⟩,fun runId mine => ⟨(mirrors.runs runId).mpr (fits.ofRun runId mine),?_⟩⟩
    rw [Option.eq_none_iff_forall_ne_some]
    intro id owned
    obtain ⟨found,there,bound⟩ := (mirrors.itemRuns runId id).mp owned
    refine fits.run id found runId there ?_ mine bound
    rintro rfl
    rw [new] at there
    cases there
  · rintro ⟨⟨positive,range⟩,run⟩
    refine {range := range,positive := positive,ordinal := ?_,run := ?_,backlog := mirrors.backlogs ▸ backlog
            ofRun := fun runId mine => (mirrors.runs runId).mp (run runId mine).1}
    · intro id other there _ backlogs ordinals
      have filed := (mirrors.ordinals item.backlogId item.ordinal).mpr ⟨id,other,there,backlogs,ordinals⟩
      rw [free] at filed
      cases filed
    · intro id other runId there _ mine bound
      have owned := (mirrors.itemRuns runId id).mpr ⟨other,there,bound⟩
      rw [(run runId mine).2] at owned
      cases owned

end

theorem get?_put {fits : rows.Fits item} (id : String) :
    (rows.put item fits).items.get? id = if id = item.id then some item else rows.items.get? id :=
  get?_set _ _ _ _

theorem Mirrors.storeRun (mirrors : Mirrors memory rows) (run : Run) :
    Mirrors (memoryStep memory (.storeRun run)).2 (neonStep rows (.storeRun run)).2 where
  projects := mirrors.projects
  runs id := by
    show ((memory.runs.set run.id run).get? id).isSome ↔ id ∈ run.id::rows.runs
    rw [get?_set,List.mem_cons,← mirrors.runs]
    split
    · rename_i same
      simp [same]
    · rename_i apart
      exact (or_iff_right apart).symm
  backlogs := mirrors.backlogs
  items := mirrors.items
  ordinals := mirrors.ordinals
  itemRuns := mirrors.itemRuns

def Alike (first : BacklogAnswer × Repository) (second : BacklogAnswer × BacklogRows) : Prop :=
  first.1 = second.1 ∧ Mirrors first.2 second.2

theorem createBacklog_alike (mirrors : Mirrors memory rows) (backlog : Backlog) :
    Alike (memoryStep memory (.createBacklog backlog)) (neonStep rows (.createBacklog backlog)) := by
  unfold memoryStep neonStep Repository.createBacklog BacklogRows.createBacklog
  dsimp only
  rw [mirrors.backlogs]
  by_cases known : backlog.projectId ∈ rows.projects
  · have present : ¬ (memory.projects.get? backlog.projectId).isNone = true := by
      simpa [Option.isSome_iff_ne_none] using (mirrors.projects _).mpr known
    rw [if_neg present]
    by_cases there : (rows.backlogs.get? backlog.id).isSome = true
    · rw [if_pos there,if_pos there]
      exact ⟨rfl,mirrors⟩
    · rw [if_neg there,if_neg there,if_neg (not_not.mpr known)]
      refine ⟨rfl,mirrors.projects,mirrors.runs,?_,mirrors.items,mirrors.ordinals,mirrors.itemRuns⟩
      show memory.backlogs.set _ _ = rows.backlogs.set _ _
      rw [mirrors.backlogs]
  · have absent : (memory.projects.get? backlog.projectId).isNone = true := by
      simpa using mt (mirrors.projects _).mp known
    rw [if_pos absent]
    by_cases there : (rows.backlogs.get? backlog.id).isSome = true
    · rw [if_pos there]
      exact ⟨rfl,mirrors⟩
    · rw [if_neg there,if_pos known]
      exact ⟨rfl,mirrors⟩

theorem createItem_existing {existing : BacklogItem} (mirrors : Mirrors memory rows) (held : rows.items.get? item.id = some existing) :
    Alike (memoryStep memory (.createItem item)) (neonStep rows (.createItem item)) := by
  have stored := rows.inBacklog _ _ held
  have range := rows.inRange _ _ held
  unfold memoryStep neonStep Repository.createBacklogItemIdempotently BacklogRows.createBacklogItemIdempotently
  dsimp only
  rw [mirrors.backlogs,mirrors.items,held]
  dsimp only
  by_cases same : Repository.sameBacklogItem existing item = true
  · have parts := same
    simp only [Repository.sameBacklogItem,Bool.and_eq_true,decide_eq_true_eq] at parts
    rw [parts.1.1.1] at stored
    rw [parts.1.1.2] at range
    rw [if_neg (by simpa [Option.isSome_iff_ne_none] using stored),if_neg range.2.not_gt,if_neg range.1.not_gt,if_pos same,if_pos same]
    exact ⟨rfl,mirrors⟩
  · rw [if_neg same,if_neg same]
    split_ifs <;> exact ⟨rfl,mirrors⟩

theorem createItem_refused (mirrors : Mirrors memory rows) (new : rows.items.get? item.id = none)
    (refused : (memory.backlogs.get? item.backlogId).isNone ∨ (memory.backlogItemOrdinals.get? (item.backlogId,item.ordinal)).isSome) :
    Alike (memoryStep memory (.createItem item)) (neonStep rows (.createItem item)) := by
  have unfit : ¬ rows.Fits item := by
    intro fits
    rcases refused with absent | filed
    · rw [mirrors.backlogs] at absent
      exact absurd fits.backlog (by simpa using absent)
    · rw [mirrors.ordinal_free new fits] at filed
      cases filed
  obtain ⟨fault,failed⟩ := BacklogRows.createBacklogItemIdempotently_unfit new unfit
  unfold memoryStep neonStep Repository.createBacklogItemIdempotently
  dsimp only
  rw [failed,mirrors.items,new]
  dsimp only
  by_cases absent : (memory.backlogs.get? item.backlogId).isNone = true
  · rw [if_pos absent]
    exact ⟨rfl,mirrors⟩
  · rw [if_neg absent,if_pos (refused.resolve_left absent)]
    exact ⟨rfl,mirrors⟩

def storedOver (memory : Repository) (item : BacklogItem) : Repository :=
  {memory.setBacklogItem item with
    backlogItemRuns := match item.runId with
      | none => memory.backlogItemRuns
      | some runId => memory.backlogItemRuns.set runId item.id}

def filed (memory : Repository) (item : BacklogItem) : Repository :=
  {storedOver memory item with
    backlogItemOrdinals := memory.backlogItemOrdinals.set (item.backlogId,item.ordinal) item.id}

theorem memoryStep_new (mirrors : Mirrors memory rows) (new : rows.items.get? item.id = none)
    (backlog : (memory.backlogs.get? item.backlogId).isSome)
    (free : memory.backlogItemOrdinals.get? (item.backlogId,item.ordinal) = none) :
    memoryStep memory (.createItem item) = (.item item,filed memory item) := by
  unfold memoryStep Repository.createBacklogItemIdempotently
  dsimp only
  rw [mirrors.items,new,if_neg (by simpa [Option.isSome_iff_ne_none] using backlog)]
  dsimp only
  rw [if_neg (by simp [free])]
  rfl

theorem bound_written {items : OrderedMap String BacklogItem} {owners : OrderedMap String String}
    (bound : ∀ runId id, owners.get? runId = some id ↔ ∃ item, items.get? id = some item ∧ item.runId = some runId)
    (alone : ∀ id other runId, items.get? id = some other → id ≠ item.id → item.runId = some runId → other.runId ≠ some runId)
    (kept : ∀ old runId, items.get? item.id = some old → old.runId = some runId → item.runId = some runId) (runId id : String) :
    (match item.runId with | none => owners | some mine => owners.set mine item.id).get? runId = some id ↔
      ∃ found, (items.set item.id item).get? id = some found ∧ found.runId = some runId := by
  rw [get?_set]
  by_cases here : id = item.id
  · subst here
    rw [if_pos rfl]
    have earlier : owners.get? runId = some item.id → item.runId = some runId := by
      intro owned
      obtain ⟨old,held,mine⟩ := (bound runId item.id).mp owned
      exact kept old runId held mine
    have own : (∃ found, some item = some found ∧ found.runId = some runId) ↔ item.runId = some runId := by simp
    rw [own]
    cases mine : item.runId with
    | none =>
      rw [mine] at earlier
      exact ⟨earlier,fun same => by cases same⟩
    | some attached =>
      dsimp only
      rw [mine] at earlier
      rw [get?_set]
      split
      · rename_i same
        simp [same]
      · rename_i apart
        exact ⟨earlier,fun same => absurd (Option.some.inj same).symm apart⟩
  · rw [if_neg here]
    cases mine : item.runId with
    | none => exact bound runId id
    | some attached =>
      dsimp only
      rw [get?_set]
      split
      · rename_i same
        subst same
        refine iff_of_false (fun same => here (Option.some.inj same).symm) ?_
        rintro ⟨other,there,theirs⟩
        exact alone id other runId there here mine theirs
      · exact bound runId id

theorem Mirrors.filed (mirrors : Mirrors memory rows) (new : rows.items.get? item.id = none) (fits : rows.Fits item) :
    Mirrors (filed memory item) (rows.put item fits) where
  projects := mirrors.projects
  runs := mirrors.runs
  backlogs := mirrors.backlogs
  items := by
    show memory.backlogItems.set _ _ = rows.items.set _ _
    rw [mirrors.items]
  ordinals backlogId ordinal := by
    show ((memory.backlogItemOrdinals.set (item.backlogId,item.ordinal) item.id).get? (backlogId,ordinal)).isSome ↔ _
    rw [get?_set]
    constructor
    · intro taken
      split at taken
      · rename_i same
        obtain ⟨rfl,rfl⟩ := Prod.mk.inj same
        exact ⟨item.id,item,by rw [get?_put,if_pos rfl],rfl,rfl⟩
      · obtain ⟨id,found,there,mine⟩ := (mirrors.ordinals _ _).mp taken
        refine ⟨id,found,?_,mine⟩
        rw [get?_put,if_neg]
        · exact there
        · rintro rfl
          rw [new] at there
          cases there
    · rintro ⟨id,found,there,rfl,rfl⟩
      rw [get?_put] at there
      split
      · rfl
      · rename_i apart
        split at there
        · cases there
          exact absurd rfl apart
        · exact (mirrors.ordinals _ _).mpr ⟨id,found,there,rfl,rfl⟩
  itemRuns := bound_written mirrors.itemRuns fits.run fun old runId held => by
    rw [new] at held
    cases held

/-! ### Attachments -/

theorem memoryStep_updates {id : String} {expected : List BacklogItemStatus} {existing : BacklogItem} (status : BacklogItemStatus)
    {runId : Option String} (updatedAt : Instant) (held : memory.backlogItems.get? id = some existing)
    (expects : existing.status ∈ expected)
    (free : ∀ mine, runId = some mine → (∀ owner, memory.backlogItemRuns.get? mine = some owner → owner = id) ∧
      ∀ earlier, existing.runId = some earlier → earlier = mine) : memoryStep memory (.updateItem id expected status runId updatedAt) =
      (.item (BacklogRows.rewritten existing status runId updatedAt),
        storedOver memory (BacklogRows.rewritten existing status runId updatedAt)) := by
  have kept : (memory.backlogItems.get? id).filter (fun item => item.status ∈ expected) = some existing := by
    rw [held]
    simp [Option.filter,expects]
  unfold memoryStep Repository.updateBacklogItem
  dsimp only
  rw [kept]
  dsimp only
  rw [if_neg]
  · obtain ⟨_,_,_,_,_,_,earlier,_,_⟩ := existing
    cases runId <;> cases earlier <;> rfl
  · intro refused
    obtain ⟨mine,rfl,other⟩ := Option.any_eq_true _ _ |>.mp refused
    obtain ⟨unowned,unattached⟩ := free mine rfl
    rcases Bool.or_eq_true _ _ |>.mp other with elsewhere | attached
    · obtain ⟨owner,found,apart⟩ := Option.any_eq_true _ _ |>.mp elsewhere
      exact of_decide_eq_true apart (unowned owner found)
    · obtain ⟨earlier,found,apart⟩ := Option.any_eq_true _ _ |>.mp attached
      exact of_decide_eq_true apart (unattached earlier found)

variable {updatedAt : Instant}

theorem memoryStep_stays {id : String} {expected : List BacklogItemStatus} {status : BacklogItemStatus} {runId : Option String}
    (refused : ∀ item, memory.backlogItems.get? id = some item → item.status ∈ expected →
      ∃ mine, runId = some mine ∧ ((∃ owner, memory.backlogItemRuns.get? mine = some owner ∧ owner ≠ id) ∨
        ∃ earlier, item.runId = some earlier ∧ earlier ≠ mine)) :
    memoryStep memory (.updateItem id expected status runId updatedAt) = (.nothing,memory) := by
  unfold memoryStep Repository.updateBacklogItem
  dsimp only
  split
  · rfl
  · rename_i existing found
    obtain ⟨held,expects⟩ := Option.filter_eq_some_iff.mp found
    obtain ⟨mine,rfl,taken⟩ := refused existing held (by simpa using expects)
    rw [if_pos]
    · rfl
    · rw [Option.any_some,Bool.or_eq_true]
      refine taken.imp ?_ ?_
      · rintro ⟨owner,found,apart⟩
        simpa [found] using apart
      · rintro ⟨earlier,found,apart⟩
        simpa [found] using apart

theorem neonStep_stays {id : String} {expected : List BacklogItemStatus} {status : BacklogItemStatus} {runId : Option String}
    (refused : ∀ item, rows.items.get? id = some item → item.status ∈ expected → runId.isSome ∧ item.runId.isSome) :
    neonStep rows (.updateItem id expected status runId updatedAt) = (.nothing,rows) := by
  have none_ : (rows.items.get? id).filter (fun item => item.status ∈ expected && (runId.isNone || item.runId.isNone)) = none := by
    rw [Option.filter_eq_none_iff]
    intro item held
    by_cases expects : item.status ∈ expected
    · obtain ⟨attaches,attached⟩ := refused item held expects
      simp [Option.isSome_iff_ne_none] at attaches attached
      simp [attaches,attached]
    · simp [expects]
  unfold neonStep BacklogRows.updateBacklogItem
  dsimp only
  rw [none_]
  rfl

theorem neonStep_writes {id : String} {expected : List BacklogItemStatus} {existing : BacklogItem} (status : BacklogItemStatus)
    {runId : Option String} (updatedAt : Instant) (held : rows.items.get? id = some existing) (expects : existing.status ∈ expected)
    (open_ : runId.isNone ∨ existing.runId.isNone) : neonStep rows (.updateItem id expected status runId updatedAt) =
      settled rows .ofItem (rows.overwrite (BacklogRows.rewritten existing status runId updatedAt)) := by
  have kept : (rows.items.get? id).filter (fun item => item.status ∈ expected && (runId.isNone || item.runId.isNone)) =
      some existing := by
    rw [held]
    refine Option.filter_eq_some_iff.mpr ⟨rfl,?_⟩
    rw [Bool.and_eq_true,Bool.or_eq_true]
    exact ⟨decide_eq_true expects,open_⟩
  unfold neonStep BacklogRows.updateBacklogItem
  dsimp only
  rw [kept]

theorem Mirrors.rewritten {id : String} {existing : BacklogItem} {status : BacklogItemStatus} {runId : Option String}
    (mirrors : Mirrors memory rows) (held : rows.items.get? id = some existing)
    (fits : rows.Fits (BacklogRows.rewritten existing status runId updatedAt))
    (kept : ∀ earlier, existing.runId = some earlier → runId.or existing.runId = some earlier) :
    Mirrors (storedOver memory (BacklogRows.rewritten existing status runId updatedAt)) (rows.put _ fits) where
  projects := mirrors.projects
  runs := mirrors.runs
  backlogs := mirrors.backlogs
  items := congrArg (OrderedMap.set · _ _) mirrors.items
  ordinals backlogId ordinal := by
    have named := rows.itemKeyed id existing held
    refine (mirrors.ordinals backlogId ordinal).trans ⟨?_,?_⟩
    · rintro ⟨other,found,there,mine⟩
      by_cases here : other = id
      · subst here
        rw [held] at there
        cases there
        exact ⟨other,_,(get?_put other).trans (if_pos named.symm),mine⟩
      · exact ⟨other,found,((get?_put other).trans (if_neg fun same => here (same.trans named))).trans there,mine⟩
    · rintro ⟨other,found,there,mine⟩
      rw [get?_put] at there
      split at there
      · cases there
        exact ⟨id,existing,held,mine⟩
      · exact ⟨other,found,there,mine⟩
  itemRuns := by
    have named := rows.itemKeyed id existing held
    refine bound_written mirrors.itemRuns fits.run fun old mine there bound => ?_
    have same : rows.items.get? (BacklogRows.rewritten existing status runId updatedAt).id = some existing := by
      rw [← held,← named]
      rfl
    rw [same] at there
    cases there
    exact kept mine bound

/-! ### One call -/

theorem createItem_alike (mirrors : Mirrors memory rows) (taken : TakenAlike memory (.createItem item)) :
    Alike (memoryStep memory (.createItem item)) (neonStep rows (.createItem item)) := by
  cases held : rows.items.get? item.id with
  | some existing => exact createItem_existing mirrors held
  | none =>
    cases backlog : memory.backlogs.get? item.backlogId with
    | none => exact createItem_refused mirrors held (.inl (by rw [backlog]; rfl))
    | some stored =>
      cases free : memory.backlogItemOrdinals.get? (item.backlogId,item.ordinal) with
      | some filer => exact createItem_refused mirrors held (.inr (by rw [free]; rfl))
      | none =>
        have known : (memory.backlogs.get? item.backlogId).isSome := by rw [backlog]; rfl
        have fits : rows.Fits item := (mirrors.fits_iff held known free).mpr (taken known (by rw [mirrors.items,held]) free)
        rw [memoryStep_new mirrors held known free]
        unfold neonStep
        dsimp only
        rw [BacklogRows.createBacklogItemIdempotently_fits held fits]
        exact ⟨rfl,mirrors.filed held fits⟩

theorem createItem_apart (mirrors : Mirrors memory rows) (untaken : ¬ TakenAlike memory (.createItem item)) :
    (memoryStep memory (.createItem item)).1 ≠ (neonStep rows (.createItem item)).1 := by
  unfold TakenAlike at untaken
  simp only [Classical.not_imp] at untaken
  obtain ⟨known,new,free,unfit⟩ := untaken
  rw [mirrors.items] at new
  obtain ⟨fault,failed⟩ := BacklogRows.createBacklogItemIdempotently_unfit new (mt (mirrors.fits_iff new known free).mp unfit)
  rw [memoryStep_new mirrors new known free]
  unfold neonStep
  dsimp only
  rw [failed]
  nofun

section
variable {id : String} {existing : BacklogItem} {expected : List BacklogItemStatus} {status : BacklogItemStatus}
  {runId : Option String} {updatedAt : Instant} {mine : String}

section
variable (mirrors : Mirrors memory rows)
include mirrors

theorem update_missed (missed : ∀ item, rows.items.get? id = some item → item.status ∉ expected) :
    Alike (memoryStep memory (.updateItem id expected status runId updatedAt))
      (neonStep rows (.updateItem id expected status runId updatedAt)) := by
  rw [memoryStep_stays (by
    rw [mirrors.items]
    exact fun item held expects => absurd expects (missed item held)),
    neonStep_stays fun item held expects => absurd expects (missed item held)]
  exact ⟨rfl,mirrors⟩

theorem update_written (held : rows.items.get? id = some existing)
    (expects : existing.status ∈ expected) (open_ : runId.isNone ∨ existing.runId.isNone)
    (free : ∀ mine, runId = some mine → memory.backlogItemRuns.get? mine = none ∧ mine ∈ rows.runs) :
    Alike (memoryStep memory (.updateItem id expected status runId updatedAt))
      (neonStep rows (.updateItem id expected status runId updatedAt)) := by
  have alone : ∀ other found, rows.items.get? other = some found → other ≠ id → ∀ mine, runId.or existing.runId = some mine →
      found.runId ≠ some mine := by
    intro other found there apart mine either bound
    cases runId with
    | none => exact apart (rows.runUnique other found id existing mine there held bound (by simpa using either))
    | some attaching =>
      cases either
      have owned := (mirrors.itemRuns _ other).mpr ⟨found,there,bound⟩
      rw [(free _ rfl).1] at owned
      cases owned
  have fits : rows.Fits (BacklogRows.rewritten existing status runId updatedAt) :=
    BacklogRows.fits_updated held alone fun mine attaching => (free mine attaching).2
  rw [memoryStep_updates status updatedAt (mirrors.items ▸ held) expects,neonStep_writes status updatedAt held expects open_]
  · unfold BacklogRows.overwrite
    rw [BacklogRows.write_fits fits]
    refine ⟨rfl,mirrors.rewritten held fits fun earlier bound => ?_⟩
    rcases open_ with none_ | none_
    · rw [Option.isNone_iff_eq_none.mp none_]
      exact bound
    · rw [Option.isNone_iff_eq_none.mp none_] at bound
      cases bound
  · rintro mine rfl
    refine ⟨fun owner owned => ?_,fun earlier bound => ?_⟩
    · rw [(free mine rfl).1] at owned
      cases owned
    · rcases open_ with none_ | none_
      · cases none_
      · rw [Option.isNone_iff_eq_none.mp none_] at bound
        cases bound

theorem update_lost (held : rows.items.get? id = some existing) (lost : (∃ earlier, existing.runId = some earlier ∧ earlier ≠ mine) ∨
      existing.runId = none ∧ ∃ owner, memory.backlogItemRuns.get? mine = some owner ∧ owner ≠ id) :
    Alike (memoryStep memory (.updateItem id expected status (some mine) updatedAt))
      (neonStep rows (.updateItem id expected status (some mine) updatedAt)) := by
  have same : ∀ item, rows.items.get? id = some item → item = existing := by
    intro item found
    exact Option.some.inj (found.symm.trans held)
  rw [memoryStep_stays]
  · rcases lost with ⟨earlier,bound,apart⟩ | ⟨unbound,owner,owned,apart⟩
    · rw [neonStep_stays]
      · exact ⟨rfl,mirrors⟩
      · intro item found _
        rw [same item found,bound]
        exact ⟨rfl,rfl⟩
    · by_cases expects : existing.status ∈ expected
      · obtain ⟨other,there,theirs⟩ := (mirrors.itemRuns mine owner).mp owned
        rw [neonStep_writes status updatedAt held expects (.inr (by rw [unbound]; rfl))]
        unfold BacklogRows.overwrite
        rw [BacklogRows.write_violates (BacklogRows.violation_run_taken held there apart theirs)]
        exact ⟨rfl,mirrors⟩
      · rw [neonStep_stays]
        · exact ⟨rfl,mirrors⟩
        · intro item found expected
          exact absurd (same item found ▸ expected) expects
  · intro item found _
    rw [mirrors.items] at found
    rw [same item found]
    exact ⟨mine,rfl,lost.symm.imp_left fun unbound => unbound.2⟩

end

end

theorem updateItem_alike {id : String} {expected : List BacklogItemStatus} {status : BacklogItemStatus} {runId : Option String}
    (mirrors : Mirrors memory rows) (taken : TakenAlike memory (.updateItem id expected status runId updatedAt)) :
    Alike (memoryStep memory (.updateItem id expected status runId updatedAt))
      (neonStep rows (.updateItem id expected status runId updatedAt)) := by
  by_cases found : ∃ existing, rows.items.get? id = some existing ∧ existing.status ∈ expected
  · obtain ⟨existing,held,expects⟩ := found
    cases runId with
    | none => exact update_written mirrors held expects (.inl rfl) nofun
    | some mine =>
      obtain ⟨unattached,stored⟩ := taken existing mine (mirrors.items ▸ held) expects rfl
      cases bound : existing.runId with
      | some earlier =>
        refine update_lost mirrors held (.inl ⟨earlier,bound,?_⟩)
        rintro rfl
        exact unattached bound
      | none =>
        cases owned : memory.backlogItemRuns.get? mine with
        | some owner =>
          refine update_lost mirrors held (.inr ⟨bound,owner,owned,?_⟩)
          rintro rfl
          obtain ⟨item,there,theirs⟩ := (mirrors.itemRuns mine owner).mp owned
          rw [held] at there
          cases there
          exact unattached theirs
        | none =>
          refine update_written mirrors held expects (.inr (by rw [bound]; rfl)) ?_
          rintro _ ⟨⟩
          exact ⟨owned,(mirrors.runs mine).mp (stored bound)⟩
  · exact update_missed mirrors fun item held expects => found ⟨item,held,expects⟩

theorem overwrite_unfit {updated answered : BacklogItem} (unfit : ¬ rows.Fits updated) :
    (settled rows BacklogAnswer.ofItem (rows.overwrite updated)).1 ≠ .item answered := by
  obtain ⟨violated,found⟩ := Option.ne_none_iff_exists'.mp (mt BacklogRows.violation_none_iff.mp unfit)
  unfold BacklogRows.overwrite
  rw [BacklogRows.write_violates found]
  dsimp only
  split <;> nofun

theorem updateItem_apart {id : String} {expected : List BacklogItemStatus} {status : BacklogItemStatus} {runId : Option String}
    (mirrors : Mirrors memory rows) (untaken : ¬ TakenAlike memory (.updateItem id expected status runId updatedAt)) :
    (memoryStep memory (.updateItem id expected status runId updatedAt)).1 ≠
      (neonStep rows (.updateItem id expected status runId updatedAt)).1 := by
  unfold TakenAlike at untaken
  simp only [not_forall] at untaken
  obtain ⟨existing,mine,held,expects,rfl,differs⟩ := untaken
  have written := @memoryStep_updates memory id expected existing status (some mine) updatedAt held expects
  rw [mirrors.items] at held
  by_cases bound : existing.runId = some mine
  · -- the run is attached again
    rw [written,neonStep_stays]
    · nofun
    · intro item found _
      obtain rfl : item = existing := Option.some.inj (found.symm.trans held)
      rw [bound]
      exact ⟨rfl,rfl⟩
    · rintro _ ⟨⟩
      refine ⟨fun owner owned => ?_,fun earlier attached => Option.some.inj (attached.symm.trans bound)⟩
      obtain ⟨item,there,theirs⟩ := (mirrors.itemRuns mine owner).mp owned
      exact rows.runUnique owner item id existing mine there held theirs bound
  · -- there is no such run
    obtain ⟨unbound,unstored⟩ := not_forall.mp fun stored => differs ⟨bound,stored⟩
    have unknown : mine ∉ rows.runs := mt (mirrors.runs mine).mpr unstored
    rw [written,neonStep_writes status updatedAt held expects (.inr (by rw [unbound]; rfl))]
    · exact (overwrite_unfit fun fits => unknown (fits.ofRun mine rfl)).symm
    · rintro _ ⟨⟩
      refine ⟨fun owner owned => ?_,fun earlier attached => ?_⟩
      · obtain ⟨item,there,theirs⟩ := (mirrors.itemRuns mine owner).mp owned
        exact absurd (rows.ofRun owner item mine there theirs) unknown
      · rw [unbound] at attached
        cases attached

variable {call : BacklogCall}

theorem step_alike (mirrors : Mirrors memory rows) (taken : TakenAlike memory call) :
    Alike (memoryStep memory call) (neonStep rows call) := by
  cases call with
  | storeRun run => exact ⟨rfl,mirrors.storeRun run⟩
  | createBacklog backlog => exact createBacklog_alike mirrors backlog
  | createItem item => exact createItem_alike mirrors taken
  | updateItem id expected status runId updatedAt => exact updateItem_alike mirrors taken

theorem step_apart (mirrors : Mirrors memory rows) (untaken : ¬ TakenAlike memory call) :
    (memoryStep memory call).1 ≠ (neonStep rows call).1 := by
  cases call with
  | storeRun run => exact absurd trivial untaken
  | createBacklog backlog => exact absurd trivial untaken
  | createItem item => exact createItem_apart mirrors untaken
  | updateItem id expected status runId updatedAt => exact updateItem_apart mirrors untaken

end

/-! ### Runs of calls -/

def BoundOnce (items : OrderedMap String BacklogItem) : Prop :=
  ∀ id item other found runId, items.get? id = some item → items.get? other = some found → item.runId = some runId →
    found.runId = some runId → id = other

def KeepsRuns (before after : OrderedMap String BacklogItem) : Prop :=
  ∀ id item runId, before.get? id = some item → item.runId = some runId →
    ∃ found, after.get? id = some found ∧ found.runId = some runId

theorem KeepsRuns.refl (items : OrderedMap String BacklogItem) : KeepsRuns items items :=
  fun _ item _ held bound => ⟨item,held,bound⟩

theorem keepsRuns_put {rows : BacklogRows} {item : BacklogItem} (fits : rows.Fits item)
    (kept : ∀ old runId, rows.items.get? item.id = some old → old.runId = some runId → item.runId = some runId) :
    KeepsRuns rows.items (rows.put item fits).items := by
  intro id old runId held bound
  rw [get?_put]
  split
  · rename_i same
    subst same
    exact ⟨item,rfl,kept old runId held bound⟩
  · exact ⟨old,held,bound⟩

theorem write_keepsRuns {rows written : BacklogRows} {item : BacklogItem} (done : rows.write item = .ok written)
    (kept : ∀ old runId, rows.items.get? item.id = some old → old.runId = some runId → item.runId = some runId) :
    KeepsRuns rows.items written.items := by
  by_cases fits : rows.Fits item
  · rw [BacklogRows.write_fits fits] at done
    cases done
    exact keepsRuns_put fits kept
  · obtain ⟨violated,found⟩ := Option.ne_none_iff_exists'.mp (mt BacklogRows.violation_none_iff.mp fits)
    rw [BacklogRows.write_violates found] at done
    cases done

theorem neonStep_keepsRuns (rows : BacklogRows) (call : BacklogCall) : KeepsRuns rows.items (neonStep rows call).2.items := by
  cases call with
  | storeRun run => exact .refl _
  | createBacklog backlog =>
    unfold neonStep BacklogRows.createBacklog
    dsimp only
    split_ifs <;> exact .refl _
  | createItem item =>
    unfold neonStep BacklogRows.createBacklogItemIdempotently
    dsimp only
    split
    · exact .refl _
    split
    · exact .refl _
    split
    · split <;> exact .refl _
    · rename_i new
      split
      · rename_i written done
        refine write_keepsRuns done fun old runId held => ?_
        rw [new] at held
        cases held
      · split <;> exact .refl _
  | updateItem id expected status runId updatedAt =>
    unfold neonStep BacklogRows.updateBacklogItem
    dsimp only
    split
    · exact .refl _
    · rename_i existing found
      obtain ⟨held,allowed⟩ := Option.filter_eq_some_iff.mp found
      unfold BacklogRows.overwrite
      split
      · rename_i written done
        refine write_keepsRuns done fun old earlier held' bound => ?_
        have named : existing.id = id := rows.itemKeyed id existing held
        have same : rows.items.get? id = some old := named ▸ held'
        rw [held] at same
        cases same
        rw [Bool.and_eq_true,Bool.or_eq_true,bound] at allowed
        cases runId with
        | none => exact bound
        | some mine => simp at allowed
      · split <;> exact .refl _

theorem KeepsRuns.trans {first second third : OrderedMap String BacklogItem} (earlier : KeepsRuns first second)
    (later : KeepsRuns second third) : KeepsRuns first third := by
  intro id item runId held bound
  obtain ⟨found,there,kept⟩ := earlier id item runId held bound
  exact later id found runId there kept

theorem neonAfter_keepsRuns (rows : BacklogRows) (calls : List BacklogCall) : KeepsRuns rows.items (after neonStep rows calls).items :=
  after_preserved (fun later => KeepsRuns rows.items later.items)
    (fun later call earlier => earlier.trans (neonStep_keepsRuns later call)) (.refl _)

/-- The two stores answer the calls alike and hold the same items all along; no two items have a run in common and no
item changes its run. -/
structure BindsAlike (memory : Repository) (rows : BacklogRows) (calls : List BacklogCall) : Prop where
  answers : answers memoryStep memory calls = answers neonStep rows calls
  items : ∀ before, before <+: calls → (after memoryStep memory before).backlogItems = (after neonStep rows before).items
  boundOnce : ∀ before, before <+: calls → BoundOnce (after memoryStep memory before).backlogItems ∧
    BoundOnce (after neonStep rows before).items
  keepsRuns : ∀ before middle, before ++ middle <+: calls →
    KeepsRuns (after memoryStep memory before).backlogItems (after memoryStep memory (before ++ middle)).backlogItems ∧
      KeepsRuns (after neonStep rows before).items (after neonStep rows (before ++ middle)).items

theorem bindsAlike_iff {memory : Repository} {rows : BacklogRows} (mirrors : Mirrors memory rows) (calls : List BacklogCall) :
    BindsAlike memory rows calls ↔ Throughout memoryStep TakenAlike memory calls := by
  have same : answers memoryStep memory calls = answers neonStep rows calls ↔ Throughout memoryStep TakenAlike memory calls := by
    refine answers_eq_iff ?_ ?_ mirrors
    · exact fun _ _ _ => step_alike
    · exact fun _ _ _ => step_apart
  refine ⟨fun binds => same.mp binds.answers,fun taken => ?_⟩
  have items : ∀ before, before <+: calls →
      (after memoryStep memory before).backlogItems = (after neonStep rows before).items := by
    rintro before ⟨rest,rfl⟩
    exact (related_after (fun _ _ _ => step_alike) mirrors (throughout_append.mp taken).1).items
  refine ⟨same.mpr taken,items,?_,?_⟩
  · intro before inside
    rw [items before inside]
    exact ⟨(after neonStep rows before).runUnique,(after neonStep rows before).runUnique⟩
  · intro before middle inside
    have kept := neonAfter_keepsRuns (after neonStep rows before) middle
    rw [← after_append] at kept
    rw [items before ((List.prefix_append _ _).trans inside),items _ inside]
    exact ⟨kept,kept⟩

def planningMemory : Repository where
  projects := OrderedMap.empty.set "project-1" {id := "project-1",name := "",createdAt := 0,updatedAt := 0}

def planningRows : BacklogRows where
  projects := ["project-1"]
  runs := []

theorem planning_mirrors : Mirrors planningMemory planningRows where
  projects id := by
    show ((OrderedMap.empty.set _ _).get? id).isSome ↔ id ∈ ["project-1"]
    rw [get?_set,List.mem_singleton]
    split
    · rename_i same
      simp [same]
    · rename_i apart
      simp [apart]
  runs id := by simp [planningMemory,planningRows]
  backlogs := rfl
  items := rfl
  ordinals backlogId ordinal := by simp [planningMemory,planningRows]
  itemRuns runId id := by simp [planningMemory,planningRows]

def attaching : List BacklogCall :=
  [.storeRun {id := "run-1",projectId := "project-1",pipeline := "feature",status := .pending,createdAt := 0,updatedAt := 0},
    .createBacklog {id := "backlog-1",projectId := "project-1",title := "Plan",status := .active,createdAt := 0,updatedAt := 0},
    .createItem {id := "item-1",backlogId := "backlog-1",ordinal := 1,title := "First",description := "",status := .pending
                 createdAt := 0,updatedAt := 0},
    .updateItem "item-1" [.pending] .running (some "run-1") 1]

theorem attaching_binds_alike : BindsAlike planningMemory planningRows attaching :=
  (bindsAlike_iff planning_mirrors attaching).mpr (by
    refine ⟨trivial,trivial,?_,?_,trivial⟩
    · intro _ _ _
      exact ⟨by decide,nofun⟩
    · rintro item attached held expects ⟨⟩
      cases held
      exact ⟨nofun,fun _ => by decide +kernel⟩)

/-- The run is attached once more, from the status it brought the item to: the memory answers the item, the database
nothing. -/
theorem repeated_attachment_differs : ¬ ∀ (memory : Repository) (rows : BacklogRows) (calls : List BacklogCall),
    Mirrors memory rows → BindsAlike memory rows calls := by
  intro alike
  have same := (alike planningMemory planningRows (attaching ++ [.updateItem "item-1" [.running] .running (some "run-1") 2])
    planning_mirrors).answers
  exact absurd same (by decide +kernel)

end AgentOS.ControlPlane
