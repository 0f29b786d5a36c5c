import AgentOS.Calls
import AgentOS.Library.Paging

/-! Resume generations: the one a resume takes is read off the keys of the run's
effects, and the workflow reads it back from the events that resumes leave. -/
namespace AgentOS
open Library Checkpoint Routine AgentOS.Action

def RUN_RESUMED_EVENT : String := "run.resumed"

/-- The number behind `:resume:` at the end of a key. -/
def resumeSuffix (key : String) : Option Nat :=
  let digits := (key.toList.reverse.takeWhile Char.isDigit).reverse
  let stem := (key.toList.reverse.dropWhile Char.isDigit).reverse
  if digits ≠ [] ∧ ":resume:".toList.isSuffixOf stem then some (Nat.ofDigitChars 10 digits 0) else none

/-- One more than the highest generation among the keys, as resumes and recoveries count it. -/
def nextResumeGeneration (effects : List Effect) : Nat :=
  (effects.filterMap fun effect => resumeSuffix effect.key).foldl max 0 + 1

def resumedEventId (runId : String) (generation : Nat) : String :=
  "run-resumed:" ++ runId ++ ":" ++ toString generation

def resumedEvent (runId : String) (generation : Nat) (at_ : Instant) : EventDraft where
  runId := runId
  eventId := resumedEventId runId generation
  fingerprint := .str (resumedEventId runId generation)
  type := RUN_RESUMED_EVENT
  payload := .obj [("generation",.num generation)]
  occurredAt := at_

/-! ### Reading the events back -/

/-- Folds over every event of a run, a page at a time and a thousand pages at most. -/
def scanRunEvents {β : Type} (env : Environment) (runId : String) (visit : β → Event → β) :
    Nat → Option Nat → β → Action β
  | 0, _, _ => throw (.permanent "run has too many events to scan")
  | pages+1, after, visited => do
    let events ← readRepository env fun repository => repository.listEvents runId after 1000
    match events.getLast? with
    | none => pure visited
    | some last =>
      if after.any (last.sequence ≤ ·) then throw (.permanent "run events did not paginate forward")
      else scanRunEvents env runId visit pages (some last.sequence) (events.foldl visit visited)

def visitResumeMs (latest : Instant) (event : Event) : Instant :=
  if event.type = RUN_RESUMED_EVENT ∧ event.occurredAt > latest then event.occurredAt else latest

def visitGeneration (generation : Int) (event : Event) : Int :=
  if event.type ≠ RUN_RESUMED_EVENT then generation
  else match (event.payload.field? "generation").bind Json.number? with
    | some value => if isSafeInteger value then max generation value else generation + 1
    | none => generation + 1

theorem scanRunEvents_takes {β : Type} {env : Environment} {step : World → World → Prop} (target : String) (visit : β → Event → β)
    (pages : Nat) (after : Option Nat) (visited : β) (passed : ∀ world, step world world.ticked) :
    (scanRunEvents env target visit pages after visited).Takes step := by
  induction pages generalizing after visited with
  | zero => exact takes_throw _
  | succ pages ih =>
    refine .bind (takes_readRepository passed) fun events => ?_
    split
    · exact takes_pure _
    · split
      · exact takes_throw _
      · exact ih _ _

def latestResumeMs (env : Environment) (runId : String) : Action Instant :=
  scanRunEvents env runId visitResumeMs 1000 none 0

def resumeGenerationOf (env : Environment) (runId : String) : Action Int :=
  scanRunEvents env runId visitGeneration 1000 none 0

namespace Repository

variable (repository : Repository)

def eventsOf (runId : String) : List Event :=
  (repository.events.values.filter fun event => event.runId = runId).insertionSort
    fun left right => left.sequence ≤ right.sequence

theorem mem_eventsOf (runId : String) (event : Event) : event ∈ repository.eventsOf runId ↔
      repository.events.get? (runId,event.eventId) = some event ∧ event.runId = runId := by
  simp only [eventsOf,List.mem_insertionSort,List.mem_filter,OrderedMap.mem_values,decide_eq_true_eq]
  constructor
  · rintro ⟨⟨key,found⟩,rfl⟩
    have filed := repository.filed key event found
    exact ⟨filed ▸ found,rfl⟩
  · rintro ⟨found,mine⟩
    exact ⟨⟨_,found⟩,mine⟩

theorem sequence_strict : Paging.Strict fun left right : Event => decide (left.sequence < right.sequence) where
  asymmetric left right before := by
    simp only [decide_eq_true_eq,decide_eq_false_iff_not] at before ⊢
    omega
  weakly first second third left right := by
    simp only [decide_eq_false_iff_not] at left right ⊢
    omega

theorem eventsOf_sorted (runId : String) :
    (repository.eventsOf runId).Pairwise fun left right => decide (left.sequence < right.sequence) = true := by
  have apart : repository.events.values.Pairwise
      fun left right => left.runId = right.runId → left.sequence ≠ right.sequence := by
    apply repository.events.pairwise_values
    intro left right first second different leftFound rightFound sameRun sameSequence
    exact different (repository.distinct left right first second leftFound rightFound sameRun sameSequence)
  apply sequence_strict.sorted
  · intro left right
    simp only [decide_eq_false_iff_not,not_lt]
  · have mine := apart.filter fun event => decide (event.runId = runId)
    apply mine.imp_of_mem
    intro left right leftInside rightInside numbers
    have leftMine : left.runId = runId := by simpa using (List.mem_filter.mp leftInside).2
    have rightMine : right.runId = runId := by simpa using (List.mem_filter.mp rightInside).2
    have different := numbers (leftMine.trans rightMine.symm)
    simp only [decide_eq_true_eq]
    omega

theorem listEvents_eq (runId : String) (after : Option Nat) (limit : Nat) : repository.listEvents runId after limit =
      ((repository.eventsOf runId).filter fun event => after.all (· < event.sequence)).take (boundedListLimit limit) := by
  rw [listEvents]
  congr 1
  have sorted := (eventsOf_sorted repository runId).filter fun event => after.all (· < event.sequence)
  have listed : (repository.events.values.filter fun event => event.runId = runId && after.all (· < event.sequence)) =
      (repository.events.values.filter fun event => event.runId = runId).filter
        fun event => after.all (· < event.sequence) := by
    rw [List.filter_filter]
    congr 1
    funext event
    exact Bool.and_comm _ _
  apply sequence_strict.unique _ sorted
  · intro event
    simp only [listed,eventsOf,List.mem_filter,List.mem_insertionSort]
  · apply sequence_strict.sorted
    · intro left right
      simp only [decide_eq_false_iff_not,not_lt]
    · have perm := List.perm_insertionSort (fun left right : Event => left.sequence ≤ right.sequence)
        (repository.events.values.filter fun event => event.runId = runId)
      have apart : (repository.eventsOf runId).Pairwise fun left right =>
          decide (left.sequence < right.sequence) = true ∨ decide (right.sequence < left.sequence) = true :=
        (eventsOf_sorted repository runId).imp Or.inl
      rw [listed]
      exact ((perm.pairwise_iff fun swapped => Or.symm swapped).mp apart).filter _

theorem listEvents_unread {read rest : List Event} (all : repository.eventsOf runId = read ++ rest) :
    repository.listEvents runId (read.getLast?.map Event.sequence) 1000 = rest.take 100 := by
  rw [listEvents_eq,all]
  have sorted := eventsOf_sorted repository runId
  rw [all] at sorted
  cases final : read.getLast? with
  | none =>
    have start : read = [] := List.getLast?_eq_none_iff.mp final
    simp [start,boundedListLimit,maxListLimit]
  | some last =>
    have unread := sequence_strict.filter_after sorted final
    simp only [Option.map_some,Option.all_some]
    rw [unread]
    rfl

end Repository

theorem exec_scanRunEvents_ok {β : Type} {env : Environment} {runId : String} {visit : β → Event → β} {pages : Nat}
    {read rest : List Event} {visited value : β} {world after : World} (all : world.repository.eventsOf runId = read ++ rest)
    (ok : (scanRunEvents env runId visit pages (read.getLast?.map Event.sequence) visited).exec world =
      (.ok value,after)) : value = rest.foldl visit visited ∧ after.repository = world.repository := by
  induction pages generalizing read rest visited world with
  | zero => cases ok
  | succ pages ih =>
    rw [scanRunEvents,exec_bind_ok] at ok
    obtain ⟨events,middle,reading,ok⟩ := ok
    obtain ⟨_,listed,rfl⟩ := exec_readRepository_ok.mp reading
    have left : events = rest.take 100 := listed.trans (Repository.listEvents_unread _ all)
    cases final : events.getLast? with
    | none =>
      rw [final] at ok
      cases ok
      have empty : rest.take 100 = [] := by rw [← left]; exact List.getLast?_eq_none_iff.mp final
      have done : rest = [] := by simpa using empty
      rw [done]
      exact ⟨rfl,rfl⟩
    | some last =>
      rw [final] at ok
      dsimp only at ok
      split at ok
      · cases ok
      · have next : (read ++ events).getLast?.map Event.sequence = some last.sequence := by
          rw [List.getLast?_append,final]
          rfl
        rw [← next] at ok
        have split : world.ticked.repository.eventsOf runId = (read ++ events) ++ rest.drop 100 := by
          rw [World.ticked_repository,all,left,List.append_assoc,List.take_append_drop]
        obtain ⟨answer,kept⟩ := ih split ok
        refine ⟨?_,kept⟩
        rw [answer,left,← List.foldl_append,List.take_append_drop]

variable (events : List Event)

def latestResume : Instant := events.foldl visitResumeMs 0

def recordedGeneration : Int := events.foldl visitGeneration 0

theorem visitResumeMs_le_iff (latest bound : Instant) (event : Event) :
    visitResumeMs latest event ≤ bound ↔ latest ≤ bound ∧ (event.type = RUN_RESUMED_EVENT → event.occurredAt ≤ bound) := by
  unfold visitResumeMs
  split
  · rename_i later
    simp only [later.1,true_implies]
    constructor
    · intro below
      exact ⟨later.2.le.trans below,below⟩
    · exact And.right
  · rename_i earlier
    rw [not_and,not_lt] at earlier
    constructor
    · exact fun below => ⟨below,fun resumed => (earlier resumed).trans below⟩
    · exact And.left

private theorem latest_le_iff (start bound : Instant) : events.foldl visitResumeMs start ≤ bound ↔
      start ≤ bound ∧ ∀ event ∈ events, event.type = RUN_RESUMED_EVENT → event.occurredAt ≤ bound := by
  induction events generalizing start with
  | nil => simp
  | cons event events ih =>
    rw [List.foldl_cons,ih,visitResumeMs_le_iff,and_assoc,List.forall_mem_cons]

theorem latestResume_le_iff (bound : Instant) : latestResume events ≤ bound ↔
      0 ≤ bound ∧ ∀ event ∈ events, event.type = RUN_RESUMED_EVENT → event.occurredAt ≤ bound :=
  latest_le_iff events 0 bound

end AgentOS
