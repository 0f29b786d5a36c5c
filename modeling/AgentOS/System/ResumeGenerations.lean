import AgentOS.Library.Joined
import AgentOS.LocalDirect.RecoveryRules
import AgentOS.System.RefusedResume

/-! The generations of a run's resumes over whole histories: which resumes take
a generation above all earlier ones and leave an event of their own. -/
namespace AgentOS.System
open Library Checkpoint Outbox ControlPlane LocalDirect Routine AgentOS.Action
variable {env : Environment} {runId : String} {taken : List (World × World)}

/-! ### What the events record -/

def recordedGenerations (events : List Event) : List Int :=
  events.filterMap fun event =>
    if event.type = RUN_RESUMED_EVENT then (event.payload.field? "generation").bind Json.number? else none

/-- A run's resumed events carry the generation they are named after, and no other event has such a name. -/
structure Orderly (runId : String) (repository : Repository) : Prop where
  named : ∀ event ∈ repository.eventsOf runId, ∀ generation, event.eventId = resumedEventId runId generation →
    event.type = RUN_RESUMED_EVENT ∧ event.payload = .obj [("generation",.num generation)]
  counted : ∀ event ∈ repository.eventsOf runId, event.type = RUN_RESUMED_EVENT →
    ∃ generation : Nat, 1 ≤ generation ∧ event.payload = .obj [("generation",.num generation)]

theorem Orderly.of_nil {repository : Repository} (none : repository.eventsOf runId = []) : Orderly runId repository := by
  constructor <;> simp [none]

structure KeepsOrder (runId : String) (before after : World) : Prop where
  kept : ∀ event ∈ before.repository.eventsOf runId, event ∈ after.repository.eventsOf runId
  orderly : Orderly runId before.repository → Orderly runId after.repository

namespace KeepsOrder

theorem of_same {before after : World} (same : after.repository.events = before.repository.events) :
    KeepsOrder runId before after := by
  have events : after.repository.eventsOf runId = before.repository.eventsOf runId := by
    rw [Repository.eventsOf,Repository.eventsOf,same]
  refine ⟨fun event inside => events ▸ inside,fun orderly => ⟨?_,?_⟩⟩
  · rw [events]
    exact orderly.named
  · rw [events]
    exact orderly.counted

theorem trans {first second third : World} (left : KeepsOrder runId first second)
    (right : KeepsOrder runId second third) : KeepsOrder runId first third :=
  ⟨fun event inside => right.kept event (left.kept event inside),fun orderly => right.orderly (left.orderly orderly)⟩

theorem steps {before after : World} (taken : Relation.ReflTransGen (KeepsOrder runId) before after) :
    KeepsOrder runId before after := by
  induction taken with
  | refl => exact of_same rfl
  | tail _ last ih => exact ih.trans last

end KeepsOrder

variable {event : Event} {options : ResumeOptions} {at_ : Instant}

variable {run : Run} {effects : List Effect} {draft : EventDraft} {generation : Int}

theorem mem_recordedGenerations {events : List Event} (inside : event ∈ events)
    (type : event.type = RUN_RESUMED_EVENT) (payload : event.payload = .obj [("generation",.num generation)]) :
    generation ∈ recordedGenerations events := by
  refine List.mem_filterMap.mpr ⟨event,inside,?_⟩
  rw [if_pos type,payload]
  rfl

/-! ### Appending a resumed event -/

theorem appendEvent_cases {before after : Repository} (ok : before.appendEvent draft = .ok (event,after)) :
    (∃ existing, before.events.get? (draft.runId,draft.eventId) = some existing ∧ existing.type = draft.type ∧
      existing.payload = draft.payload ∧ after = before) ∨
    before.events.get? (draft.runId,draft.eventId) = none ∧ event.toEventDraft = draft ∧
      event.sequence = before.nextSequence draft.runId ∧ after.events = before.events.set (draft.runId,draft.eventId) event := by
  unfold Repository.appendEvent Repository.stageEvent at ok
  cases required : before.requireRun draft.runId with
  | error fault => simp [required,bind,Except.bind] at ok
  | ok run =>
    simp only [required,bind,Except.bind] at ok
    split at ok
    · cases ok
    · rename_i staged found
      cases ok
      split at found
      · rename_i existing held
        split at found
        · cases found
        · rename_i same
          simp only [ne_eq,not_or,not_not] at same
          cases found
          exact .inl ⟨existing,held,same.2.1,same.2.2,rfl⟩
      · rename_i absent
        cases found
        exact .inr ⟨absent,rfl,rfl,rfl⟩

theorem eventsOf_append {before after : Repository}
    (fresh : before.events.get? (draft.runId,draft.eventId) = none) (same : event.toEventDraft = draft)
    (last : event.sequence = before.nextSequence draft.runId)
    (stored : after.events = before.events.set (draft.runId,draft.eventId) event) (other : String) :
    after.eventsOf other = before.eventsOf other ++ if other = draft.runId then [event] else [] := by
  have run : event.runId = draft.runId := congrArg EventDraft.runId same
  have id : event.eventId = draft.eventId := congrArg EventDraft.eventId same
  apply Repository.sequence_strict.unique (after.eventsOf_sorted other)
  · rw [List.pairwise_append]
    refine ⟨before.eventsOf_sorted other,by split <;> simp,fun left earlier right later => ?_⟩
    split at later
    · rename_i mine
      rw [List.mem_singleton] at later
      obtain ⟨found,leftRun⟩ := (before.mem_eventsOf other left).mp earlier
      have below := before.numbered _ _ found
      rw [leftRun,mine] at below
      rw [later,decide_eq_true_eq,last]
      exact below
    · cases later
  · intro item
    rw [Repository.mem_eventsOf,stored,OrderedMap.get?_set,List.mem_append,Repository.mem_eventsOf]
    constructor
    · rintro ⟨held,mine⟩
      split at held
      · rename_i key
        cases held
        obtain ⟨rfl,_⟩ := Prod.mk.inj key
        simp
      · exact .inl ⟨held,mine⟩
    · rintro (⟨held,mine⟩ | appended)
      · refine ⟨?_,mine⟩
        rw [if_neg]
        · exact held
        · intro key
          rw [key,fresh] at held
          cases held
      · split at appended
        · rename_i mine
          rw [List.mem_singleton] at appended
          subst appended
          rw [if_pos (by rw [mine,id])]
          exact ⟨rfl,run.trans mine.symm⟩
        · cases appended

theorem resumedEventId_injective {first second : Nat} (same : resumedEventId runId first = resumedEventId runId second) :
    first = second := by
  have texts := congrArg String.toList same
  simp only [resumedEventId,String.toList_append] at texts
  have digits : (toString first).toList = (toString second).toList := List.append_cancel_left texts
  exact Joined.numeral_injective digits

theorem KeepsOrder.resumed {before after : World} {target : String} {generation : Nat} (positive : 1 ≤ generation)
    (ok : before.repository.appendEvent (resumedEvent target generation at_) = .ok (event,after.repository)) :
    KeepsOrder runId before after := by
  rcases appendEvent_cases ok with ⟨_,_,_,_,same⟩ | ⟨fresh,draft,last,stored⟩
  · exact .of_same (congrArg Repository.events same)
  have events := eventsOf_append fresh draft last stored runId
  refine ⟨fun earlier inside => by rw [events]; exact List.mem_append_left _ inside,fun orderly => ?_⟩
  have payload : event.payload = .obj [("generation",.num generation)] := congrArg EventDraft.payload draft
  have type : event.type = RUN_RESUMED_EVENT := congrArg EventDraft.type draft
  have id : event.eventId = resumedEventId target generation := congrArg EventDraft.eventId draft
  have appended : ∀ item ∈ after.repository.eventsOf runId,
      item ∈ before.repository.eventsOf runId ∨ target = runId ∧ item = event := by
    intro item inside
    rw [events,List.mem_append] at inside
    rcases inside with inside | inside
    · exact .inl inside
    · split at inside
      · rename_i mine
        exact .inr ⟨mine.symm,by simpa using inside⟩
      · cases inside
  constructor
  · intro item inside number named
    rcases appended item inside with inside | ⟨rfl,rfl⟩
    · exact orderly.named item inside number named
    · rw [id] at named
      rw [← resumedEventId_injective named]
      exact ⟨type,payload⟩
  · intro item inside resumed
    rcases appended item inside with inside | ⟨_,rfl⟩
    · exact orderly.counted item inside resumed
    · exact ⟨generation,positive,payload⟩

/-! ### Which steps keep the order -/

theorem passed_keepsOrder (world : World) : KeepsOrder runId world world.ticked := .of_same rfl

theorem transitionRun_events {before after : Repository} {id : String} {statuses : List RunStatus} {update : RunUpdate}
    {version : Option Nat} {answer : Option Run}
    (ok : before.transitionRun id statuses update version = .ok (answer,after)) : after.events = before.events := by
  rcases Repository.transitionRun_ok ok with ⟨_,rfl⟩ | ⟨_,_,_,_,_,_,rfl⟩ <;> rfl

theorem requestStart_keepsOrder (request : StartRequest) : (requestStart env request).Takes (KeepsOrder runId) := by
  apply requestStart_takes ⟨passed_keepsOrder,fun _ _ _ => .of_same rfl⟩
  rintro before _ ⟨_,_,_,_,_,_,ok,rfl⟩
  exact .of_same (transitionRun_events ok)

theorem reopen_keepsOrder (run : Run) (statuses : List RunStatus) (at_ : Instant) :
    (reopen env run statuses at_).Takes (KeepsOrder runId) :=
  takes_repository passed_keepsOrder fun _ _ _ _ ok => .of_same (transitionRun_events ok)

theorem recordResume_keepsOrder (target : String) (effects : List Effect) (at_ : Instant) :
    (recordResume env (resumedEvent target (nextResumeGeneration effects) at_)).Takes (KeepsOrder runId) := by
  apply takes_repository passed_keepsOrder
  intro _ world event next ok
  have positive : 1 ≤ nextResumeGeneration effects := Nat.le_add_left 1 _
  exact .resumed positive ok

theorem resumes_keepOrder : Resumes env (KeepsOrder runId) where
  passed := passed_keepsOrder
  released _ _ := .of_same rfl
  start _ _ _ := requestStart_keepsOrder _
  reopen := reopen_keepsOrder
  record := recordResume_keepsOrder

theorem resumeRun_keepsOrder (target : String) (options : ResumeOptions) :
    (resumeRun env target options).Takes (KeepsOrder runId) := resumes_keepOrder.resumeRun target options

theorem recoverLocalDirectRuns_keepsOrder (options : RecoveryOptions) :
    (recoverLocalDirectRuns env options).Takes (KeepsOrder runId) := resumes_keepOrder.recoverLocalDirectRuns options

/-! ### A resume that succeeded -/

theorem resumeRun_succeeded (succeeded : (resumeRun env runId options).Ends taken (.ok run)) :
    ∃ read listed released clocked moved appended rest event, taken = [read,listed,released,clocked,moved] ++ appended::rest ∧
      appended.1.repository.appendEvent (resumedEvent runId
        (nextResumeGeneration (listed.1.checkpoints.listEffects env.collation runId)) (env.clock clocked.1.tick)) =
          .ok (event,appended.2.repository) := by
  have listing : (listEffects env runId).Single := ⟨_,rfl⟩
  have clock : (Action.now env).Single := ⟨_,rfl⟩
  unfold resumeRun at succeeded
  split at succeeded
  · cases (ends_throw.mp succeeded).2
  rcases ends_bind.mp succeeded with ⟨_,impossible,_⟩ | ⟨first,found,rest,rfl,reading,looked⟩
  · cases impossible
  obtain ⟨read,rfl,_,mine⟩ := resumableRun_once reading
  obtain ⟨found,pipeline⟩ := found
  rcases ends_bind.mp looked with ⟨_,impossible,_⟩ | ⟨second,effects,rest,rfl,listed,counted⟩
  · cases impossible
  obtain ⟨listedFrom,listedTo,rfl,done⟩ := listing.ends.mp listed
  obtain ⟨_,rfl,_⟩ := exec_readCheckpoints_ok.mp done
  rcases ends_bind.mp counted with ⟨_,impossible,_⟩ | ⟨third,count,rest,rfl,releasing,reopening⟩
  · cases impossible
  obtain ⟨releasedFrom,releasedTo,rfl,_⟩ := ends_release_ok releasing
  unfold reopenRun at reopening
  rcases ends_bind.mp reopening with ⟨_,impossible,_⟩ | ⟨fourth,at_,rest,rfl,clocked,moving⟩
  · cases impossible
  obtain ⟨clockedFrom,clockedTo,rfl,ticked⟩ := clock.ends.mp clocked
  obtain ⟨rfl,_⟩ := exec_now_ok.mp ticked
  rcases ends_bind.mp moving with ⟨_,impossible,_⟩ | ⟨fifth,reopened,rest,rfl,moving,continued⟩
  · cases impossible
  obtain ⟨moved,rfl,_⟩ := ends_reopen moving
  cases reopened with
  | none => cases (ends_throw.mp continued).2
  | some reopened =>
    dsimp only at continued mine
    rcases ends_bind.mp continued with ⟨_,impossible,_⟩ | ⟨sixth,event,rest,rfl,recorded,_⟩
    · cases impossible
    rw [mine] at recorded
    have recording : (recordResume env (resumedEvent runId
        (nextResumeGeneration (listedFrom.checkpoints.listEffects env.collation runId))
        (env.clock clockedFrom.tick))).Single := ⟨_,rfl⟩
    obtain ⟨appendedFrom,appendedTo,rfl,appended⟩ := recording.ends.mp recorded
    exact ⟨read,(listedFrom,listedTo),(releasedFrom,releasedTo),(clockedFrom,clockedTo),moved,
      (appendedFrom,appendedTo),rest,event,rfl,(exec_repository_ok.mp appended).2.1⟩

/-- The resume's generation is above all recorded ones, its event is new, and
what the workflow reads back of the run's resumes moves on. -/
structure Advances (runId : String) (generation : Nat) (before after : Repository) : Prop where
  above : ∀ earlier ∈ recordedGenerations (before.eventsOf runId), earlier < generation
  fresh : ∀ event ∈ before.eventsOf runId, event.eventId ≠ resumedEventId runId generation
  appended : ∃ event ∈ after.eventsOf runId,
    event.eventId = resumedEventId runId generation ∧ event.type = RUN_RESUMED_EVENT
  latest : latestResume (before.eventsOf runId) < latestResume (after.eventsOf runId)
  generation : recordedGeneration (before.eventsOf runId) < recordedGeneration (after.eventsOf runId)

/-- For every recorded generation some listed effect's key still carries as high
a one, and the clock is past every recorded resume. -/
def Covered (effects : List Effect) (at_ : Instant) (events : List Event) : Prop :=
  (∀ earlier ∈ recordedGenerations events, ∃ effect ∈ effects, ∃ suffix ∈ resumeSuffix effect.key,
    earlier ≤ (suffix : Nat)) ∧ latestResume events < at_

theorem lt_nextResumeGeneration (effects : List Effect) (earlier : Int) (positive : 1 ≤ earlier) :
    earlier < nextResumeGeneration effects ↔ ∃ effect ∈ effects, ∃ suffix ∈ resumeSuffix effect.key, earlier ≤ (suffix : Nat) := by
  have highest : ∀ (suffixes : List Nat) (start : Nat),
      earlier ≤ (suffixes.foldl max start : Nat) ↔ earlier ≤ start ∨ ∃ suffix ∈ suffixes, earlier ≤ (suffix : Nat) := by
    intro suffixes
    induction suffixes with
    | nil => simp
    | cons suffix suffixes ih =>
      intro start
      rw [List.foldl_cons,ih]
      simp only [List.exists_mem_cons_iff]
      have either : earlier ≤ (max start suffix : Nat) ↔ earlier ≤ start ∨ earlier ≤ suffix := by omega
      rw [either,or_assoc]
  have next : earlier < nextResumeGeneration effects ↔
      earlier ≤ ((effects.filterMap fun effect => resumeSuffix effect.key).foldl max 0 : Nat) := by
    simp only [nextResumeGeneration]
    omega
  rw [next,highest]
  constructor
  · rintro (low | ⟨suffix,inside,below⟩)
    · omega
    · obtain ⟨effect,listed,carried⟩ := List.mem_filterMap.mp inside
      exact ⟨effect,listed,suffix,carried,below⟩
  · rintro ⟨effect,listed,suffix,carried,below⟩
    exact .inr ⟨suffix,List.mem_filterMap.mpr ⟨effect,listed,carried⟩,below⟩

theorem recordedGeneration_lt (safe : isSafeInteger generation = true) (events : List Event) (start : Int)
    (below : start < generation) (counted : ∀ event ∈ events, event.type = RUN_RESUMED_EVENT → ∃ earlier : Nat, 1 ≤ earlier ∧
      (earlier : Int) < generation ∧ event.payload = .obj [("generation",.num earlier)]) :
    events.foldl visitGeneration start < generation := by
  induction events generalizing start with
  | nil => exact below
  | cons event events ih =>
    rw [List.foldl_cons]
    apply ih
    · unfold visitGeneration
      split
      · exact below
      · rename_i resumed
        obtain ⟨earlier,_,lower,payload⟩ := counted event List.mem_cons_self (not_not.mp resumed)
        have read : (event.payload.field? "generation").bind Json.number? = some (earlier : Int) := by
          rw [payload]
          rfl
        have safeEarlier : isSafeInteger (earlier : Int) = true := by
          simp only [isSafeInteger,Bool.and_eq_true,decide_eq_true_eq] at safe ⊢
          omega
        rw [read]
        simp only [safeEarlier,if_true]
        omega
    · exact fun later inside => counted later (List.mem_cons_of_mem _ inside)

theorem latestResume_append (events : List Event) (event : Event) :
    latestResume (events ++ [event]) = visitResumeMs (latestResume events) event := List.foldl_append

theorem recordedGeneration_append (events : List Event) (event : Event) :
    recordedGeneration (events ++ [event]) = visitGeneration (recordedGeneration events) event := List.foldl_append

theorem advances_iff {before after : Repository} (orderly : Orderly runId before)
    (ok : before.appendEvent (resumedEvent runId (nextResumeGeneration effects) at_) = .ok (event,after)) :
    Advances runId (nextResumeGeneration effects) before after ↔ Covered effects at_ (before.eventsOf runId) := by
  have positive : ∀ earlier ∈ recordedGenerations (before.eventsOf runId), 1 ≤ earlier := by
    intro earlier inside
    obtain ⟨item,listed,read⟩ := List.mem_filterMap.mp inside
    split at read
    · rename_i resumed
      obtain ⟨number,counted,payload⟩ := orderly.counted item listed resumed
      rw [payload] at read
      cases read
      omega
    · cases read
  have above : (∀ earlier ∈ recordedGenerations (before.eventsOf runId), earlier < nextResumeGeneration effects) ↔
      ∀ earlier ∈ recordedGenerations (before.eventsOf runId), ∃ effect ∈ effects,
        ∃ suffix ∈ resumeSuffix effect.key, earlier ≤ (suffix : Nat) :=
    forall₂_congr fun earlier inside => lt_nextResumeGeneration effects earlier (positive earlier inside)
  have taken : ∀ item ∈ before.eventsOf runId, item.eventId = resumedEventId runId (nextResumeGeneration effects) →
      ¬ ∀ earlier ∈ recordedGenerations (before.eventsOf runId), earlier < nextResumeGeneration effects := by
    intro item inside named all
    obtain ⟨type,payload⟩ := orderly.named item inside _ named
    exact absurd (all _ (mem_recordedGenerations inside type payload)) (lt_irrefl _)
  rcases appendEvent_cases ok with ⟨existing,held,_,_,_⟩ | ⟨fresh,draft,last,stored⟩
  · have filed := before.filed _ _ held
    have inside : existing ∈ before.eventsOf runId :=
      (before.mem_eventsOf runId existing).mpr ⟨by rw [(Prod.mk.inj filed).2]; exact held,(Prod.mk.inj filed).1⟩
    have named : existing.eventId = resumedEventId runId (nextResumeGeneration effects) := (Prod.mk.inj filed).2
    constructor
    · exact fun advances => absurd named (advances.fresh existing inside)
    · exact fun covered => absurd (above.mpr covered.1) (taken existing inside named)
  · have events : after.eventsOf runId = before.eventsOf runId ++ [event] := by
      have appended := eventsOf_append fresh draft last stored runId
      rwa [if_pos (by rfl)] at appended
    have occurred : event.occurredAt = at_ := congrArg EventDraft.occurredAt draft
    have type : event.type = RUN_RESUMED_EVENT := congrArg EventDraft.type draft
    have id : event.eventId = resumedEventId runId (nextResumeGeneration effects) := congrArg EventDraft.eventId draft
    have read : (event.payload.field? "generation").bind Json.number? = some (nextResumeGeneration effects : Int) := by
      have payload : event.payload = .obj [("generation",.num (nextResumeGeneration effects))] :=
        congrArg EventDraft.payload draft
      rw [payload]
      rfl
    have latest : latestResume (before.eventsOf runId) < latestResume (after.eventsOf runId) ↔
        latestResume (before.eventsOf runId) < at_ := by
      rw [events,latestResume_append,visitResumeMs,occurred]
      by_cases later : latestResume (before.eventsOf runId) < at_
      · simp [type,later]
      · simp [later]
    constructor
    · exact fun advances => ⟨above.mp advances.above,latest.mp advances.latest⟩
    · intro covered
      have higher := above.mpr covered.1
      refine ⟨higher,fun item inside named => taken item inside named higher,?_,latest.mpr covered.2,?_⟩
      · exact ⟨event,by simp [events],id,type⟩
      · rw [events,recordedGeneration_append,visitGeneration]
        simp only [type,ne_eq,not_true_eq_false,if_false,read]
        split
        · rename_i safe
          have below : recordedGeneration (before.eventsOf runId) < (nextResumeGeneration effects : Int) := by
            apply recordedGeneration_lt safe
            · simp only [nextResumeGeneration]
              omega
            · intro item inside resumed
              obtain ⟨number,counted,payload⟩ := orderly.counted item inside resumed
              exact ⟨number,counted,higher _ (mem_recordedGenerations inside resumed payload),payload⟩
          omega
        · omega

/-! ### Histories -/

/-- Where in a run's history a thread's resume recorded itself, with the effects
it had listed and the instant it had read. -/
structure Records {ι : Type} [DecidableEq ι] (env : Environment) (runId : String) (trace : List (Moment ι World))
    (who : ι) (early : List (Moment ι World)) (moment : Moment ι World) (effects : List Effect) (at_ : Instant) :
    Prop where
  here : ∃ late, trace = early ++ moment::late
  mine : moment.who = who
  steps : ∃ read listed released clocked moved, own who early = [read,listed,released,clocked,moved] ∧
    effects = listed.1.checkpoints.listEffects env.collation runId ∧ at_ = env.clock clocked.1.tick

variable {ι : Type} [DecidableEq ι] {pool later : ι → Thread World} {world after : World}
  {trace : List (Moment ι World)}

theorem succeeded_records (ran : Interleaved pool world trace later after) {who : ι}
    (called : pool who = (resumeRun env runId options).thread) (succeeded : later who = (pure run : Action Run).thread) :
    ∃ early moment effects at_ event, Records env runId trace who early moment effects at_ ∧
      moment.before.repository.appendEvent (resumedEvent runId (nextResumeGeneration effects) at_) =
        .ok (event,moment.after.repository) := by
  have ends := ran.routine_ends who called succeeded
  obtain ⟨read,listed,released,clocked,moved,appended,rest,event,mine,ok⟩ := resumeRun_succeeded ends
  obtain ⟨early,moment,late,split,who,earlyOwn,here⟩ := own_split mine
  refine ⟨early,moment,_,_,event,⟨⟨late,split⟩,who,⟨read,listed,released,clocked,moved,earlyOwn,rfl,rfl⟩⟩,?_⟩
  rw [← here] at ok
  exact ok

theorem Records.recorded {who : ι} {early : List (Moment ι World)} {moment : Moment ι World}
    (records : Records env runId trace who early moment effects at_) (ran : Interleaved pool world trace later after)
    (called : pool who = (resumeRun env runId options).thread) (succeeded : later who = (pure run : Action Run).thread) :
    ∃ event, moment.before.repository.appendEvent (resumedEvent runId (nextResumeGeneration effects) at_) =
      .ok (event,moment.after.repository) := by
  have ends := ran.routine_ends who called succeeded
  obtain ⟨read,listed,released,clocked,moved,appended,rest,event,all,ok⟩ := resumeRun_succeeded ends
  obtain ⟨late,split⟩ := records.here
  obtain ⟨read',listed',released',clocked',moved',five,effectsSame,clockSame⟩ := records.steps
  have decomposed : own who trace = own who early ++ (moment.before,moment.after)::own who late := by
    rw [split]
    simp [own,records.mine]
  rw [all,five] at decomposed
  obtain ⟨fiveSame,restSame⟩ := List.append_inj decomposed rfl
  simp only [List.cons.injEq,and_true] at fiveSame restSame
  obtain ⟨_,listedSame,_,clockedSame,_⟩ := fiveSame
  refine ⟨event,?_⟩
  rw [effectsSame,clockSame,← listedSame,← clockedSame]
  rw [restSame.1] at ok
  exact ok

theorem appended_recorded {before next : Repository} {generation : Nat}
    (ok : before.appendEvent (resumedEvent runId generation at_) = .ok (event,next)) :
    ∃ item ∈ next.eventsOf runId, item.type = RUN_RESUMED_EVENT ∧ item.payload = .obj [("generation",.num generation)] := by
  rcases appendEvent_cases ok with ⟨existing,held,type,payload,rfl⟩ | ⟨fresh,draft,last,stored⟩
  · have filed := next.filed _ _ held
    refine ⟨existing,(next.mem_eventsOf runId existing).mpr ⟨?_,(Prod.mk.inj filed).1⟩,type,payload⟩
    rw [(Prod.mk.inj filed).2]
    exact held
  · have appended := eventsOf_append fresh draft last stored runId
    rw [if_pos (by rfl)] at appended
    exact ⟨event,by simp [appended],congrArg EventDraft.type draft,congrArg EventDraft.payload draft⟩

section
variable {step : World → World → Prop} (ran : Interleaved pool world trace later after)
  (steps : ∀ moment ∈ trace, step moment.before moment.after)
include ran steps

theorem moment_path {early middle late : List (Moment ι World)}
    {first second : Moment ι World} (split : trace = (early ++ first::middle) ++ second::late) :
    Relation.ReflTransGen step first.after second.before := by
  subst split
  obtain ⟨_,_,before,rest⟩ := ran.split
  obtain ⟨_,_,_,here⟩ := before.split
  obtain ⟨_,_,between⟩ := here.head
  rw [rest.head.1]
  apply between.path
  intro moment inside
  exact steps moment (by simp [inside])

theorem start_path {early late : List (Moment ι World)} {moment : Moment ι World} (split : trace = early ++ moment::late) :
    Relation.ReflTransGen step world moment.before := by
  subst split
  obtain ⟨_,_,before,rest⟩ := ran.split
  rw [rest.head.1]
  apply before.path
  intro earlier inside
  exact steps earlier (by simp [inside])

end

/-- In every history of threads that keep a run's resumed events in order, a
resume that succeeds finds the generation of every earlier one recorded, and
advances past all that is recorded exactly when the effects it listed, and the
clock, covered them. -/
theorem resume_advances_iff (env : Environment) (runId : String) (pool later : ι → Thread World) (world after : World)
    (trace : List (Moment ι World)) (ran : Interleaved pool world trace later after)
    (orderly : Orderly runId world.repository) (keeps : ∀ who, (pool who).Takes (KeepsOrder runId)) (who : ι)
    (options : ResumeOptions) (run : Run) (called : pool who = (resumeRun env runId options).thread)
    (succeeded : later who = (pure run : Action Run).thread) :
    ∃ early moment effects at_, Records env runId trace who early moment effects at_ ∧
      (∀ other otherOptions otherRun otherEarly otherMoment otherEffects otherAt,
        pool other = (resumeRun env runId otherOptions).thread → later other = (pure otherRun : Action Run).thread →
        Records env runId trace other otherEarly otherMoment otherEffects otherAt → otherEarly.length < early.length →
        (nextResumeGeneration otherEffects : Int) ∈ recordedGenerations (moment.before.repository.eventsOf runId)) ∧
      (Advances runId (nextResumeGeneration effects) moment.before.repository moment.after.repository ↔
        Covered effects at_ (moment.before.repository.eventsOf runId)) := by
  have steps := ran.moments keeps
  obtain ⟨early,moment,effects,at_,event,records,ok⟩ := succeeded_records ran called succeeded
  obtain ⟨late,split⟩ := records.here
  refine ⟨early,moment,effects,at_,records,?_,?_⟩
  · intro other otherOptions otherRun otherEarly otherMoment otherEffects otherAt otherCalled otherSucceeded
      otherRecords before
    obtain ⟨otherEvent,otherOk⟩ := otherRecords.recorded ran otherCalled otherSucceeded
    obtain ⟨item,listed,type,payload⟩ := appended_recorded otherOk
    obtain ⟨otherLate,otherSplit⟩ := otherRecords.here
    obtain ⟨middle,same⟩ : ∃ middle, early = otherEarly ++ otherMoment::middle := by
      have both : otherEarly ++ otherMoment::otherLate = early ++ moment::late := otherSplit.symm.trans split
      rcases List.append_eq_append_iff.mp both with ⟨gap,earlySame,rest⟩ | ⟨gap,otherSame,_⟩
      · cases gap with
        | nil => simp [earlySame] at before
        | cons head gap =>
          simp only [List.cons_append,List.cons.injEq] at rest
          exact ⟨gap,by rw [earlySame,rest.1]⟩
      · rw [otherSame,List.length_append] at before
        omega
    rw [same] at split
    have path := moment_path ran steps split
    exact mem_recordedGenerations ((KeepsOrder.steps path).kept item listed) type payload
  · have path := start_path ran steps split
    exact advances_iff ((KeepsOrder.steps path).orderly orderly) ok

theorem execution_keepsOrder : (execution env).Takes (KeepsOrder runId) := by
  have moved : ∀ status, (repository env fun now repository => repository.transitionRun "run-1"
      [.pending,.running] {status := some status,updatedAt := now} none).Takes (KeepsOrder runId) :=
    fun _ => takes_repository passed_keepsOrder fun _ _ _ _ ok => .of_same (transitionRun_events ok)
  exact .bind (moved _) fun _ => .bind (takes_checkpoint passed_keepsOrder fun _ _ _ _ _ => .of_same rfl) fun _ =>
    .bind (takes_checkpoint passed_keepsOrder fun _ _ _ _ _ => .of_same rfl) fun _ =>
      .bind (moved _) fun _ => takes_pure _

theorem resumers_keepOrder (who : Fin 4) : (resumers who).Takes (KeepsOrder "run-1") := by
  match who with
  | 0 => exact (resumeRun_keepsOrder "run-1" {}).thread
  | 1 => exact (resumeRun_keepsOrder "run-1" {}).thread
  | 2 => exact execution_keepsOrder.thread
  | 3 => exact (recoverLocalDirectRuns_keepsOrder {}).thread

theorem resume_advances_iff_won :
    let trace := (play sweptSchedule resumers failedRun).1
    ∃ early moment effects at_, Records .steady "run-1" trace 1 early moment effects at_ ∧
      (∀ other otherOptions otherRun otherEarly otherMoment otherEffects otherAt,
        resumers other = (resumeRun .steady "run-1" otherOptions).thread →
        (play sweptSchedule resumers failedRun).2.1 other = (pure otherRun : Action Run).thread →
        Records .steady "run-1" trace other otherEarly otherMoment otherEffects otherAt →
        otherEarly.length < early.length →
        (nextResumeGeneration otherEffects : Int) ∈ recordedGenerations (moment.before.repository.eventsOf "run-1")) ∧
      (Advances "run-1" (nextResumeGeneration effects) moment.before.repository moment.after.repository ↔
        Covered effects at_ (moment.before.repository.eventsOf "run-1")) :=
  resume_advances_iff .steady "run-1" resumers _ failedRun _ _ (interleaved_play sweptSchedule resumers failedRun)
    (Orderly.of_nil rfl) resumers_keepOrder 1 {} _ rfl rfl

def refusedDispatch : Environment :=
  {Environment.steady with outage := fun tick => if tick = 6 then .refused [] else .none}

def resumedTwice : Fin 3 → Thread World
  | 0 => (resumeRun refusedDispatch "run-1" {}).thread
  | 1 => (repository refusedDispatch fun now repository =>
      repository.transitionRun "run-1" [.pending] {status := some .failed,updatedAt := now} none).thread
  | 2 => (resumeRun refusedDispatch "run-1" {}).thread

def resumedTwiceSchedule : List (Fin 3) := List.replicate 10 0 ++ [1] ++ List.replicate 30 2

/-- The second resume takes the first one's generation and leaves no event. -/
theorem resumedTwice_repeats_generation :
    let played := play resumedTwiceSchedule resumedTwice failedRun
    (∃ run, played.2.1 0 = (pure run : Action Run).thread) ∧ (∃ run, played.2.1 2 = (pure run : Action Run).thread) ∧
      ∃ listed ∈ (own 2 played.1)[1]?, ∃ appended ∈ (own 2 played.1)[5]?,
        nextResumeGeneration (listed.1.checkpoints.listEffects .codePoints "run-1") = 1 ∧
        recordedGenerations (appended.1.repository.eventsOf "run-1") = [1] ∧
        appended.2.repository.eventsOf "run-1" = appended.1.repository.eventsOf "run-1" :=
  ⟨⟨_,rfl⟩,⟨_,rfl⟩,by decide⟩

end AgentOS.System
