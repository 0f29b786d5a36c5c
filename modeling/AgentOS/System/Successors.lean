import AgentOS.System.BacklogDeletion

/-! Chained runs. A base run has one active successor at most, unless a creation acts on
a listing that has become stale, or a successor is reopened beside another. -/
namespace AgentOS.System
open Library Outbox ControlPlane LocalDirect Routine AgentOS.Action
open OrderedMap (get?_set mem_values)
variable {env : Environment} {pages : Nat} {base : String}

/-! ### Successors -/

def ActiveOn (base : String) (run : Run) : Prop := buildsOn base run = true ∧ InFlight run.status

instance (base : String) (run : Run) : Decidable (ActiveOn base run) := inferInstanceAs (Decidable (_ ∧ _))

def AtMostOne (base : String) (repository : Repository) : Prop :=
  ∀ first second firstRun secondRun, repository.getRun first = some firstRun → repository.getRun second = some secondRun →
    ActiveOn base firstRun → ActiveOn base secondRun → first = second

def Unused (base : String) (repository : Repository) : Prop :=
  ∀ id run, repository.getRun id = some run → ¬ ActiveOn base run

def Reactivates (base : String) (before after : Repository) : Prop :=
  ∃ id old run, before.getRun id = some old ∧ ¬ ActiveOn base old ∧ after.getRun id = some run ∧ ActiveOn base run

def Arrives (base : String) (status : RunStatus) (before after : Repository) : Prop :=
  ∃ id run, after.getRun id = some run ∧ run.status = status ∧ buildsOn base run = true ∧
    ∀ old, before.getRun id = some old → old.status ≠ status

def Shows (base projectId : String) (status : RunStatus) (repository : Repository) : Prop :=
  ∀ id run, repository.getRun id = some run → run.projectId = projectId → run.status = status → buildsOn base run = true →
    run ∈ repository.listRuns (some projectId) (some status) ACTIVE_RUN_PAGE none

def Chained (base : String) (repository : Repository) : Prop :=
  ∀ id run, repository.getRun id = some run → buildsOn base run = true →
    ∃ held, repository.getRun base = some held ∧ held.projectId = run.projectId

/-! ### What a step does to the runs -/

def KeepsRuns (before after : Repository) : Prop :=
  ∀ id run, before.getRun id = some run → ∃ later, after.getRun id = some later ∧ later.input = run.input ∧
    later.projectId = run.projectId

def TouchesOne (before after : Repository) : Prop := ∃ id, ∀ other, other ≠ id → after.getRun other = before.getRun other

structure Tends (before after : Repository) : Prop where
  keeps : KeepsRuns before after
  known : ∀ id, before.getRun id = none → after.getRun id = none
  single : TouchesOne before after

theorem buildsOn_same {run later : Run} (same : later.input = run.input) : buildsOn base later = buildsOn base run := by
  unfold buildsOn chainBase
  rw [same]

namespace Tends
variable {before after : Repository}

theorem of_runs (same : after.runs = before.runs) : Tends before after where
  keeps id run held := ⟨run,by rwa [Repository.getRun,same],rfl,rfl⟩
  known id absent := by rwa [Repository.getRun,same]
  single := ⟨"",fun other _ => by rw [Repository.getRun,same]; rfl⟩

theorem of_set {current moved : Run} (found : before.getRun moved.id = some current) (input : moved.input = current.input)
    (project : moved.projectId = current.projectId) (set : after.runs = before.runs.set moved.id moved) : Tends before after where
  keeps id run held := by
    rw [Repository.getRun,set,get?_set]
    split
    · rename_i same
      cases (same ▸ found).symm.trans held
      exact ⟨moved,rfl,input,project⟩
    · exact ⟨run,held,rfl,rfl⟩
  known id absent := by
    rw [Repository.getRun,set,get?_set]
    split
    · rename_i same
      rw [same,found] at absent
      cases absent
    · exact absent
  single := ⟨moved.id,fun other different => by
    rw [Repository.getRun,set,get?_set,if_neg different]
    rfl⟩

theorem transitionRun {id : String} {statuses : List RunStatus} {update : RunUpdate} {version : Option Nat} {run : Option Run}
    (ok : before.transitionRun id statuses update version = .ok (run,after)) : Tends before after := by
  rcases Repository.transitionRun_ok ok with ⟨_,rfl⟩ | ⟨current,moved,found,_,moves,_,rfl⟩
  · exact of_runs rfl
  · have named : moved.id = current.id := by rw [moves]; rfl
    rw [← before.keyed id current found,← named] at found
    exact of_set found (by rw [moves]; rfl) (by rw [moves]; rfl) rfl

theorem appendEvent {draft : EventDraft} {event : Event} (ok : before.appendEvent draft = .ok (event,after)) : Tends before after := by
  obtain ⟨staged,_,_,rfl⟩ := Repository.appendEvent_ok ok
  exact of_runs (before.commitStagedEvent_eq staged).1

end Tends

/-! ### What runs beside the creations -/

def Tending (before after : World) : Prop := Tends before.repository after.repository

theorem passed_tending (world : World) : Tending world world.ticked := .of_runs rfl

theorem requestStart_tending (request : StartRequest) : (requestStart env request).Takes Tending := by
  apply requestStart_takes_undispatched ⟨passed_tending,fun _ _ _ => .of_runs rfl⟩
  rintro before _ ⟨_,_,_,_,_,_,ok,rfl⟩
  exact .transitionRun ok

theorem resumes_tending : Resumes env Tending where
  passed := passed_tending
  released _ _ := .of_runs rfl
  start _ _ _ := requestStart_tending _
  reopen _ _ _ := takes_repository passed_tending fun _ _ _ _ ok => .transitionRun ok
  record _ _ _ := takes_repository passed_tending fun _ _ _ _ ok => .appendEvent ok

theorem transitionRun_tending (id : String) (statuses : List RunStatus) (update : Instant → RunUpdate) (version : Option Nat) :
    (repository env fun at_ repository => repository.transitionRun id statuses (update at_) version).Takes Tending :=
  takes_repository passed_tending fun _ _ _ _ ok => .transitionRun ok

/-! ### Invariants -/

theorem AtMostOne.step {before after : Repository} (one : AtMostOne base before) (touches : TouchesOne before after)
    (reopened : Reactivates base before after → Unused base before)
    (added : ∀ id run, before.getRun id = none → after.getRun id = some run → ActiveOn base run → Unused base before) :
    AtMostOne base after := by
  obtain ⟨touched,others⟩ := touches
  have known : ∀ id run, after.getRun id = some run → ActiveOn base run →
      (∃ old, before.getRun id = some old ∧ ActiveOn base old) ∨ Unused base before := by
    intro id run held active
    cases found : before.getRun id with
    | none => exact .inr (added id run found held active)
    | some old =>
      by_cases was : ActiveOn base old
      · exact .inl ⟨old,rfl,was⟩
      · exact .inr (reopened ⟨id,old,run,found,was,held,active⟩)
  have untouched : Unused base before → ∀ id run, after.getRun id = some run → ActiveOn base run → id = touched := by
    intro unused id run held active
    by_contra different
    rw [others id different] at held
    exact unused id run held active
  intro first second firstRun secondRun firstHeld secondHeld firstActive secondActive
  rcases known first firstRun firstHeld firstActive with ⟨firstOld,firstFound,firstWas⟩ | unused
  · rcases known second secondRun secondHeld secondActive with ⟨secondOld,secondFound,secondWas⟩ | unused
    · exact one first second firstOld secondOld firstFound secondFound firstWas secondWas
    · exact absurd firstWas (unused first firstOld firstFound)
  · rw [untouched unused first firstRun firstHeld firstActive,untouched unused second secondRun secondHeld secondActive]

theorem Chained.step {before after : Repository} (chained : Chained base before) (keeps : KeepsRuns before after)
    (added : ∀ id run, before.getRun id = none → after.getRun id = some run → buildsOn base run = true →
      ∃ held, before.getRun base = some held ∧ held.projectId = run.projectId) : Chained base after := by
  intro id run held builds
  have source : ∃ held, before.getRun base = some held ∧ held.projectId = run.projectId := by
    cases found : before.getRun id with
    | none => exact added id run found held builds
    | some old =>
      obtain ⟨later,there,input,project⟩ := keeps id old found
      cases there.symm.trans held
      obtain ⟨held,known,same⟩ := chained id old found (by rwa [← buildsOn_same input])
      exact ⟨held,known,same.trans project.symm⟩
  obtain ⟨held,known,same⟩ := source
  obtain ⟨later,there,_,project⟩ := keeps base held known
  exact ⟨later,there,project.trans same⟩

/-! ### The creation of a run -/

/-- What an insertion leaves: a run that was not there, and nothing else changed. -/
structure Inserted (run : Run) (before after : World) : Prop where
  fresh : before.repository.getRun run.id = none
  set : after.repository.runs = before.repository.runs.set run.id run

theorem insertRun_takes (run : Run) (fingerprint : Fingerprint) :
    (insertRun env run fingerprint).Takes fun before after => Inserts before after → Inserted run before after := by
  refine takes_repository (fun world inserts => absurd inserts (not_inserts rfl)) fun _ world created next ok inserts => ?_
  rcases (Repository.createRunIdempotently_eq ok).2 with ⟨same,_⟩ | ⟨absent,_,set⟩
  · exact absurd inserts (not_inserts (congrArg Repository.runs same))
  · exact ⟨absent,set⟩

theorem createRun_inserts {pipeline : Pipeline} {idempotencyKey : String} {input : CreateRunInput}
    {early : List (World × World)} {moment : World × World}
    (walks : (createRun env pages pipeline idempotencyKey input).Walks (early ++ [moment])) (inserts : Inserts moment.1 moment.2) :
    ∃ revision run fingerprint, (prepareRun env pages pipeline idempotencyKey input).Ends early (.ok (revision,run,fingerprint)) ∧
      Inserted run moment.1 moment.2 := by
  have quiet : Creates (fun _ => False) fun before after => ¬ Inserts before after := advances_uninserting.toCreates
  have prepares : (prepareRun env pages pipeline idempotencyKey input).Takes fun before after => ¬ Inserts before after :=
    (quiet.prepareRun _ _ _).takes
  obtain ⟨first,⟨revision,run,fingerprint⟩,second,rfl,ends,rest⟩ := walks.reached prepares (not_not.mpr inserts)
  have starting : (startRun env pipeline input revision run fingerprint).Walks (second ++ [moment]) := by
    rcases rest.bind with starts | ⟨_,ended,_,_,some,_,nothing⟩
    · exact starts.outcome
    · cases ended with
      | ok created => exact absurd (walks_pure.mp nothing) some
      | error fault => exact absurd (walks_throw.mp nothing) some
  rcases starting.bind with inserting | ⟨third,created,fourth,same,some,_,finishing⟩
  · have single : (insertRun env run fingerprint).Single := ⟨_,rfl⟩
    obtain ⟨rfl,_⟩ := single.walks inserting
    have inserted := (insertRun_takes run fingerprint).walks inserting moment (by simp) inserts
    exact ⟨revision,run,fingerprint,by rwa [List.append_nil],inserted⟩
  · obtain ⟨init,last,rfl⟩ := List.eq_nil_or_concat fourth |>.resolve_left some
    rw [List.concat_eq_append,← List.append_assoc] at same
    obtain ⟨_,lasts⟩ := List.append_inj' same rfl
    cases lasts
    exact absurd inserts ((quiet.finishRun pipeline input revision created _).walks finishing moment (by simp))

/-! ### What a creation has read -/

/-- Before it inserts a run with the base a creation has read the base, and then listed
the project's runs of the status and found none with the base. -/
def Scanned (env : Environment) (base : String) (input : CreateRunInput) (status : RunStatus) {α : Type} (routine : Action α)
    (taken : List (World × World)) : Prop :=
  ∃ path read later, taken = path ++ read::later ∧
    (∃ known ∈ path, ∃ held, known.1.repository.getRun base = some held ∧ held.projectId = input.projectId) ∧
    Calls (untaken env input.projectId base status) routine path ∧
    (read.1.repository.listRuns (some input.projectId) (some status) ACTIVE_RUN_PAGE none).any (buildsOn base) = false

variable {taken : List (World × World)} {status : RunStatus}

theorem untaken_ends {projectId : String} (ends : (untaken env projectId base status).Ends taken (.ok ())) : ∃ read, taken = [read] ∧
      (read.1.repository.listRuns (some projectId) (some status) ACTIVE_RUN_PAGE none).any (buildsOn base) = false := by
  obtain ⟨first,active,second,rfl,reading,rest⟩ := ends_bind_ok.mp ends
  have single : (readRepository env fun repository =>
    repository.listRuns (some projectId) (some status) ACTIVE_RUN_PAGE none).Single := ⟨_,rfl⟩
  obtain ⟨before,after,rfl,read⟩ := single.ends.mp reading
  obtain ⟨_,rfl,rfl⟩ := exec_readRepository_ok.mp read
  split at rest
  · have impossible := (ends_throw.mp rest).2
    cases impossible
  · rename_i none
    obtain ⟨rfl,_⟩ := Routine.ends_pure.mp rest
    exact ⟨_,rfl,by simpa using none⟩

theorem resolveChain_scanned {input : CreateRunInput} {revision : Option ConfigRevision} {chain : Option RunChain}
    (named : input.baseRunId = some base)
    (ends : (resolveChain env input revision).Ends taken (.ok chain)) (flying : InFlight status) :
    Scanned env base input status (resolveChain env input revision) taken := by
  unfold resolveChain at ends ⊢
  rw [named] at ends ⊢
  obtain ⟨first,found,_,rfl,reading,ends⟩ := ends_bind_ok.mp ends
  obtain ⟨second,⟨held,resolved⟩,_,rfl,settling,ends⟩ := ends_bind_ok.mp ends
  obtain ⟨third,_,_,rfl,configured,ends⟩ := ends_bind_ok.mp ends
  obtain ⟨fourth,_,last,rfl,scanning,ends⟩ := ends_bind_ok.mp ends
  have single : (readRepository env fun repository => repository.getRun base).Single := ⟨_,rfl⟩
  obtain ⟨before,after,rfl,read⟩ := single.ends.mp reading
  obtain ⟨_,rfl,_⟩ := exec_readRepository_ok.mp read
  obtain ⟨rfl,usable⟩ := ends_settle.mp settling
  obtain ⟨known,project,_,_⟩ := usableBase_ok usable.symm
  have inside : status ∈ [RunStatus.pending,.running,.waiting] := by
    rcases flying with rfl | rfl | rfl <;> simp
  obtain ⟨path,part,rest,rfl,calls,body⟩ := ends_forM scanning inside
  obtain ⟨seen,rfl,none⟩ := untaken_ends body
  refine ⟨[(before,after)] ++ ([] ++ (third ++ path)),seen,rest ++ last,by simp,
    ⟨(before,after),by simp,held,known,project⟩,?_,none⟩
  exact .later reading (.later settling (.later configured (.inner _ calls)))

theorem createRun_scanned {pipeline : Pipeline} {idempotencyKey : String} {input : CreateRunInput}
    {prepared : Option ConfigRevision × Run × Fingerprint} (named : input.baseRunId = some base)
    (ends : (prepareRun env pages pipeline idempotencyKey input).Ends taken (.ok prepared)) (flying : InFlight status) :
    Scanned env base input status (createRun env pages pipeline idempotencyKey input) taken := by
  obtain ⟨first,now,_,rfl,clock,ends⟩ := ends_bind_ok.mp ends
  obtain ⟨second,_,_,rfl,project,ends⟩ := ends_bind_ok.mp ends
  obtain ⟨third,revision,_,rfl,applied,ends⟩ := ends_bind_ok.mp ends
  obtain ⟨fourth,chain,last,rfl,resolving,_⟩ := ends_bind_ok.mp ends
  obtain ⟨path,read,later,rfl,⟨known,inside,held⟩,calls,none⟩ := resolveChain_scanned named resolving flying
  refine ⟨first ++ (second ++ (third ++ path)),read,later ++ last,by simp,⟨known,by simp [inside],held⟩,?_,none⟩
  exact .inner _ (.later clock (.later project (.later applied (.inner _ calls))))

/-! ### Histories -/

theorem KeepsRuns.refl (repository : Repository) : KeepsRuns repository repository := fun _ run held => ⟨run,held,rfl,rfl⟩

theorem KeepsRuns.trans {first second third : Repository} (early : KeepsRuns first second) (late : KeepsRuns second third) :
    KeepsRuns first third := by
  intro id run held
  obtain ⟨middle,there,input,project⟩ := early id run held
  obtain ⟨last,found,laterInput,laterProject⟩ := late id middle there
  exact ⟨last,found,laterInput.trans input,laterProject.trans project⟩

inductive ChainParty (env : Environment) (pages : Nat) : Thread World → Prop
  | creation (pipeline : Pipeline) (idempotencyKey : String) (input : CreateRunInput) :
      ChainParty env pages (createRun env pages pipeline idempotencyKey input).thread
  | beside {thread : Thread World} (tending : thread.Takes Tending) : ChainParty env pages thread

def Moving (before after : World) : Prop :=
  KeepsRuns before.repository after.repository ∧ TouchesOne before.repository after.repository

theorem creates_moving : Creates (fun _ => True) Moving where
  quiet _ _ unmoved := ⟨(Tends.of_runs unmoved.runs).keeps,(Tends.of_runs unmoved.runs).single⟩
  undispatched := by
    rintro before _ ⟨_,_,_,_,_,_,ok,rfl⟩
    exact ⟨(Tends.transitionRun ok).keeps,(Tends.transitionRun ok).single⟩
  inserted world run _ _ next _ ok := by
    rcases (Repository.createRunIdempotently_eq ok).2 with ⟨rfl,_⟩ | ⟨absent,_,set⟩
    · exact ⟨.refl _,(Tends.of_runs rfl).single⟩
    · have others : ∀ other, other ≠ run.id → next.getRun other = world.repository.getRun other := by
        intro other different
        rw [Repository.getRun,set,get?_set,if_neg different]
        rfl
      refine ⟨fun id held found => ⟨held,?_,rfl,rfl⟩,run.id,others⟩
      change next.getRun id = some held
      rw [others id]
      · exact found
      · rintro rfl
        rw [Repository.getRun,absent] at found
        cases found

theorem ChainParty.moving {thread : Thread World} (party : ChainParty env pages thread) : thread.Takes Moving := by
  cases party with
  | creation pipeline idempotencyKey input => exact (creates_moving.createRun _ _ _ fun _ _ => trivial).thread
  | beside tending => exact tending.mono fun _ _ tends => ⟨tends.keeps,tends.single⟩

section
variable {ι : Type} [DecidableEq ι] {pool later : ι → Thread World} {world after : World} {trace : List (Moment ι World)}

theorem keeps_history (ran : Interleaved pool world trace later after)
    (steps : ∀ moment ∈ trace, Moving moment.before moment.after) : KeepsRuns world.repository after.repository :=
  ran.preserved (fun state => KeepsRuns world.repository state.repository)
    (fun moment inside held => held.trans (steps moment inside).1) (.refl _)

/-- Since a creation lists the runs of a status, none with the base has come to have it
when it inserts, and the page that it read shows all of them. -/
def ListsCurrent (env : Environment) (pages : Nat) (base : String) (pool : ι → Thread World) (trace : List (Moment ι World)) :
    Prop :=
  ∀ early insert late, trace = early ++ insert::late → Inserts insert.before insert.after →
    ∀ pipeline idempotencyKey input, pool insert.who = (createRun env pages pipeline idempotencyKey input).thread →
      input.baseRunId = some base → ∀ before read between, early = before ++ read::between → read.who = insert.who →
        ∀ status, Calls (untaken env input.projectId base status) (createRun env pages pipeline idempotencyKey input)
            (own insert.who before) →
          Shows base input.projectId status read.before.repository ∧
            ¬ Arrives base status read.before.repository insert.before.repository

def ReopenedAlone (base : String) (trace : List (Moment ι World)) : Prop :=
  ∀ moment ∈ trace, Reactivates base moment.before.repository moment.after.repository → Unused base moment.before.repository

variable {early late : List (Moment ι World)} {idempotencyKey : String} {input : CreateRunInput} {pipeline : Pipeline}

theorem known_persists {moment : Moment ι World} {who : ι} (ran : Interleaved pool world (early ++ moment::late) later after)
    (steps : ∀ step ∈ early ++ moment::late, Moving step.before step.after) {known : World × World}
    (seen : known ∈ own who early) {held : Run} (found : known.1.repository.getRun base = some held) :
    ∃ now, moment.before.repository.getRun base = some now ∧ now.projectId = held.projectId := by
  obtain ⟨reading,inside,_,rfl⟩ := mem_own_iff.mp seen
  obtain ⟨first,second,rfl⟩ := List.append_of_mem inside
  rw [List.append_assoc,List.cons_append] at ran
  obtain ⟨_,_,between⟩ := ran.since
  have keeps := keeps_history between fun other inside => steps other (by
    rw [List.append_assoc]
    exact List.mem_append_right _ (List.mem_append_left _ inside))
  obtain ⟨now,there,_,project⟩ := keeps base held found
  exact ⟨now,there,project⟩

variable {insert : Moment ι World}

section
variable (ran : Interleaved pool world (early ++ insert::late) later after)
include ran

theorem inserted_based (steps : ∀ step ∈ early ++ insert::late, Moving step.before step.after) {prepared : Option ConfigRevision × Run × Fingerprint}
    (named : input.baseRunId = some base)
    (ends : (prepareRun env pages pipeline idempotencyKey input).Ends (own insert.who early) (.ok prepared)) :
    ∃ held, insert.before.repository.getRun base = some held ∧ held.projectId = input.projectId := by
  obtain ⟨path,read,rest,mine,⟨known,inside,held,found,project⟩,_,_⟩ := createRun_scanned named ends
    (show InFlight .pending from .inl rfl)
  have seen : known ∈ own insert.who early := by
    rw [mine]
    exact List.mem_append_left _ inside
  obtain ⟨now,there,same⟩ := known_persists ran steps seen found
  exact ⟨now,there,same.trans project⟩

theorem creation_inserts (isCreation : pool insert.who = (createRun env pages pipeline idempotencyKey input).thread)
    (inserts : Inserts insert.before insert.after) : ∃ prepared,
      (prepareRun env pages pipeline idempotencyKey input).Ends (own insert.who early) (.ok prepared) ∧
      Prepared env pipeline idempotencyKey input prepared.2.1 ∧ Inserted prepared.2.1 insert.before insert.after := by
  obtain ⟨revision,run,fingerprint,ends,inserted⟩ := createRun_inserts (ran.walks_to isCreation) inserts
  have gives : (prepareRun env pages pipeline idempotencyKey input).Gives Moving
      fun answer => Prepared env pipeline idempotencyKey input answer.2.1 := creates_moving.prepareRun _ _ _
  exact ⟨_,ends,gives.ends ends,inserted⟩

end

theorem prepared_base {run : Run} (prepared : Prepared env pipeline idempotencyKey input run) (builds : buildsOn base run = true) :
    input.baseRunId = some base := by
  unfold buildsOn at builds
  rw [decide_eq_true_eq,prepared.base] at builds
  obtain ⟨asked,named,same⟩ := Option.map_eq_some_iff.mp builds
  cases same
  exact named

theorem Inserted.added {run found : Run} {before after : World} (inserted : Inserted run before after) {id : String}
    (absent : before.repository.getRun id = none) (there : after.repository.getRun id = some found) : found = run := by
  rw [Repository.getRun,inserted.set,get?_set] at there
  split at there
  · exact (Option.some.inj there).symm
  · rw [Repository.getRun,there] at absent
    cases absent

theorem ChainParty.adds {thread : Thread World} (party : ChainParty env pages thread) :
    (∃ pipeline idempotencyKey input, thread = (createRun env pages pipeline idempotencyKey input).thread) ∨
      thread.Takes fun before after => ¬ Inserts before after := by
  cases party with
  | creation pipeline idempotencyKey input => exact .inl ⟨_,_,_,rfl⟩
  | beside tending =>
    refine .inr (tending.mono fun _ _ tends => ?_)
    rintro ⟨id,absent,there⟩
    rw [tends.known id absent] at there
    cases there

theorem chained_history (parties : ∀ who, ChainParty env pages (pool who)) (ran : Interleaved pool world trace later after)
    (chained : Chained base world.repository) : Chained base after.repository := by
  have steps := ran.moments fun who => (parties who).moving
  refine ran.preserved (fun world => Chained base world.repository) (fun moment inside held => ?_) chained
  refine held.step (steps moment inside).1 fun id run absent there builds => ?_
  have inserts : Inserts moment.before moment.after := ⟨id,absent,by rw [there]; rfl⟩
  rcases (parties moment.who).adds with ⟨_,_,input,isCreation⟩ | never
  · obtain ⟨early,late,rfl⟩ := List.append_of_mem inside
    obtain ⟨prepared,ends,rules,inserted⟩ := creation_inserts ran isCreation inserts
    cases inserted.added absent there
    obtain ⟨held,known,project⟩ := inserted_based ran steps (prepared_base rules builds) ends
    exact ⟨held,known,project.trans rules.project.symm⟩
  · exact absurd inserts (ran.moment inside never)

theorem inserted_unused (parties : ∀ who, ChainParty env pages (pool who))
    (ran : Interleaved pool world (early ++ insert::late) later after)
    (chained : Chained base world.repository) (current : ListsCurrent env pages base pool (early ++ insert::late))
    (isCreation : pool insert.who = (createRun env pages pipeline idempotencyKey input).thread)
    (named : input.baseRunId = some base) (inserts : Inserts insert.before insert.after) : Unused base insert.before.repository := by
  have steps := ran.moments fun who => (parties who).moving
  obtain ⟨prepared,ends,_,_⟩ := creation_inserts ran isCreation inserts
  rintro id run found ⟨builds,flying⟩
  obtain ⟨path,reading,rest,mine,⟨known,inside,held,seen,project⟩,calls,none⟩ := createRun_scanned named ends flying
  obtain ⟨before,read,between,rfl,isWho,ownBefore,rfl⟩ := own_split mine
  rw [← ownBefore] at calls inside
  obtain ⟨shows,settled⟩ := current _ insert late rfl inserts pipeline idempotencyKey input isCreation named before read between
    rfl isWho run.status calls
  rw [List.append_assoc,List.cons_append] at ran steps
  obtain ⟨_,first,_⟩ := ran.upto
  obtain ⟨_,_,meanwhile⟩ := ran.since
  -- The run had its status already when the status was listed.
  have earlier : ∃ old, read.before.repository.getRun id = some old ∧ old.status = run.status := by
    by_contra missing
    refine settled ⟨id,run,found,rfl,builds,fun old there same => ?_⟩
    exact missing ⟨old,there,same⟩
  obtain ⟨old,there,status⟩ := earlier
  have keeps := keeps_history meanwhile fun other inside => steps other
    (List.mem_append_right _ (by
      rw [← List.cons_append]
      exact List.mem_append_left _ inside))
  obtain ⟨now,same,input',_⟩ := keeps id old there
  cases same.symm.trans found
  have oldBuilds : buildsOn base old = true := (buildsOn_same input').symm.trans builds
  obtain ⟨baseRun,baseFound,baseProject⟩ := chained_history parties first chained id old there oldBuilds
  obtain ⟨baseNow,baseThere,sameProject⟩ := known_persists ran steps inside seen
  cases baseThere.symm.trans baseFound
  have inProject : old.projectId = input.projectId := baseProject.symm.trans (sameProject.trans project)
  have listed := shows id old there inProject status oldBuilds
  have taken := List.any_eq_true.mpr ⟨old,listed,oldBuilds⟩
  rw [none] at taken
  cases taken

/-- In every history whose creations insert from current listings, and in which no
successor is reopened beside another, a base run has one active successor at most. -/
theorem base_has_one_successor (parties : ∀ who, ChainParty env pages (pool who))
    (ran : Interleaved pool world trace later after) (chained : Chained base world.repository)
    (one : AtMostOne base world.repository) (current : ListsCurrent env pages base pool trace)
    (alone : ReopenedAlone base trace) : AtMostOne base after.repository := by
  have steps := ran.moments fun who => (parties who).moving
  refine ran.preserved (fun world => AtMostOne base world.repository) (fun moment inside held => ?_) one
  refine held.step (steps moment inside).2 (alone moment inside) fun id run absent there active => ?_
  have inserts : Inserts moment.before moment.after := ⟨id,absent,by rw [there]; rfl⟩
  rcases (parties moment.who).adds with ⟨_,_,input,isCreation⟩ | never
  · obtain ⟨early,late,rfl⟩ := List.append_of_mem inside
    obtain ⟨prepared,_,rules,inserted⟩ := creation_inserts ran isCreation inserts
    cases inserted.added absent there
    exact inserted_unused parties ran chained current isCreation (prepared_base rules active.1) inserts
  · exact absurd inserts (ran.moment inside never)

end

/-! ### A reopened successor -/

def publishedRun : Run where
  id := "base"
  projectId := "project-1"
  pipeline := "feature"
  status := .succeeded
  output := some (.obj [("publishedBranch",.str "agent/base"),("publishedCommitSha",.str "c0ffee")])
  createdAt := 0
  updatedAt := 0

def publishedWorld : World := {configuredWorld with repository := configuredWorld.repository.setRun publishedRun}

def chainedInput : CreateRunInput where
  projectId := "project-1"
  title := "Next"
  description := ""
  baseRunId := some "base"

/-- A chained run is created and fails; another is created on the same base; the operator
resumes the first. -/
def successions : Fin 4 → Thread World
  | 0 => (createFeatureRun plainEnvironment 1 "key-1" chainedInput).thread
  | 1 => (repository plainEnvironment fun at_ repository => repository.transitionRun "feature:key-1" [.pending]
      {status := some .failed,updatedAt := at_} none).thread
  | 2 => (createFeatureRun plainEnvironment 1 "key-2" chainedInput).thread
  | 3 => (resumeRun plainEnvironment "feature:key-1" {}).thread

theorem successions_parties (who : Fin 4) : ChainParty plainEnvironment 1 (successions who) := by
  match who with
  | 0 => exact .creation _ _ _
  | 1 => exact .beside (transitionRun_tending _ _ _ _).thread
  | 2 => exact .creation _ _ _
  | 3 => exact .beside (resumes_tending.resumeRun _ _).thread

def inSuccession : List (Fin 4) := List.replicate 8 0 ++ [1] ++ List.replicate 8 2 ++ List.replicate 7 3

theorem published_unchained : Chained "base" publishedWorld.repository ∧ AtMostOne "base" publishedWorld.repository := by
  have unchained : ∀ run ∈ publishedWorld.repository.runs.values, buildsOn "base" run = false := by decide +kernel
  constructor
  · intro id run held builds
    rw [unchained run ((mem_values _ _).mpr ⟨id,held⟩)] at builds
    cases builds
  · intro first _ firstRun _ held _ active
    have builds := active.1
    rw [unchained firstRun ((mem_values _ _).mpr ⟨first,held⟩)] at builds
    cases builds

/-- Two active runs build on one base. -/
theorem reopened_beside_successor : (∀ who, ChainParty plainEnvironment 1 (successions who)) ∧
    Chained "base" publishedWorld.repository ∧ AtMostOne "base" publishedWorld.repository ∧
    ∃ trace later after, Interleaved successions publishedWorld trace later after ∧ ¬ AtMostOne "base" after.repository := by
  refine ⟨successions_parties,published_unchained.1,published_unchained.2,_,_,_,
    interleaved_play inSuccession successions publishedWorld,fun one => ?_⟩
  have active : ∀ id ∈ ["feature:key-1","feature:key-2"],
      ((play inSuccession successions publishedWorld).2.2.repository.getRun id).any (ActiveOn "base" ·) = true := by
    decide +kernel
  obtain ⟨first,firstHeld,firstActive⟩ := (Option.any_eq_true _ _).mp (active "feature:key-1" (by simp))
  obtain ⟨second,secondHeld,secondActive⟩ := (Option.any_eq_true _ _).mp (active "feature:key-2" (by simp))
  have same := one _ _ first second firstHeld secondHeld (of_decide_eq_true firstActive) (of_decide_eq_true secondActive)
  exact absurd same (by decide)

def unresumed : List (Fin 4) := List.replicate 8 0 ++ [1] ++ List.replicate 8 2

def unresumedTrace : List (Moment (Fin 4) World) := (play unresumed successions publishedWorld).1

theorem unresumed_current : ListsCurrent plainEnvironment 1 "base" successions unresumedTrace := by
  intro early insert late history ⟨id,absent,there⟩ _ _ input _ _ before read between split mover status _
  have listed : ∀ moment ∈ unresumedTrace, ∀ run ∈ moment.before.repository.runs.values,
      run ∈ moment.before.repository.listRuns (some run.projectId) (some run.status) ACTIVE_RUN_PAGE none := by
    decide +kernel
  have still : ∀ index < unresumedTrace.length, ∀ insert ∈ unresumedTrace[index]?,
      (∃ run ∈ insert.after.repository.runs.values, insert.before.repository.getRun run.id = none) →
        ∀ read ∈ unresumedTrace.take index, read.who = insert.who →
          read.before.repository.runs = insert.before.repository.runs := by
    decide +kernel
  have position : unresumedTrace[early.length]? = some insert := by
    rw [history]
    simp
  have prior : read ∈ unresumedTrace.take early.length := by
    rw [history,List.take_left',split]
    · simp
    · rfl
  obtain ⟨run,found⟩ := Option.isSome_iff_exists.mp there
  have added : ∃ run ∈ insert.after.repository.runs.values, insert.before.repository.getRun run.id = none := by
    refine ⟨run,(mem_values _ _).mpr ⟨id,found⟩,?_⟩
    rw [insert.after.repository.keyed id run found]
    exact absent
  have same := still early.length (by rw [history]; simp) insert position added read prior mover
  constructor
  · rintro other shown held project rfl _
    rw [← project]
    exact listed read (List.mem_of_mem_take prior) shown ((mem_values _ _).mpr ⟨other,held⟩)
  · rintro ⟨other,arrived,held,status,_,fresh⟩
    rw [Repository.getRun,← same] at held
    exact fresh arrived held status

theorem unresumed_alone : ReopenedAlone "base" unresumedTrace := by
  rintro moment inside ⟨id,old,run,held,inactive,found,active⟩
  have kept : ∀ moment ∈ unresumedTrace, ∀ old ∈ moment.before.repository.runs.values,
      ∀ run ∈ moment.after.repository.runs.values, old.id = run.id → ActiveOn "base" run → ActiveOn "base" old := by
    decide +kernel
  have same : old.id = run.id :=
    (moment.before.repository.keyed _ _ held).trans (moment.after.repository.keyed _ _ found).symm
  exact absurd (kept moment inside old ((mem_values _ _).mpr ⟨id,held⟩) run
    ((mem_values _ _).mpr ⟨id,found⟩) same active) inactive

theorem base_has_one_successor_unresumed : AtMostOne "base" (play unresumed successions publishedWorld).2.2.repository :=
  base_has_one_successor successions_parties (interleaved_play unresumed successions publishedWorld) published_unchained.1
    published_unchained.2 unresumed_current unresumed_alone

end AgentOS.System
