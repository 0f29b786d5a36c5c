import AgentOS.System.Successors
import AgentOS.System.Takeovers
import AgentOS.Library.Links

/-! How deep chains get. The walk over the ancestors of a base counts exactly as far as the limit lets it, and no chain of
created runs is longer than the limit of the newest. -/
namespace AgentOS.System
open Library Workflow ControlPlane Routine AgentOS.Action
variable {env : Environment} {pages : Nat}

/-! ### The links of a store -/

variable (repository : Repository)

def linked (id : String) : Option String := ancestorOf (repository.getRun id)

/-- The runs of the chain that a new run on the base completes: itself, the base, and every ancestor that is named. -/
noncomputable def chainRuns (base : Run) : ℕ∞ :=
  Links.length (linked repository) (ancestorOf (some base)) + 2

def NamedWithin (base : Run) (bound : Nat) : Prop :=
  ∀ place < bound, ∀ id, Links.along (linked repository) place (ancestorOf (some base)) = some id → trim id ≠ ""

def walked (links : String → Option String) : Nat → Nat → Option String → Except Fault Nat
  | bound+1,existing,some ancestor => match persistenceId "run" ancestor with
    | .error fault => .error fault
    | .ok id => walked links bound (existing + 1) (links id)
  | _,existing,_ => .ok existing

section
variable {links : String → Option String} {bound existing count : Nat} {start : Option String}

theorem walked_none : walked links bound existing none = .ok existing := by cases bound <;> rfl

theorem walked_some (ancestor : String) : walked links (bound + 1) existing (some ancestor) =
    if trim ancestor = "" then .error (.error "run identifier must not be empty") else walked links bound (existing + 1) (links ancestor) := by
  by_cases blank : trim ancestor = ""
  · have refused : persistenceId "run" ancestor = .error (.error "run identifier must not be empty") := if_pos blank
    rw [walked,refused,if_pos blank]
  · have named : persistenceId "run" ancestor = .ok ancestor := if_neg blank
    rw [walked,named,if_neg blank]

theorem walked_ok : (∃ count, walked links bound existing start = .ok count) ↔
    ∀ place < bound, ∀ id, Links.along links place start = some id → trim id ≠ "" := by
  induction bound generalizing existing start with
  | zero => cases start <;> simp [walked]
  | succ bound ih =>
    cases start with
    | none => simp [walked_none,Links.along_none]
    | some ancestor =>
      rw [walked_some]
      have ahead : (∀ place < bound + 1, ∀ id, Links.along links place (some ancestor) = some id → trim id ≠ "") ↔
          trim ancestor ≠ "" ∧ ∀ place < bound, ∀ id, Links.along links place (links ancestor) = some id → trim id ≠ "" := by
        constructor
        · intro each
          refine ⟨each 0 (Nat.succ_pos _) ancestor rfl,fun place before id found => ?_⟩
          exact each (place + 1) (Nat.succ_lt_succ before) id ((Links.along_bind place (some ancestor)).symm.trans found)
        · rintro ⟨named,each⟩ place before id found
          cases place with
          | zero =>
            cases found
            exact named
          | succ place =>
            exact each place (Nat.lt_of_succ_lt_succ before) id ((Links.along_bind place (some ancestor)).trans found)
      rw [ahead]
      split
      · rename_i blank
        simp [blank]
      · rename_i named
        rw [ih]
        exact ⟨fun each => ⟨named,each⟩,And.right⟩

theorem walked_error {fault : Fault} (failed : walked links bound existing start = .error fault) :
    fault = .error "run identifier must not be empty" := by
  induction bound generalizing existing start with
  | zero => cases start <;> cases failed
  | succ bound ih =>
    cases start with
    | none => cases failed
    | some ancestor =>
      rw [walked_some] at failed
      split at failed
      · exact (Except.error.inj failed).symm
      · exact ih failed

theorem walked_le (ok : walked links bound existing start = .ok count) : existing ≤ count := by
  induction bound generalizing existing start with
  | zero =>
    cases start <;> cases ok <;> exact Nat.le_refl _
  | succ bound ih =>
    cases start with
    | none =>
      cases ok
      exact Nat.le_refl _
    | some ancestor =>
      rw [walked_some] at ok
      split at ok
      · cases ok
      · exact (Nat.le_succ existing).trans (ih ok)

theorem walked_counts (ok : walked links bound existing start = .ok count) {further : Nat} (within : further ≤ bound) :
    existing + further ≤ count ↔ (further : ℕ∞) ≤ Links.length links start := by
  rw [Links.le_length_iff]
  induction bound generalizing existing start further with
  | zero =>
    obtain rfl := Nat.le_zero.mp within
    simpa using walked_le ok
  | succ bound ih =>
    cases further with
    | zero => simpa using walked_le ok
    | succ further =>
      cases start with
      | none =>
        rw [walked_none] at ok
        cases ok
        simp only [Links.along_none,Option.isSome_none,Bool.false_eq_true]
        constructor
        · intro impossible
          omega
        · intro named
          exact absurd (named 0 (Nat.succ_pos _)) id
      | some ancestor =>
        rw [walked_some] at ok
        split at ok
        · cases ok
        have step := ih ok (Nat.le_of_succ_le_succ within)
        rw [Nat.add_assoc,Nat.add_comm 1 further] at step
        rw [step]
        constructor
        · intro named place before
          cases place with
          | zero => rfl
          | succ place =>
            rw [← Links.along_bind]
            exact named place (Nat.lt_of_succ_lt_succ before)
        · intro named place before
          have there := named (place + 1) (Nat.succ_lt_succ before)
          rwa [← Links.along_bind] at there

end

/-! ### The walk -/

section
variable {world : World}

theorem countChain_some (bound existing : Nat) (ancestor : String) : countChain env (bound + 1) existing (some ancestor) =
    if trim ancestor = "" then throw (.error "run identifier must not be empty")
    else readRepository env (fun repository => repository.getRun ancestor) >>= fun run =>
      countChain env bound (existing + 1) (ancestorOf run) := by
  by_cases blank : trim ancestor = ""
  · have refused : persistenceId "run" ancestor = .error (.error "run identifier must not be empty") := if_pos blank
    rw [countChain,refused,if_pos blank]
    rfl
  · have named : persistenceId "run" ancestor = .ok ancestor := if_neg blank
    rw [countChain,named,if_neg blank]
    rfl

theorem countChain_none (bound existing : Nat) : countChain env bound existing none = pure existing := by
  cases bound <;> rfl

theorem countChain_zero (existing : Nat) (start : Option String) : countChain env 0 existing start = pure existing := by
  cases start <;> rfl

theorem countChain_bounded {bound existing : Nat} {start : Option String} {taken : List (World × World)}
    (walks : (countChain env bound existing start).Walks taken) : taken.length ≤ bound := by
  induction bound generalizing existing start taken with
  | zero =>
    rw [countChain_zero] at walks
    rw [walks_pure.mp walks]
    exact Nat.le_refl _
  | succ bound ih =>
    cases start with
    | none =>
      rw [countChain_none] at walks
      rw [walks_pure.mp walks]
      exact Nat.zero_le _
    | some ancestor =>
      rw [countChain_some] at walks
      split at walks
      · rw [walks_throw.mp walks]
        exact Nat.zero_le _
      · have single : (readRepository env fun repository => repository.getRun ancestor).Single := ⟨_,rfl⟩
        rcases walks.bind with reading | ⟨first,run,rest,rfl,_,reading,further⟩
        · exact (single.walks_length reading).trans (Nat.succ_pos bound)
        · obtain ⟨before,after,rfl,_⟩ := single.ends.mp reading
          exact Nat.succ_le_succ (ih further)

theorem exec_countChain (calm : ∀ tick, env.outage tick = .none) (bound existing : Nat) (start : Option String) (world : World) :
    ((countChain env bound existing start).exec world).1 = walked (linked world.repository) bound existing start ∧
      ((countChain env bound existing start).exec world).2.repository = world.repository := by
  induction bound generalizing existing start world with
  | zero => cases start <;> exact ⟨rfl,rfl⟩
  | succ bound ih =>
    cases start with
    | none => exact ⟨rfl,rfl⟩
    | some ancestor =>
      rw [countChain_some,walked_some]
      split
      · exact ⟨rfl,rfl⟩
      · rw [exec_bind,readRepository,exec_calm (calm _)]
        exact ih (existing + 1) (linked world.repository ancestor) world.ticked

def chainTooDeep (maxDepth : Nat) : Fault :=
  .service "chain_too_deep" ("a chain may not exceed " ++ toString maxDepth ++ " runs") 422

theorem shallow_walked (calm : ∀ tick, env.outage tick = .none) (base : Run) (maxDepth : Nat) (world : World) :
    ((shallow env base maxDepth).exec world).1 = match walked (linked world.repository) maxDepth 1 (ancestorOf (some base)) with
      | .error fault => .error fault
      | .ok existing => if existing + 1 > maxDepth then .error (chainTooDeep maxDepth) else .ok () := by
  obtain ⟨answered,_⟩ := exec_countChain calm maxDepth 1 (ancestorOf (some base)) world
  rw [← answered,shallow,exec_bind]
  rcases (countChain env maxDepth 1 (ancestorOf (some base))).exec world with ⟨answer,after⟩
  cases answer with
  | error fault => rfl
  | ok existing =>
    dsimp only
    split <;> rfl

theorem succ_lt_add_two (depth : Nat) (length : ℕ∞) : ((depth + 1 : Nat) : ℕ∞) < length + 2 ↔ (depth : ℕ∞) ≤ length := by
  cases length with
  | top =>
    have endless : (⊤ : ℕ∞) + 2 = ⊤ := rfl
    rw [endless]
    exact ⟨fun _ => le_top,fun _ => ENat.natCast_lt_top _⟩
  | coe length =>
    have whole : (length : ℕ∞) + 2 = ((length + 2 : Nat) : ℕ∞) := rfl
    rw [whole,Nat.cast_lt,Nat.cast_le]
    omega

theorem too_deep_iff {links : String → Option String} {maxDepth count : Nat} {start : Option String}
    (ok : walked links maxDepth 1 start = .ok count) : count + 1 > maxDepth ↔ (maxDepth : ℕ∞) < Links.length links start + 2 := by
  cases maxDepth with
  | zero => simp
  | succ depth =>
    have counts := walked_counts ok (Nat.le_succ depth)
    rw [succ_lt_add_two,← counts]
    omega

theorem shallow_refuses (calm : ∀ tick, env.outage tick = .none) (base : Run) (maxDepth : Nat) (world : World) :
    ((shallow env base maxDepth).exec world).1 = .error (chainTooDeep maxDepth) ↔
      (maxDepth : ℕ∞) < chainRuns world.repository base ∧ NamedWithin world.repository base maxDepth := by
  rw [shallow_walked calm]
  cases walk : walked (linked world.repository) maxDepth 1 (ancestorOf (some base)) with
  | error fault =>
    have blank : ¬ NamedWithin world.repository base maxDepth := by
      intro named
      obtain ⟨count,ok⟩ := walked_ok.mpr named
      rw [walk] at ok
      cases ok
    constructor
    · intro same
      cases (walked_error walk).symm.trans (Except.error.inj same)
    · exact fun both => absurd both.2 blank
  | ok count =>
    have named : NamedWithin world.repository base maxDepth := walked_ok.mp ⟨count,walk⟩
    dsimp only
    rw [chainRuns,← too_deep_iff walk]
    split
    · rename_i deep
      exact ⟨fun _ => ⟨deep,named⟩,fun _ => rfl⟩
    · rename_i fits
      exact ⟨nofun,fun both => absurd both.1 fits⟩

/-! ### The resolution -/

structure Reaches (input : CreateRunInput) (revision : Option ConfigRevision) (repository : Repository) (baseRunId : String)
    (base : Run) (chain : RunChain) : Prop where
  named : input.baseRunId = some baseRunId
  usable : usableBase input baseRunId (repository.getRun baseRunId) = .ok (base,chain)
  configured : ∀ found, revision = some found → boundTo found (repository.listConfigSnapshots base.id 2) = true
  untaken : ∀ status ∈ [RunStatus.pending,.running,.waiting],
    (repository.listRuns (some input.projectId) (some status) ACTIVE_RUN_PAGE none).any (buildsOn baseRunId) = false

section
variable (calm : ∀ tick, env.outage tick = .none)
include calm

theorem exec_read_bind {α β : Type} (read : Repository → α) (rest : α → Action β) :
    (readRepository env read >>= rest).exec world = (rest (read world.repository)).exec world.ticked := by
  rw [exec_bind,readRepository,exec_calm (calm _)]
  rfl

theorem exec_sameConfiguration {base : Run} {revision : Option ConfigRevision}
    {world : World} (configured : ∀ found, revision = some found →
      boundTo found (world.repository.listConfigSnapshots base.id 2) = true) :
    ∃ after, (sameConfiguration env base revision).exec world = (.ok (),after) ∧ after.repository = world.repository := by
  cases revision with
  | none => exact ⟨world,rfl,rfl⟩
  | some revision =>
    refine ⟨world.ticked,?_,rfl⟩
    unfold sameConfiguration
    rw [exec_read_bind calm,if_pos (configured revision rfl)]
    rfl

variable {projectId baseRunId : String}

theorem exec_untaken {status : RunStatus} {world : World}
    (untaken : (world.repository.listRuns (some projectId) (some status) ACTIVE_RUN_PAGE none).any (buildsOn baseRunId) = false) :
    (ControlPlane.untaken env projectId baseRunId status).exec world = (.ok (),world.ticked) := by
  unfold ControlPlane.untaken
  rw [exec_read_bind calm,untaken]
  rfl

theorem exec_baseUntaken {world : World} (untaken : ∀ status ∈ [RunStatus.pending,.running,.waiting],
      (world.repository.listRuns (some projectId) (some status) ACTIVE_RUN_PAGE none).any (buildsOn baseRunId) = false) :
    ∃ after, (baseUntaken env projectId baseRunId).exec world = (.ok (),after) ∧ after.repository = world.repository := by
  have each : ∀ (statuses : List RunStatus) (world : World), (∀ status ∈ statuses,
      (world.repository.listRuns (some projectId) (some status) ACTIVE_RUN_PAGE none).any (buildsOn baseRunId) = false) →
      ∃ after, (statuses.forM (ControlPlane.untaken env projectId baseRunId)).exec world = (.ok (),after) ∧
        after.repository = world.repository := by
    intro statuses
    induction statuses with
    | nil => exact fun world _ => ⟨world,rfl,rfl⟩
    | cons status statuses ih =>
      intro world untaken
      obtain ⟨after,done,same⟩ := ih world.ticked fun other inside => untaken other (List.mem_cons_of_mem _ inside)
      refine ⟨after,?_,same⟩
      have step : (status::statuses).forM (ControlPlane.untaken env projectId baseRunId) =
          (ControlPlane.untaken env projectId baseRunId status >>= fun _ =>
            statuses.forM (ControlPlane.untaken env projectId baseRunId)) := rfl
      rw [step,exec_bind,exec_untaken calm (untaken status List.mem_cons_self)]
      exact done
  exact each _ world untaken

theorem resolveChain_refuses {input : CreateRunInput}
    {revision : Option ConfigRevision} {baseRunId : String} {base : Run} {chain : RunChain} {world : World}
    (reaches : Reaches input revision world.repository baseRunId base chain) :
    ((resolveChain env input revision).exec world).1 = .error (chainTooDeep (chainDepthLimit env revision)) ↔
      (chainDepthLimit env revision : ℕ∞) < chainRuns world.repository base ∧
        NamedWithin world.repository base (chainDepthLimit env revision) := by
  have configured : ∀ found, revision = some found →
      boundTo found (world.ticked.repository.listConfigSnapshots base.id 2) = true := reaches.configured
  obtain ⟨middle,same,kept⟩ := exec_sameConfiguration calm configured
  have kept' : middle.repository = world.repository := kept
  obtain ⟨last,free,rest⟩ := exec_baseUntaken calm (kept'.symm ▸ reaches.untaken)
  have kept'' : last.repository = world.repository := rest.trans kept'
  rw [← kept'',← shallow_refuses calm base _ last]
  unfold resolveChain
  rw [reaches.named]
  dsimp only
  rw [exec_read_bind calm,reaches.usable,exec_bind,exec_settle]
  dsimp only
  rw [exec_bind,same]
  dsimp only
  rw [exec_bind,free]
  dsimp only
  rw [exec_bind]
  rcases (shallow env base (chainDepthLimit env revision)).exec last with ⟨answer,after⟩
  cases answer with
  | error fault => exact ⟨fun same => congrArg _ (Except.error.inj same),fun same => congrArg _ (Except.error.inj same)⟩
  | ok done =>
    constructor
    · intro impossible
      cases impossible
    · intro impossible
      cases impossible

end

end
/-! ### The chains of created runs -/

def ChainIn (ids : List String) : Prop :=
  ids.IsChain fun id base => ∃ run, repository.getRun id = some run ∧ buildsOn base run = true

theorem ChainIn.kept {before after : Repository} {ids : List String} (chain : ChainIn before ids) (keeps : KeepsRuns before after) :
    ChainIn after ids := by
  refine List.IsChain.imp (fun id base link => ?_) chain
  obtain ⟨run,held,builds⟩ := link
  obtain ⟨later,there,input,_⟩ := keeps id run held
  exact ⟨later,there,(buildsOn_same input).trans builds⟩

variable {base : String} {input : CreateRunInput}

theorem ancestorOf_builds {run : Run} (builds : buildsOn base run = true) : ancestorOf (some run) = some base := by
  have link : chainBase run = some (.str base) := of_decide_eq_true builds
  show (chainBase run).bind Json.string? = _
  rw [link]
  rfl

section
variable {bound existing count : Nat} {start : Option String} {taken : List (World × World)}

theorem countChain_le (ends : (countChain env bound existing start).Ends taken (.ok count)) : existing ≤ count := by
  induction bound generalizing existing start taken with
  | zero =>
    rw [countChain_zero] at ends
    exact (Except.ok.inj (Routine.ends_pure.mp ends).2).ge
  | succ bound ih =>
    cases start with
    | none =>
      rw [countChain_none] at ends
      exact (Except.ok.inj (Routine.ends_pure.mp ends).2).ge
    | some ancestor =>
      rw [countChain_some] at ends
      split at ends
      · cases (ends_throw.mp ends).2
      · obtain ⟨_,_,_,_,_,later⟩ := ends_bind_ok.mp ends
        exact (Nat.le_succ existing).trans (ih later)

theorem countChain_counts {id : String} {rest : List String} (ends : (countChain env bound existing (some id)).Ends taken (.ok count))
    (linked : ∀ read ∈ taken, ChainIn read.1.repository (id::rest)) : existing + min bound (rest.length + 1) ≤ count := by
  induction bound generalizing existing id rest taken with
  | zero => simpa using countChain_le ends
  | succ bound ih =>
    rw [countChain_some] at ends
    split at ends
    · cases (ends_throw.mp ends).2
    obtain ⟨_,run,later,rfl,reading,counting⟩ := ends_bind_ok.mp ends
    have single : (readRepository env fun repository => repository.getRun id).Single := ⟨_,rfl⟩
    obtain ⟨before,after,rfl,read⟩ := single.ends.mp reading
    obtain ⟨_,rfl,_⟩ := exec_readRepository_ok.mp read
    cases rest with
    | nil =>
      have counted := countChain_le counting
      simp only [List.length_nil]
      omega
    | cons base rest =>
      obtain ⟨⟨held,found,builds⟩,_⟩ := List.isChain_cons_cons.mp (linked (before,after) List.mem_cons_self)
      rw [show before.repository.getRun id = some held from found,ancestorOf_builds builds] at counting
      have counted := ih counting fun read inside =>
        (List.isChain_cons_cons.mp (linked read (List.mem_cons_of_mem _ inside))).2
      simp only [List.length_cons] at counted ⊢
      omega

end

structure Measured (env : Environment) (base : String) (limit : Nat) (taken : List (World × World)) : Prop where
  walk : ∃ path read between counted rest run count, taken = path ++ read::(between ++ (counted ++ rest)) ∧
    read.1.repository.getRun base = some run ∧
    (countChain env limit 1 (ancestorOf (some run))).Ends counted (.ok count) ∧ count + 1 ≤ limit

theorem resolveChain_measured {revision : Option ConfigRevision}
    {chain : Option RunChain} {taken : List (World × World)} (named : input.baseRunId = some base)
    (ends : (resolveChain env input revision).Ends taken (.ok chain)) : Measured env base (chainDepthLimit env revision) taken := by
  unfold resolveChain at ends
  rw [named] at ends
  obtain ⟨first,found,_,rfl,reading,ends⟩ := ends_bind_ok.mp ends
  obtain ⟨second,⟨held,resolved⟩,_,rfl,settling,ends⟩ := ends_bind_ok.mp ends
  obtain ⟨third,_,_,rfl,_,ends⟩ := ends_bind_ok.mp ends
  obtain ⟨fourth,_,_,rfl,_,ends⟩ := ends_bind_ok.mp ends
  obtain ⟨fifth,_,last,rfl,measuring,_⟩ := ends_bind_ok.mp ends
  obtain ⟨counted,count,_,rfl,counting,checked⟩ := ends_bind_ok.mp measuring
  have single : (readRepository env fun repository => repository.getRun base).Single := ⟨_,rfl⟩
  obtain ⟨before,after,rfl,read⟩ := single.ends.mp reading
  obtain ⟨_,rfl,_⟩ := exec_readRepository_ok.mp read
  obtain ⟨rfl,usable⟩ := ends_settle.mp settling
  obtain ⟨known,_,_,_⟩ := usableBase_ok usable.symm
  split at checked
  · cases (ends_throw.mp checked).2
  rename_i fits
  obtain ⟨rfl,_⟩ := Routine.ends_pure.mp checked
  exact ⟨⟨[],(before,after),third ++ fourth,counted,last,held,count,by simp,known,counting,Nat.le_of_not_gt fits⟩⟩

theorem prepareRun_measured {pipeline : Pipeline} {idempotencyKey : String}
    {revision : Option ConfigRevision} {run : Run} {fingerprint : Fingerprint} {taken : List (World × World)}
    (named : input.baseRunId = some base)
    (ends : (prepareRun env pages pipeline idempotencyKey input).Ends taken (.ok (revision,run,fingerprint))) :
    Measured env base (chainDepthLimit env revision) taken := by
  obtain ⟨first,now,_,rfl,_,ends⟩ := ends_bind_ok.mp ends
  obtain ⟨second,_,_,rfl,_,ends⟩ := ends_bind_ok.mp ends
  obtain ⟨third,found,_,rfl,_,ends⟩ := ends_bind_ok.mp ends
  obtain ⟨fourth,chain,last,rfl,resolving,ends⟩ := ends_bind_ok.mp ends
  obtain ⟨fifth,runInput,_,rfl,_,ends⟩ := ends_bind_ok.mp ends
  obtain ⟨rfl,same⟩ := Routine.ends_pure.mp ends
  cases same
  obtain ⟨⟨path,read,between,counted,rest,held,count,rfl,known,counting,fits⟩⟩ := resolveChain_measured named resolving
  exact ⟨⟨first ++ (second ++ (third ++ path)),read,between,counted,rest ++ fifth,held,count,by simp,known,counting,fits⟩⟩

section
variable {ι : Type} [DecidableEq ι] {pool later : ι → Thread World} {world after : World} {trace : List (Moment ι World)}

/-- The run is inserted by a creation of a feature run that found the revision. -/
def Created (env : Environment) (pages : Nat) (pool : ι → Thread World) (trace : List (Moment ι World))
    (revision : Option ConfigRevision) (id : String) : Prop :=
  ∃ early insert late idempotencyKey input run fingerprint, trace = early ++ insert::late ∧
    pool insert.who = (createFeatureRun env pages idempotencyKey input).thread ∧
    (prepareRun env pages .feature idempotencyKey input).Ends (own insert.who early) (.ok (revision,run,fingerprint)) ∧
    Inserted run insert.before insert.after ∧ run.id = id

def BasesKept (start repository : Repository) : Prop :=
  ∀ id run base, repository.getRun id = some run → start.getRun id = none → buildsOn base run = true →
    (repository.getRun base).isSome

theorem bases_history (parties : ∀ who, ChainParty env pages (pool who)) (ran : Interleaved pool world trace later after) :
    BasesKept world.repository after.repository := by
  have steps := ran.moments fun who => (parties who).moving
  refine ran.preserved (fun state => BasesKept world.repository state.repository) (fun moment inside held => ?_) ?_
  · intro id run base there fresh builds
    have stays : (moment.before.repository.getRun base).isSome → (moment.after.repository.getRun base).isSome := by
      intro known
      obtain ⟨old,found⟩ := Option.isSome_iff_exists.mp known
      obtain ⟨next,still,_⟩ := (steps moment inside).1 base old found
      rw [still]
      rfl
    refine stays ?_
    cases found : moment.before.repository.getRun id with
    | some old =>
      obtain ⟨next,still,input,_⟩ := (steps moment inside).1 id old found
      cases still.symm.trans there
      exact held id old base found fresh ((buildsOn_same input).symm.trans builds)
    | none =>
      have inserts : Inserts moment.before moment.after := ⟨id,found,by rw [there]; rfl⟩
      rcases (parties moment.who).adds with ⟨_,_,input,isCreation⟩ | never
      · obtain ⟨early,late,rfl⟩ := List.append_of_mem inside
        obtain ⟨prepared,ends,rules,inserted⟩ := creation_inserts ran isCreation inserts
        cases inserted.added found there
        obtain ⟨old,known,_⟩ := inserted_based ran steps (prepared_base rules builds) ends
        rw [known]
        rfl
      · exact absurd inserts (ran.moment inside never)
  · intro id run base there fresh
    rw [there] at fresh
    cases fresh

variable {revision : Option ConfigRevision}

theorem Created.fresh (parties : ∀ who, ChainParty env pages (pool who)) (ran : Interleaved pool world trace later after)
    {id : String} (created : Created env pages pool trace revision id) : world.repository.getRun id = none := by
  obtain ⟨early,insert,late,_,_,run,_,rfl,_,_,inserted,rfl⟩ := created
  obtain ⟨_,first,_⟩ := ran.upto
  have keeps := keeps_history first (first.moments fun who => (parties who).moving)
  cases found : world.repository.getRun run.id with
  | none => rfl
  | some old =>
    obtain ⟨next,still,_⟩ := keeps run.id old found
    rw [inserted.fresh] at still
    cases still

variable {ids : List String}

theorem chain_there {state : World} (kept : BasesKept world.repository state.repository)
    (keeps : KeepsRuns state.repository after.repository) (chain : ChainIn after.repository ids)
    (fresh : ∀ id ∈ ids, world.repository.getRun id = none) (there : ∀ id ∈ ids.head?, (state.repository.getRun id).isSome) :
    ChainIn state.repository ids := by
  induction ids with
  | nil => exact .nil
  | cons id rest ih =>
    cases rest with
    | nil => exact .singleton _
    | cons base rest =>
      obtain ⟨⟨run,held,builds⟩,links⟩ := List.isChain_cons_cons.mp chain
      obtain ⟨old,found⟩ := Option.isSome_iff_exists.mp (there id rfl)
      obtain ⟨next,still,input,_⟩ := keeps id old found
      cases still.symm.trans held
      have builds' : buildsOn base old = true := (buildsOn_same input).symm.trans builds
      refine List.isChain_cons_cons.mpr ⟨⟨old,found,builds'⟩,?_⟩
      refine ih links (fun other inside => fresh other (List.mem_cons_of_mem _ inside)) ?_
      rintro _ ⟨⟩
      exact kept id old base found (fresh id List.mem_cons_self) builds'

theorem created_counts (parties : ∀ who, ChainParty env pages (pool who)) (ran : Interleaved pool world trace later after)
    {id base : String} {rest : List String}
    (created : Created env pages pool trace revision id) (chain : ChainIn after.repository (id::base::rest))
    (fresh : ∀ other ∈ base::rest, world.repository.getRun other = none) : rest.length + 2 ≤ chainDepthLimit env revision := by
  obtain ⟨early,insert,late,idempotencyKey,input,run,fingerprint,rfl,isCreation,ends,inserted,rfl⟩ := created
  have steps := ran.moments fun who => (parties who).moving
  obtain ⟨⟨final,held,builds⟩,links⟩ := List.isChain_cons_cons.mp chain
  -- The run still names the base that the creation was asked for.
  obtain ⟨_,_,onward⟩ := ran.upto
  obtain ⟨_,_,rested⟩ := onward.head
  have added : insert.after.repository.getRun run.id = some run := by
    rw [Repository.getRun,inserted.set,OrderedMap.get?_set,if_pos rfl]
  obtain ⟨next,still,input',_⟩ := keeps_history rested
    (fun moment inside => steps moment (List.mem_append_right _ (List.mem_cons_of_mem _ inside))) run.id run added
  cases still.symm.trans held
  have gives : (prepareRun env pages .feature idempotencyKey input).Gives Moving
      fun answer => Prepared env .feature idempotencyKey input answer.2.1 := creates_moving.prepareRun _ _ _
  have rules : Prepared env .feature idempotencyKey input run := gives.ends ends
  have named := prepared_base rules ((buildsOn_same input').symm.trans builds)
  obtain ⟨⟨path,read,between,counted,last,baseRun,count,mine,known,counting,fits⟩⟩ := prepareRun_measured named ends
  have least := countChain_le counting
  cases rest with
  | nil =>
    simp only [List.length_nil]
    omega
  | cons next rest =>
    obtain ⟨before,moment,since,rfl,isWho,ownBefore,rfl⟩ := own_split mine
    have ownSince : own insert.who since = between ++ (counted ++ last) := by
      rw [own_append,ownBefore,← isWho,own_cons_self] at mine
      rw [← isWho]
      exact (List.cons.inj (List.append_cancel_left mine)).2
    rw [List.append_assoc,List.cons_append] at ran steps
    -- The whole chain is there when its first run is read, and at every read after that.
    obtain ⟨_,first,whole⟩ := ran.upto
    have parted : ∀ who, ChainParty env pages (pool who) := parties
    have there : ChainIn moment.before.repository (base::next::rest) := by
      refine chain_there (bases_history parted first) (keeps_history whole fun step inside => ?_) links fresh ?_
      · exact steps step (List.mem_append_right _ inside)
      · rintro _ ⟨⟩
        rw [known]
        rfl
    obtain ⟨⟨held',found,builds'⟩,_⟩ := List.isChain_cons_cons.mp there
    cases found.symm.trans known
    rw [ancestorOf_builds builds'] at counting
    have counts := countChain_counts counting fun step inside => by
      have seen : step ∈ own insert.who since := by
        rw [ownSince]
        exact List.mem_append_right _ (List.mem_append_left _ inside)
      obtain ⟨moved,within,_,rfl⟩ := mem_own_iff.mp seen
      obtain ⟨earlier,afterwards,rfl⟩ := List.append_of_mem within
      rw [List.append_assoc,List.cons_append] at ran
      obtain ⟨_,_,passed⟩ := ran.since
      refine (List.isChain_cons_cons.mp (there.kept (keeps_history passed fun other inside => ?_))).2
      refine steps other (List.mem_append_right _ ?_)
      rw [List.append_assoc,← List.cons_append]
      exact List.mem_append_left _ inside
    simp only [List.length_cons] at counts ⊢
    omega

section
variable (limits : ∀ config depth, env.chainMaxDepth config = some depth → 0 < depth)
include limits

theorem chainDepthLimit_pos (revision : Option ConfigRevision) : 0 < chainDepthLimit env revision := by
  unfold chainDepthLimit
  cases found : revision.bind fun revision => env.chainMaxDepth revision.config with
  | none => decide
  | some depth =>
    obtain ⟨known,_,asked⟩ := Option.bind_eq_some_iff.mp found
    exact limits known.config depth asked

theorem created_chain_bounded (parties : ∀ who, ChainParty env pages (pool who)) (ran : Interleaved pool world trace later after)
    (chain : ChainIn after.repository ids)
    (created : ∀ id ∈ ids, Created env pages pool trace revision id) : ids.length ≤ chainDepthLimit env revision := by
  have fresh : ∀ id ∈ ids, world.repository.getRun id = none := fun id inside => (created id inside).fresh parties ran
  cases ids with
  | nil => exact Nat.zero_le _
  | cons id rest =>
    cases rest with
    | nil => exact chainDepthLimit_pos limits revision
    | cons base rest =>
      exact created_counts parties ran (created id List.mem_cons_self) chain fun other inside =>
        fresh other (List.mem_cons_of_mem _ inside)

end

end

theorem chainRuns_eq_top_iff (base : Run) :
    chainRuns repository base = ⊤ ↔ Links.Cyclic (linked repository) (ancestorOf (some base)) := by
  have finite : {id | (linked repository id).isSome}.Finite := by
    refine Set.Finite.subset (List.finite_toSet (repository.runs.entries.map Prod.fst)) fun id names => ?_
    have link : (linked repository id).isSome = true := names
    cases held : repository.getRun id with
    | none =>
      rw [linked,held] at link
      cases link
    | some run =>
      exact List.mem_map.mpr ⟨(id,run),(repository.runs.mem_entries id run).mpr held,rfl⟩
  rw [← Links.length_eq_top_iff finite,chainRuns]
  cases Links.length (linked repository) (ancestorOf (some base)) with
  | top => exact ⟨fun _ => rfl,fun _ => rfl⟩
  | coe length => exact ⟨fun endless => absurd endless (ENat.natCast_ne_top (length + 2)),fun endless => absurd endless (ENat.natCast_ne_top length)⟩

/-- The walk reads no more runs than its bound; of a base that is otherwise usable the chain is refused exactly when it is longer
than the limit, unless the walk comes to a blank name; only a cycle has no end; and chains of created runs keep to the limit. -/
theorem chains_resolve_bounded (limits : ∀ config depth, env.chainMaxDepth config = some depth → 0 < depth) :
    (∀ bound existing start taken, (countChain env bound existing start).Walks taken → taken.length ≤ bound) ∧
    ((∀ tick, env.outage tick = .none) → ∀ input revision baseRunId base chain (world : World),
      Reaches input revision world.repository baseRunId base chain →
        (((resolveChain env input revision).exec world).1 = .error (chainTooDeep (chainDepthLimit env revision)) ↔
          (chainDepthLimit env revision : ℕ∞) < chainRuns world.repository base ∧
            NamedWithin world.repository base (chainDepthLimit env revision))) ∧
    (∀ repository base, chainRuns repository base = ⊤ ↔ Links.Cyclic (linked repository) (ancestorOf (some base))) ∧
    ∀ (ι : Type) (_ : DecidableEq ι) (pool later : ι → Thread World) (world after : World) (trace : List (Moment ι World)),
      (∀ who, ChainParty env pages (pool who)) → Interleaved pool world trace later after →
      ∀ revision ids, ChainIn after.repository ids → (∀ id ∈ ids, Created env pages pool trace revision id) →
        ids.length ≤ chainDepthLimit env revision :=
  ⟨fun _ _ _ _ => countChain_bounded,fun calm _ _ _ _ _ _ => resolveChain_refuses calm,chainRuns_eq_top_iff,
    fun _ _ _ _ _ _ _ parties ran _ _ => created_chain_bounded limits parties ran⟩

/-! ### A cycle and a blank name -/

def builtOn (name : String) : Run := {publishedRun with input := some (.obj [("chain",.obj [("baseRunId",.str name)])])}

def loopWorld : World := {configuredWorld with repository := configuredWorld.repository.setRun (builtOn "base")}

theorem loop_reaches : Reaches chainedInput none loopWorld.repository "base" (builtOn "base") ⟨"base","agent/base","c0ffee"⟩ where
  named := rfl
  usable := rfl
  configured := nofun
  untaken := by decide +kernel

theorem loop_along (count : Nat) : Links.along (linked loopWorld.repository) count (some "base") = some "base" := by
  induction count with
  | zero => rfl
  | succ count ih =>
    rw [Links.along,ih]
    rfl

theorem steady_limits (config : Json) (depth : Nat) (asked : plainEnvironment.chainMaxDepth config = some depth) : 0 < depth := by
  cases asked

/-- A base that is its own ancestor. -/
theorem cycle_refused : ((resolveChain plainEnvironment chainedInput none).exec loopWorld).1 = .error (chainTooDeep 3) := by
  obtain ⟨_,refuses,endless,_⟩ := @chains_resolve_bounded plainEnvironment 1 steady_limits
  refine (refuses (fun _ => rfl) _ _ _ _ _ _ loop_reaches).mpr ⟨?_,?_⟩
  · rw [(endless _ _).mpr ⟨0,1,Nat.zero_lt_one,rfl,loop_along 1⟩]
    exact ENat.natCast_lt_top _
  · intro place _ id found
    have same : id = "base" := Option.some.inj (found.symm.trans (loop_along place))
    subst same
    decide +kernel

def blankRuns : Repository := (configuredWorld.repository.setRun {builtOn " " with id := "older"}).setRun (builtOn "older")

def blankWorld : World := {configuredWorld with repository := blankRuns}

theorem blank_reaches : Reaches chainedInput none blankWorld.repository "base" (builtOn "older") ⟨"base","agent/base","c0ffee"⟩ where
  named := rfl
  usable := rfl
  configured := nofun
  untaken := by decide +kernel

/-- A chain of four runs whose oldest has a blank name is not refused for its length. -/
theorem blank_name_stops : ¬ ∀ (env : Environment) (input : CreateRunInput) (revision : Option ConfigRevision)
    (baseRunId : String) (base : Run) (chain : RunChain) (world : World), (∀ tick, env.outage tick = .none) →
    Reaches input revision world.repository baseRunId base chain →
    (((resolveChain env input revision).exec world).1 = .error (chainTooDeep (chainDepthLimit env revision)) ↔
      (chainDepthLimit env revision : ℕ∞) < chainRuns world.repository base) := by
  intro refuses
  have refused := (refuses plainEnvironment chainedInput none "base" (builtOn "older") _ blankWorld (fun _ => rfl)
    blank_reaches).mpr ?_
  · have answered : ((resolveChain plainEnvironment chainedInput none).exec blankWorld).1 =
        .error (.error "run identifier must not be empty") := by decide +kernel
    rw [answered] at refused
    cases refused
  · refine (succ_lt_add_two 2 _).mpr ((Links.le_length_iff 2).mpr ?_)
    decide +kernel

end AgentOS.System
