import AgentOS.Library.Replay
import AgentOS.Library.Joined
import AgentOS.ManagedAgents.SyncRules

/-! Projects share one remote workspace. A project and a local id are joined to
one text that names their resource, so that projects keep apart as long as no two
pairs join to the same text. -/
namespace AgentOS.ManagedAgents
open Library Routine
variable {options : Options} {service : Service}

inductive Call where
  | syncAgent (projectId : String) (agent : RuntimeAgent)
  | syncEnvironment (projectId : String) (environment : RuntimeEnvironment)
  | start (projectId : String) (request : StartRequest)

def Call.perform (options : Options) (service : Service) : Call → Action (Option Handle)
  | .syncAgent projectId agent => do
    syncAgentForProject options service projectId agent
    pure none
  | .syncEnvironment projectId environment => do
    syncEnvironmentForProject options service projectId environment
    pure none
  | .start projectId request => do
    let handle ← startForProject options service projectId request
    pure (some handle)

def Call.agent? : Call → Option (String × String)
  | .syncAgent projectId agent => some (projectId,agent.id)
  | .syncEnvironment _ _ => none
  | .start projectId request => some (projectId,request.agentId)

def Call.environment? : Call → Option (String × String)
  | .syncAgent _ _ => none
  | .syncEnvironment projectId environment => some (projectId,environment.id)
  | .start projectId request => some (projectId,request.environmentId)

structure Moment where
  call : Call
  before : Provider
  answer : Except ProviderFault (Option Handle)
  after : Provider

def made (options : Options) (service : Service) (call : Call) (provider : Provider) : Moment :=
  let ended := (call.perform options service).exec provider
  {call,before := provider,answer := ended.1,after := ended.2}

inductive Ran (options : Options) (service : Service) (initial : Provider) : List Moment → Provider → Prop where
  | start : Ran options service initial [] initial
  | call {past : List Moment} {provider : Provider} (ran : Ran options service initial past provider) (call : Call) :
    Ran options service initial (made options service call provider::past) (made options service call provider).after

def Separate (pairs : List (String × String)) : Prop := ∀ first ∈ pairs, ∀ second ∈ pairs,
  scopedLocalId first.1 first.2 = scopedLocalId second.1 second.2 → first = second

theorem separate_of_plain {pairs : List (String × String)} (plain : ∀ pair ∈ pairs, ':' ∉ pair.1.toList) : Separate pairs := by
  intro first inside second other same
  have joined := congrArg String.toList same
  simp only [scopedLocalId,String.toList_append,List.append_assoc] at joined
  obtain ⟨heads,tails⟩ := Joined.inj_of_heads (plain first inside) (plain second other) joined
  exact Prod.ext (String.toList_inj.mp heads) (String.toList_inj.mp tails)

def Moment.succeeded (moment : Moment) : Bool := moment.answer.isOk

/-- The call succeeded, or changed the workspace although its answer did not arrive. -/
def Moment.effective (moment : Moment) : Bool := moment.succeeded || decide (moment.after.remote ≠ moment.before.remote)

def Moment.syncedAgent (projectId agentId : String) (moment : Moment) : Option RuntimeAgent :=
  match moment.call with
  | .syncAgent project agent => if project = projectId ∧ agent.id = agentId ∧ moment.succeeded then some agent else none
  | _ => none

def Moment.syncedEnvironment (projectId environmentId : String) (moment : Moment) : Option RuntimeEnvironment :=
  match moment.call with
  | .syncEnvironment project environment =>
    if project = projectId ∧ environment.id = environmentId ∧ moment.effective then some environment else none
  | _ => none

/-- Nothing in the workspace is the provider's yet, and it remembers nothing. -/
structure Fresh (provider : Provider) : Prop where
  agents : ∀ id resource, provider.remote.agents.get? id = some resource → resource.metadata.owner ≠ some OWNER
  environments : ∀ id resource, provider.remote.environments.get? id = some resource →
    resource.metadata.owner ≠ some OWNER
  noAgents : provider.agents = .empty
  noEnvironments : provider.environments = .empty

/-! ### What a call does to a shelf -/

def agentWanted : Call → Option Wanted
  | .syncAgent projectId agent => some (wantedAgent projectId agent)
  | _ => none

def environmentWanted : Call → Option Wanted
  | .syncEnvironment projectId environment => some (wantedEnvironment projectId environment)
  | _ => none

def agentNames (resolved : ResolvedAgent) (current : String × Nat) : Prop :=
  resolved.id = current.1 ∧ resolved.version = current.2

def environmentNames (resolved : ResolvedEnvironment) (current : String × Nat) : Prop := resolved.id = current.1

section
variable {β : Type} {shelf : Shelf β} {names : β → String × Nat → Prop} {asked : Wanted → Prop}
  {synced served : String → Option Wanted} {provider : Provider} {wanted : Wanted}

structure Obeys (shelf : Shelf β) (names : β → String × Nat → Prop) (view : Call → Option Wanted) (options : Options)
    (service : Service) : Prop where
  others : ∀ call, view call = none → (call.perform options service).Keeps (observed shelf)
  syncs : ∀ call wanted asked synced served provider, view call = some wanted → Coherent asked → asked wanted →
    Kept shelf names asked synced served provider → SyncedShelf shelf names asked synced served wanted provider
      ((made options service call provider).answer.map fun _ => ()) (made options service call provider).after

theorem perform_sync {routine : Action Unit} {post : Except ProviderFault Unit → Provider → Prop}
    (leads : routine.Leads provider post) : post
      (((routine >>= fun _ => (pure none : Action (Option Handle))).exec provider).1.map fun _ => ())
      ((routine >>= fun _ => (pure none : Action (Option Handle))).exec provider).2 := by
  unfold Leads at leads
  rw [exec_bind]
  rcases ended : routine.exec provider with ⟨answer,after⟩
  rw [ended] at leads
  cases answer with
  | ok value => exact leads
  | error fault => exact leads

theorem agents_obey (options : Options) (service : Service) : Obeys agentShelf agentNames agentWanted options service := by
  constructor
  · intro call other
    cases call with
    | syncAgent projectId agent => cases other
    | start projectId request => exact Takes.bind startForProject_keeps fun handle => takes_pure _
    | syncEnvironment projectId environment =>
      refine Takes.bind ?_ fun _ => takes_pure _
      refine (takes_settle _).bind fun _ => (takes_settle _).bind fun _ => (takes_settle _).bind fun _ => ?_
      split
      · exact takes_throw _
      · exact syncResource_keeps environments_apart _
  · intro call wanted asked synced served provider own coherent wants kept
    cases call with
    | start projectId request => cases own
    | syncEnvironment projectId environment => cases own
    | syncAgent projectId agent =>
      cases own
      apply perform_sync
      refine leads_settled (fun _ _ => leads_settled (fun _ _ => ?_) fun _ _ => .refused kept) fun _ _ => .refused kept
      split
      · exact .refused kept
      · exact syncResource_leads kept coherent wants fun current => ⟨rfl,rfl⟩

theorem environments_obey (options : Options) (service : Service) : Obeys environmentShelf environmentNames environmentWanted options service := by
  constructor
  · intro call other
    cases call with
    | syncEnvironment projectId environment => cases other
    | start projectId request => exact Takes.bind startForProject_keeps fun handle => takes_pure _
    | syncAgent projectId agent =>
      refine Takes.bind ?_ fun _ => takes_pure _
      refine (takes_settle _).bind fun _ => (takes_settle _).bind fun _ => ?_
      split
      · exact takes_throw _
      · exact syncResource_keeps agents_apart _
  · intro call wanted asked synced served provider own coherent wants kept
    cases call with
    | start projectId request => cases own
    | syncAgent projectId agent => cases own
    | syncEnvironment projectId environment =>
      cases own
      apply perform_sync
      refine leads_settled (fun _ _ => leads_settled (fun _ _ => leads_settled (fun _ _ => ?_)
        fun _ _ => .refused kept) fun _ _ => .refused kept) fun _ _ => .refused kept
      split
      · exact .refused kept
      · exact syncResource_leads kept coherent wants fun current => rfl

/-! ### Runs -/

variable {view : Call → Option Wanted} {past : List Moment} {initial : Provider}

def Moment.asks (view : Call → Option Wanted) (took : Moment → Bool) (key : String) (moment : Moment) : Option Wanted :=
  (view moment.call).filter fun wanted => wanted.key = key && took moment

theorem asks_call (took : Moment → Bool) (moment : Moment) : (fun key => (moment::past).findSome? (Moment.asks view took key)) =
    match view moment.call with
    | some wanted => if took moment then servedNow (fun key => past.findSome? (Moment.asks view took key)) wanted
        else fun key => past.findSome? (Moment.asks view took key)
    | none => fun key => past.findSome? (Moment.asks view took key) := by
  funext key
  rw [List.findSome?_cons,Moment.asks]
  cases view moment.call with
  | none => rfl
  | some wanted =>
    by_cases taken : took moment = true
    · by_cases here : key = wanted.key
      · subst here
        simp [taken,servedNow,Option.filter]
      · have elsewhere : ¬ wanted.key = key := fun same => here same.symm
        simp [taken,servedNow,here,elsewhere,Option.filter]
    · simp [taken]

theorem Ran.kept (obeys : Obeys shelf names view options service) (coherent : Coherent asked)
    (fresh : Kept shelf names asked (fun _ => none) (fun _ => none) initial) (ran : Ran options service initial past provider)
    (within : ∀ moment ∈ past, ∀ wanted, view moment.call = some wanted → asked wanted) :
    Kept shelf names asked (fun key => past.findSome? (Moment.asks view Moment.succeeded key))
      (fun key => past.findSome? (Moment.asks view Moment.effective key)) provider := by
  induction ran with
  | start => exact fresh
  | @call past provider ran call ih =>
    have kept := ih fun moment inside => within moment (List.mem_cons_of_mem _ inside)
    rw [asks_call,asks_call]
    change Kept shelf names asked (match view call with | some wanted => _ | none => _)
      (match view call with | some wanted => _ | none => _) _
    cases viewed : view call with
    | none =>
      have same : observed shelf (made options service call provider).after = observed shelf provider :=
        Keeps.exec (obeys.others call viewed) provider
      have resources := congrArg Prod.fst same
      have cached := congrArg Prod.snd same
      unfold observed at resources cached
      dsimp only at resources cached
      constructor
      · rw [resources]
        exact kept.owned
      · rw [resources,cached]
        exact kept.cached
    | some wanted =>
      have wants : asked wanted := within _ List.mem_cons_self wanted viewed
      have leads := obeys.syncs call wanted asked _ _ provider viewed coherent wants kept
      dsimp only
      cases answered : (made options service call provider).answer with
      | ok value =>
        have succeeded : (made options service call provider).succeeded = true := by
          unfold Moment.succeeded
          rw [answered]
          rfl
        have effective : (made options service call provider).effective = true := by simp [Moment.effective,succeeded]
        rw [answered] at leads
        rw [if_pos succeeded,if_pos effective]
        exact leads.succeeded rfl
      | error fault =>
        have failed : (made options service call provider).succeeded = false := by
          unfold Moment.succeeded
          rw [answered]
          rfl
        rw [answered] at leads
        have still := leads.failed fault rfl
        change Kept _ _ _ _ (if _ = (made options service call provider).before.remote then _ else _) _ at still
        rw [if_neg (by simp [failed])]
        by_cases moved : (made options service call provider).after.remote =
            (made options service call provider).before.remote
        · have quiet : (made options service call provider).effective = false := by
            simpa [Moment.effective,failed] using moved
          rw [if_neg (by simp [quiet])]
          rwa [if_pos moved] at still
        · have effective : (made options service call provider).effective = true := by
            simpa [Moment.effective,failed] using moved
          rw [if_pos effective]
          rwa [if_neg moved] at still

theorem sync_spares {identify : β → String} (obeys : Obeys shelf names view options service) (coherent : Coherent asked)
    (identified : ∀ resolved current, names resolved current → identify resolved = current.1)
    (kept : Kept shelf names asked synced served provider) (call : Call) (syncs : view call = some wanted) (wants : asked wanted)
    {key : String} (other : key ≠ wanted.key) {resolved : β} (held : (shelf.cached provider).get? key = some resolved) :
    (shelf.cached (made options service call provider).after).get? key = some resolved ∧
      (shelf.resources (made options service call provider).after.remote).get? (identify resolved) =
        (shelf.resources provider.remote).get? (identify resolved) ∧
      ∀ own, (shelf.cached (made options service call provider).after).get? wanted.key = some own →
        identify own ≠ identify resolved := by
  have leads := obeys.syncs call wanted asked synced served provider syncs coherent wants kept
  have still : (shelf.cached (made options service call provider).after).get? key = some resolved := by
    rw [leads.others key other]
    exact held
  obtain ⟨current,resource,_,_,named,at_,under,_⟩ := kept.cached key resolved held
  have apart : resource.metadata.localId ≠ some wanted.key := by
    rw [under.localId]
    simpa using other
  have after := leads.spared current.1 resource at_ apart
  rw [identified resolved current named]
  refine ⟨still,after.trans at_.symm,fun own owned same => ?_⟩
  -- Both would be under both keys.
  have kept' : ∃ synced served, Kept shelf names asked synced served (made options service call provider).after := by
    cases answered : (made options service call provider).answer with
    | ok value => exact ⟨_,_,leads.succeeded (by rw [answered]; rfl)⟩
    | error fault => exact ⟨_,_,leads.failed fault (by rw [answered]; rfl)⟩
  obtain ⟨_,_,kept'⟩ := kept'
  obtain ⟨current',resource',_,_,named',at',under',_⟩ := kept'.cached wanted.key own owned
  rw [← identified own current' named',same,after] at at'
  cases at'
  exact apart under'.localId

end

/-! ### Sessions -/

section
variable {provider : Provider}

theorem createSession_leads (session : RemoteSession) : (createSession service session).Leads provider fun answer after =>
    ∀ id, answer = .ok id → after.remote.sessions.get? id = some session := by
  refine leads_bind (show Leads provider (fun answer after => answer = .ok (service.newId provider.tick) ∧ provider = after)
    (recollect _) from ⟨rfl,rfl⟩) ?_ (fun _ _ impossible => nomatch impossible.1)
  rintro id after ⟨⟨⟩,rfl⟩
  apply request_leads
  · exact fun _ _ _ impossible => nomatch impossible
  · intro tick id answered
    cases taken : provider.remote.sessions.get? (service.newId provider.tick) with
    | some other =>
      rw [taken] at answered
      cases answered
    | none =>
      rw [taken] at answered
      cases answered
      exact (OrderedMap.get?_set _ _ _ _).trans (if_pos rfl)
  · exact fun _ _ _ impossible => nomatch impossible

/-- A session is started as the request says, and its handle shows whose it is. -/
def Started (options : Options) (service : Service) (agent : ResolvedAgent) (environment : ResolvedEnvironment)
    (request : StartRequest) (handle : Handle) (after : Provider) : Prop :=
  ∃ input deadlineAt budget tick,
    handle = startedHandle handle.id agent environment request deadlineAt (sessionCapability options service request tick) ∧
    after.remote.sessions.get? handle.id =
      some (startedSession agent environment request input deadlineAt budget (sessionCapability options service request tick))

theorem startWith_leads {agent : ResolvedAgent} {environment : ResolvedEnvironment} {request : StartRequest} :
    (startWith options service agent environment request).Leads provider fun answer after => ∀ handle, answer = .ok handle →
      Started options service agent environment request handle after := by
  have unanswered : ∀ (fault : ProviderFault) (after : Provider) (handle : Handle), Except.error fault = .ok handle →
      Started options service agent environment request handle after := fun _ _ _ impossible => nomatch impossible
  refine leads_settled (fun input _ => ?_) fun _ _ => unanswered _ _
  refine leads_bind (show Leads provider (fun answer after => answer = .ok provider.tick ∧ provider = after) (recollect _) from
    ⟨rfl,rfl⟩) ?_ (fun _ _ impossible => nomatch impossible.1)
  rintro tick after ⟨⟨⟩,rfl⟩
  refine leads_settled (fun deadlineAt _ => leads_settled (fun budget _ => ?_) fun _ _ => unanswered _ _) fun _ _ => unanswered _ _
  have creating := @createSession_leads service provider
    (startedSession agent environment request input deadlineAt budget (sessionCapability options service request provider.tick))
  have wrapping : (wrap false (createSession service (startedSession agent environment request input deadlineAt budget
      (sessionCapability options service request provider.tick)))).Leads provider fun answer after =>
        ∀ id, answer = .ok id → after.remote.sessions.get? id = some (startedSession agent environment request input
          deadlineAt budget (sessionCapability options service request provider.tick)) := by
    unfold Leads at *
    rw [exec_wrap]
    intro id answered
    generalize Routine.exec _ provider = ended at *
    rcases ended with ⟨answer,after⟩
    cases answer with
    | ok value =>
      cases answered
      exact creating _ rfl
    | error fault => cases answered
  refine leads_bind wrapping ?_ fun _ _ _ => unanswered _ _
  rintro id after created _ ⟨⟩
  exact ⟨input,deadlineAt,budget,_,rfl,created id rfl⟩

theorem started_leads {projectId : String} {request : StartRequest} :
    (startForProject options service projectId request).Leads provider fun answer after => ∀ handle, answer = .ok handle →
      ∃ agent environment, provider.agents.get? (scopedCacheKey projectId request.agentId) = some agent ∧
        provider.environments.get? (scopedCacheKey projectId request.environmentId) = some environment ∧
        Started options service agent environment request handle after := by
  refine leads_bind (show Leads provider (fun answer after =>
    answer = .ok (provider.agents.get? (scopedCacheKey projectId request.agentId)) ∧ provider = after) (recollect _) from
    ⟨rfl,rfl⟩) ?_ (fun _ _ impossible => nomatch impossible.1)
  rintro _ after ⟨⟨⟩,rfl⟩
  refine leads_bind (show Leads provider (fun answer after =>
    answer = .ok (provider.environments.get? (scopedCacheKey projectId request.environmentId)) ∧ provider = after) (recollect _) from
    ⟨rfl,rfl⟩) ?_ (fun _ _ impossible => nomatch impossible.1)
  rintro _ after ⟨⟨⟩,rfl⟩
  cases agent : provider.agents.get? (scopedCacheKey projectId request.agentId) with
  | none => exact fun _ impossible => nomatch impossible
  | some known =>
    cases environment : provider.environments.get? (scopedCacheKey projectId request.environmentId) with
    | none => exact fun _ impossible => nomatch impossible
    | some place =>
      apply startWith_leads.mono
      intro answer after started handle ended
      exact ⟨known,place,rfl,rfl,started handle ended⟩

theorem start_leads {projectId : String} {request : StartRequest} :
    (startForProject options service projectId request).Leads provider fun answer after => ∀ handle, answer = .ok handle →
      ∃ agent environment session, provider.agents.get? (scopedCacheKey projectId request.agentId) = some agent ∧
        provider.environments.get? (scopedCacheKey projectId request.environmentId) = some environment ∧
        after.remote.sessions.get? handle.id = some session ∧ session.agent = (agent.id,agent.version) ∧
        session.environmentId = environment.id := by
  apply started_leads.mono
  intro answer after started handle ended
  obtain ⟨agent,environment,known,place,_,_,_,_,_,held⟩ := started handle ended
  exact ⟨agent,environment,_,known,place,held,rfl,rfl⟩

end
/-! ### Projects -/

/-- The session of the handle runs the agent, and in the environment, that were
synced last for the project's own ids. -/
def Uses (past : List Moment) (projectId : String) (request : StartRequest) (handle : Handle) (after : Provider) : Prop :=
  ∃ agent environment session agentResource environmentResource,
    past.findSome? (Moment.syncedAgent projectId request.agentId) = some agent ∧
    past.findSome? (Moment.syncedEnvironment projectId request.environmentId) = some environment ∧
    after.remote.sessions.get? handle.id = some session ∧
    after.remote.agents.get? session.agent.1 = some agentResource ∧
    agentResource.at session.agent.2 = some (agentDefinition agent projectId) ∧
    after.remote.environments.get? session.environmentId = some environmentResource ∧
    environmentResource.definition = environmentContent environment projectId

/-- A sync of one agent neither updates nor replaces nor adopts that of another. -/
def AgentSpared (moment : Moment) (projectId agentId : String) : Prop :=
  ∀ resolved, moment.before.agents.get? (scopedCacheKey projectId agentId) = some resolved →
    moment.after.agents.get? (scopedCacheKey projectId agentId) = some resolved ∧
    moment.after.remote.agents.get? resolved.id = moment.before.remote.agents.get? resolved.id ∧
    ∀ project agent own, moment.call = .syncAgent project agent →
      moment.after.agents.get? (scopedCacheKey project agent.id) = some own → own.id ≠ resolved.id

def EnvironmentSpared (moment : Moment) (projectId environmentId : String) : Prop :=
  ∀ resolved, moment.before.environments.get? (scopedCacheKey projectId environmentId) = some resolved →
    moment.after.environments.get? (scopedCacheKey projectId environmentId) = some resolved ∧
    moment.after.remote.environments.get? resolved.id = moment.before.remote.environments.get? resolved.id ∧
    ∀ project environment own, moment.call = .syncEnvironment project environment →
      moment.after.environments.get? (scopedCacheKey project environment.id) = some own → own.id ≠ resolved.id

section
variable {provider initial : Provider} {past : List Moment}

theorem agents_coherent : Coherent fun wanted => ∃ projectId agent, wanted = wantedAgent projectId agent := by
  rintro _ _ ⟨_,_,rfl⟩ ⟨_,_,rfl⟩ _ digest
  exact digest

theorem environmentDefinition_of_digest {first second : RuntimeEnvironment}
    (same : environmentDigest first = environmentDigest second) : environmentDefinition first = environmentDefinition second := by
  have fields := Json.obj.inj same
  obtain ⟨cloud,rest⟩ := List.append_inj' fields rfl
  have type := (List.cons.inj (List.cons.inj rest).2).1
  unfold environmentDefinition
  rw [cloud,type]

variable {calls : List Call} {projectId : String}

theorem environments_coherent (separate : Separate (calls.filterMap Call.environment?)) :
    Coherent fun wanted => ∃ projectId environment, .syncEnvironment projectId environment ∈ calls ∧
      wanted = wantedEnvironment projectId environment := by
  rintro _ _ ⟨projectId,environment,inside,rfl⟩ ⟨project,other,within,rfl⟩ key digest
  have pair := separate (projectId,environment.id) (List.mem_filterMap.mpr ⟨_,inside,rfl⟩) (project,other.id)
    (List.mem_filterMap.mpr ⟨_,within,rfl⟩) key
  obtain ⟨rfl,ids⟩ := Prod.mk.inj pair
  change environmentContent environment projectId = environmentContent other projectId
  unfold environmentContent
  rw [environmentDefinition_of_digest digest,ids]

theorem Fresh.agentsKept {asked : Wanted → Prop} (fresh : Fresh initial) :
    Kept agentShelf agentNames asked (fun _ => none) (fun _ => none) initial := by
  constructor
  · exact fun id resource held owner => absurd owner (fresh.agents id resource held)
  · intro key resolved held
    change initial.agents.get? key = some resolved at held
    rw [fresh.noAgents] at held
    cases held

theorem Fresh.environmentsKept {asked : Wanted → Prop} (fresh : Fresh initial) :
    Kept environmentShelf environmentNames asked (fun _ => none) (fun _ => none) initial := by
  constructor
  · exact fun id resource held owner => absurd owner (fresh.environments id resource held)
  · intro key resolved held
    change initial.environments.get? key = some resolved at held
    rw [fresh.noEnvironments] at held
    cases held

theorem findSome_map_of {α β γ : Type} {items : List α} {first : α → Option γ} {second : α → Option β} {change : β → γ}
    (same : ∀ item ∈ items, first item = (second item).map change) : items.findSome? first = (items.findSome? second).map change := by
  rw [List.map_findSome?,← List.head?_filterMap,← List.head?_filterMap,List.filterMap_congr same]
  rfl

theorem findSome_agent {projectId agentId : String} (separate : Separate (calls.filterMap Call.agent?))
    (here : (projectId,agentId) ∈ calls.filterMap Call.agent?) (all : ∀ moment ∈ past, moment.call ∈ calls) :
    past.findSome? (Moment.asks agentWanted Moment.succeeded (scopedLocalId projectId agentId)) =
      (past.findSome? (Moment.syncedAgent projectId agentId)).map (wantedAgent projectId) := by
  apply findSome_map_of
  intro moment inside
  unfold Moment.asks Moment.syncedAgent
  cases called : moment.call with
  | syncEnvironment project environment => rfl
  | start project request => rfl
  | syncAgent project agent =>
    have member : (project,agent.id) ∈ calls.filterMap Call.agent? :=
      List.mem_filterMap.mpr ⟨_,all moment inside,by rw [called]; rfl⟩
    by_cases same : project = projectId ∧ agent.id = agentId
    · obtain ⟨rfl,rfl⟩ := same
      by_cases succeeded : moment.succeeded = true <;>
        simp [agentWanted,wantedAgent,Wanted.key,Option.filter,succeeded]
    · have apart : scopedLocalId project agent.id ≠ scopedLocalId projectId agentId := by
        intro joined
        obtain ⟨first,second⟩ := Prod.mk.inj (separate _ member _ here joined)
        exact same ⟨first,second⟩
      have missed : ¬ (project = projectId ∧ agent.id = agentId ∧ moment.succeeded) := fun all => same ⟨all.1,all.2.1⟩
      dsimp only
      rw [if_neg missed]
      simp [agentWanted,wantedAgent,Wanted.key,Option.filter,apart]

theorem findSome_environment {projectId environmentId : String} (separate : Separate (calls.filterMap Call.environment?))
    (here : (projectId,environmentId) ∈ calls.filterMap Call.environment?) (all : ∀ moment ∈ past, moment.call ∈ calls) :
    past.findSome? (Moment.asks environmentWanted Moment.effective (scopedLocalId projectId environmentId)) =
      (past.findSome? (Moment.syncedEnvironment projectId environmentId)).map (wantedEnvironment projectId) := by
  apply findSome_map_of
  intro moment inside
  unfold Moment.asks Moment.syncedEnvironment
  cases called : moment.call with
  | syncAgent project agent => rfl
  | start project request => rfl
  | syncEnvironment project environment =>
    have member : (project,environment.id) ∈ calls.filterMap Call.environment? :=
      List.mem_filterMap.mpr ⟨_,all moment inside,by rw [called]; rfl⟩
    by_cases same : project = projectId ∧ environment.id = environmentId
    · obtain ⟨rfl,rfl⟩ := same
      by_cases effective : moment.effective = true <;>
        simp [environmentWanted,wantedEnvironment,Wanted.key,Option.filter,effective]
    · have apart : scopedLocalId project environment.id ≠ scopedLocalId projectId environmentId := by
        intro joined
        obtain ⟨first,second⟩ := Prod.mk.inj (separate _ member _ here joined)
        exact same ⟨first,second⟩
      have missed : ¬ (project = projectId ∧ environment.id = environmentId ∧ moment.effective) := fun all => same ⟨all.1,all.2.1⟩
      dsimp only
      rw [if_neg missed]
      simp [environmentWanted,wantedEnvironment,Wanted.key,Option.filter,apart]

theorem start_resources {β : Type} (shelf : Shelf β) {request : StartRequest} {answer : Except ProviderFault Handle}
    {after : Provider} (ended : (startForProject options service projectId request).exec provider = (answer,after)) :
    shelf.resources after.remote = shelf.resources provider.remote :=
  congrArg Prod.fst (Keeps.of_exec startForProject_keeps ended : observed shelf after = observed shelf provider)

theorem start_uses {asked asked' : Wanted → Prop} {request : StartRequest}
    (agentsKept : Kept agentShelf agentNames asked (fun key => past.findSome? (Moment.asks agentWanted Moment.succeeded key))
      (fun key => past.findSome? (Moment.asks agentWanted Moment.effective key)) provider)
    (environmentsKept : Kept environmentShelf environmentNames asked'
      (fun key => past.findSome? (Moment.asks environmentWanted Moment.succeeded key))
      (fun key => past.findSome? (Moment.asks environmentWanted Moment.effective key)) provider)
    (agentsSeparate : Separate (calls.filterMap Call.agent?)) (environmentsSeparate : Separate (calls.filterMap Call.environment?))
    (all : ∀ moment ∈ past, moment.call ∈ calls) (here : .start projectId request ∈ calls) :
    (startForProject options service projectId request).Leads provider fun answer after =>
      ∀ handle, answer = .ok handle → Uses past projectId request handle after := by
  have leads := @start_leads options service provider projectId request
  unfold Leads at leads ⊢
  rcases ended : (startForProject options service projectId request).exec provider with ⟨answer,after⟩
  rw [ended] at leads
  intro handle answered
  obtain ⟨agent,environment,session,knownAgent,knownEnvironment,held,runs,stands⟩ := leads handle answered
  obtain ⟨current,resource,early,_,⟨id,version⟩,at_,_,was,versioned,_⟩ := agentsKept.cached _ agent knownAgent
  obtain ⟨place,room,_,late,named,there,_,_,_,last,definition⟩ := environmentsKept.cached _ environment knownEnvironment
  rw [scopedCacheKey,findSome_agent agentsSeparate (List.mem_filterMap.mpr ⟨_,here,rfl⟩) all] at was
  rw [scopedCacheKey,findSome_environment environmentsSeparate (List.mem_filterMap.mpr ⟨_,here,rfl⟩) all] at last
  obtain ⟨synced,lastAgent,rfl⟩ := Option.map_eq_some_iff.mp was
  obtain ⟨prepared,lastEnvironment,rfl⟩ := Option.map_eq_some_iff.mp last
  refine ⟨synced,prepared,session,resource,room,lastAgent,lastEnvironment,held,?_,?_,?_,definition⟩
  · rw [runs]
    change (agentShelf.resources after.remote).get? agent.id = some resource
    rw [start_resources agentShelf ended,id]
    exact at_
  · rw [runs]
    change resource.at agent.version = _
    rw [version]
    exact versioned
  · rw [stands]
    change (environmentShelf.resources after.remote).get? environment.id = some room
    rw [start_resources environmentShelf ended,named]
    exact there

theorem made_start {request : StartRequest} {handle : Handle}
    (answered : (made options service (.start projectId request) provider).answer = .ok (some handle)) :
    ∃ after, (startForProject options service projectId request).exec provider = (.ok handle,after) ∧
      (made options service (.start projectId request) provider).after = after := by
  unfold made Call.perform at answered ⊢
  dsimp only at answered ⊢
  rw [exec_bind] at answered ⊢
  rcases ended : (startForProject options service projectId request).exec provider with ⟨answer,after⟩
  rw [ended] at answered
  cases answer with
  | error fault => cases answered
  | ok started =>
    cases answered
    exact ⟨after,rfl,rfl⟩

/-- In every run over separate projects, agents and environments, a session uses
what was synced last for its own project and ids, and a sync leaves the others as
they are. -/
theorem projects_stay_apart (fresh : Fresh initial) (ran : Ran options service initial past provider) (call : Call)
    (agentsSeparate : Separate ((call::past.map Moment.call).filterMap Call.agent?))
    (environmentsSeparate : Separate ((call::past.map Moment.call).filterMap Call.environment?)) :
    (∀ projectId request handle, call = .start projectId request → (made options service call provider).answer = .ok (some handle) →
        Uses past projectId request handle (made options service call provider).after) ∧
    (∀ projectId agent pair, call = .syncAgent projectId agent → pair ∈ (past.map Moment.call).filterMap Call.agent? →
      pair ≠ (projectId,agent.id) → AgentSpared (made options service call provider) pair.1 pair.2) ∧
    (∀ projectId environment pair, call = .syncEnvironment projectId environment →
      pair ∈ (past.map Moment.call).filterMap Call.environment? →
      pair ≠ (projectId,environment.id) → EnvironmentSpared (made options service call provider) pair.1 pair.2) := by
  have all : ∀ moment ∈ past, moment.call ∈ call::past.map Moment.call := fun moment inside =>
    List.mem_cons_of_mem _ (List.mem_map_of_mem inside)
  have agentsKept := ran.kept (agents_obey options service) agents_coherent fresh.agentsKept (by
    intro moment inside wanted viewed
    cases called : moment.call with
    | syncAgent projectId agent =>
      rw [called] at viewed
      cases viewed
      exact ⟨projectId,agent,rfl⟩
    | syncEnvironment projectId environment => rw [called] at viewed; cases viewed
    | start projectId request => rw [called] at viewed; cases viewed)
  have environmentsKept := ran.kept (environments_obey options service) (environments_coherent environmentsSeparate) fresh.environmentsKept (by
    intro moment inside wanted viewed
    cases called : moment.call with
    | syncEnvironment projectId environment =>
      rw [called] at viewed
      cases viewed
      exact ⟨projectId,environment,called ▸ all moment inside,rfl⟩
    | syncAgent projectId agent => rw [called] at viewed; cases viewed
    | start projectId request => rw [called] at viewed; cases viewed)
  refine ⟨?_,?_,?_⟩
  · rintro projectId request handle rfl answered
    obtain ⟨after,ended,same⟩ := made_start answered
    have uses : (startForProject options service projectId request).Leads provider fun answer after =>
        ∀ handle, answer = .ok handle → Uses past projectId request handle after :=
      start_uses agentsKept environmentsKept agentsSeparate environmentsSeparate all List.mem_cons_self
    unfold Leads at uses
    rw [ended] at uses
    rw [same]
    exact uses handle rfl
  · rintro projectId agent ⟨project,agentId⟩ rfl inside other resolved held
    have apart : scopedCacheKey project agentId ≠ (wantedAgent projectId agent).key := fun same =>
      other (agentsSeparate _ (List.mem_cons_of_mem _ inside) _ List.mem_cons_self same)
    have spared := sync_spares (agents_obey options service) agents_coherent (fun resolved current named => named.1) agentsKept (.syncAgent projectId agent) rfl
      ⟨projectId,agent,rfl⟩ apart held
    refine ⟨spared.1,spared.2.1,?_⟩
    rintro _ _ own ⟨⟩
    exact spared.2.2 own
  · rintro projectId environment ⟨project,environmentId⟩ rfl inside other resolved held
    have apart : scopedCacheKey project environmentId ≠ (wantedEnvironment projectId environment).key := fun same =>
      other (environmentsSeparate _ (List.mem_cons_of_mem _ inside) _ List.mem_cons_self same)
    have spared := sync_spares (environments_obey options service) (environments_coherent environmentsSeparate)
      (fun resolved current named => named) environmentsKept (.syncEnvironment projectId environment) rfl
      ⟨projectId,environment,List.mem_cons_self,rfl⟩ apart held
    refine ⟨spared.1,spared.2.1,?_⟩
    rintro _ _ own ⟨⟩
    exact spared.2.2 own

end

/-! ### Two projects -/

def writer : RuntimeAgent := {id := "writer",model := "model-1"}
def node : RuntimeEnvironment := {id := "node",runtime := "cloud"}
def beginning : StartRequest := {runId := "run-1",stepId := "step-1",agentId := "writer",environmentId := "node"}
def agentSynced : Moment := made {} {} (.syncAgent "a" writer) {}
def environmentSynced : Moment := made {} {} (.syncEnvironment "a" node) agentSynced.after
def sessionStarted : Moment := made {} {} (.start "a" beginning) environmentSynced.after

theorem writer_session_uses : ∃ handle, sessionStarted.answer = .ok (some handle) ∧
    Uses [environmentSynced,agentSynced] "a" beginning handle sessionStarted.after := by
  have fresh : Fresh {} := ⟨(fun _ _ held => nomatch held),(fun _ _ held => nomatch held),rfl,rfl⟩
  have ran : Ran {} {} {} [environmentSynced,agentSynced] environmentSynced.after := .call (.call .start _) _
  have plain : ∀ pairs : List (String × String), pairs = [("a","writer"),("a","writer")] ∨ pairs = [("a","node"),("a","node")] →
      Separate pairs := by
    intro pairs either
    apply separate_of_plain
    rcases either with rfl | rfl <;> decide +kernel
  obtain ⟨given,answered⟩ : ∃ given, sessionStarted.answer = .ok given := Library.exists_ok (by decide +kernel)
  cases given with
  | none =>
    have started : sessionStarted.answer ≠ .ok none := by decide +kernel
    exact absurd answered started
  | some handle => exact ⟨handle,answered,(projects_stay_apart fresh ran (.start "a" beginning) (plain _ (.inl rfl))
        (plain _ (.inr rfl))).1 "a" beginning handle rfl answered⟩

def joinedAgent (model : String) (id : String) : RuntimeAgent := {id,model}
def joinedSynced : Moment := made {} {} (.syncAgent "a" (joinedAgent "model-1" "b:c")) environmentSynced.after
def othersSynced : Moment := made {} {} (.syncAgent "a:b" (joinedAgent "model-2" "c")) joinedSynced.after
def joinedStarted : Moment := made {} {} (.start "a" {beginning with agentId := "b:c"}) othersSynced.after

/-- The session of project `a` with its agent `b:c` runs what project `a:b` synced
for its agent `c`: the second sync took the first one's resource over. -/
theorem joined_ids_mix :
    othersSynced.answer = .ok none ∧ joinedStarted.answer.isOk = true ∧
    (joinedSynced.after.agents.get? "a:b:c").map ResolvedAgent.id = (othersSynced.after.agents.get? "a:b:c").map ResolvedAgent.id ∧
    joinedStarted.after.remote.sessions.values.map (fun session =>
      (joinedStarted.after.remote.agents.get? session.agent.1).bind fun resource => resource.at session.agent.2) =
        [some (agentDefinition (joinedAgent "model-2" "c") "a:b")] ∧
    [othersSynced,joinedSynced,environmentSynced,agentSynced].findSome? (Moment.syncedAgent "a" "b:c") =
      some (joinedAgent "model-1" "b:c") ∧
    agentDefinition (joinedAgent "model-2" "c") "a:b" ≠ agentDefinition (joinedAgent "model-1" "b:c") "a" := by
  refine ⟨?_,?_,?_,?_,?_,?_⟩ <;> decide +kernel

end AgentOS.ManagedAgents
