import AgentOS.ManagedAgents.Isolation

/-! A start that went wrong halfway is looked up again: the session is found by the run, the step and the idempotency key, and its handle
is made from what the workspace lists of it. -/
namespace AgentOS.ManagedAgents
open Library Routine
variable {options other : Options} {service replica : Service}

/-- A resource of a session under an id of its own. -/
structure ListedResource where
  id : String
  type : String
  fileId : Option String := none

structure ListedSession where
  id : String
  agent : String × Nat
  environmentId : String
  metadata : SessionMetadata
  /-- The deadline of the metadata is there but names no instant. -/
  malformedDeadline : Bool := false
  vaultIds : Option (List String) := none
  resources : List ListedResource := []

def ListedResource.isFile (resource : ListedResource) : Bool := resource.type = "file"

def validDeadline (session : ListedSession) : Except ProviderFault (Option Instant) :=
  if session.malformedDeadline then .error (.configuration "persisted session deadline is invalid")
  else .ok session.metadata.deadline

def matchesStart (request : StartRequest) (idempotencyKey : String) (session : ListedSession) : Bool :=
  session.metadata.runId = some request.runId && session.metadata.stepId = some request.stepId &&
    session.metadata.idempotencyKeyHash = some idempotencyKey

def reconciledHandle (session : ListedSession) (request : StartRequest) (deadlineAt : Option Instant) (capability : String) : Handle := {
  id := session.id
  agentId := some session.agent.1
  agentVersion := some session.agent.2
  environmentId := some session.environmentId
  deadlineAt
  runId := some (.str request.runId)
  stepId := some (.str request.stepId)
  ownershipCapability := some (.str capability)
  credentialRefs := session.vaultIds.getD []
  uploadedFileIds := (session.resources.filter ListedResource.isFile).map ListedResource.id }

def reconciledSession (session : ListedSession) (request : StartRequest) (capability : String) : Except ProviderFault Handle := do
  let deadlineAt ← validDeadline session
  let handle := reconciledHandle session request deadlineAt capability
  if ownsSession handle session.metadata then .ok handle
  else .error (.conflict "Session ownership validation failed")

def reconcileListed (request : StartRequest) (idempotencyKey capability : String) (sessions : List ListedSession) :
    Except ProviderFault (Option Handle) :=
  match sessions.filter (matchesStart request idempotencyKey) with
  | [] => .ok none
  | [session] => (reconciledSession session request capability).map some
  | _ => .error (.conflict "Multiple sessions match one idempotent runtime start")

/-- A client may have no listing of sessions. A page of the listing that cannot be had fails as the client failed. -/
def reconcileStart (options : Options) (service : Service) (list : Option (Workspace → List ListedSession)) (start : StartRequest) :
    Action (Option Handle) :=
  match start.idempotencyKey, list with
  | none, _ => throw (.configuration "idempotencyKey is required to reconcile a session start")
  | some _, none => throw (.configuration "Managed Agents session listing is required for start reconciliation")
  | some idempotencyKey, some list => do
    let tick ← recollect Provider.tick
    let capability := sessionCapability options service start tick
    wrap false (request service fun remote => (.ok (),remote))
    let sessions ← request service fun remote => (.ok (list remote),remote)
    settle (reconcileListed start idempotencyKey capability sessions)

structure Shows (id : String) (session : RemoteSession) (listed : ListedSession) : Prop where
  id : listed.id = id
  agent : listed.agent = session.agent
  environmentId : listed.environmentId = session.environmentId
  metadata : listed.metadata = session.metadata
  deadline : listed.malformedDeadline = false
  vaultIds : listed.vaultIds.getD [] = session.vaultIds.getD []
  files : (listed.resources.filter ListedResource.isFile).map ListedResource.fileId =
    session.resources.map fun resource => some resource.fileId

def Lists (service : Service) (provider : Provider) : Prop :=
  service.outage provider.tick = .none ∧ service.outage (provider.tick + 1) = .none

def ListedAsFiles (listed : ListedSession) : Prop :=
  ∀ resource ∈ listed.resources, resource.isFile → resource.fileId = some resource.id

/-! ### Both handles -/

theorem sessionCapability_keyed {request : StartRequest} {key : String} (keyed : request.idempotencyKey = some key)
    (secret : other.ownershipSecret = options.ownershipSecret) (digests : replica.hmac = service.hmac) (early late : Nat) :
    sessionCapability other replica request late = sessionCapability options service request early := by
  unfold sessionCapability
  rw [keyed]
  dsimp only
  rw [secret,digests]

variable {listed : ListedSession} {start : StartRequest}

theorem exec_reconcileStart {list : Workspace → List ListedSession} {key : String}
    {provider : Provider} (keyed : start.idempotencyKey = some key) (lists : Lists service provider) :
    ((reconcileStart options service (some list) start).exec provider).1 =
      reconcileListed start key (sessionCapability options service start provider.tick) (list provider.remote) := by
  unfold reconcileStart
  rw [keyed]
  dsimp only
  rw [exec_bind]
  change (Routine.exec (wrap false (request service fun remote => (.ok (),remote)) >>= _) provider).1 = _
  rw [exec_bind,exec_wrap]
  have opened : (request service fun remote => ((.ok () : Except ClientError Unit),remote)).exec provider =
      (.ok (),{provider with tick := provider.tick + 1}) := by
    unfold request
    rw [exec_atomic,lists.1]
    rfl
  rw [opened]
  change (Routine.exec (request service (fun remote => (.ok (list remote),remote)) >>= _) _).1 = _
  rw [exec_bind]
  have read : (request service fun remote => ((.ok (list remote) : Except ClientError (List ListedSession)),remote)).exec
      {provider with tick := provider.tick + 1} = (.ok (list provider.remote),{provider with tick := provider.tick + 1 + 1}) := by
    unfold request
    rw [exec_atomic,lists.2]
    rfl
  rw [read]
  rfl

variable {environment : ResolvedEnvironment} {deadlineAt : Option Instant} {agent : ResolvedAgent} {budget : Option Nat}
  {capability : String}

theorem matchesStart_of_shows {id input key : String} (keyed : start.idempotencyKey = some key)
    (shows_ : Shows id (startedSession agent environment start input deadlineAt budget capability) listed) :
    matchesStart start key listed = true := by
  unfold matchesStart
  rw [shows_.metadata]
  simp [startedSession,keyed]

theorem reconciledSession_of_shows {id input : String}
    (shows_ : Shows id (startedSession agent environment start input deadlineAt budget capability) listed) :
    reconciledSession listed start capability = .ok {startedHandle id agent environment start deadlineAt capability with
      uploadedFileIds := (listed.resources.filter ListedResource.isFile).map ListedResource.id} := by
  have deadline : validDeadline listed = .ok deadlineAt := by
    unfold validDeadline
    rw [shows_.deadline,shows_.metadata]
    rfl
  have same : reconciledHandle listed start deadlineAt capability = {startedHandle id agent environment start deadlineAt capability with
      uploadedFileIds := (listed.resources.filter ListedResource.isFile).map ListedResource.id} := by
    unfold reconciledHandle startedHandle
    rw [shows_.id,shows_.agent,shows_.environmentId,shows_.vaultIds]
    rfl
  have owns : ownsSession (reconciledHandle listed start deadlineAt capability) listed.metadata = true := by
    rw [shows_.metadata]
    simp [ownsSession,reconciledHandle,startedSession,Json.string?]
  unfold reconciledSession
  rw [deadline]
  change (if _ then _ else _) = _
  rw [if_pos owns,same]

theorem fileIds_iff {id : String} {session : RemoteSession} (shows_ : Shows id session listed) :
    (listed.resources.filter ListedResource.isFile).map ListedResource.id = session.resources.map FileResource.fileId ↔
      ListedAsFiles listed := by
  have files : (listed.resources.filter ListedResource.isFile).map ListedResource.fileId =
      (session.resources.map FileResource.fileId).map some := by
    rw [shows_.files,List.map_map]
    rfl
  have injective : Function.Injective (List.map (some (α := String))) := List.map_injective_iff.mpr (Option.some_injective String)
  rw [← injective.eq_iff,← files,List.map_map,List.map_inj_left]
  constructor
  · intro same resource inside isFile
    exact (same resource (List.mem_filter.mpr ⟨inside,isFile⟩)).symm
  · intro same resource inside
    obtain ⟨inside,isFile⟩ := List.mem_filter.mp inside
    exact (same resource inside isFile).symm

theorem reconcileListed_ok {key capability : String} {sessions : List ListedSession}
    {answer : Handle} (inside : listed ∈ sessions) (matched : matchesStart start key listed = true)
    (reconciled : reconciledSession listed start capability = .ok answer) (handle : Handle) :
    reconcileListed start key capability sessions = .ok (some handle) ↔
      sessions.countP (matchesStart start key) = 1 ∧ answer = handle := by
  have held : listed ∈ sessions.filter (matchesStart start key) := List.mem_filter.mpr ⟨inside,matched⟩
  unfold reconcileListed
  rw [List.countP_eq_length_filter]
  match found : sessions.filter (matchesStart start key), held with
  | [session], held =>
    cases List.mem_singleton.mp held
    dsimp only
    rw [reconciled]
    simp [Except.map]
  | first::second::rest, _ => simp

/-- A start is reconciled with the handle it returned if no other session matches the request and every file of the session is
listed under its own id; otherwise it is not. -/
theorem reconciled_start_iff {projectId key : String} {start : StartRequest} {provider state later : Provider} {handle : Handle}
    {list : Workspace → List ListedSession}
    (started : (startForProject options service projectId start).exec provider = (.ok handle,state))
    (keyed : start.idempotencyKey = some key)
    -- Another process shares the secret and the digests.
    (secret : other.ownershipSecret = options.ownershipSecret) (digests : replica.hmac = service.hmac)
    (lists : Lists replica later) {session : RemoteSession} (created : state.remote.sessions.get? handle.id = some session)
    {listed : ListedSession} (inside : listed ∈ list later.remote) (shows_ : Shows handle.id session listed) :
    ((reconcileStart other replica (some list) start).exec later).1 = .ok (some handle) ↔
      (list later.remote).countP (matchesStart start key) = 1 ∧ ListedAsFiles listed := by
  have leads := @started_leads options service provider projectId start
  unfold Leads at leads
  rw [started] at leads
  obtain ⟨agent,environment,_,_,input,deadlineAt,budget,tick,made_,held⟩ := leads handle rfl
  cases Option.some.inj (created.symm.trans held)
  rw [exec_reconcileStart keyed lists,sessionCapability_keyed keyed secret digests tick later.tick,
    reconcileListed_ok inside (matchesStart_of_shows keyed shows_) (reconciledSession_of_shows shows_) handle,← fileIds_iff shows_]
  generalize sessionCapability options service start tick = capability at *
  have fields : ({startedHandle handle.id agent environment start deadlineAt capability with
        uploadedFileIds := (listed.resources.filter ListedResource.isFile).map ListedResource.id} = handle) ↔
      (listed.resources.filter ListedResource.isFile).map ListedResource.id = start.resources.map FileResource.fileId := by
    constructor
    · intro same
      exact (congrArg Handle.uploadedFileIds same).trans (congrArg Handle.uploadedFileIds made_)
    · intro same
      rw [same]
      exact made_.symm
  rw [fields]
  rfl

/-! ### A file that stays -/

section
variable (resourceId : Nat → FileResource → String)

/-- A session as it is listed, with its resources under the ids that are given to them. -/
def listedAs (id : String) (session : RemoteSession) : ListedSession := {
  id
  agent := session.agent
  environmentId := session.environmentId
  metadata := session.metadata
  vaultIds := session.vaultIds
  resources := session.resources.zipIdx.map fun resource =>
    {id := resourceId resource.2 resource.1,type := "file",fileId := some resource.1.fileId} }

def listedBy (remote : Workspace) : List ListedSession :=
  remote.sessions.entries.map fun entry => listedAs resourceId entry.1 entry.2

theorem shows_listedAs (id : String) (session : RemoteSession) : Shows id session (listedAs resourceId id session) := by
  refine ⟨rfl,rfl,rfl,rfl,rfl,rfl,?_⟩
  have all : (listedAs resourceId id session).resources.filter ListedResource.isFile = (listedAs resourceId id session).resources := by
    apply List.filter_eq_self.mpr
    intro resource inside
    obtain ⟨_,_,rfl⟩ := List.mem_map.mp inside
    rfl
  rw [all]
  change (session.resources.zipIdx.map _).map _ = _
  rw [List.map_map]
  change session.resources.zipIdx.map ((fun resource : FileResource => some resource.fileId) ∘ Prod.fst) = _
  rw [← List.map_map,List.zipIdx_map_fst]

end

theorem listedAs_files (id : String) (session : RemoteSession) :
    ListedAsFiles (listedAs (fun _ resource => resource.fileId) id session) := by
  intro resource inside _
  obtain ⟨_,_,rfl⟩ := List.mem_map.mp inside
  rfl

def withFile : StartRequest := {beginning with idempotencyKey := some "start-1",resources := [{fileId := "file-1"}]}

def uploaded : Provider :=
  {environmentSynced.after with remote := {environmentSynced.after.remote with files := OrderedMap.empty.set "file-1" "report"}}

def startedOnce : Except ProviderFault Handle × Provider := (startForProject {} {} "a" withFile).exec uploaded

def handleOnce (fileId : String) : Handle := {
  id := "4"
  agentId := some "1"
  agentVersion := some 1
  environmentId := some "3"
  runId := some (.str "run-1")
  stepId := some (.str "step-1")
  ownershipCapability := some (.str (sessionCapability {} {} withFile 0))
  uploadedFileIds := [fileId] }

/-- The resource of the session has an id of its own, which the reconciled handle takes for the file's: a cleanup with it leaves the file
that a cleanup with the handle of the start deletes. -/
theorem reconciled_file_left : startedOnce.1 = .ok (handleOnce "file-1") ∧
    ((reconcileStart {} {} (some (listedBy fun index _ => "resource-" ++ toString index)) withFile).exec startedOnce.2).1 =
      .ok (some (handleOnce "resource-0")) ∧ handleOnce "resource-0" ≠ handleOnce "file-1" ∧
    ((cleanup {} (handleOnce "resource-0")).exec startedOnce.2).1 = .ok () ∧
    ((cleanup {} (handleOnce "resource-0")).exec startedOnce.2).2.remote.files.get? "file-1" = some "report" ∧
    ((cleanup {} (handleOnce "file-1")).exec startedOnce.2).1 = .ok () ∧
    ((cleanup {} (handleOnce "file-1")).exec startedOnce.2).2.remote.files.get? "file-1" = none := by
  refine ⟨?_,?_,?_,?_,?_,?_,?_⟩ <;> decide +kernel

/-- A service that lists a resource under its file's id. -/
theorem file_reconciled : ((reconcileStart {} {} (some (listedBy fun _ resource => resource.fileId)) withFile).exec startedOnce.2).1 =
      .ok (some (handleOnce "file-1")) := by
  have started : (startForProject {} {} "a" withFile).exec uploaded = (.ok (handleOnce "file-1"),startedOnce.2) :=
    Prod.ext (by decide +kernel) rfl
  have alone : (listedBy (fun _ resource => resource.fileId) startedOnce.2.remote).countP (matchesStart withFile "start-1") = 1 := by
    decide +kernel
  have present : (startedOnce.2.remote.sessions.get? "4").isSome = true := by decide +kernel
  obtain ⟨session,created⟩ := Option.isSome_iff_exists.mp present
  have inside : listedAs (fun _ resource => resource.fileId) "4" session ∈
      listedBy (fun _ resource => resource.fileId) startedOnce.2.remote :=
    List.mem_map.mpr ⟨("4",session),(OrderedMap.mem_entries _ _ _).mpr created,rfl⟩
  exact (reconciled_start_iff started rfl rfl rfl ⟨rfl,rfl⟩ created inside (shows_listedAs _ _ session)).mpr
    ⟨alone,listedAs_files "4" session⟩

end AgentOS.ManagedAgents
