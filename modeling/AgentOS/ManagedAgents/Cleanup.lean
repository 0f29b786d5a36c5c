import AgentOS.Library.Guarantee
import AgentOS.ManagedAgents.Forged
import AgentOS.ManagedAgents.Isolation

/-! Cleaning up after a session: what a handle names is gone once a call has answered, a call that failed can be made again, and no
session is deleted before it has come to rest. -/
namespace AgentOS.ManagedAgents
open Library Routine
open OrderedMap (get?_set get?_erase)
variable {α : Type} {options : Options} {service : Service} {handle : Handle}

/-- Neither the session nor a vault or a file that the handle names is there. -/
structure Gone (handle : Handle) (remote : Workspace) : Prop where
  session : remote.sessions.get? handle.id = none
  vaults : ∀ id ∈ handle.credentialRefs, remote.vaults.get? id = none
  files : ∀ id ∈ handle.uploadedFileIds, remote.files.get? id = none

def Owned (handle : Handle) (remote : Workspace) : Prop :=
  ∀ session, remote.sessions.get? handle.id = some session → ownsSession handle session.metadata = true

/-- What is gone of what the handle names stays gone, and its session stays its own. -/
structure Lessens (handle : Handle) (remote after : Workspace) : Prop where
  session : remote.sessions.get? handle.id = none → after.sessions.get? handle.id = none
  vaults : ∀ id, remote.vaults.get? id = none → id ∈ handle.credentialRefs → after.vaults.get? id = none
  files : ∀ id, remote.files.get? id = none → id ∈ handle.uploadedFileIds → after.files.get? id = none
  owner : Owned handle remote → Owned handle after

/-- What others may do besides: nothing is remembered as cleaned up that is not. -/
structure Spares (handle : Handle) (before after : Provider) : Prop where
  remote : Lessens handle before.remote after.remote
  memo : handle.id ∈ after.cleanedSessions → handle.id ∈ before.cleanedSessions ∨ Gone handle after.remote

def Remembers (handle : Handle) (provider : Provider) : Prop := handle.id ∈ provider.cleanedSessions → Gone handle provider.remote

/-- A request that fails is not answered as if what it is about were not found. -/
def Honest (service : Service) : Prop :=
  ∀ tick error, service.outage tick = .refused error ∨ service.outage tick = .lost error →
    isProviderNotFound (providerError error) = false

/-! ### Steps -/

theorem Lessens.refl (handle : Handle) (remote : Workspace) : Lessens handle remote remote :=
  ⟨id,fun _ gone _ => gone,fun _ gone _ => gone,id⟩

theorem gone_stable : Stable (Spares handle) fun provider => Gone handle provider.remote := by
  intro before after taken gone
  exact ⟨taken.remote.session gone.session,fun id named => taken.remote.vaults id (gone.vaults id named) named,
    fun id named => taken.remote.files id (gone.files id named) named⟩

theorem remembers_stable : Stable (Spares handle) (Remembers handle) := by
  intro before after taken remembers inside
  obtain early | gone := taken.memo inside
  · exact gone_stable before after taken (remembers early)
  · exact gone

theorem session_stable : Stable (Spares handle) fun provider => provider.remote.sessions.get? handle.id = none :=
  fun _ _ taken => taken.remote.session

theorem vault_stable {id : String} (named : id ∈ handle.credentialRefs) :
    Stable (Spares handle) fun provider => provider.remote.vaults.get? id = none := fun _ _ taken gone => taken.remote.vaults id gone named

theorem file_stable {id : String} (named : id ∈ handle.uploadedFileIds) :
    Stable (Spares handle) fun provider => provider.remote.files.get? id = none := fun _ _ taken gone => taken.remote.files id gone named

variable {step : Provider → Provider → Prop} {remote : Workspace} {operation : Action α}

theorem lessens_set {id : String} {session changed : RemoteSession} (held : remote.sessions.get? id = some session)
    (same : changed.metadata = session.metadata) : Lessens handle remote {remote with sessions := remote.sessions.set id changed} := by
  refine ⟨?_,fun _ gone _ => gone,fun _ gone _ => gone,?_⟩
  · intro gone
    have other : handle.id ≠ id := by
      intro same
      rw [same,held] at gone
      cases gone
    dsimp only
    rw [get?_set,if_neg other]
    exact gone
  · intro owned found at_
    dsimp only at at_
    rw [get?_set] at at_
    split at at_
    · rename_i here
      cases at_
      rw [same]
      exact owned session (here ▸ held)
    · exact owned found at_

theorem lessens_erase (remote : Workspace) (id : String) : Lessens handle remote {remote with sessions := remote.sessions.erase id} := by
  refine ⟨?_,fun _ gone _ => gone,fun _ gone _ => gone,?_⟩
  · intro gone
    dsimp only
    rw [get?_erase]
    split
    · rfl
    · exact gone
  · intro owned found at_
    dsimp only at at_
    rw [get?_erase] at at_
    split at at_
    · cases at_
    · exact owned found at_

theorem lessens_vaults {vaults : OrderedMap String RemoteVault}
    (gone : ∀ id, remote.vaults.get? id = none → vaults.get? id = none) : Lessens handle remote {remote with vaults := vaults} :=
  ⟨id,fun id absent _ => gone id absent,fun _ absent _ => absent,id⟩

theorem lessens_files {files : OrderedMap String String}
    (gone : ∀ id, remote.files.get? id = none → files.get? id = none) : Lessens handle remote {remote with files := files} :=
  ⟨id,fun _ absent _ => absent,fun id absent _ => gone id absent,id⟩

/-! ### What an operation leaves behind -/

/-- Among others that spare the handle the operation spares it too; if it is not found then what it is about is gone, and if it answers
then what it answers for is so. -/
def Tells (handle : Handle) (gone : Workspace → Prop) (answered : Workspace → Prop) (operation : Action α) : Prop :=
  ∀ state, operation.Holds (Spares handle) (Spares handle) (fun answer after => match answer with
    | .ok _ => answered after.remote
    | .error fault => isProviderNotFound fault = true → gone after.remote) state

variable {serve : Workspace → Except ClientError α × Workspace} {mapConflict : Bool}

theorem holds_wrap {rely step : Provider → Provider → Prop} {post : Except ProviderFault α → Provider → Prop}
    {state : Provider} : (wrap mapConflict operation).Holds rely step post state ↔
      operation.Holds rely step (fun answer after => post (answer.mapError (wrapped mapConflict)) after) state := by
  unfold wrap
  rw [holds_bind,holds_outcome]
  have same : (fun answer => continued rely step post (fun ended : Except ProviderFault α => match ended with
      | .ok value => (pure value : Action α)
      | .error fault => throw (wrapped mapConflict fault)) (.ok answer)) =
      fun answer after => post (answer.mapError (wrapped mapConflict)) after := by
    funext answer
    cases answer <;> rfl
  exact Eq.to_iff (congrArg (fun post => operation.Holds rely step post state) same)

section
variable {β : Type} {gone between answered : Workspace → Prop}

theorem tells_request {serve : Workspace → Except ClientError α × Workspace} (honest : Honest service)
    (lessens : ∀ remote, Lessens handle remote (serve remote).2)
    (served : ∀ remote, (∃ value, (serve remote).1 = .ok value) ∧ answered (serve remote).2 ∨
      (∃ error, (serve remote).1 = .error error) ∧ gone (serve remote).2) :
    Tells handle gone answered (wrap false (request service serve)) := by
  intro state
  rw [holds_wrap]
  apply holds_atomic.mpr
  intro now _
  dsimp only
  have spares (remote : Workspace) (lessens : Lessens handle now.remote remote) (tick : Nat) :
      Spares handle now {now with remote,tick} := ⟨lessens,fun inside => .inl inside⟩
  have served := served now.remote
  have lessens := lessens now.remote
  generalize serve now.remote = answer at served lessens
  obtain ⟨answer,after⟩ := answer
  cases outage : service.outage now.tick with
  | none =>
    refine ⟨spares _ lessens _,?_⟩
    obtain ⟨⟨value,rfl⟩,answered⟩ | ⟨⟨error,rfl⟩,gone⟩ := served
    · exact answered
    · exact fun _ => gone
  | refused error =>
    refine ⟨spares _ (.refl handle _) _,fun missing => ?_⟩
    exact absurd missing (by simp [wrapped,honest now.tick error (.inl outage)])
  | lost error =>
    refine ⟨spares _ lessens _,fun missing => ?_⟩
    exact absurd missing (by simp [wrapped,honest now.tick error (.inr outage)])

theorem Tells.bind {operation : Action α} {rest : α → Action β} (first : Tells handle gone between operation)
    (second : ∀ value, Tells handle gone answered (rest value)) : Tells handle gone answered (operation >>= rest) := by
  intro state
  rw [holds_bind]
  apply (first state).weaken
  intro answer after told
  cases answer with
  | ok value => exact second value after
  | error fault => exact told

theorem tells_throw {fault : ProviderFault} (other : isProviderNotFound fault = false) :
    Tells handle gone answered (throw fault : Action α) := by
  intro state missing
  rw [other] at missing
  cases missing

theorem tells_settle {answer : Except ProviderFault α} (other : ∀ fault, answer = .error fault → isProviderNotFound fault = false) :
    Tells handle gone (fun _ => True) (settle answer) := by
  intro state
  rw [holds_settle]
  cases answer with
  | ok value => trivial
  | error fault =>
    intro missing
    rw [other fault rfl] at missing
    cases missing

theorem tells_pure (value : α) : Tells handle gone (fun _ => True) (pure value : Action α) := fun _ => trivial

theorem tells_recollect (read : Provider → α) : Tells handle gone (fun _ => True) (recollect read) := by
  intro state
  apply holds_atomic.mpr
  exact fun now _ => ⟨⟨.refl handle _,fun inside => .inl inside⟩,trivial⟩

theorem upholds_ignoreNotFound {operation : Action α} (tells : Tells handle gone gone operation) :
    (ignoreNotFound operation).Upholds (Spares handle) (Spares handle) (fun _ => True) fun _ after => gone after.remote := by
  intro state _
  unfold ignoreNotFound
  rw [holds_bind,holds_outcome]
  apply (tells state).weaken
  intro answer after told
  cases answer with
  | ok value => exact fun _ _ => told
  | error fault =>
    rw [continued_ok]
    dsimp only
    split
    · rename_i missing
      exact fun _ _ => told missing
    · exact fun _ impossible => nomatch impossible

end

/-! ### The requests of a cleanup -/

section
variable (id : String) (honest : Honest service)
include honest

theorem tells_retrieve : Tells handle (fun remote => remote.sessions.get? id = none) (fun _ => True)
    (wrap false (retrieve service id)) := by
  apply tells_request honest
  · intro remote
    cases remote.sessions.get? id <;> exact .refl handle remote
  · intro remote
    cases held : remote.sessions.get? id with
    | none => exact .inr ⟨⟨notFound,rfl⟩,held⟩
    | some session => exact .inl ⟨⟨session,rfl⟩,trivial⟩

theorem tells_sendInterrupt : Tells handle (fun remote => remote.sessions.get? id = none) (fun _ => True) (sendInterrupt service id) := by
  apply tells_request honest
  · intro remote
    cases held : remote.sessions.get? id with
    | none => exact .refl handle remote
    | some session => exact lessens_set held rfl
  · intro remote
    cases held : remote.sessions.get? id with
    | none => exact .inr ⟨⟨notFound,rfl⟩,held⟩
    | some session => exact .inl ⟨⟨(),rfl⟩,trivial⟩

theorem tells_archiveSession : Tells handle (fun remote => remote.sessions.get? id = none) (fun _ => True)
    (wrap false (archiveSession service id)) := by
  apply tells_request honest
  · intro remote
    cases held : remote.sessions.get? id with
    | none => exact .refl handle remote
    | some session => exact lessens_set held rfl
  · intro remote
    cases held : remote.sessions.get? id with
    | none => exact .inr ⟨⟨notFound,rfl⟩,held⟩
    | some session => exact .inl ⟨⟨(),rfl⟩,trivial⟩

theorem tells_deleteSession : Tells handle (fun remote => remote.sessions.get? id = none) (fun remote => remote.sessions.get? id = none)
    (wrap false (deleteSession service id)) := by
  apply tells_request honest
  · intro remote
    cases held : remote.sessions.get? id with
    | none => exact .refl handle remote
    | some session => exact lessens_erase remote id
  · intro remote
    cases held : remote.sessions.get? id with
    | none => exact .inr ⟨⟨notFound,rfl⟩,held⟩
    | some session =>
      refine .inl ⟨⟨(),rfl⟩,?_⟩
      dsimp only
      rw [get?_erase,if_pos rfl]

theorem tells_archiveVault : Tells handle (fun _ => True) (fun _ => True) (wrap false (archiveVault service id)) := by
  apply tells_request honest
  · intro remote
    cases held : remote.vaults.get? id with
    | none => exact .refl handle remote
    | some vault =>
      apply lessens_vaults
      intro other absent
      have apart : other ≠ id := by
        intro same
        rw [same,held] at absent
        cases absent
      rw [get?_set,if_neg apart]
      exact absent
  · intro remote
    cases held : remote.vaults.get? id with
    | none => exact .inr ⟨⟨notFound,rfl⟩,trivial⟩
    | some vault => exact .inl ⟨⟨(),rfl⟩,trivial⟩

theorem tells_deleteVault : Tells handle (fun remote => remote.vaults.get? id = none) (fun remote => remote.vaults.get? id = none)
    (wrap false (deleteVault service id)) := by
  apply tells_request honest
  · intro remote
    cases held : remote.vaults.get? id with
    | none => exact .refl handle remote
    | some vault =>
      apply lessens_vaults
      intro other absent
      rw [get?_erase]
      split
      · rfl
      · exact absent
  · intro remote
    cases held : remote.vaults.get? id with
    | none => exact .inr ⟨⟨notFound,rfl⟩,held⟩
    | some vault =>
      refine .inl ⟨⟨(),rfl⟩,?_⟩
      dsimp only
      rw [get?_erase,if_pos rfl]

theorem tells_deleteFile : Tells handle (fun remote => remote.files.get? id = none) (fun remote => remote.files.get? id = none)
    (wrap false (deleteFile service id)) := by
  apply tells_request honest
  · intro remote
    cases held : remote.files.get? id with
    | none => exact .refl handle remote
    | some file =>
      apply lessens_files
      intro other absent
      rw [get?_erase]
      split
      · rfl
      · exact absent
  · intro remote
    cases held : remote.files.get? id with
    | none => exact .inr ⟨⟨notFound,rfl⟩,held⟩
    | some file =>
      refine .inl ⟨⟨(),rfl⟩,?_⟩
      dsimp only
      rw [get?_erase,if_pos rfl]

end

/-! ### What a cleanup leaves behind -/

section
variable (honest : Honest service)
include honest

theorem tells_ownedSession (handle : Handle) : Tells handle (fun remote => remote.sessions.get? handle.id = none) (fun _ => True)
    (ownedSession service handle) := by
  refine (tells_retrieve handle.id honest).bind fun session => ?_
  split
  · exact tells_pure session
  · exact tells_throw rfl

theorem tells_ownedStatus (handle : Handle) : Tells handle (fun remote => remote.sessions.get? handle.id = none) (fun _ => True)
    (ownedStatus service handle) := by
  refine (tells_ownedSession honest handle).bind fun _ => (tells_recollect _).bind fun status => tells_settle ?_
  intro fault failed
  unfold normalizeSessionStatus at failed
  split at failed
  · cases failed
    rfl
  · split at failed
    · cases failed
    · cases failed
      rfl

theorem tells_cleanupSession (handle : Handle) : Tells handle (fun remote => remote.sessions.get? handle.id = none)
    (fun remote => remote.sessions.get? handle.id = none) (cleanupSession service handle) := by
  have rest (status : String) : Tells handle (fun remote => remote.sessions.get? handle.id = none)
      (fun remote => remote.sessions.get? handle.id = none)
      (if status ≠ "idle" ∧ status ≠ "terminated" then throw (.error "Session remained active after interrupt")
        else do
          wrap false (archiveSession service handle.id)
          let _ ← ownedSession service handle
          wrap false (deleteSession service handle.id)) := by
    split
    · exact tells_throw rfl
    · exact (tells_archiveSession handle.id honest).bind fun _ => (tells_ownedSession honest handle).bind fun _ =>
        tells_deleteSession handle.id honest
  refine (tells_ownedStatus honest handle).bind fun status => ?_
  dsimp only
  split
  · exact (tells_sendInterrupt handle.id honest).bind fun _ => (tells_ownedStatus honest handle).bind rest
  · exact (tells_pure status).bind rest

theorem cleanupAccess_upholds (handle : Handle) :
    (cleanupAccess service handle.credentialRefs handle.uploadedFileIds).Upholds (Spares handle) (Spares handle) (fun _ => True)
      fun _ after => (∀ id ∈ handle.credentialRefs, after.remote.vaults.get? id = none) ∧
        ∀ id ∈ handle.uploadedFileIds, after.remote.files.get? id = none := by
  have vaults : (handle.credentialRefs.forM (cleanupVault service)).Upholds (Spares handle) (Spares handle) (fun _ => True)
      fun _ after => ∀ id ∈ handle.credentialRefs, after.remote.vaults.get? id = none := by
    apply upholds_forM (fun id named => vault_stable named)
    intro id named
    have archiving := (upholds_ignoreNotFound (@tells_archiveVault service handle id honest)).mono (fun _ held => held) fun _ _ _ => trivial
    exact archiving.bind fun _ => upholds_ignoreNotFound (tells_deleteVault id honest)
  have files : (handle.uploadedFileIds.forM fun fileId => ignoreNotFound (wrap false (deleteFile service fileId))).Upholds
      (Spares handle) (Spares handle) (fun _ => True)
      fun _ after => ∀ id ∈ handle.uploadedFileIds, after.remote.files.get? id = none := by
    apply upholds_forM (fun id named => file_stable named)
    exact fun id named => upholds_ignoreNotFound (tells_deleteFile id honest)
  have kept : Stable (Spares handle) fun provider => ∀ id ∈ handle.credentialRefs, provider.remote.vaults.get? id = none :=
    fun before after taken gone id named => vault_stable named before after taken (gone id named)
  refine vaults.bind fun _ => (files.keeping kept kept).mono (fun _ held => ⟨trivial,held⟩) fun _ after both => ⟨both.2,both.1⟩

theorem cleanup_upholds (managed : isManagedHandle handle = true) :
    (cleanup service handle).Upholds (Spares handle) (Spares handle) (Remembers handle) fun _ after => Gone handle after.remote := by
  have asked : (recollect fun provider => decide (handle.id ∈ provider.cleanedSessions)).Upholds (Spares handle) (Spares handle)
      (Remembers handle) fun cleaned after => cleaned = true → Gone handle after.remote := by
    apply upholds_atomic remembers_stable
    intro now remembers
    refine ⟨⟨.refl handle _,fun inside => .inl inside⟩,?_⟩
    intro cleaned same inside
    cases same
    exact remembers (of_decide_eq_true inside)
  have ending : (cleanupSession service handle).outcome.Upholds (Spares handle) (Spares handle) (fun _ => True) fun ended after =>
      (∀ fault, ended = .error fault → isProviderNotFound fault = true) → after.remote.sessions.get? handle.id = none := by
    intro state _
    rw [holds_outcome]
    apply (tells_cleanupSession honest handle state).weaken
    intro answer after told ended same good
    cases same
    cases answer with
    | ok _ => exact told
    | error fault => exact told (good fault rfl)
  have finishing (ended : Except ProviderFault Unit) : (finishCleanup handle ended).Upholds (Spares handle) (Spares handle)
      (fun after => ((∀ id ∈ handle.credentialRefs, after.remote.vaults.get? id = none) ∧
        ∀ id ∈ handle.uploadedFileIds, after.remote.files.get? id = none) ∧
        ((∀ fault, ended = .error fault → isProviderNotFound fault = true) → after.remote.sessions.get? handle.id = none))
      fun _ after => Gone handle after.remote := by
    have noting : (noteCleaned handle).Upholds (Spares handle) (Spares handle) (fun after => Gone handle after.remote)
        fun _ after => Gone handle after.remote := by
      apply upholds_atomic gone_stable
      exact fun now gone => ⟨⟨.refl handle _,fun _ => .inr gone⟩,fun _ _ => gone⟩
    unfold finishCleanup
    cases ended with
    | ok answer =>
      exact noting.mono (fun after held => ⟨held.2 nofun,held.1.1,held.1.2⟩) fun _ _ gone => gone
    | error fault =>
      dsimp only
      split
      · rename_i missing
        refine noting.mono (fun after held => ⟨held.2 fun other same => ?_,held.1.1,held.1.2⟩) fun _ _ gone => gone
        cases same
        exact missing
      · exact upholds_throw fault
  unfold cleanup
  refine asked.bind fun cleaned => ?_
  split
  · rename_i inside
    exact upholds_pure fun _ gone => gone inside
  · unfold cleanupNow
    refine (ending.mono (fun _ _ => trivial) fun _ _ told => told).bind fun ended => ?_
    rw [managed,if_pos rfl]
    have kept : Stable (Spares handle) fun provider =>
        (∀ fault, ended = .error fault → isProviderNotFound fault = true) → provider.remote.sessions.get? handle.id = none :=
      fun before after taken told good => session_stable before after taken (told good)
    refine (((cleanupAccess_upholds honest handle).keeping kept kept).mono (fun _ held => ⟨trivial,held⟩) fun _ _ both => both).bind
      fun _ => finishing ended

end

/-! ### No session is deleted before it has come to rest -/

def AtRest (status : Option String) : Prop := status = some "idle" ∨ status = some "terminated"

def Deletes (handle : Handle) (before after : Provider) : Prop :=
  before.remote.sessions.get? handle.id ≠ none ∧ after.remote.sessions.get? handle.id = none

def Rests (service : Service) (handle : Handle) (provider : Provider) : Prop := AtRest (service.status provider.tick handle.id)

theorem takes_request
    (taken : ∀ now remote, remote = now.remote ∨ remote = (serve now.remote).2 → step now {now with remote,tick := now.tick + 1}) :
    (request service serve).Takes step := by
  apply takes_atomic
  intro now
  dsimp only
  cases service.outage now.tick with
  | none => exact taken now _ (.inr rfl)
  | refused error => exact taken now _ (.inl rfl)
  | lost error => exact taken now _ (.inr rfl)

theorem takes_wrap (taken : operation.Takes step) : (wrap mapConflict operation).Takes step := by
  refine taken.outcome.bind fun answer => ?_
  cases answer with
  | ok value => exact takes_pure value
  | error fault => exact takes_throw _

theorem takes_ignoreNotFound (taken : operation.Takes step) : (ignoreNotFound operation).Takes step := by
  refine taken.outcome.bind fun answer => ?_
  cases answer with
  | ok value => exact takes_pure _
  | error fault =>
    dsimp only
    split
    · exact takes_pure _
    · exact takes_throw _

theorem request_spares_session
    (kept : ∀ remote, remote.sessions.get? handle.id ≠ none → (serve remote).2.sessions.get? handle.id ≠ none) :
    (wrap false (request service serve)).Takes fun before after => ¬ Deletes handle before after := by
  apply takes_wrap
  apply takes_request
  intro now remote served deletes
  obtain rfl | rfl := served
  · exact deletes.1 deletes.2
  · exact kept now.remote deletes.1 deletes.2

theorem set_session_kept {id other : String} (session : RemoteSession)
    (there : remote.sessions.get? other ≠ none) : (remote.sessions.set id session).get? other ≠ none := by
  rw [get?_set]
  split
  · exact nofun
  · exact there

section
variable (service : Service) (handle : Handle)

theorem retrieve_until : (wrap false (retrieve service handle.id)).Until (Rests service handle) (Deletes handle) fun _ => True := by
  apply Takes.until
  apply request_spares_session
  intro remote there
  cases remote.sessions.get? handle.id <;> exact there

theorem sendInterrupt_until : (sendInterrupt service handle.id).Until (Rests service handle) (Deletes handle) fun _ => True := by
  apply Takes.until
  apply request_spares_session
  intro remote there
  cases remote.sessions.get? handle.id with
  | none => exact there
  | some session => exact set_session_kept _ there

theorem ownedStatus_until : (ownedStatus service handle).Until (Rests service handle) (Deletes handle)
    fun status => status ≠ "idle" ∧ status ≠ "terminated" := by
  have owned : (ownedSession service handle).Until (Rests service handle) (Deletes handle) fun _ => True := by
    refine (retrieve_until service handle).bind fun session _ => ?_
    split
    · exact until_pure trivial
    · exact until_throw _
  have seen : (sessionStatus service handle.id).Until (Rests service handle) (Deletes handle) fun status => ¬ AtRest status := by
    apply until_atomic
    intro now
    refine ⟨fun deletes => deletes.1 deletes.2,?_⟩
    by_cases rests : Rests service handle now
    · exact .inl rests
    · refine .inr fun status same => ?_
      cases same
      exact rests
  refine owned.bind fun _ _ => seen.bind fun status working => until_settle ?_
  intro text normal
  unfold normalizeSessionStatus at normal
  split at normal
  · cases normal
  · rename_i known
    split at normal
    · cases normal
      constructor
      · intro idle
        exact working (.inl (congrArg some idle))
      · intro terminated
        exact working (.inr (congrArg some terminated))
    · cases normal

theorem cleanupSession_until : (cleanupSession service handle).Until (Rests service handle) (Deletes handle) fun _ => True := by
  have rest (status : String) (working : status ≠ "idle" ∧ status ≠ "terminated") :
      (if status ≠ "idle" ∧ status ≠ "terminated" then throw (.error "Session remained active after interrupt")
        else do
          wrap false (archiveSession service handle.id)
          let _ ← ownedSession service handle
          wrap false (deleteSession service handle.id) : Action Unit).Until (Rests service handle) (Deletes handle) fun _ => True := by
    rw [if_pos working]
    exact until_throw _
  refine (ownedStatus_until service handle).bind fun status working => ?_
  dsimp only
  split
  · exact (sendInterrupt_until service handle).bind fun _ _ => (ownedStatus_until service handle).bind rest
  · exact Until.bind (until_pure working) rest

theorem cleanupAccess_until (credentialRefs fileIds : List String) :
    (cleanupAccess service credentialRefs fileIds).Until (Rests service handle) (Deletes handle) fun _ => True := by
  apply Takes.until
  refine (takes_forM fun id _ => ?_).bind fun _ => takes_forM fun id _ => ?_
  · refine (takes_ignoreNotFound (request_spares_session fun remote there => ?_)).bind fun _ =>
      takes_ignoreNotFound (request_spares_session fun remote there => ?_)
    · cases remote.vaults.get? id <;> exact there
    · cases remote.vaults.get? id <;> exact there
  · refine takes_ignoreNotFound (request_spares_session fun remote there => ?_)
    cases remote.files.get? id <;> exact there

theorem cleanup_until : (cleanup service handle).Until (Rests service handle) (Deletes handle) fun _ => True := by
  have noting : (noteCleaned handle).Until (Rests service handle) (Deletes handle) fun _ => True :=
    until_atomic fun now => ⟨fun deletes => deletes.1 deletes.2,.inr fun _ _ => trivial⟩
  have finishing (ended : Except ProviderFault Unit) :
      (finishCleanup handle ended).Until (Rests service handle) (Deletes handle) fun _ => True := by
    unfold finishCleanup
    cases ended with
    | ok answer => exact noting
    | error fault =>
      dsimp only
      split
      · exact noting
      · exact until_throw fault
  have asked : (recollect fun provider => decide (handle.id ∈ provider.cleanedSessions)).Until (Rests service handle) (Deletes handle)
      fun _ => True := until_atomic fun now => ⟨fun deletes => deletes.1 deletes.2,.inr fun _ _ => trivial⟩
  unfold cleanup
  refine asked.bind fun cleaned _ => ?_
  split
  · exact until_pure trivial
  · unfold cleanupNow
    refine (cleanupSession_until service handle).outcome.bind fun ended _ => ?_
    split
    · exact (cleanupAccess_until service handle _ _).bind fun _ _ => finishing ended
    · exact finishing ended

end

/-! ### A call that is served -/

def Ready (service : Service) (provider : Provider) : Prop := ∀ tick, provider.tick ≤ tick → service.outage tick = .none

/-- Every request is served, and the session comes to rest once it is interrupted. -/
structure Serves (service : Service) (handle : Handle) (provider : Provider) : Prop where
  ready : Ready service provider
  known : ∃ status, service.status (provider.tick + 1) handle.id = some status ∧ status ∈ ["rescheduling","running","idle","terminated"]
  rests : AtRest (service.status (provider.tick + 3) handle.id)

section
variable {provider : Provider} {session : RemoteSession}

theorem exec_ready {serve : Workspace → Except ClientError α × Workspace} (ready : Ready service provider) :
    (wrap false (request service serve)).exec provider =
      ((serve provider.remote).1.mapError providerError,{provider with remote := (serve provider.remote).2,tick := provider.tick + 1}) := by
  rw [exec_wrap]
  unfold request
  rw [exec_atomic,ready provider.tick le_rfl]
  dsimp only
  cases (serve provider.remote).1 with
  | ok value => rfl
  | error error => rfl

theorem Ready.later {after : Provider} (ready : Ready service provider) (later : provider.tick ≤ after.tick) : Ready service after :=
  fun tick past => ready tick (later.trans past)

theorem exec_ownedSession (ready : Ready service provider) (held : provider.remote.sessions.get? handle.id = some session)
    (owned : ownsSession handle session.metadata = true) :
    (ownedSession service handle).exec provider = (.ok session,{provider with tick := provider.tick + 1}) := by
  unfold ownedSession retrieve
  rw [exec_bind,exec_ready ready,held]
  dsimp only [Except.mapError]
  rw [owned,if_pos rfl,exec_pure]

theorem exec_ownedStatus {status : String} (ready : Ready service provider)
    (held : provider.remote.sessions.get? handle.id = some session) (owned : ownsSession handle session.metadata = true)
    (shown : normalizeSessionStatus (service.status (provider.tick + 1) handle.id) = .ok status) :
    (ownedStatus service handle).exec provider = (.ok status,{provider with tick := provider.tick + 1}) := by
  unfold ownedStatus sessionStatus recollect
  rw [exec_bind,exec_ownedSession ready held owned]
  dsimp only
  rw [exec_bind,exec_atomic]
  exact congrArg (·,_) shown

theorem normalize_rest {status : Option String} (rests : AtRest status) :
    ∃ text, normalizeSessionStatus status = .ok text ∧ ¬ (text ≠ "idle" ∧ text ≠ "terminated") := by
  obtain rfl | rfl := rests
  · exact ⟨"idle",by decide,by decide⟩
  · exact ⟨"terminated",by decide,by decide⟩

section
variable (ready : Ready service provider) (held : provider.remote.sessions.get? handle.id = some session)
include ready held

theorem exec_sendInterrupt : (sendInterrupt service handle.id).exec provider = (.ok (),{provider with
      remote := {provider.remote with sessions := provider.remote.sessions.set handle.id (appended session interruptEvent)}
      tick := provider.tick + 1}) := by
  unfold sendInterrupt sendEvent
  rw [exec_ready ready,held]
  rfl

theorem exec_archiveSession : (wrap false (archiveSession service handle.id)).exec provider = (.ok (),{provider with
      remote := {provider.remote with sessions := provider.remote.sessions.set handle.id {session with archived := true}}
      tick := provider.tick + 1}) := by
  unfold archiveSession
  rw [exec_ready ready,held]
  rfl

theorem exec_deleteSession : (wrap false (deleteSession service handle.id)).exec provider = (.ok (),{provider with
      remote := {provider.remote with sessions := provider.remote.sessions.erase handle.id}
      tick := provider.tick + 1}) := by
  unfold deleteSession
  rw [exec_ready ready,held]
  rfl

end

theorem get?_set_self (remote : Workspace) (id : String) (session : RemoteSession) :
    (remote.sessions.set id session).get? id = some session := by
  rw [get?_set,if_pos rfl]

theorem exec_endSession (ready : Ready service provider) (held : provider.remote.sessions.get? handle.id = some session)
    (owned : ownsSession handle session.metadata = true) : ∃ after, provider.tick ≤ after.tick ∧
      (do
        wrap false (archiveSession service handle.id)
        let _ ← ownedSession service handle
        wrap false (deleteSession service handle.id) : Action Unit).exec provider = (.ok (),after) := by
  have archived := exec_archiveSession ready held
  let remote := {provider.remote with sessions := provider.remote.sessions.set handle.id {session with archived := true}}
  have there : remote.sessions.get? handle.id = some {session with archived := true} := get?_set_self provider.remote handle.id _
  have looked := @exec_ownedSession service handle {provider with remote,tick := provider.tick + 1} _
    (ready.later (Nat.le_succ provider.tick)) there owned
  have deleted := @exec_deleteSession service handle {provider with remote,tick := provider.tick + 1 + 1} _
    (ready.later (show provider.tick ≤ provider.tick + 1 + 1 by omega)) there
  refine ⟨{provider with remote := {remote with sessions := remote.sessions.erase handle.id},tick := provider.tick + 1 + 1 + 1},
    show provider.tick ≤ provider.tick + 1 + 1 + 1 by omega,?_⟩
  rw [exec_bind,archived]
  dsimp only
  rw [exec_bind,looked]
  exact deleted

theorem cleanupSession_served (serves : Serves service handle provider) (owned : Owned handle provider.remote) :
    (cleanupSession service handle).Leads provider fun answer after =>
      (∀ fault, answer = .error fault → isProviderNotFound fault = true) ∧ provider.tick ≤ after.tick := by
  obtain ⟨ready,⟨status,shown,known⟩,rests⟩ := serves
  cases held : provider.remote.sessions.get? handle.id with
  | none =>
    have missing : (ownedStatus service handle).exec provider =
        (.error (providerError notFound),{provider with tick := provider.tick + 1}) := by
      unfold ownedStatus ownedSession retrieve
      rw [exec_bind,exec_bind,exec_ready ready,held]
      rfl
    unfold Leads cleanupSession
    rw [exec_bind,missing]
    refine ⟨fun fault same => ?_,Nat.le_succ _⟩
    cases same
    rfl
  | some session =>
    have mine := owned session held
    have normal : normalizeSessionStatus (service.status (provider.tick + 1) handle.id) = .ok status := by
      rw [shown]
      exact if_pos known
    have first := exec_ownedStatus ready held mine normal
    have rest (status : String) (now : Provider) (later : provider.tick ≤ now.tick) {session : RemoteSession}
        (held : now.remote.sessions.get? handle.id = some session) (mine : ownsSession handle session.metadata = true)
        (resting : ¬ (status ≠ "idle" ∧ status ≠ "terminated")) :
        (if status ≠ "idle" ∧ status ≠ "terminated" then throw (.error "Session remained active after interrupt")
          else do
            wrap false (archiveSession service handle.id)
            let _ ← ownedSession service handle
            wrap false (deleteSession service handle.id) : Action Unit).Leads now fun answer after =>
          (∀ fault, answer = .error fault → isProviderNotFound fault = true) ∧ provider.tick ≤ after.tick := by
      obtain ⟨after,past,ended⟩ := exec_endSession (ready.later later) held mine
      rw [if_neg resting]
      unfold Leads
      rw [ended]
      exact ⟨nofun,later.trans past⟩
    unfold Leads cleanupSession
    rw [exec_bind,first]
    dsimp only
    split
    · have interrupted := @exec_sendInterrupt service handle {provider with tick := provider.tick + 1} _
        (ready.later (Nat.le_succ provider.tick)) held
      obtain ⟨text,textShown,resting⟩ := normalize_rest rests
      let remote := {provider.remote with sessions := provider.remote.sessions.set handle.id (appended session interruptEvent)}
      have there : remote.sessions.get? handle.id = some (appended session interruptEvent) := get?_set_self provider.remote handle.id _
      have second := @exec_ownedStatus service handle {provider with remote,tick := provider.tick + 1 + 1} _ text
        (ready.later (show provider.tick ≤ provider.tick + 1 + 1 by omega)) there mine textShown
      rw [exec_bind,interrupted]
      dsimp only
      rw [exec_bind,second]
      exact rest text _ (show provider.tick ≤ provider.tick + 1 + 1 + 1 by omega) there mine resting
    · rename_i still
      rw [exec_bind,exec_pure]
      refine rest status _ (Nat.le_succ _) held mine ?_
      simp only [List.mem_cons,List.not_mem_nil,or_false] at known
      tauto

variable {serve : Workspace → Except ClientError Unit × Workspace}

theorem ignored_served (ready : Ready service provider)
    (answers : ∀ remote, (serve remote).1 = .ok () ∨ (serve remote).1 = .error notFound) :
    (ignoreNotFound (wrap false (request service serve))).exec provider =
      (.ok (),{provider with remote := (serve provider.remote).2,tick := provider.tick + 1}) := by
  rw [exec_ignoreNotFound,exec_ready ready]
  obtain answer | answer := answers provider.remote
  · rw [answer]
    rfl
  · rw [answer]
    rfl

def Passes (service : Service) (routine : Action PUnit) : Prop :=
  ∀ provider, Ready service provider → ∃ after, routine.exec provider = (.ok ⟨⟩,after) ∧ provider.tick ≤ after.tick

theorem Passes.bind {first second : Action PUnit} (passes : Passes service first) (followed : Passes service second) :
    Passes service (first >>= fun _ => second) := by
  intro provider ready
  obtain ⟨middle,done,later⟩ := passes provider ready
  obtain ⟨after,ended,later'⟩ := followed middle (ready.later later)
  refine ⟨after,?_,later.trans later'⟩
  rw [exec_bind,done]
  exact ended

theorem passes_forM {β : Type} {items : List β} {body : β → Action PUnit} (each : ∀ item, Passes service (body item)) :
    Passes service (items.forM body) := by
  induction items with
  | nil => exact fun provider _ => ⟨provider,rfl,le_rfl⟩
  | cons item items ih => exact (each item).bind ih

theorem passes_ignored (answers : ∀ remote, (serve remote).1 = .ok () ∨ (serve remote).1 = .error notFound) :
    Passes service (ignoreNotFound (wrap false (request service serve))) :=
  fun _ ready => ⟨_,ignored_served ready answers,Nat.le_succ _⟩

theorem cleanupAccess_passes (credentialRefs fileIds : List String) : Passes service (cleanupAccess service credentialRefs fileIds) := by
  have vault (id : String) : Passes service (cleanupVault service id) := by
    refine (passes_ignored fun remote => ?_).bind (passes_ignored fun remote => ?_)
    · cases remote.vaults.get? id <;> simp
    · cases remote.vaults.get? id <;> simp
  refine (passes_forM vault).bind (passes_forM fun id => passes_ignored fun remote => ?_)
  cases remote.files.get? id <;> simp

theorem cleanup_served (managed : isManagedHandle handle = true) (serves : Serves service handle provider)
    (owned : Owned handle provider.remote) : ∃ after, (cleanup service handle).exec provider = (.ok (),after) := by
  unfold cleanup recollect
  rw [exec_bind,exec_atomic]
  dsimp only
  split
  · exact ⟨provider,rfl⟩
  · obtain ⟨good,later⟩ := cleanupSession_served serves owned
    obtain ⟨middle,accessed,_⟩ := cleanupAccess_passes handle.credentialRefs handle.uploadedFileIds _ (serves.ready.later later)
    unfold cleanupNow
    rw [exec_bind,exec_outcome]
    dsimp only
    rw [managed,if_pos rfl,exec_bind,accessed]
    dsimp only
    unfold finishCleanup
    cases ended : ((cleanupSession service handle).exec provider).1 with
    | ok answer => exact ⟨_,rfl⟩
    | error fault =>
      dsimp only
      rw [if_pos (good fault ended)]
      exact ⟨_,rfl⟩

end

/-! ### Handles of started sessions -/

theorem started_owned {agent : ResolvedAgent} {environment : ResolvedEnvironment} {request : StartRequest} {after : Provider}
    (started : Started options service agent environment request handle after) : isManagedHandle handle = true ∧ Owned handle after.remote := by
  obtain ⟨input,deadlineAt,budget,capability,same,held⟩ := started
  rw [same]
  refine ⟨rfl,fun session at_ => ?_⟩
  have at_ : after.remote.sessions.get? handle.id = some session := at_
  rw [held] at at_
  cases at_
  simp [ownsSession,startedHandle,startedSession,Json.string?]

theorem owned_stable : Stable (Spares handle) fun provider => Owned handle provider.remote := fun _ _ taken => taken.remote.owner

/-- In every run of cleanups of a started session's handle, whatever requests fail and whatever others do who spare it: a call that
has answered left nothing of what the handle names; a session is taken away only after it was seen at rest, and while it is; and a
further call that is served answers. -/
theorem cleanup_converges {ι : Type} [DecidableEq ι] {projectId : String} {request : StartRequest} {provider state after : Provider}
    {services : ι → Service} {pool later : ι → Thread Provider} {trace : List (Library.Moment ι Provider)}
    (started : (startForProject options service projectId request).exec provider = (.ok handle,state))
    (fresh : handle.id ∉ state.cleanedSessions) (honest : ∀ who, Honest (services who))
    (acts : ∀ who, pool who = (cleanup (services who) handle).thread ∨ (pool who).Takes (Spares handle))
    (ran : Interleaved pool state trace later after)
    -- A session that was seen at rest stays so while the call lasts.
    (rests : ∀ early deletion late look, trace = early ++ deletion::late → look ∈ early → look.who = deletion.who →
      Rests (services look.who) handle look.before → Rests (services deletion.who) handle deletion.before) :
    (∀ who, pool who = (cleanup (services who) handle).thread →
      later who = (settle (.ok ()) : Action Unit).thread → Gone handle after.remote) ∧
    (∀ early deletion late, trace = early ++ deletion::late →
      pool deletion.who = (cleanup (services deletion.who) handle).thread → Deletes handle deletion.before deletion.after →
        (∃ look ∈ early, look.who = deletion.who ∧ Rests (services deletion.who) handle look.before) ∧
          Rests (services deletion.who) handle deletion.before) ∧
    ∀ next, Honest next → Serves next handle after →
      ∃ last, (cleanup next handle).exec after = (.ok (),last) ∧ Gone handle last.remote := by
  have leads := @started_leads options service provider projectId request
  unfold Leads at leads
  rw [started] at leads
  obtain ⟨agent,environment,_,_,started⟩ := leads handle rfl
  obtain ⟨managed,owned⟩ := started_owned started
  have remembers : Remembers handle state := fun inside => absurd inside fresh
  have uphold (who : ι) : (pool who).Upholds (Spares handle) state := by
    obtain calls | spares := acts who
    · rw [calls]
      exact (cleanup_upholds (honest who) managed).thread remembers
    · exact spares.upholds (fun _ _ taken => taken) state
  have steps := ran.upheld uphold
  have path := ran.path steps
  refine ⟨?_,?_,?_⟩
  · intro who calls ended
    exact ran.concluded steps calls (cleanup_upholds (honest who) managed) remembers (fun _ => gone_stable) ended
  · intro early deletion late parts calls deletes
    obtain ⟨left,_,walked⟩ := ran.steps deletion.who calls
    have mine : own deletion.who trace = own deletion.who early ++ (deletion.before,deletion.after)::own deletion.who late := by
      rw [parts,own_append,own_cons_self]
    obtain ⟨moment,inside,seen⟩ := (cleanup_until (services deletion.who) handle).seen_before walked mine deletes
    obtain ⟨look,listed,same,rfl⟩ := mem_own_iff.mp inside
    have seen : Rests (services look.who) handle look.before := same ▸ seen
    exact ⟨⟨look,listed,same,same ▸ seen⟩,rests early deletion late look parts listed same seen⟩
  · intro next honestNext serves
    obtain ⟨last,done⟩ := cleanup_served managed serves (owned_stable.steps path owned)
    exact ⟨last,done,(cleanup_upholds honestNext managed).exec (remembers_stable.steps path remembers) done⟩

theorem writer_session_cleaned : ∃ handle state, (startForProject {} {} "a" beginning).exec environmentSynced.after = (.ok handle,state) ∧
    ∃ last, (cleanup {} handle).exec state = (.ok (),last) ∧ Gone handle last.remote := by
  have forgets : ((startForProject {} {} "a" beginning).exec environmentSynced.after).2.cleanedSessions = [] := by decide +kernel
  have answers : ((startForProject {} {} "a" beginning).exec environmentSynced.after).1.isOk = true := by decide +kernel
  rcases ended : (startForProject {} {} "a" beginning).exec environmentSynced.after with ⟨answer,state⟩
  rw [ended] at forgets answers
  cases answer with
  | error fault => cases answers
  | ok handle =>
    have fresh : handle.id ∉ state.cleanedSessions := by
      rw [forgets]
      exact List.not_mem_nil
    have honest : Honest {} := by
      intro tick error failed
      obtain impossible | impossible := failed
      · cases impossible
      · cases impossible
    have serves : Serves {} handle state := ⟨fun _ _ => rfl,⟨"idle",rfl,by decide⟩,.inl rfl⟩
    have converges := @cleanup_converges {} {} handle Unit _ "a" beginning environmentSynced.after state state (fun _ => {}) _ _ _ ended
      fresh (fun _ => honest) (fun _ => .inl rfl) (.done (fun _ => (cleanup {} handle).thread) state) (by simp)
    exact ⟨handle,state,rfl,converges.2.2 {} honest serves⟩

end AgentOS.ManagedAgents
