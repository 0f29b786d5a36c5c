import AgentOS.Library.Invariant
import AgentOS.ManagedAgents.Provider

/-! Handles that do not own the session they name. Cancelling asks for the
session's ownership before it acts; sending a message does not, and cleaning up
goes on to the files and vaults that the handle lists. -/
namespace AgentOS.ManagedAgents
open Library Routine
open OrderedMap (get?_set get?_erase)
variable {α : Type} {options : Options} {service : Service} {remote : Workspace} {handle : Handle}

/-! ### Requests that change nothing -/

def Stands (remote : Workspace) (provider : Provider) : Prop := provider.remote = remote

variable {post : α → Prop} {operation : Action α}

theorem request_within {serve : Workspace → Except ClientError α × Workspace}
    (kept : (serve remote).2 = remote) (answers : ∀ value, (serve remote).1 = .ok value → post value) :
    (request service serve).Within (Stands remote) post := by
  apply within_atomic
  intro provider here
  have same : provider.remote = remote := here
  dsimp only
  rw [same]
  cases service.outage provider.tick with
  | none =>
    refine ⟨kept,fun value answered => ?_⟩
    cases served : (serve remote).1 with
    | error error => simp [served,Except.mapError] at answered
    | ok held =>
      simp only [served,Except.mapError,Except.ok.injEq] at answered
      exact answers value (answered ▸ served)
  | refused error => exact ⟨rfl,fun _ impossible => nomatch impossible⟩
  | lost error => exact ⟨kept,fun _ impossible => nomatch impossible⟩

theorem wrap_within {mapConflict : Bool}
    (inside : operation.Within (Stands remote) post) : (wrap mapConflict operation).Within (Stands remote) post := by
  refine inside.outcome.bind fun answer answers => ?_
  cases answer with
  | error fault => exact within_throw _
  | ok value => exact within_pure (answers value rfl)

theorem ignoreNotFound_within (inside : operation.Within (Stands remote) post) :
    (ignoreNotFound operation).Within (Stands remote) fun _ => True := by
  refine inside.outcome.bind fun answer _ => ?_
  cases answer with
  | ok value => exact within_pure trivial
  | error fault =>
    dsimp only
    split
    · exact within_pure trivial
    · exact within_throw _

theorem ownedSession_within {session : RemoteSession} (held : remote.sessions.get? handle.id = some session)
    (forged : ownsSession handle session.metadata = false) : (ownedSession service handle).Within (Stands remote) fun _ => False := by
  have retrieving : (retrieve service handle.id).Within (Stands remote) fun found => found = session := by
    apply request_within
    · simp only [held]
    · intro found answered
      simp only [held,Except.ok.injEq] at answered
      exact answered.symm
  refine (wrap_within retrieving).bind fun found same => ?_
  rw [same,if_neg (by simp [forged])]
  exact within_throw _

theorem cancel_within {session : RemoteSession} (held : remote.sessions.get? handle.id = some session)
    (forged : ownsSession handle session.metadata = false) : (cancel service handle).Within (Stands remote) fun _ => True :=
  (ownedSession_within held forged).bind fun _ impossible => impossible.elim

theorem cleanupSession_within {session : RemoteSession} (held : remote.sessions.get? handle.id = some session)
    (forged : ownsSession handle session.metadata = false) :
    (cleanupSession service handle).Within (Stands remote) fun _ => False := by
  have refused : (ownedStatus service handle).Within (Stands remote) fun _ => False :=
    (ownedSession_within held forged).bind fun _ impossible => impossible.elim
  exact refused.bind fun _ impossible => impossible.elim

theorem cleanupAccess_within {credentialRefs fileIds : List String}
    (vaults : ∀ id ∈ credentialRefs, remote.vaults.get? id = none) (files : ∀ id ∈ fileIds, remote.files.get? id = none) :
    (cleanupAccess service credentialRefs fileIds).Within (Stands remote) fun _ => True := by
  have vault : ∀ id ∈ credentialRefs, (cleanupVault service id).Within (Stands remote) fun _ => True := by
    intro id inside
    have archiving : (archiveVault service id).Within (Stands remote) fun _ => True :=
      request_within (by simp only [vaults id inside]) fun _ _ => trivial
    have deleting : (deleteVault service id).Within (Stands remote) fun _ => True :=
      request_within (by simp only [vaults id inside]) fun _ _ => trivial
    exact (ignoreNotFound_within (wrap_within archiving)).bind fun _ _ => ignoreNotFound_within (wrap_within deleting)
  have file : ∀ id ∈ fileIds, (ignoreNotFound (wrap false (deleteFile service id))).Within (Stands remote) fun _ => True := by
    intro id inside
    have deleting : (deleteFile service id).Within (Stands remote) fun _ => True :=
      request_within (by simp only [files id inside]) fun _ _ => trivial
    exact ignoreNotFound_within (wrap_within deleting)
  exact (within_forM vault).bind fun _ _ => within_forM file

/-! ### Requests that are served -/

def serving : Service := {}

theorem exec_request (serve : Workspace → Except ClientError α × Workspace) (provider : Provider) :
    (request serving serve).exec provider = ((serve provider.remote).1.mapError .client,
      {provider with remote := (serve provider.remote).2,tick := provider.tick + 1}) := rfl

inductive Named where
  | vault (id : String)
  | file (id : String)

def missing (remote : Workspace) : Named → Prop
  | .vault id => remote.vaults.get? id = none
  | .file id => remote.files.get? id = none

def Clears (routine : Action PUnit) (gone : Workspace → Prop) : Prop :=
  ∀ provider : Provider, ∃ after, routine.exec provider = (.ok ⟨⟩,after) ∧ gone after.remote ∧
    ∀ other, missing provider.remote other → missing after.remote other

theorem exec_ignoreNotFound (operation : Action PUnit) (provider : Provider) :
    (ignoreNotFound operation).exec provider = match operation.exec provider with
      | (.ok _,after) => (.ok ⟨⟩,after)
      | (.error fault,after) => (if isProviderNotFound fault then .ok ⟨⟩ else .error fault,after) := by
  unfold ignoreNotFound
  rw [exec_bind,exec_outcome]
  rcases operation.exec provider with ⟨answer,after⟩
  cases answer with
  | ok value => rfl
  | error fault =>
    dsimp only
    split <;> rfl

theorem removal_clears {serve : Workspace → Except ClientError PUnit × Workspace} {gone : Workspace → Prop}
    (answers : ∀ remote, (serve remote).1 = .ok ⟨⟩ ∨ (serve remote).1 = .error notFound) (cleared : ∀ remote, gone (serve remote).2)
    (kept : ∀ remote other, missing remote other → missing (serve remote).2 other) :
    Clears (ignoreNotFound (wrap false (request serving serve))) gone := by
  intro provider
  refine ⟨{provider with remote := (serve provider.remote).2,tick := provider.tick + 1},?_,cleared _,kept _⟩
  rw [exec_ignoreNotFound,exec_wrap,exec_request]
  rcases answers provider.remote with answer | answer <;> rw [answer] <;> rfl

theorem Clears.bind {first second : Action PUnit} {early late : Workspace → Prop} (cleared : Clears first early)
    (followed : Clears second late) : Clears (first >>= fun _ => second) late := by
  intro provider
  obtain ⟨middle,done,_,kept⟩ := cleared provider
  obtain ⟨after,ended,gone,left⟩ := followed middle
  refine ⟨after,?_,gone,fun other absent => left other (kept other absent)⟩
  rw [exec_bind,done]
  exact ended

theorem cleanupVault_clears (id : String) : Clears (cleanupVault serving id) fun remote => missing remote (.vault id) := by
  have archiving : Clears (ignoreNotFound (wrap false (archiveVault serving id))) fun _ => True := by
    apply removal_clears
    · intro remote
      cases remote.vaults.get? id <;> simp
    · exact fun _ => trivial
    · intro remote other absent
      cases held : remote.vaults.get? id with
      | none => exact absent
      | some vault =>
        cases other with
        | file other => exact absent
        | vault other =>
          have different : other ≠ id := by
            rintro rfl
            exact nomatch absent.symm.trans held
          change OrderedMap.get? (OrderedMap.set _ _ _) _ = none
          rw [get?_set,if_neg different]
          exact absent
  have deleting : Clears (ignoreNotFound (wrap false (deleteVault serving id))) fun remote => missing remote (.vault id) := by
    apply removal_clears
    · intro remote
      cases remote.vaults.get? id <;> simp
    · intro remote
      cases held : remote.vaults.get? id with
      | none => exact held
      | some vault =>
        change OrderedMap.get? (OrderedMap.erase _ _) _ = none
        rw [get?_erase,if_pos rfl]
    · intro remote other absent
      cases held : remote.vaults.get? id with
      | none => exact absent
      | some vault =>
        cases other with
        | file other => exact absent
        | vault other =>
          change OrderedMap.get? (OrderedMap.erase _ _) _ = none
          rw [get?_erase]
          split
          · rfl
          · exact absent
  exact archiving.bind deleting

theorem deleteFile_clears (id : String) :
    Clears (ignoreNotFound (wrap false (deleteFile serving id))) fun remote => missing remote (.file id) := by
  apply removal_clears
  · intro remote
    cases remote.files.get? id <;> simp
  · intro remote
    cases held : remote.files.get? id with
    | none => exact held
    | some file =>
      change OrderedMap.get? (OrderedMap.erase _ _) _ = none
      rw [get?_erase,if_pos rfl]
  · intro remote other absent
    cases held : remote.files.get? id with
    | none => exact absent
    | some file =>
      cases other with
      | vault other => exact absent
      | file other =>
        change OrderedMap.get? (OrderedMap.erase _ _) _ = none
        rw [get?_erase]
        split
        · rfl
        · exact absent

theorem forM_clears {body : String → Action PUnit} {named : String → Named}
    (clears : ∀ id, Clears (body id) fun remote => missing remote (named id)) (ids : List String) :
    Clears (ids.forM body) fun remote => ∀ id ∈ ids, missing remote (named id) := by
  induction ids with
  | nil => exact fun provider => ⟨provider,rfl,by simp,fun _ absent => absent⟩
  | cons id ids ih =>
    intro provider
    obtain ⟨middle,done,gone,kept⟩ := clears id provider
    obtain ⟨after,ended,rest,left⟩ := ih middle
    refine ⟨after,?_,?_,fun other absent => left other (kept other absent)⟩
    · change (body id >>= fun _ => ids.forM body).exec provider = _
      rw [exec_bind,done]
      exact ended
    · intro other inside
      rcases List.mem_cons.mp inside with rfl | inside
      · exact left _ gone
      · exact rest other inside

theorem cleanupAccess_clears (credentialRefs fileIds : List String) :
    Clears (cleanupAccess serving credentialRefs fileIds) fun remote =>
      (∀ id ∈ credentialRefs, missing remote (.vault id)) ∧ ∀ id ∈ fileIds, missing remote (.file id) := by
  intro provider
  obtain ⟨middle,done,vaults,kept⟩ := forM_clears cleanupVault_clears credentialRefs provider
  obtain ⟨after,ended,files,left⟩ := forM_clears deleteFile_clears fileIds middle
  refine ⟨after,?_,⟨fun id inside => left _ (vaults id inside),files⟩,fun other absent => left other (kept other absent)⟩
  unfold cleanupAccess
  rw [exec_bind,done]
  exact ended

/-! ### The operations -/

inductive Operation where
  | cancel
  | cleanup
  | send (message : Option Json)
  | resume (input : Option Json)

def Operation.perform (options : Options) (service : Service) (handle : Handle) : Operation → Action Unit
  | .cancel => ManagedAgents.cancel service handle
  | .cleanup => ManagedAgents.cleanup service handle
  | .send message => ManagedAgents.send options service handle message
  | .resume input => ManagedAgents.resume options service handle input

/-- Whether an operation has nothing to act on but the session its handle names,
and does not act on that either. -/
def Operation.Spares (options : Options) (provider : Provider) (handle : Handle) : Operation → Prop
  | .cancel => True
  | .cleanup => handle.id ∈ provider.cleanedSessions ∨ isManagedHandle handle = false ∨
      (∀ id ∈ handle.credentialRefs, missing provider.remote (.vault id)) ∧
        ∀ id ∈ handle.uploadedFileIds, missing provider.remote (.file id)
  | .send message => ∃ fault, outgoing options.maxEventBytes message = .error fault
  | .resume input => ∀ message, input = some message → ∃ fault, outgoing options.maxEventBytes (some message) = .error fault

section
variable {provider : Provider} {session : RemoteSession} (held : provider.remote.sessions.get? handle.id = some session)

theorem remember_within (change : Provider → Provider) (kept : ∀ provider, (change provider).remote = provider.remote) :
    (remember change).Within (Stands remote) fun _ => True :=
  within_atomic fun now here => ⟨(kept now).trans here,fun _ _ => trivial⟩

theorem recollect_within (read : Provider → α) : (recollect read).Within (Stands remote) fun _ => True :=
  within_atomic fun _ here => ⟨here,fun _ _ => trivial⟩

theorem finishCleanup_within (ended : Except ProviderFault Unit) :
    (finishCleanup handle ended).Within (Stands remote) fun _ => True := by
  have noting : (noteCleaned handle).Within (Stands remote) fun _ => True := remember_within _ fun _ => rfl
  cases ended with
  | ok _ => exact noting
  | error fault =>
    dsimp only [finishCleanup]
    split
    · exact noting
    · exact within_throw fault

include held in
theorem cleanupNow_within (forged : ownsSession handle session.metadata = false)
    (spares : isManagedHandle handle = false ∨ (∀ id ∈ handle.credentialRefs, missing provider.remote (.vault id)) ∧
      ∀ id ∈ handle.uploadedFileIds, missing provider.remote (.file id)) :
    (cleanupNow service handle).Within (Stands provider.remote) fun _ => True := by
  refine (cleanupSession_within held forged).outcome.bind fun ended _ => ?_
  by_cases managed : isManagedHandle handle = true
  · rw [if_pos managed]
    rcases spares with unmanaged | ⟨vaults,files⟩
    · rw [unmanaged] at managed
      cases managed
    · exact (cleanupAccess_within vaults files).bind fun _ _ => finishCleanup_within ended
  · rw [if_neg managed]
    exact finishCleanup_within ended

theorem exec_finishCleanup (ended : Except ProviderFault Unit) (provider : Provider) :
    ((finishCleanup handle ended).exec provider).2.remote = provider.remote := by
  have inside : (finishCleanup handle ended).Within (Stands provider.remote) fun _ => True := finishCleanup_within ended
  exact @Within.exec _ _ _ _ _ _ inside provider rfl

theorem cleanupNow_clears (managed : isManagedHandle handle = true) :
    (∀ id ∈ handle.credentialRefs, missing ((cleanupNow serving handle).exec provider).2.remote (.vault id)) ∧
      ∀ id ∈ handle.uploadedFileIds, missing ((cleanupNow serving handle).exec provider).2.remote (.file id) := by
  unfold cleanupNow
  rw [exec_bind,exec_outcome]
  obtain ⟨after,cleared,gone,_⟩ := cleanupAccess_clears handle.credentialRefs handle.uploadedFileIds
    ((cleanupSession serving handle).exec provider).2
  dsimp only
  rw [if_pos managed,exec_bind,cleared]
  dsimp only
  rw [exec_finishCleanup]
  exact gone

include held in
theorem send_appends {event : Json} {message : Option Json} (sent : outgoing options.maxEventBytes message = .ok event) :
    ((send options serving handle message).exec provider).2.remote.sessions.get? handle.id = some (appended session event) := by
  unfold send sendEvent
  rw [sent]
  dsimp only
  rw [exec_wrap,exec_request,held]
  exact (get?_set _ _ _ _).trans (if_pos rfl)

theorem appended_ne (session : RemoteSession) (event : Json) : appended session event ≠ session := by
  intro same
  have events := congrArg (fun session : RemoteSession => session.events.length) same
  simp [appended] at events

include held in
/-- A handle that names a session it does not own changes nothing exactly by an
operation that has nothing to act on but that session, and does not act on it. -/
theorem forged_handle_changes_nothing_iff (options : Options) (forged : ownsSession handle session.metadata = false)
    (operation : Operation) :
    (∀ service steps, ((operation.perform options service handle).cut steps provider).remote = provider.remote) ↔
      operation.Spares options provider handle := by
  constructor
  · intro unchanged
    have ended : ((operation.perform options serving handle).exec provider).2.remote = provider.remote := by
      obtain ⟨steps,same⟩ := exists_cut (operation.perform options serving handle) provider
      rw [← same]
      exact unchanged serving steps
    have sending : ∀ message event, outgoing options.maxEventBytes message = .ok event →
        ((send options serving handle message).exec provider).2.remote ≠ provider.remote := by
      intro message event sent same
      have grown := send_appends held sent
      rw [same,held,Option.some.injEq] at grown
      exact appended_ne session event grown.symm
    cases operation with
    | cancel => trivial
    | cleanup =>
      by_cases cleaned : handle.id ∈ provider.cleanedSessions
      · exact .inl cleaned
      by_cases managed : isManagedHandle handle = true
      · refine .inr (.inr ?_)
        have now : (cleanup serving handle).exec provider = (cleanupNow serving handle).exec provider := by
          unfold cleanup
          rw [exec_bind]
          change Routine.exec (if decide (handle.id ∈ provider.cleanedSessions) = true then _ else _) provider = _
          rw [if_neg (by simpa using cleaned)]
        have gone := @cleanupNow_clears handle provider managed
        rw [← now] at gone
        change ((cleanup serving handle).exec provider).2.remote = _ at ended
        rwa [ended] at gone
      · exact .inr (.inl (by simpa using managed))
    | send message =>
      cases sent : outgoing options.maxEventBytes message with
      | error fault => exact ⟨fault,sent⟩
      | ok event => exact absurd ended (sending message event sent)
    | resume input =>
      rintro message rfl
      cases sent : outgoing options.maxEventBytes (some message) with
      | error fault => exact ⟨fault,rfl⟩
      | ok event => exact absurd ended (sending _ event sent)
  · intro spares service steps
    have refusing : ∀ message, (∃ fault, outgoing options.maxEventBytes message = .error fault) →
        (send options service handle message).Within (Stands provider.remote) fun _ => True := by
      rintro message ⟨fault,refused⟩
      unfold send
      rw [refused]
      exact within_throw fault
    cases operation with
    | cancel => exact (cancel_within held forged).cut rfl steps
    | cleanup =>
      rcases spares with cleaned | others
      · change (Routine.cut steps ((recollect fun provider => decide (handle.id ∈ provider.cleanedSessions)) >>=
          fun cleaned => if cleaned then pure () else cleanupNow service handle) provider).remote = _
        rcases cut_bind (recollect fun provider => decide (handle.id ∈ provider.cleanedSessions)) (fun cleaned =>
          if cleaned then pure () else cleanupNow service handle) steps provider with early | ⟨value,after,later,done,late⟩
        · rw [early]
          exact (recollect_within _).cut rfl steps
        · cases done
          rw [late,if_pos (by simpa using cleaned),cut_pure]
      · have within : (cleanup service handle).Within (Stands provider.remote) fun _ => True := by
          refine (recollect_within _).bind fun cleaned _ => ?_
          split
          · exact within_pure trivial
          · exact cleanupNow_within held forged others
        exact within.cut rfl steps
    | send message => exact (refusing message spares).cut rfl steps
    | resume input =>
      cases input with
      | none =>
        have within : (resume options service handle none).Within (Stands provider.remote) fun _ => True := within_pure trivial
        exact within.cut rfl steps
      | some message => exact (refusing (some message) (spares message rfl)).cut rfl steps

end

/-! ### A forged handle -/

def writing : RemoteSession := {
  agent := ("agent-1",1)
  environmentId := "environment-1"
  metadata := {runId := some "run-1",stepId := some "step-1",capabilityHash := some "secret"} }

def sharing : Provider :=
  {remote := {sessions := OrderedMap.empty.set "session-1" writing,files := OrderedMap.empty.set "file-1" "brief.md"}}

def guessed : Handle := {
  id := "session-1"
  runId := some (.str "run-1")
  stepId := some (.str "step-1")
  ownershipCapability := some (.str "guess")
  uploadedFileIds := ["file-1"] }

theorem guessed_cancel_changes_nothing : ownsSession guessed writing.metadata = false ∧
      ((∀ service steps, ((Operation.cancel.perform {} service guessed).cut steps sharing).remote = sharing.remote) ↔ True) :=
  ⟨by decide,forged_handle_changes_nothing_iff rfl {} (by decide) .cancel⟩

/-- The guessed handle speaks in the session and takes its file away, although
the cleanup it asks for is refused. -/
theorem guessed_handle_acts : ownsSession guessed writing.metadata = false ∧
    (((Operation.send (some (.str "stop"))).perform {} serving guessed).exec sharing).2.remote.sessions.get? "session-1" =
      some (appended writing (userMessage "stop")) ∧ ((Operation.cleanup.perform {} serving guessed).exec sharing).1 =
      .error (.conflict "Session ownership validation failed") ∧ sharing.remote.files.get? "file-1" = some "brief.md" ∧
    ((Operation.cleanup.perform {} serving guessed).exec sharing).2.remote.files.get? "file-1" = none := by
  refine ⟨by decide,?_,?_,rfl,?_⟩
  · decide +kernel
  · decide +kernel
  · decide +kernel

end AgentOS.ManagedAgents
