import AgentOS.Reducers.FeatureWorkflow

/-! What lies behind a feature's workflow that succeeded. Of the events that were processed, none of them a
duplicate, the plan's milestones come in order, and the checks come after the last piece of work. -/
namespace AgentOS.Reducers
open Library FeatureWorkflowState

section
variable (sha256 : String → String) (verifier : Option PublisherVerifier)

def FeatureWorkflowState.repeats (state : FeatureWorkflowState) (event : FeatureWorkflowEvent) : Bool :=
  match state.isDuplicate sha256 event with
  | .ok duplicate => duplicate
  | .error _ => false

/-- The events of a replay that are no duplicates, each with the state that it found. -/
def accepted : FeatureWorkflowState → List FeatureWorkflowEvent → List (FeatureWorkflowState × FeatureWorkflowEvent) :=
  fresh (FeatureWorkflowState.repeats sha256) (reduceFeatureWorkflow sha256 verifier)

end

def FeatureWorkflowEvent.works (event : FeatureWorkflowEvent) : Bool :=
  match event.type with
  | .implementationCompleted => true
  | .fixCompleted => true
  | _ => false

def types (events : List FeatureWorkflowEvent) : List FeatureWorkflowEventType := events.map FeatureWorkflowEvent.type

/-- After the last piece of work the events are of these types, in this order. -/
def SinceWork (checks : List FeatureWorkflowEventType) (events : List FeatureWorkflowEvent) : Prop :=
  ∃ early work after, events = early ++ work::after ∧ work.works = true ∧ (∀ event ∈ after, event.works = false) ∧
    checks.Sublist (types after)

/-- The publication's attestation was verified, and is the one that the workflow is bound to. -/
def Attested (verifier : Option PublisherVerifier) (binding : Option PublicationBinding) (publication : DraftPublication) : Prop :=
  ∃ verify claims, verifier = some verify ∧ verify publication.attestation publication.id = some claims ∧
    binding = some claims.toPublicationBinding

structure Completed (verifier : Option PublisherVerifier) (binding : Option PublicationBinding)
    (events : List FeatureWorkflowEvent) : Prop where
  planned : [FeatureWorkflowEventType.specificationCompleted,.specificationApproved,.planCompleted,.implementationCompleted].Sublist
    (types events)
  checked : ∃ publication, SinceWork [.testsPassed,.reviewPassed,.policyPassed,.draftPublished publication] events ∧
    Attested verifier binding publication

/-! ### Transitions -/

def advances : FeatureWorkflowEventType → Option (FeatureWorkflowPhase × FeatureWorkflowPhase)
  | .specificationCompleted => some (.specification,.specificationApproval)
  | .specificationApproved => some (.specificationApproval,.planning)
  | .planCompleted => some (.planning,.implementation)
  | .implementationCompleted => some (.implementation,.testing)
  | .testsPassed => some (.testing,.review)
  | .reviewPassed => some (.review,.policyValidation)
  | .fixCompleted => some (.fixing,.testing)
  | .policyPassed => some (.policyValidation,.draftPublication)
  | _ => none

/-- What a new event may do to the phase, and to the status where it is not the end. -/
inductive Transition (verifier : Option PublisherVerifier) (state : FeatureWorkflowState) (type : FeatureWorkflowEventType)
    (next : FeatureWorkflowState) : Prop
  | stays (phase : next.phase = state.phase) (idle : advances type = none) (status : next.status ≠ .succeeded)
  | fixes (before : state.phase = .testing ∨ state.phase = .review ∨ state.phase = .policyValidation) (phase : next.phase = .fixing)
      (idle : advances type = none) (status : next.status ≠ .succeeded)
  | advance {early late : FeatureWorkflowPhase} (moves : advances type = some (early,late)) (before : state.phase = early)
      (phase : next.phase = late) (status : next.status ≠ .succeeded)
      (approved : type = .specificationApproved → state.status = .awaitingApproval)
  | publishes {publication : DraftPublication} (same : type = .draftPublished publication) (before : state.phase = .draftPublication)
      (phase : next.phase = .draftPublication) (attested : Attested verifier state.publicationBinding publication)

section
variable {verifier : Option PublisherVerifier} {state next : FeatureWorkflowState} {type : FeatureWorkflowEventType}

theorem inPhase_ok {expected : FeatureWorkflowPhase} {found : Except String FeatureWorkflowState}
    (ok : state.inPhase expected type found = .ok next) : state.phase = expected ∧ found = .ok next := by
  unfold inPhase at ok
  split at ok
  · cases ok
  · rename_i there
    simp only [not_or,not_not] at there
    exact ⟨there.1,ok⟩

theorem pending_ok {found : FeatureWorkflowState} (ok : state.pending found = .ok next) :
    state.status = .awaitingApproval ∧ next = found := by
  unfold pending at ok
  split at ok
  · cases ok
  · rename_i awaiting
    cases ok
    exact ⟨not_not.mp awaiting,rfl⟩

theorem fix_transition (before : state.phase = .testing ∨ state.phase = .review ∨ state.phase = .policyValidation)
    (idle : advances type = none) : Transition verifier state type state.fix := by
  unfold fix retryOrFail
  split
  · exact .stays rfl idle (by simp)
  · exact .fixes before rfl idle (by simp)

theorem publish_ok {publication : DraftPublication} (ok : state.publish verifier publication = .ok next) :
    Attested verifier state.publicationBinding publication ∧ next.phase = state.phase ∧
      next.publicationBinding = state.publicationBinding := by
  unfold publish at ok
  split at ok
  · cases ok
  split at ok
  · cases ok
  rename_i claims verified
  split at ok
  · rename_i bound
    cases ok
    obtain ⟨verify,same,checked⟩ := Option.bind_eq_some_iff.mp verified
    exact ⟨⟨verify,claims,same,checked,bound.1⟩,rfl,rfl⟩
  · cases ok

theorem proceed_transition (live : state.status.terminal = false) (ok : state.proceed verifier type = .ok next) :
    Transition verifier state type next := by
  have unfinished : state.status ≠ .succeeded := by
    intro done
    rw [done] at live
    cases live
  unfold proceed at ok
  cases type with
  | specificationCompleted =>
    obtain ⟨before,same⟩ := inPhase_ok ok
    cases same
    exact .advance rfl before rfl (by simp) (by simp)
  | specificationApproved =>
    obtain ⟨before,same⟩ := inPhase_ok ok
    obtain ⟨awaiting,rfl⟩ := pending_ok same
    exact .advance rfl before rfl (by simp) fun _ => awaiting
  | specificationRejected reason =>
    obtain ⟨_,same⟩ := inPhase_ok ok
    obtain ⟨_,rfl⟩ := pending_ok same
    exact .stays rfl rfl (by simp)
  | planCompleted =>
    obtain ⟨before,same⟩ := inPhase_ok ok
    cases same
    exact .advance rfl before rfl unfinished (by simp)
  | implementationCompleted =>
    obtain ⟨before,same⟩ := inPhase_ok ok
    cases same
    exact .advance rfl before rfl unfinished (by simp)
  | testsPassed =>
    obtain ⟨before,same⟩ := inPhase_ok ok
    cases same
    exact .advance rfl before rfl unfinished (by simp)
  | testsFailed reason =>
    obtain ⟨before,same⟩ := inPhase_ok ok
    cases same
    exact fix_transition (.inl before) rfl
  | reviewPassed =>
    obtain ⟨before,same⟩ := inPhase_ok ok
    cases same
    exact .advance rfl before rfl unfinished (by simp)
  | reviewChangesRequested reason =>
    obtain ⟨before,same⟩ := inPhase_ok ok
    cases same
    exact fix_transition (.inr (.inl before)) rfl
  | fixCompleted =>
    obtain ⟨before,same⟩ := inPhase_ok ok
    cases same
    exact .advance rfl before rfl unfinished (by simp)
  | policyPassed =>
    obtain ⟨before,same⟩ := inPhase_ok ok
    cases same
    exact .advance rfl before rfl unfinished (by simp)
  | policyFailed reason =>
    obtain ⟨before,same⟩ := inPhase_ok ok
    cases same
    exact fix_transition (.inr (.inr before)) rfl
  | draftPublished publication =>
    obtain ⟨before,published⟩ := inPhase_ok ok
    obtain ⟨attested,phase,_⟩ := publish_ok published
    exact .publishes rfl before (phase.trans before) attested
  | crashed reason => cases ok
  | resume => cases ok
  | cancel reason => cases ok
  | exhaustBudget => cases ok

theorem proceed_binding (ok : state.proceed verifier type = .ok next) : next.publicationBinding = state.publicationBinding := by
  have fixed : state.fix.publicationBinding = state.publicationBinding := by
    unfold fix retryOrFail
    split <;> rfl
  have held {expected : FeatureWorkflowPhase} {found : FeatureWorkflowState}
      (ok : state.inPhase expected type (.ok found) = .ok next) (same : found.publicationBinding = state.publicationBinding) :
      next.publicationBinding = state.publicationBinding := by
    cases (inPhase_ok ok).2
    exact same
  have waited {expected : FeatureWorkflowPhase} {found : FeatureWorkflowState}
      (ok : state.inPhase expected type (state.pending found) = .ok next) (same : found.publicationBinding = state.publicationBinding) :
      next.publicationBinding = state.publicationBinding := by
    rw [(pending_ok (inPhase_ok ok).2).2]
    exact same
  cases type with
  | specificationCompleted => exact held ok rfl
  | specificationApproved => exact waited ok rfl
  | specificationRejected reason => exact waited ok rfl
  | planCompleted => exact held ok rfl
  | implementationCompleted => exact held ok rfl
  | testsPassed => exact held ok rfl
  | testsFailed reason => exact held ok fixed
  | reviewPassed => exact held ok rfl
  | reviewChangesRequested reason => exact held ok fixed
  | fixCompleted => exact held ok rfl
  | policyPassed => exact held ok rfl
  | policyFailed reason => exact held ok fixed
  | draftPublished publication => exact (publish_ok (inPhase_ok ok).2).2.2
  | crashed reason => cases ok
  | resume => cases ok
  | cancel reason => cases ok
  | exhaustBudget => cases ok

theorem transition_ok (live : state.status.terminal = false) (ok : state.transition verifier type = .ok next) :
    Transition verifier state type next := by
  have proceeds (other : state.transition verifier type = if state.status = .blocked then
      .error ("Illegal feature workflow transition from blocked using " ++ type.text) else state.proceed verifier type) :
      Transition verifier state type next := by
    rw [other] at ok
    split at ok
    · cases ok
    · exact proceed_transition live ok
  cases type with
  | cancel reason =>
    cases ok
    exact .stays rfl rfl (by simp)
  | exhaustBudget =>
    cases ok
    exact .stays rfl rfl (by simp)
  | crashed reason =>
    unfold transition at ok
    dsimp only at ok
    split at ok
    · rename_i blocked
      cases ok
      exact .stays rfl rfl (by simp [blocked])
    · cases ok
      unfold retryOrFail
      split
      · exact .stays rfl rfl (by simp)
      · exact .stays rfl rfl (by simp)
  | resume =>
    unfold transition at ok
    dsimp only at ok
    split at ok
    · cases ok
    · cases ok
      refine .stays rfl rfl ?_
      show (state.blockedFromStatus.getD .running).status ≠ .succeeded
      cases state.blockedFromStatus.getD .running <;> simp [BlockedFromStatus.status]
  | specificationCompleted => exact proceeds rfl
  | specificationApproved => exact proceeds rfl
  | specificationRejected reason => exact proceeds rfl
  | planCompleted => exact proceeds rfl
  | implementationCompleted => exact proceeds rfl
  | testsPassed => exact proceeds rfl
  | testsFailed reason => exact proceeds rfl
  | reviewPassed => exact proceeds rfl
  | reviewChangesRequested reason => exact proceeds rfl
  | fixCompleted => exact proceeds rfl
  | policyPassed => exact proceeds rfl
  | policyFailed reason => exact proceeds rfl
  | draftPublished publication => exact proceeds rfl

theorem transition_binding (ok : state.transition verifier type = .ok next) : next.publicationBinding = state.publicationBinding := by
  unfold transition at ok
  split at ok
  · cases ok
    rfl
  · cases ok
    rfl
  · split at ok
    · cases ok
      rfl
    · cases ok
      unfold retryOrFail
      split <;> rfl
  · split at ok
    · cases ok
    · cases ok
      rfl
  · split at ok
    · cases ok
    · exact proceed_binding ok

/-! ### Histories -/

def milestones : FeatureWorkflowPhase → List FeatureWorkflowEventType
  | .specification => []
  | .specificationApproval => [.specificationCompleted]
  | .planning => [.specificationCompleted,.specificationApproved]
  | .implementation => [.specificationCompleted,.specificationApproved,.planCompleted]
  | _ => [.specificationCompleted,.specificationApproved,.planCompleted,.implementationCompleted]

def checksPassed : FeatureWorkflowPhase → Option (List FeatureWorkflowEventType)
  | .testing => some []
  | .review => some [.testsPassed]
  | .policyValidation => some [.testsPassed,.reviewPassed]
  | .draftPublication => some [.testsPassed,.reviewPassed,.policyPassed]
  | _ => none

abbrev History := List (FeatureWorkflowState × FeatureWorkflowEvent)

def History.events (history : History) : List FeatureWorkflowEvent := history.map Prod.snd

def Approved (history : History) : Prop :=
  ∃ moment ∈ history, moment.2.type = .specificationApproved ∧ moment.1.status = .awaitingApproval

structure Traced (verifier : Option PublisherVerifier) (binding : Option PublicationBinding) (history : History)
    (state : FeatureWorkflowState) : Prop where
  bound : state.publicationBinding = binding
  planned : (milestones state.phase).Sublist (types history.events)
  approved : FeatureWorkflowEventType.specificationApproved ∈ milestones state.phase → Approved history
  checked : ∀ checks, checksPassed state.phase = some checks → SinceWork checks history.events
  published : state.status = .succeeded → state.phase = .draftPublication ∧
    ∃ publication, SinceWork [.testsPassed,.reviewPassed,.policyPassed,.draftPublished publication] history.events ∧
      Attested verifier binding publication

end

section
variable {verifier : Option PublisherVerifier} {binding : Option PublicationBinding} {state next : FeatureWorkflowState}
  {event : FeatureWorkflowEvent} {events : List FeatureWorkflowEvent} {history : History} {checks : List FeatureWorkflowEventType}

theorem types_append : types (events ++ [event]) = types events ++ [event.type] := by simp [types]

theorem History.events_append : History.events (history ++ [(state,event)]) = history.events ++ [event] := by simp [History.events]

section
variable (since : SinceWork checks events) (idle : event.works = false)
include since idle

theorem SinceWork.check : SinceWork (checks ++ [event.type]) (events ++ [event]) := by
  obtain ⟨early,work,after,rfl,works,none,sublist⟩ := since
  refine ⟨early,work,after ++ [event],by simp,works,?_,?_⟩
  · intro other inside
    rcases List.mem_append.mp inside with before | last
    · exact none other before
    · rwa [List.mem_singleton.mp last]
  · rw [types_append]
    exact sublist.append (List.Sublist.refl _)

theorem SinceWork.later : SinceWork checks (events ++ [event]) := by
  obtain ⟨early,work,after,same,works,none,sublist⟩ := since.check idle
  exact ⟨early,work,after,same,works,none,(List.sublist_append_left _ _).trans sublist⟩

end

theorem SinceWork.last (since : SinceWork checks (events ++ [event])) (some_ : checks ≠ []) : event.works = false := by
  obtain ⟨early,work,after,same,works,idle,sublist⟩ := since
  rcases after.eq_nil_or_concat with rfl | ⟨rest,last,rfl⟩
  · exact absurd (List.sublist_nil.mp sublist) some_
  · have ends : events ++ [event] = (early ++ work::rest) ++ [last] := by simpa [List.concat_eq_append] using same
    rw [(List.append_inj' ends rfl).2 |> List.singleton_inj.mp]
    exact idle last (by simp)

theorem sinceWork_work (works : event.works = true) : SinceWork [] (events ++ [event]) :=
  ⟨events,event,[],rfl,works,by simp,List.nil_sublist _⟩

theorem idle_works (idle : advances event.type = none) : event.works = false := by
  obtain ⟨id,type⟩ := event
  cases type <;> first | rfl | cases idle

variable {early late : FeatureWorkflowPhase}

theorem advances_milestones {type : FeatureWorkflowEventType}
    (moves : advances type = some (early,late)) : (milestones late).Sublist (milestones early ++ [type]) := by
  cases type <;> cases moves <;> simp [milestones]

theorem advances_approved {type : FeatureWorkflowEventType}
    (moves : advances type = some (early,late)) (approved : FeatureWorkflowEventType.specificationApproved ∈ milestones late) :
    FeatureWorkflowEventType.specificationApproved ∈ milestones early ∨ type = .specificationApproved := by
  have inside := (advances_milestones moves).subset approved
  rw [List.mem_append,List.mem_singleton] at inside
  exact inside.imp id Eq.symm

theorem advances_checks (moves : advances event.type = some (early,late))
    (passed : checksPassed late = some checks) : event.works = true ∧ checks = [] ∨
      event.works = false ∧ ∃ before, checksPassed early = some before ∧ checks = before ++ [event.type] := by
  obtain ⟨id,type⟩ := event
  cases type with
  | specificationCompleted => cases moves; cases passed
  | specificationApproved => cases moves; cases passed
  | planCompleted => cases moves; cases passed
  | implementationCompleted => cases moves; cases passed; exact .inl ⟨rfl,rfl⟩
  | testsPassed => cases moves; cases passed; exact .inr ⟨rfl,_,rfl,rfl⟩
  | reviewPassed => cases moves; cases passed; exact .inr ⟨rfl,_,rfl,rfl⟩
  | fixCompleted => cases moves; cases passed; exact .inl ⟨rfl,rfl⟩
  | policyPassed => cases moves; cases passed; exact .inr ⟨rfl,_,rfl,rfl⟩
  | _ => cases moves

theorem Approved.later (approved : Approved history) : Approved (history ++ [(state,event)]) := by
  obtain ⟨moment,inside,rest⟩ := approved
  exact ⟨moment,List.mem_append_left _ inside,rest⟩

theorem Traced.step (traced : Traced verifier binding history state) (same : next.publicationBinding = state.publicationBinding)
    (moved : Transition verifier state event.type next) : Traced verifier binding (history ++ [(state,event)]) next := by
  have planned : (milestones state.phase).Sublist (types (History.events (history ++ [(state,event)]))) := by
    rw [History.events_append,types_append]
    exact traced.planned.trans (List.sublist_append_left _ _)
  have bound : next.publicationBinding = binding := same.trans traced.bound
  cases moved with
  | stays phase idle status =>
    refine ⟨bound,by rw [phase]; exact planned,?_,?_,fun done => absurd done status⟩
    · rw [phase]
      exact fun approved => (traced.approved approved).later
    · rw [phase,History.events_append]
      exact fun checks passed => (traced.checked checks passed).later (idle_works idle)
  | fixes before phase idle status =>
    have there : milestones state.phase = milestones next.phase := by
      rw [phase]
      rcases before with before | before | before <;> rw [before] <;> rfl
    refine ⟨bound,by rw [← there]; exact planned,?_,?_,fun done => absurd done status⟩
    · rw [← there]
      exact fun approved => (traced.approved approved).later
    · rw [phase]
      intro checks none
      cases none
  | @advance early late moves before phase status approved =>
    refine ⟨bound,?_,?_,?_,fun done => absurd done status⟩
    · rw [phase,History.events_append,types_append]
      have more := traced.planned
      rw [before] at more
      exact (advances_milestones moves).trans (more.append (List.Sublist.refl _))
    · rw [phase]
      intro milestone
      rcases advances_approved moves milestone with earlier | here
      · rw [← before] at earlier
        exact (traced.approved earlier).later
      · exact ⟨(state,event),List.mem_append_right _ (List.mem_singleton.mpr rfl),here,approved here⟩
    · rw [phase,History.events_append]
      intro checks passed
      rcases advances_checks moves passed with ⟨works,rfl⟩ | ⟨idle,earlier,passedBefore,rfl⟩
      · exact sinceWork_work works
      · rw [← before] at passedBefore
        exact (traced.checked earlier passedBefore).check idle
  | @publishes publication same before phase attested =>
    have idle : event.works = false := by
      unfold FeatureWorkflowEvent.works
      rw [same]
    have passed : SinceWork [.testsPassed,.reviewPassed,.policyPassed] history.events := by
      apply traced.checked
      rw [before]
      rfl
    have there : milestones state.phase = milestones next.phase := by rw [before,phase]
    refine ⟨bound,by rw [← there]; exact planned,?_,?_,fun _ => ⟨phase,publication,?_,traced.bound ▸ attested⟩⟩
    · rw [← there]
      exact fun approved => (traced.approved approved).later
    · rw [phase,← before,History.events_append]
      exact fun checks passed => (traced.checked checks passed).later idle
    · rw [History.events_append]
      have checked := passed.check idle
      rwa [same] at checked

end

/-! ### Replays -/

section
variable {sha256 : String → String} {verifier : Option PublisherVerifier} {binding : Option PublicationBinding}
  {state next last : FeatureWorkflowState} {event : FeatureWorkflowEvent} {events : List FeatureWorkflowEvent} {history : History}

theorem reduceFeatureWorkflow_ok (ok : reduceFeatureWorkflow sha256 verifier state event = .ok next) :
    (state.repeats sha256 event = true ∧ next = state) ∨ state.repeats sha256 event = false ∧ state.status.terminal = false ∧
        ∃ moved processed, state.transition verifier event.type = .ok moved ∧ next = {moved with processed := processed} := by
  unfold reduceFeatureWorkflow at ok
  obtain ⟨fingerprint,printed,ok⟩ := bind_ok.mp ok
  obtain ⟨duplicate,judged,ok⟩ := bind_ok.mp ok
  have known : state.repeats sha256 event = duplicate := by
    unfold repeats
    rw [show state.isDuplicate sha256 event = .ok duplicate from bind_ok.mpr ⟨fingerprint,printed,judged⟩]
  cases duplicate with
  | true =>
    cases ok
    exact .inl ⟨known,rfl⟩
  | false =>
    rw [if_neg Bool.false_ne_true] at ok
    split at ok
    · cases ok
    · rename_i live
      obtain ⟨moved,moves,same⟩ := bind_ok.mp ok
      cases same
      exact .inr ⟨known,by simpa using live,moved,_,moves,rfl⟩

theorem repeated_stays (repeated : state.repeats sha256 event = true)
    (ok : reduceFeatureWorkflow sha256 verifier state event = .ok next) : next = state := by
  rcases reduceFeatureWorkflow_ok ok with ⟨_,same⟩ | ⟨new,_⟩
  · exact same
  · cases repeated.symm.trans new

theorem Traced.replayed (traced : Traced verifier binding history state)
    (replayed : replay (reduceFeatureWorkflow sha256 verifier) state events = .ok last) :
    Traced verifier binding (history ++ accepted sha256 verifier state events) last := by
  refine fresh_preserved (Traced verifier binding) repeated_stays ?_ traced replayed
  intro history state event next traced new reduced
  rcases reduceFeatureWorkflow_ok reduced with ⟨duplicate,_⟩ | ⟨_,live,moved,processed,moves,rfl⟩
  · cases new.symm.trans duplicate
  · have here := traced.step (transition_binding moves) (transition_ok live moves)
    exact ⟨here.bound,here.planned,here.approved,here.checked,here.published⟩

end

/-- A workflow that succeeded has, among its events that are no duplicates, the milestones of the plan in order, an
approval of the specification that was awaited, and after the last piece of work the checks and the attested publication. -/
theorem succeeded_workflow_completed {sha256 : String → String} {verifier : Option PublisherVerifier}
    {events : List FeatureWorkflowEvent} {options : FeatureWorkflowOptions} {state : FeatureWorkflowState}
    (replayed : replayFeatureWorkflow sha256 verifier events options = .ok state) (succeeded : state.status = .succeeded) :
    ∃ start, createFeatureWorkflow options = .ok start ∧ (History.events (accepted sha256 verifier start events)).Sublist events ∧
      Completed verifier options.publicationBinding (History.events (accepted sha256 verifier start events)) ∧
      Approved (accepted sha256 verifier start events) := by
  obtain ⟨start,created,replayed⟩ := bind_ok.mp replayed
  refine ⟨start,created,fresh_sublist,?_⟩
  unfold createFeatureWorkflow at created
  split at created
  · cases created
  cases created
  have begun : Traced verifier options.publicationBinding [] {
      phase := .specification,status := .running,maxRetries := options.maxRetries,retryCount := 0,processed := .none
      publicationBinding := options.publicationBinding} := by
    refine ⟨rfl,List.Sublist.refl _,?_,?_,?_⟩
    · intro impossible
      cases impossible
    · intro checks impossible
      cases impossible
    · intro impossible
      cases impossible
  have traced := begun.replayed replayed
  rw [List.nil_append] at traced
  obtain ⟨phase,checked⟩ := traced.published succeeded
  have planned := traced.planned
  have approved := traced.approved
  rw [phase] at planned approved
  exact ⟨⟨planned,checked⟩,approved (by simp [milestones])⟩

/-! ### A workflow that came back to its implementation -/

def fixtureBinding : PublicationBinding :=
  {scopeHash := "scope",actionHash := "action",baseSha := "base",patchHash := "patch"}

def fixtureVerifier : PublisherVerifier := fun _ _ => some {fixtureBinding with source := "repository-publisher"}

def fixturePublication : DraftPublication := {id := "pr-1",url := "https://example.test/1",draft := true,attestation := .str "signed"}

def fixtureOptions : FeatureWorkflowOptions := {maxRetries := 1,publicationBinding := some fixtureBinding}

def implemented : FeatureWorkflowEvent := ⟨"e4",.implementationCompleted⟩

def publishedEvents : List FeatureWorkflowEvent := [⟨"e1",.specificationCompleted⟩,⟨"e2",.specificationApproved⟩,
  ⟨"e3",.planCompleted⟩,implemented,⟨"e5",.testsFailed none⟩,⟨"e6",.fixCompleted⟩,⟨"e7",.testsPassed⟩,⟨"e8",.reviewPassed⟩,
  ⟨"e9",.policyPassed⟩,⟨"e10",.draftPublished fixturePublication⟩]

theorem published_succeeds : (replayFeatureWorkflow (fun text => text) (some fixtureVerifier) publishedEvents fixtureOptions).toOption.map
    FeatureWorkflowState.status = some .succeeded := by decide +kernel

/-- The plain workflow, with one fix, is such a workflow. -/
theorem published_workflow_completed : ∃ state start,
    replayFeatureWorkflow (fun text => text) (some fixtureVerifier) publishedEvents fixtureOptions = .ok state ∧
      state.status = .succeeded ∧ createFeatureWorkflow fixtureOptions = .ok start ∧
      Completed (some fixtureVerifier) fixtureOptions.publicationBinding
        (History.events (accepted (fun text => text) (some fixtureVerifier) start publishedEvents)) := by
  obtain ⟨state,replayed,succeeded⟩ := ok_of_map published_succeeds
  obtain ⟨start,created,_,completed,_⟩ := succeeded_workflow_completed replayed succeeded
  exact ⟨state,start,replayed,succeeded,created,completed⟩

theorem repeated_succeeds : (replayFeatureWorkflow (fun text => text) (some fixtureVerifier) (publishedEvents ++ [implemented])
    fixtureOptions).toOption.map FeatureWorkflowState.status = some .succeeded := by decide +kernel

/-- A repeated delivery of the implementation's completion, after the end, is the last one of the sequence. -/
theorem repeated_implementation_unchecked : ¬ ∀ (sha256 : String → String) (verifier : Option PublisherVerifier)
    (events : List FeatureWorkflowEvent) (options : FeatureWorkflowOptions) (state : FeatureWorkflowState),
    replayFeatureWorkflow sha256 verifier events options = .ok state → state.status = .succeeded →
      Completed verifier options.publicationBinding events := by
  intro claim
  obtain ⟨state,replayed,succeeded⟩ := ok_of_map repeated_succeeds
  obtain ⟨_,publication,since,_⟩ := claim _ _ _ _ state replayed succeeded
  exact absurd (since.last (by simp)) (by decide)

/-! ### Deliveries that come again -/

section
variable {processed : Processed} {id fingerprint other print : String} {room : Nat}

/-- The identifier is among the last that were processed, with its fingerprint, and has `room` for as many more. -/
def Processed.Knows (processed : Processed) (id fingerprint : String) (room : Nat) : Prop :=
  processed.fingerprints.get? id = some fingerprint ∧
    ∃ older later, processed.ids = older ++ id::later ∧ id ∉ older ∧ later.length + room < EVENT_DEDUPE_WINDOW

theorem expire_knows {fingerprints : OrderedMap String String} {older later : List String}
    (known : fingerprints.get? id = some fingerprint) (first : id ∉ older) (recent : later.length + room < EVENT_DEDUPE_WINDOW) :
    (Processed.expire (older ++ id::later) fingerprints).Knows id fingerprint room := by
  induction older generalizing fingerprints with
  | nil =>
    rw [List.nil_append,Processed.expire,if_neg (by simp only [List.length_cons]; omega)]
    exact ⟨known,[],later,rfl,first,recent⟩
  | cons oldest older ih =>
    rw [List.cons_append,Processed.expire]
    split
    · rw [List.mem_cons,not_or] at first
      exact ih (by rw [OrderedMap.get?_erase,if_neg first.1,known]) first.2
    · exact ⟨known,oldest::older,later,rfl,first,recent⟩

theorem record_knows (new : processed.isDuplicateEvent id fingerprint = .ok false) (recent : room < EVENT_DEDUPE_WINDOW) :
    (processed.recordProcessedEvent id fingerprint).Knows id fingerprint room := by
  unfold Processed.isDuplicateEvent at new
  split at new
  · split at new <;> cases new
  · exact expire_knows (by rw [OrderedMap.get?_set,if_pos rfl]) (fun listed => by simp [listed] at new) (by simpa using recent)

theorem Processed.Knows.record (knows : processed.Knows id fingerprint (room + 1))
    (new : processed.isDuplicateEvent other print = .ok false) :
    (processed.recordProcessedEvent other print).Knows id fingerprint room := by
  obtain ⟨known,older,later,ids,first,recent⟩ := knows
  have apart : id ≠ other := by
    intro same
    rw [isDuplicateEvent,← same,known] at new
    dsimp only at new
    split at new <;> cases new
  rw [recordProcessedEvent,ids,List.append_assoc,List.cons_append]
  exact expire_knows (by rw [OrderedMap.get?_set,if_neg apart,known]) first (by simp only [List.length_append,List.length_singleton]; omega)

end

section
variable {sha256 : String → String} {verifier : Option PublisherVerifier} {state next last : FeatureWorkflowState}
  {event other : FeatureWorkflowEvent} {events : List FeatureWorkflowEvent} {id fingerprint : String}

theorem reduceFeatureWorkflow_processed (ok : reduceFeatureWorkflow sha256 verifier state event = .ok next) :
    isEventId event.id = true ∧ let fingerprint := sha256 (canonicalJsonValue event.json)
      state.processed.isDuplicateEvent event.id fingerprint = .ok true ∧ next = state ∨
        state.processed.isDuplicateEvent event.id fingerprint = .ok false ∧
          next.processed = state.processed.recordProcessedEvent event.id fingerprint := by
  unfold reduceFeatureWorkflow eventFingerprint at ok
  obtain ⟨fingerprint,printed,ok⟩ := bind_ok.mp ok
  obtain ⟨duplicate,judged,ok⟩ := bind_ok.mp ok
  split at printed
  · rename_i safe
    cases printed
    cases duplicate with
    | true =>
      cases ok
      exact ⟨safe,.inl ⟨judged,rfl⟩⟩
    | false =>
      rw [if_neg Bool.false_ne_true] at ok
      split at ok
      · cases ok
      · obtain ⟨moved,_,same⟩ := bind_ok.mp ok
        cases same
        exact ⟨safe,.inr ⟨judged,rfl⟩⟩
  · cases printed

theorem replay_knows (knows : state.processed.Knows id fingerprint events.length)
    (replayed : replay (reduceFeatureWorkflow sha256 verifier) state events = .ok last) : last.processed.Knows id fingerprint 0 := by
  induction events generalizing state with
  | nil =>
    cases replayed
    exact knows
  | cons event events ih =>
    obtain ⟨next,reduced,rest⟩ := replay_cons.mp replayed
    refine ih ?_ rest
    rcases (reduceFeatureWorkflow_processed reduced).2 with ⟨_,rfl⟩ | ⟨new,recorded⟩
    · obtain ⟨known,older,later,ids,first,recent⟩ := knows
      exact ⟨known,older,later,ids,first,by simp only [List.length_cons] at recent; omega⟩
    · rw [recorded]
      exact knows.record new

/-- An event that was new once is known by its identifier as long as fewer than a window of events came after it: with the
same content it changes nothing, not even where the workflow has ended since, and with any other it is refused. -/
theorem redelivery_known (new : state.repeats sha256 event = false)
    (replayed : replay (reduceFeatureWorkflow sha256 verifier) state (event::events) = .ok last)
    (recent : events.length < EVENT_DEDUPE_WINDOW) (same : other.id = event.id) : reduceFeatureWorkflow sha256 verifier last other =
      if sha256 (canonicalJsonValue other.json) = sha256 (canonicalJsonValue event.json) then .ok last
      else .error ("Event ID " ++ event.id ++ " was reused with different type or payload") := by
  obtain ⟨next,reduced,rest⟩ := replay_cons.mp replayed
  obtain ⟨safe,⟨duplicate,_⟩ | ⟨fresh_,recorded⟩⟩ := reduceFeatureWorkflow_processed reduced
  · simp [repeats,isDuplicate,eventFingerprint,safe,bind,Except.bind,duplicate] at new
  have started := record_knows fresh_ recent
  rw [← recorded] at started
  obtain ⟨known,_⟩ := replay_knows started rest
  unfold reduceFeatureWorkflow eventFingerprint Processed.isDuplicateEvent
  rw [same,if_pos safe]
  simp only [bind,Except.bind,known]
  by_cases alike : sha256 (canonicalJsonValue other.json) = sha256 (canonicalJsonValue event.json)
  · simp [alike]
  · simp [alike,Ne.symm alike]

end

theorem implemented_known : ∃ state, replayFeatureWorkflow (fun text => text) (some fixtureVerifier) publishedEvents fixtureOptions =
    .ok state ∧ reduceFeatureWorkflow (fun text => text) (some fixtureVerifier) state implemented = .ok state := by
  obtain ⟨state,replayed,_⟩ := ok_of_map published_succeeds
  obtain ⟨start,created,run⟩ := bind_ok.mp replayed
  obtain ⟨middle,early,late⟩ := (@replay_append _ _ _ _ _ _ (publishedEvents.take 3) _).mp run
  refine ⟨state,replayed,?_⟩
  rw [redelivery_known ?_ late (by decide) rfl,if_pos rfl]
  cases created
  cases early
  decide +kernel

end AgentOS.Reducers
