import AgentOS.Kimi.Provider

/-! When all the starts of one session come to one session. A start registers what it prepared without looking again,
so that two of them that both found nothing register, and launch, one loop each. -/
namespace AgentOS.Kimi
open Library Routine
variable {τ : Type} {hmac : String → String → String} {clock : Nat → Instant} {options : ValidatedOptions τ} {id : String}

def Provider.madeUnder (provider : Provider τ) (id : String) : List RuntimeHandle :=
  provider.made.filter fun handle => handle.id = id

def Provider.launchedUnder (provider : Provider τ) (id : String) : List RuntimeHandle :=
  (provider.loops.map Prod.fst).filter fun handle => handle.id = id

/-- What a step of the provider's calls does: nothing to a session, or it registers one. -/
inductive ProviderStep (hmac : String → String → String) (clock : Nat → Instant) (options : ValidatedOptions τ)
    (before after : Provider τ) : Prop
  | quiet (sessions : after.sessions = before.sessions) (made : after.made = before.made) (loops : after.loops = before.loops)
  | registered (request : RuntimeStartRequest) (agent : RuntimeAgent) (transport : τ)
      (registers : after = (before.register hmac clock options request agent transport).2)

def Registers (id : String) (before after : Provider τ) : Prop :=
  ∃ handle : RuntimeHandle, handle.id = id ∧ after.made = before.made ++ [handle]

/-- One session was registered under the identifier, with one loop at most, and every start of it that succeeded
returned its handle. -/
def OneSession {ι : Type} (hmac : String → String → String) (options : ValidatedOptions τ) (id : String)
    (calls : ι → ProviderCall) (later : ι → Thread (Provider τ)) (after : Provider τ) : Prop :=
  (after.madeUnder id).length ≤ 1 ∧ (after.launchedUnder id).length ≤ 1 ∧
    ∀ who request preparation returned, calls who = .start request preparation →
      deriveSessionId hmac options request.runId request.stepId = id →
      later who = (settle (.ok returned) : Routine (Provider τ) String RuntimeHandle).thread →
      after.madeUnder id = [returned]

/-! ### Steps -/

theorem takes_awaited {α : Type} (answer : Except String α) :
    (awaited answer : Routine (Provider τ) String α).Takes (ProviderStep hmac clock options) :=
  takes_atomic fun _ => .quiet rfl rfl rfl

theorem takes_materialize (request : RuntimeStartRequest) (preparation : Preparation) :
    (materialize request preparation : Routine (Provider τ) String Unit).Takes (ProviderStep hmac clock options) := by
  unfold materialize
  split
  · exact takes_pure _
  · refine ((takes_awaited _).bind fun _ => takes_awaited _).outcome.bind fun ended => ?_
    cases ended with
    | ok _ => exact takes_pure _
    | error error => exact (takes_awaited _).outcome.bind fun _ => takes_throw _

theorem takes_start (request : RuntimeStartRequest) (preparation : Preparation) :
    (start hmac clock options request preparation).Takes (ProviderStep hmac clock options) := by
  refine Takes.bind (takes_atomic fun _ => .quiet rfl rfl rfl) fun begun => ?_
  cases begun with
  | existing handle => exact takes_pure _
  | fresh agent transport =>
    refine (takes_awaited _).bind fun _ => (takes_materialize _ _).bind fun _ => ?_
    exact takes_atomic fun _ => .registered request agent transport rfl

theorem ProviderCall.takes (call : ProviderCall) : (call.thread hmac clock options).Takes (ProviderStep hmac clock options) := by
  cases call with
  | syncAgent agent =>
    exact (takes_atomic fun _ => .quiet rfl rfl rfl : (Kimi.syncAgent agent).Takes (ProviderStep hmac clock options)).thread
  | syncEnvironment environment =>
    exact (takes_atomic fun _ => .quiet rfl rfl rfl :
      (Kimi.syncEnvironment environment).Takes (ProviderStep hmac clock options)).thread
  | start request preparation => exact (takes_start request preparation).thread

section
variable {before after provider : Provider τ}

theorem start_handle (begun : SessionStart) : (KimiSession.start clock begun).handle = begun.handle := by
  unfold KimiSession.start
  split <;> rfl

theorem register_own (request : RuntimeStartRequest) (agent : RuntimeAgent) (transport : τ)
    (same : deriveSessionId hmac options request.runId request.stepId = id) : ∃ handle : RuntimeHandle, handle.id = id ∧
      (provider.register hmac clock options request agent transport).1 = handle ∧
      (((provider.register hmac clock options request agent transport).2.sessions.get? id).map KimiSession.handle = some handle) ∧
      (provider.register hmac clock options request agent transport).2.madeUnder id = provider.madeUnder id ++ [handle] ∧
      ((provider.register hmac clock options request agent transport).2.launchedUnder id).Sublist
        (provider.launchedUnder id ++ [handle]) := by
  subst same
  refine ⟨(provider.register hmac clock options request agent transport).1,rfl,rfl,?_,?_,?_⟩
  · simp [Provider.register,OrderedMap.get?_set,start_handle]
  · simp [Provider.madeUnder,Provider.register]
  · unfold Provider.launchedUnder Provider.register
    cases isTrustedVerificationRequest request.input <;> simp

theorem register_other (request : RuntimeStartRequest) (agent : RuntimeAgent) (transport : τ)
    (other : deriveSessionId hmac options request.runId request.stepId ≠ id) :
    (provider.register hmac clock options request agent transport).2.sessions.get? id = provider.sessions.get? id ∧
      (provider.register hmac clock options request agent transport).2.madeUnder id = provider.madeUnder id ∧
      (provider.register hmac clock options request agent transport).2.launchedUnder id = provider.launchedUnder id := by
  refine ⟨?_,?_,?_⟩
  · simp [Provider.register,OrderedMap.get?_set,Ne.symm other]
  · simp [Provider.madeUnder,Provider.register,other]
  · unfold Provider.launchedUnder Provider.register
    cases isTrustedVerificationRequest request.input <;> simp [other]

theorem ProviderStep.under (taken : ProviderStep hmac clock options before after) (id : String) :
    (after.sessions.get? id = before.sessions.get? id ∧ after.madeUnder id = before.madeUnder id ∧
        after.launchedUnder id = before.launchedUnder id ∧ ¬ Registers id before after) ∨
      ∃ handle : RuntimeHandle, handle.id = id ∧ (after.sessions.get? id).map KimiSession.handle = some handle ∧
        after.madeUnder id = before.madeUnder id ++ [handle] ∧
        (after.launchedUnder id).Sublist (before.launchedUnder id ++ [handle]) ∧ Registers id before after := by
  cases taken with
  | quiet sessions made loops =>
    refine .inl ⟨by rw [sessions],by unfold Provider.madeUnder; rw [made],by unfold Provider.launchedUnder; rw [loops],?_⟩
    rintro ⟨handle,_,more⟩
    rw [made] at more
    simp at more
  | registered request agent transport registers =>
    subst registers
    by_cases same : deriveSessionId hmac options request.runId request.stepId = id
    · obtain ⟨handle,named,rfl,held,made,launched⟩ := @register_own τ hmac clock options id before request agent transport same
      exact .inr ⟨_,named,held,made,launched,_,named,rfl⟩
    · obtain ⟨held,made,launched⟩ := @register_other τ hmac clock options id before request agent transport same
      refine .inl ⟨held,made,launched,?_⟩
      rintro ⟨handle,named,more⟩
      have last := List.append_cancel_left more
      cases last
      exact same named

/-! ### Runs -/

structure Sole (id : String) (provider : Provider τ) : Prop where
  made : provider.madeUnder id = ((provider.sessions.get? id).map KimiSession.handle).toList
  launched : (provider.launchedUnder id).Sublist (provider.madeUnder id)

theorem Sole.step (sole : Sole id before) (taken : ProviderStep hmac clock options before after)
    (first : Registers id before after → before.sessions.get? id = none) : Sole id after := by
  rcases taken.under id with ⟨held,made,launched,_⟩ | ⟨handle,_,held,made,launched,registers⟩
  · exact ⟨by rw [made,held,sole.made],by rw [made,launched]; exact sole.launched⟩
  · have nothing : before.madeUnder id = [] := by
      rw [sole.made,first registers]
      rfl
    refine ⟨by rw [made,held,nothing]; rfl,?_⟩
    rw [made]
    exact launched.trans (sole.launched.append (.refl _))

theorem ProviderStep.filed (taken : ProviderStep hmac clock options before after)
    (filed : (before.sessions.get? id).isSome → before.madeUnder id ≠ []) :
    (after.sessions.get? id).isSome → after.madeUnder id ≠ [] := by
  rcases taken.under id with ⟨held,made,_,_⟩ | ⟨handle,_,_,made,_,_⟩
  · rw [held,made]
    exact filed
  · rw [made]
    simp

theorem ProviderStep.more (taken : ProviderStep hmac clock options before after) :
    (before.madeUnder id).length ≤ (after.madeUnder id).length := by
  rcases taken.under id with ⟨_,made,_,_⟩ | ⟨handle,_,_,made,_,_⟩
  · rw [made]
  · rw [made]
    simp

variable {request : RuntimeStartRequest} {handle : RuntimeHandle}

theorem begin_existing (found : provider.begin_ hmac options request = .ok (.existing handle)) :
    (provider.sessions.get? (deriveSessionId hmac options request.runId request.stepId)).map KimiSession.handle = some handle := by
  unfold Provider.begin_ at found
  split at found
  · cases found
  · split at found
    · cases found
    · split at found
      · cases found
      · split at found
        · cases found
        · split at found
          · cases found
          · split at found
            · cases found
            · split at found
              · rename_i existing held
                split at found
                · cases found
                · cases found
                  rw [held]
                  rfl
              · cases found

theorem start_finds {preparation : Preparation} {taken : List (Provider τ × Provider τ)}
    (same : deriveSessionId hmac options request.runId request.stepId = id)
    (ends : (start hmac clock options request preparation).Ends taken (.ok handle)) :
    ∃ step ∈ taken, (step.2.sessions.get? id).map KimiSession.handle = some handle := by
  obtain ⟨_,begun,later,rfl,looked,rest⟩ := ends_bind_ok.mp ends
  obtain ⟨now,rfl,found⟩ := ends_atomic.mp looked
  cases begun with
  | existing old =>
    obtain ⟨rfl,answered⟩ := ends_pure.mp rest
    cases answered
    exact ⟨(now,now),by simp,same ▸ begin_existing found.symm⟩
  | fresh agent transport =>
    obtain ⟨_,_,_,rfl,_,rest⟩ := ends_bind_ok.mp rest
    obtain ⟨_,_,_,rfl,_,rest⟩ := ends_bind_ok.mp rest
    obtain ⟨there,rfl,answered⟩ := ends_atomic.mp rest
    obtain ⟨made,_,rfl,held,_⟩ := @register_own τ hmac clock options id there request agent transport same
    cases answered
    exact ⟨(there,(there.register hmac clock options request agent transport).2),by simp,held⟩

end

variable {ι : Type} [DecidableEq ι] {calls : ι → ProviderCall} {later : ι → Thread (Provider τ)} {after : Provider τ}
  {trace : List (Moment ι (Provider τ))}

theorem returned_last {who : ι} {request : RuntimeStartRequest} {preparation : Preparation} {handle : RuntimeHandle}
    (ran : Interleaved (fun who => (calls who).thread hmac clock options) {} trace later after)
    (first : ∀ moment ∈ trace, Registers id moment.before moment.after → moment.before.sessions.get? id = none)
    (called : calls who = .start request preparation) (same : deriveSessionId hmac options request.runId request.stepId = id)
    (ended : later who = (settle (.ok handle) : Routine (Provider τ) String RuntimeHandle).thread) :
    (after.sessions.get? id).map KimiSession.handle = some handle := by
  have started : (calls who).thread hmac clock options = (start hmac clock options request preparation).thread := by
    rw [called]
    rfl
  obtain ⟨step,mine,held⟩ := start_finds same (ran.routine_ends who started ended)
  obtain ⟨moment,inside,_,rfl⟩ := mem_own_iff.mp mine
  have takes := ran.moments fun who => (calls who).takes
  obtain ⟨early,late,rfl⟩ := List.append_of_mem inside
  obtain ⟨_,_,rest⟩ := ran.upto
  obtain ⟨_,middle,rest⟩ := rest.head
  refine rest.preserved (fun provider => (provider.sessions.get? id).map KimiSession.handle = some handle) ?_ held
  intro next inside here
  have inside' : next ∈ early ++ moment::late := by simp [inside]
  rcases (takes next inside').under id with ⟨kept,_⟩ | ⟨_,_,_,_,_,registers⟩
  · rw [kept]
    exact here
  · rw [first next inside' registers] at here
    cases here

/-- The starts of a session come to one session exactly where each that registers it still finds none registered. -/
theorem starts_agree_iff (ran : Interleaved (fun who => (calls who).thread hmac clock options) {} trace later after) (id : String) :
    OneSession hmac options id calls later after ↔
      ∀ moment ∈ trace, Registers id moment.before moment.after → moment.before.sessions.get? id = none := by
  have takes := ran.moments fun who => (calls who).takes
  constructor
  · rintro ⟨one,_,_⟩ moment inside registers
    obtain ⟨early,late,rfl⟩ := List.append_of_mem inside
    obtain ⟨middle,reached,rest⟩ := ran.upto
    have filed : (moment.before.sessions.get? id).isSome → moment.before.madeUnder id ≠ [] :=
      reached.preserved (fun provider => (provider.sessions.get? id).isSome → provider.madeUnder id ≠ [])
        (fun next inside => (takes next (by simp [inside])).filed) (by simp [OrderedMap.get?_empty])
    obtain ⟨_,_,rest⟩ := rest.head
    have more : (moment.after.madeUnder id).length ≤ (after.madeUnder id).length :=
      rest.preserved (fun provider => (moment.after.madeUnder id).length ≤ (provider.madeUnder id).length)
        (fun next inside here => here.trans (takes next (by simp [inside])).more) le_rfl
    rcases (takes moment inside).under id with ⟨_,_,_,nothing⟩ | ⟨handle,_,_,made,_,_⟩
    · exact absurd registers nothing
    · rw [made,List.length_append,List.length_singleton] at more
      have none : moment.before.madeUnder id = [] := List.length_eq_zero_iff.mp (by omega)
      by_contra held
      exact filed (Option.isSome_iff_ne_none.mpr held) none
  · intro first
    have sole : Sole id after := ran.preserved (Sole id)
      (fun moment inside held => held.step (takes moment inside) (first moment inside)) ⟨rfl,.refl _⟩
    have one : (after.madeUnder id).length ≤ 1 := by
      rw [sole.made]
      cases (after.sessions.get? id).map KimiSession.handle <;> simp
    refine ⟨one,sole.launched.length_le.trans one,?_⟩
    intro who request preparation returned called same ended
    rw [sole.made,returned_last ran first called same ended]
    rfl

/-! ### Two starts -/

def fixtureHmac (_ _ : String) : String := "00"

def fixtureOptions : ValidatedOptions Unit where
  transport := some ()
  ownershipSecret := "secret"

/-- An agent and an environment, and everybody else starts the same step of the same run. -/
def fixtureCalls : Nat → ProviderCall
  | 0 => .syncAgent {id := "implementer",model := "kimi-k2"}
  | 1 => .syncEnvironment {id := "node"}
  | _ => .start {runId := "run_1",stepId := "step_1",agentId := "implementer",environmentId := "node",input := .str "implement"} {}

def fixturePool (who : Nat) : Thread (Provider Unit) := (fixtureCalls who).thread fixtureHmac (fun _ => 0) fixtureOptions

def played (schedule : List Nat) : List (Moment Nat (Provider Unit)) × (Nat → Thread (Provider Unit)) × Provider Unit :=
  play schedule fixturePool {}

def fixtureId : String := deriveSessionId fixtureHmac fixtureOptions "run_1" "step_1"

theorem second_start_finds :
    OneSession fixtureHmac fixtureOptions fixtureId fixtureCalls (played [0,1,2,2,2,3]).2.1 (played [0,1,2,2,2,3]).2.2 := by
  have free : ((played [0,1,2,2,2,3]).1.all fun moment => (moment.before.sessions.get? fixtureId).isNone ||
      moment.after.made.length == moment.before.made.length) = true := by rfl
  refine (starts_agree_iff (interleaved_play _ _ _) fixtureId).mpr fun moment inside registers => ?_
  obtain ⟨handle,_,more⟩ := registers
  have here := List.all_eq_true.mp free moment inside
  rw [more] at here
  simpa using here

/-- Two starts that both look before either registers launch two loops. -/
theorem two_starts_two_loops : ¬ ∀ (hmac : String → String → String) (clock : Nat → Instant) (options : ValidatedOptions Unit)
    (calls : Nat → ProviderCall) (trace : List (Moment Nat (Provider Unit))) (later : Nat → Thread (Provider Unit))
    (after : Provider Unit) (id : String), Interleaved (fun who => (calls who).thread hmac clock options) {} trace later after →
      OneSession hmac options id calls later after := by
  intro claim
  have one := claim fixtureHmac (fun _ => 0) fixtureOptions fixtureCalls _ _ _ fixtureId
    (interleaved_play [0,1,2,3,2,3,2,3] fixturePool {})
  have two : ((played [0,1,2,3,2,3,2,3]).2.2.launchedUnder fixtureId).length = 2 := by rfl
  have impossible := two ▸ one.2.1
  omega

end AgentOS.Kimi
