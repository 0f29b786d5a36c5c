import AgentOS.LocalDirect.Dispatcher

/-! What the dispatcher keeps over a run of events: one execution at a time is with the handler, an aborted one is never
handed to it again, and one that has ended stays as it ended. -/
namespace AgentOS.LocalDirect
open Library

/-! ### One event -/

/-- What an event can do to an execution of the chain, and whether it hands it to the handler. -/
inductive Goes (chain : List Scheduled) (event : DispatchEvent) (place : Nat) (scheduled : Scheduled) : Bool → Scheduled → Prop
  | stays : Goes chain event place scheduled false scheduled
  | aborts : Goes chain event place scheduled false scheduled.abort
  | begins (turn : scheduled.turn = .queued) (calm : scheduled.execution.aborted = false) (next : reached chain place = true) :
      Goes chain event place scheduled true (scheduled.attempt 0)
  | cancelled (turn : scheduled.turn = .queued) (next : reached chain place = true) (message at_ : String) :
      Goes chain event place scheduled false (scheduled.fail message at_)
  | completes (attempt : Nat) (turn : scheduled.turn = .handling attempt) (at_ : String) :
      Goes chain event place scheduled false (scheduled.complete at_)
  | retries (thrown : Thrown) (event_eq : event = .handled place (.error thrown)) (turn : scheduled.turn = .handling 0)
      (transientFault : isTransient thrown = true) : Goes chain event place scheduled false (scheduled.delay (errorMessage thrown))
  | fails (attempt : Nat) (turn : scheduled.turn = .handling attempt) (message at_ : String) :
      Goes chain event place scheduled false (scheduled.fail message at_)
  | again (message : String) (turn : scheduled.turn = .delaying message) (calm : scheduled.execution.aborted = false) :
      Goes chain event place scheduled true (scheduled.attempt 1)
  | stops (message : String) (turn : scheduled.turn = .delaying message) (at_ : String) :
      Goes chain event place scheduled false (scheduled.fail message at_)

def calls (place : Nat) : Reaction → Bool
  | .called other _ _ _ => other = place
  | _ => false

section
variable {options : LocalDirectDispatcherOptions} {dispatcher : Dispatcher} {event : DispatchEvent} {place other : Nat}
  {scheduled later held : Scheduled} {chain : List Scheduled} {change : Scheduled → Scheduled} {called : Bool}

theorem modify_at (here : chain[place]? = some scheduled) :
    (chain.modify other change)[place]? = some (if other = place then change scheduled else scheduled) := by
  rw [List.getElem?_modify,here]
  rfl

theorem changed_goes (here : chain[place]? = some scheduled) (there : chain[other]? = some held)
    (goes : Goes chain event other held called (change held)) :
    ∃ called' later, (chain.modify other change)[place]? = some later ∧ Goes chain event place scheduled called' later ∧
      (called' = true ↔ other = place ∧ called = true) := by
  rw [modify_at here]
  by_cases same : other = place
  · subst same
    cases here.symm.trans there
    exact ⟨called,_,rfl,by rw [if_pos rfl]; exact goes,by simp⟩
  · exact ⟨false,_,rfl,by rw [if_neg same]; exact .stays,by simp [same]⟩

def Moves (dispatcher : Dispatcher) (event : DispatchEvent) (place : Nat) (scheduled : Scheduled) (reply : Reaction × Dispatcher) : Prop :=
  ∃ called later, reply.2.chain[place]? = some later ∧ Goes dispatcher.chain event place scheduled called later ∧
    (called = true ↔ calls place reply.1 = true)

theorem unmoved {reply : Reaction × Dispatcher} (here : dispatcher.chain[place]? = some scheduled)
    (same : reply.2.chain[place]? = dispatcher.chain[place]?) (quiet : calls place reply.1 = false) :
    Moves dispatcher event place scheduled reply :=
  ⟨false,scheduled,same.trans here,.stays,by simp [quiet]⟩

theorem ending_moves {ended : String → Scheduled → Scheduled} (here : dispatcher.chain[place]? = some scheduled)
    (there : dispatcher.chain[other]? = some held)
    (goes : Goes dispatcher.chain event other held false (ended (options.clock dispatcher.tick) held)) :
    Moves dispatcher event place scheduled (ending options dispatcher other ended) := by
  obtain ⟨called,later,found,goes',iff⟩ := changed_goes here there goes
  exact ⟨called,later,found,goes',by simpa [ending,calls] using iff⟩

theorem attempting_moves {number : Nat} (here : dispatcher.chain[place]? = some scheduled)
    (there : dispatcher.chain[other]? = some held) (goes : Goes dispatcher.chain event other held true (held.attempt number)) :
    Moves dispatcher event place scheduled (attempting options dispatcher other held number) := by
  obtain ⟨called,later,found,goes',iff⟩ := changed_goes here there goes
  exact ⟨called,later,found,goes',by simpa [attempting,calls] using iff⟩

theorem start_moves (runId : String) (resumeGeneration : Int) (here : dispatcher.chain[place]? = some scheduled) :
    Moves dispatcher event place scheduled (start options dispatcher runId resumeGeneration) := by
  unfold start
  split
  · exact unmoved here rfl rfl
  split
  · exact unmoved here rfl rfl
  split
  · exact unmoved here rfl rfl
  · exact unmoved here (List.getElem?_append_left (List.getElem?_eq_some_iff.mp here).1) rfl

theorem cancel_moves (externalRunRef : String) (here : dispatcher.chain[place]? = some scheduled) :
    Moves dispatcher event place scheduled (.silent,cancel dispatcher externalRunRef) := by
  unfold cancel
  split
  · rename_i other named
    by_cases same : other = place
    · subst same
      exact ⟨false,scheduled.abort,(modify_at here).trans (by rw [if_pos rfl]),.aborts,by simp [calls]⟩
    · exact unmoved here (((modify_at here).trans (by rw [if_neg same])).trans here.symm) rfl
  · exact unmoved here rfl rfl

section
variable (here : dispatcher.chain[place]? = some scheduled)
include here

theorem close_at : (close dispatcher).chain[place]? =
    some (if place ∈ dispatcher.executions.values ∧ scheduled.execution.status = .executing then scheduled.abort else scheduled) := by
  unfold close
  rw [List.getElem?_mapIdx,here]
  rfl

theorem close_moves : Moves dispatcher event place scheduled (.silent,close dispatcher) := by
  refine ⟨false,_,close_at here,?_,by simp [calls]⟩
  split
  · exact .aborts
  · exact .stays

theorem begin_moves : Moves dispatcher event place scheduled (begin options dispatcher other) := by
  unfold begin
  split
  · exact unmoved here rfl rfl
  · rename_i held there
    split
    · rename_i ready
      split
      · exact ending_moves here there (.cancelled ready.1 ready.2 _ _)
      · rename_i calm
        exact attempting_moves here there (.begins ready.1 (Bool.not_eq_true _ ▸ calm) ready.2)
    · exact unmoved here rfl rfl

end

theorem handled_moves (outcome : Except Thrown Unit) (here : dispatcher.chain[place]? = some scheduled) :
    Moves dispatcher (.handled other outcome) place scheduled (handled options dispatcher other outcome) := by
  unfold handled
  split
  · exact unmoved here rfl rfl
  · rename_i held there
    split
    · rename_i attempt done turn
      exact ending_moves here there (.completes attempt turn _)
    · rename_i attempt thrown turn
      split
      · rename_i first
        obtain ⟨called,later,found,goes,iff⟩ := changed_goes here there (.retries thrown rfl (first.1 ▸ turn) first.2)
        exact ⟨called,later,found,goes,by simpa [calls] using iff⟩
      · exact ending_moves here there (.fails attempt turn _ _)
    · exact unmoved here rfl rfl

theorem delayed_moves (here : dispatcher.chain[place]? = some scheduled) :
    Moves dispatcher event place scheduled (delayed options dispatcher other) := by
  unfold delayed
  split
  · exact unmoved here rfl rfl
  · rename_i held there
    split
    · rename_i message turn
      split
      · exact ending_moves here there (.stops message turn _)
      · rename_i calm
        exact attempting_moves here there (.again message turn (Bool.not_eq_true _ ▸ calm))
    · exact unmoved here rfl rfl

theorem dispatch_moves (options : LocalDirectDispatcherOptions) (event : DispatchEvent) (here : dispatcher.chain[place]? = some scheduled) :
    Moves dispatcher event place scheduled (dispatch options dispatcher event) := by
  cases event with
  | startFeature runId resumeGeneration => exact start_moves runId resumeGeneration here
  | startGoal runId => exact unmoved here rfl rfl
  | cancel externalRunRef => exact cancel_moves externalRunRef here
  | close => exact close_moves here
  | begins other => exact begin_moves here
  | handled other outcome => exact handled_moves outcome here
  | delayed other => exact delayed_moves here

theorem dispatch_called (event : DispatchEvent) (called : calls place (dispatch options dispatcher event).1 = true) :
    ∃ scheduled, dispatcher.chain[place]? = some scheduled := by
  have attempted : ∀ {other held number}, dispatcher.chain[other]? = some held →
      calls place (attempting options dispatcher other held number).1 = true → ∃ scheduled, dispatcher.chain[place]? = some scheduled :=
    fun there same => ⟨_,of_decide_eq_true same ▸ there⟩
  cases event with
  | startFeature runId resumeGeneration =>
    revert called
    change calls place (start options dispatcher runId resumeGeneration).1 = true → _
    unfold start
    repeat' split
    all_goals exact fun quiet => nomatch quiet
  | startGoal runId => cases called
  | cancel externalRunRef => cases called
  | close => cases called
  | begins other =>
    revert called
    change calls place (begin options dispatcher other).1 = true → _
    unfold begin
    split
    · exact fun quiet => nomatch quiet
    split
    · split
      · exact fun quiet => nomatch quiet
      · exact attempted (by assumption)
    · exact fun quiet => nomatch quiet
  | handled other outcome =>
    revert called
    change calls place (handled options dispatcher other outcome).1 = true → _
    unfold handled
    repeat' split
    all_goals exact fun quiet => nomatch quiet
  | delayed other =>
    revert called
    change calls place (delayed options dispatcher other).1 = true → _
    unfold delayed
    split
    · exact fun quiet => nomatch quiet
    split
    · split
      · exact fun quiet => nomatch quiet
      · exact attempted (by assumption)
    · exact fun quiet => nomatch quiet

/-! ### What is added -/

/-- An execution is added for a start alone, under a reference that names none that is executing. -/
inductive Grows (options : LocalDirectDispatcherOptions) (dispatcher : Dispatcher) (event : DispatchEvent) : Reaction × Dispatcher → Prop
  | same {reply : Reaction × Dispatcher} (executions : reply.2.executions = dispatcher.executions)
      (length : reply.2.chain.length = dispatcher.chain.length) (closed : dispatcher.closed = true → reply.2.closed = true) :
      Grows options dispatcher event reply
  | added (runId : String) (resumeGeneration : Int) (ref : String) (standing : dispatcher.closed = false)
      (idle : ∀ place scheduled, dispatcher.executions.get? ref = some place → dispatcher.chain[place]? = some scheduled →
        scheduled.execution.status ≠ .executing) :
      Grows options dispatcher event (schedule options dispatcher runId resumeGeneration ref)

theorem modified_grows {reaction : Reaction} {tick : Nat} :
    Grows options dispatcher event (reaction,{dispatcher with chain := dispatcher.chain.modify other change,tick := tick}) :=
  .same rfl (List.length_modify ..) id

theorem start_grows (runId : String) (resumeGeneration : Int) :
    Grows options dispatcher event (start options dispatcher runId resumeGeneration) := by
  unfold start
  split
  · exact .same rfl rfl id
  rename_i standing
  split
  · exact .same rfl rfl id
  rename_i ref _
  split
  · exact .same rfl rfl id
  · rename_i idle
    refine .added runId resumeGeneration ref (Bool.not_eq_true _ ▸ standing) fun place scheduled named found executing => idle ?_
    rw [named,Option.bind_some,found,Option.any_some,decide_eq_true executing]

theorem cancel_grows (externalRunRef : String) : Grows options dispatcher event (.silent,cancel dispatcher externalRunRef) := by
  unfold cancel
  split
  · exact modified_grows
  · exact .same rfl rfl id

theorem begin_grows : Grows options dispatcher event (begin options dispatcher other) := by
  unfold begin
  split
  · exact .same rfl rfl id
  split
  · split
    · exact modified_grows
    · exact modified_grows
  · exact .same rfl rfl id

theorem handled_grows (outcome : Except Thrown Unit) : Grows options dispatcher event (handled options dispatcher other outcome) := by
  unfold handled
  split
  · exact .same rfl rfl id
  split
  · exact modified_grows
  · split
    · exact modified_grows
    · exact modified_grows
  · exact .same rfl rfl id

theorem delayed_grows : Grows options dispatcher event (delayed options dispatcher other) := by
  unfold delayed
  split
  · exact .same rfl rfl id
  split
  · split
    · exact modified_grows
    · exact modified_grows
  · exact .same rfl rfl id

theorem dispatch_grows (options : LocalDirectDispatcherOptions) (dispatcher : Dispatcher) (event : DispatchEvent) :
    Grows options dispatcher event (dispatch options dispatcher event) := by
  cases event with
  | startFeature runId resumeGeneration => exact start_grows runId resumeGeneration
  | startGoal runId => exact .same rfl rfl id
  | cancel externalRunRef => exact cancel_grows externalRunRef
  | close => exact .same rfl (List.length_mapIdx ..) fun _ => rfl
  | begins other => exact begin_grows
  | handled other outcome => exact handled_grows outcome
  | delayed other => exact delayed_grows

theorem dispatch_closed (event : DispatchEvent) (closed : dispatcher.closed = true) :
    (dispatch options dispatcher event).2.closed = true := by
  have grows := dispatch_grows options dispatcher event
  generalize dispatch options dispatcher event = reply at grows
  cases grows with
  | same _ _ still => exact still closed
  | added runId resumeGeneration ref standing _ => exact closed

theorem dispatch_fresh (absent : dispatcher.chain[place]? = none)
    (found : (dispatch options dispatcher event).2.chain[place]? = some later) : dispatcher.closed = false ∧ later.turn = .queued ∧
      later.execution.status = .executing ∧ (dispatch options dispatcher event).2.executions.get? later.ref = some place := by
  have beyond : dispatcher.chain.length ≤ place := List.getElem?_eq_none_iff.mp absent
  have grows := dispatch_grows options dispatcher event
  revert found
  generalize dispatch options dispatcher event = reply at grows ⊢
  intro found
  cases grows with
  | same executions length _ => exact absurd (List.getElem?_eq_some_iff.mp found).1 (by omega)
  | added runId resumeGeneration ref standing idle =>
    rw [schedule,List.getElem?_append_right beyond,List.getElem?_singleton] at found
    split at found
    · rename_i last
      cases found
      exact ⟨standing,rfl,rfl,by rw [schedule,OrderedMap.get?_set,if_pos rfl]; exact congrArg some (by omega)⟩
    · cases found

end
end AgentOS.LocalDirect
