import AgentOS.LocalDirect.Dispatches

/-! Runs of the dispatcher. The chain keeps its turns, so one execution at a time is with the handler; what an execution may
still cost falls with every call of the handler; and one that was aborted or has ended is not called again. -/
namespace AgentOS.LocalDirect
open Library Machines Serial

/-! ### What one event keeps of an execution -/

def Turn.left : Turn → Nat
  | .queued => 2
  | .handling 0 => 1
  | .handling _ => 0
  | .delaying _ => 1
  | .settled => 0

def Scheduled.stopped (scheduled : Scheduled) : Prop := scheduled.execution.aborted = true ∨ scheduled.turn = .settled

def Scheduled.tracked (scheduled : Scheduled) : Prop := scheduled.execution.status = .executing ↔ scheduled.turn ≠ .settled

section
variable {chain : List Scheduled} {event : DispatchEvent} {place : Nat} {scheduled later : Scheduled} {called : Bool}
  (goes : Goes chain event place scheduled called later)
include goes

theorem Goes.ref : later.ref = scheduled.ref := by
  cases goes <;> rfl

theorem Goes.settled (done : scheduled.turn = .settled) :
    later.turn = .settled ∧ later.execution.status = scheduled.execution.status := by
  cases goes with
  | stays => exact ⟨done,rfl⟩
  | aborts => exact ⟨done,rfl⟩
  | begins turn => cases done.symm.trans turn
  | cancelled turn => cases done.symm.trans turn
  | completes attempt turn => cases done.symm.trans turn
  | retries thrown event_eq turn => cases done.symm.trans turn
  | fails attempt turn => cases done.symm.trans turn
  | again message turn => cases done.symm.trans turn
  | stops message turn => cases done.symm.trans turn

theorem Goes.begun (begins : later.turn ≠ .queued) : scheduled.turn ≠ .queued ∨ reached chain place = true := by
  cases goes with
  | stays => exact .inl begins
  | aborts => exact .inl begins
  | begins turn calm next => exact .inr next
  | cancelled turn next => exact .inr next
  | completes attempt turn => exact .inl (by simp [turn])
  | retries thrown event_eq turn => exact .inl (by simp [turn])
  | fails attempt turn => exact .inl (by simp [turn])
  | again message turn => exact .inl (by simp [turn])
  | stops message turn => exact .inl (by simp [turn])

theorem Goes.tracked (held : scheduled.tracked) : later.tracked := by
  unfold Scheduled.tracked at held ⊢
  cases goes with
  | stays => exact held
  | aborts => exact held
  | begins turn => simpa [Scheduled.attempt,turn] using held
  | cancelled turn => simp [Scheduled.fail]
  | completes attempt turn => simp [Scheduled.complete]
  | retries thrown event_eq turn => simpa [Scheduled.delay,turn] using held
  | fails attempt turn => simp [Scheduled.fail]
  | again message turn => simpa [Scheduled.attempt,turn] using held
  | stops message turn => simp [Scheduled.fail]

theorem Goes.left : (if called then 1 else 0) + later.turn.left ≤ scheduled.turn.left := by
  cases goes with
  | stays => simp
  | aborts => simp [Scheduled.abort]
  | begins turn => simp [turn,Scheduled.attempt,Turn.left]
  | cancelled turn => simp [Scheduled.fail,Turn.left]
  | completes attempt turn => simp [Scheduled.complete,Turn.left]
  | retries thrown event_eq turn => simp [turn,Scheduled.delay,Turn.left]
  | fails attempt turn => simp [Scheduled.fail,Turn.left]
  | again message turn => simp [turn,Scheduled.attempt,Turn.left]
  | stops message turn => simp [Scheduled.fail,Turn.left]

theorem Goes.stopped (stops : scheduled.stopped) : called = false ∧ later.stopped := by
  cases goes with
  | stays => exact ⟨rfl,stops⟩
  | aborts => exact ⟨rfl,.inl rfl⟩
  | begins turn calm => rcases stops with aborted | done <;> simp_all
  | cancelled turn => exact ⟨rfl,.inr rfl⟩
  | completes attempt turn => exact ⟨rfl,.inr rfl⟩
  | retries thrown event_eq turn =>
    refine ⟨rfl,stops.imp id fun done => ?_⟩
    cases done.symm.trans turn
  | fails attempt turn => exact ⟨rfl,.inr rfl⟩
  | again message turn calm => rcases stops with aborted | done <;> simp_all
  | stops message turn => exact ⟨rfl,.inr rfl⟩

theorem Goes.awaiting (turn : scheduled.turn = .handling 0) : later.turn = .handling 0 ∨ later.turn.left = 0 ∨
    ∃ thrown, event = .handled place (.error thrown) ∧ isTransient thrown = true := by
  cases goes with
  | stays => exact .inl turn
  | aborts => exact .inl turn
  | begins queued => cases turn.symm.trans queued
  | cancelled queued => cases turn.symm.trans queued
  | completes attempt => exact .inr (.inl rfl)
  | retries thrown event_eq _ transientFault => exact .inr (.inr ⟨thrown,event_eq,transientFault⟩)
  | fails attempt => exact .inr (.inl rfl)
  | again message delaying => cases turn.symm.trans delaying
  | stops message delaying => cases turn.symm.trans delaying

end

theorem Goes.called {chain : List Scheduled} {event : DispatchEvent} {place : Nat} {scheduled later : Scheduled}
    (goes : Goes chain event place scheduled true later) :
    scheduled.turn = .queued ∧ later.turn = .handling 0 ∨ (∃ message, scheduled.turn = .delaying message) ∧ later.turn.left = 0 := by
  cases goes with
  | begins turn => exact .inl ⟨turn,rfl⟩
  | again message turn => exact .inr ⟨⟨message,turn⟩,rfl⟩

/-! ### What a run keeps of the dispatcher -/

/-- The callbacks begin in turn, an execution that is executing is one that has not settled, and it is found by its reference. -/
structure Sound (dispatcher : Dispatcher) : Prop where
  inTurn : InTurn (fun scheduled : Scheduled => scheduled.turn ≠ .queued) (fun scheduled => scheduled.turn = .settled) dispatcher.chain
  tracked : ∀ scheduled ∈ dispatcher.chain, scheduled.tracked
  named : ∀ (place : Nat) (scheduled : Scheduled), dispatcher.chain[place]? = some scheduled → scheduled.turn ≠ .settled →
    dispatcher.executions.get? scheduled.ref = some place

theorem sound_initial : Sound {} where
  inTurn := inTurn_nil
  tracked scheduled inside := by cases inside
  named place scheduled found := by cases found

section
variable {options : LocalDirectDispatcherOptions} {dispatcher : Dispatcher} {event : DispatchEvent} {place : Nat}
  {scheduled later : Scheduled}

theorem Sound.reached (sound : Sound dispatcher) (next : reached dispatcher.chain place = true) {first : Nat} {one : Scheduled}
    (before : first < place) (found : dispatcher.chain[first]? = some one) : one.turn = .settled := by
  cases place with
  | zero => exact absurd before (Nat.not_lt_zero first)
  | succ place =>
    unfold LocalDirect.reached at next
    obtain ⟨previous,there,done⟩ := (Option.any_eq_true _ _).mp next
    exact sound.inTurn.settled_before (fun item done queued => by cases done.symm.trans queued) there (of_decide_eq_true done)
      (Nat.le_of_lt_succ before) found

theorem found_after (event : DispatchEvent) (found : (dispatch options dispatcher event).2.chain[place]? = some later) :
    (∃ scheduled called, dispatcher.chain[place]? = some scheduled ∧ Goes dispatcher.chain event place scheduled called later ∧
      (called = true ↔ calls place (dispatch options dispatcher event).1 = true)) ∨ dispatcher.chain[place]? = none := by
  cases was : dispatcher.chain[place]? with
  | none => exact .inr rfl
  | some scheduled =>
    obtain ⟨called,later',found',goes,iff⟩ := dispatch_moves options event was
    cases found.symm.trans found'
    exact .inl ⟨scheduled,called,rfl,goes,iff⟩

theorem Sound.kept (sound : Sound dispatcher) (event : DispatchEvent) : Sound (dispatch options dispatcher event).2 where
  inTurn := by
    refine sound.inTurn.step ?_ ?_
    · intro place scheduled here
      obtain ⟨called,later,found,goes,_⟩ := dispatch_moves options event here
      exact ⟨later,found,fun done => (goes.settled done).1,fun begins => (goes.begun begins).imp id fun next first one =>
        sound.reached next⟩
    · intro place later absent found begins
      exact begins (dispatch_fresh absent found).2.1
  tracked later inside := by
    obtain ⟨place,found⟩ := List.mem_iff_getElem?.mp inside
    rcases found_after event found with ⟨scheduled,called,here,goes,_⟩ | absent
    · exact goes.tracked (sound.tracked scheduled (List.mem_of_getElem? here))
    · obtain ⟨_,queued,executing,_⟩ := dispatch_fresh absent found
      exact iff_of_true executing (by simp [queued])
  named place later found busy := by
    rcases found_after event found with ⟨scheduled,called,here,goes,_⟩ | absent
    · have unsettled : scheduled.turn ≠ .settled := fun done => busy (goes.settled done).1
      have named := sound.named place scheduled here unsettled
      rw [goes.ref]
      have grows := dispatch_grows options dispatcher event
      generalize dispatch options dispatcher event = reply at grows
      cases grows with
      | same executions _ _ => exact executions ▸ named
      | added runId resumeGeneration ref standing idle =>
        have apart : scheduled.ref ≠ ref := by
          rintro rfl
          exact idle place scheduled named here ((sound.tracked scheduled (List.mem_of_getElem? here)).mpr unsettled)
        rw [schedule,OrderedMap.get?_set,if_neg apart]
        exact named
    · exact (dispatch_fresh absent found).2.2.2

/-! ### Calls of the handler -/

/-- The calls of the handler that are left to the execution at a place, there or still to be added. -/
def callsLeft (place : Nat) (dispatcher : Dispatcher) : Nat := (dispatcher.chain[place]?.map (·.turn.left)).getD 2

theorem callsLeft_at (here : dispatcher.chain[place]? = some scheduled) : callsLeft place dispatcher = scheduled.turn.left := by
  rw [callsLeft,here]
  rfl

theorem callsLeft_le : callsLeft place dispatcher ≤ 2 := by
  unfold callsLeft
  cases dispatcher.chain[place]? with
  | none => exact Nat.le_refl 2
  | some scheduled =>
    change scheduled.turn.left ≤ 2
    unfold Turn.left
    split <;> decide

theorem callsLeft_dispatch (options : LocalDirectDispatcherOptions) (place : Nat) (dispatcher : Dispatcher) (event : DispatchEvent) :
    (if calls place (dispatch options dispatcher event).1 then 1 else 0) + callsLeft place (dispatch options dispatcher event).2 ≤
      callsLeft place dispatcher := by
  cases was : dispatcher.chain[place]? with
  | none =>
    have quiet : ¬ calls place (dispatch options dispatcher event).1 = true := by
      intro called
      obtain ⟨scheduled,here⟩ := dispatch_called event called
      cases was.symm.trans here
    rw [if_neg quiet,Nat.zero_add,callsLeft.eq_1 place dispatcher,was]
    exact callsLeft_le
  | some scheduled =>
    obtain ⟨called,later,found,goes,iff⟩ := dispatch_moves options event was
    obtain rfl := Bool.eq_iff_iff.mpr iff
    rw [callsLeft_at was,callsLeft_at found]
    exact goes.left

def Stopped (place : Nat) (dispatcher : Dispatcher) : Prop := ∃ scheduled, dispatcher.chain[place]? = some scheduled ∧ scheduled.stopped

theorem Stopped.kept (stops : Stopped place dispatcher) (options : LocalDirectDispatcherOptions) (event : DispatchEvent) :
    calls place (dispatch options dispatcher event).1 = false ∧ Stopped place (dispatch options dispatcher event).2 := by
  obtain ⟨scheduled,here,stopped⟩ := stops
  obtain ⟨called,later,found,goes,iff⟩ := dispatch_moves options event here
  obtain ⟨rfl,still⟩ := goes.stopped stopped
  exact ⟨by simpa using iff,later,found,still⟩

theorem Stopped.uncalled (stops : Stopped place dispatcher) (events : List DispatchEvent) :
    ∀ reaction ∈ answers (dispatch options) dispatcher events, calls place reaction = false :=
  answers_all (Stopped place) (calls place · = false) (fun _ event stops => stops.kept options event) stops

section
variable (sound : Sound dispatcher) (here : dispatcher.chain[place]? = some scheduled)
include sound here

theorem Sound.cancels : Stopped place (cancel dispatcher scheduled.ref) := by
  by_cases done : scheduled.turn = .settled
  · have moves : Moves dispatcher (.cancel scheduled.ref) place scheduled (.silent,cancel dispatcher scheduled.ref) :=
      cancel_moves scheduled.ref here
    obtain ⟨_,later,found,goes,_⟩ := moves
    exact ⟨later,found,.inr (goes.settled done).1⟩
  · rw [cancel,sound.named place scheduled here done]
    exact ⟨scheduled.abort,(modify_at here).trans (by rw [if_pos rfl]),.inl rfl⟩

theorem Sound.closes : Stopped place (close dispatcher) := by
  refine ⟨_,close_at here,?_⟩
  by_cases done : scheduled.turn = .settled
  · split
    · exact .inl rfl
    · exact .inr done
  · have executing := (sound.tracked scheduled (List.mem_of_getElem? here)).mpr done
    have named := (OrderedMap.mem_values _ _).mpr ⟨_,sound.named place scheduled here done⟩
    rw [if_pos ⟨named,executing⟩]
    exact .inl rfl

end

/-! ### Runs -/

def ran (options : LocalDirectDispatcherOptions) (events : List DispatchEvent) : Dispatcher := after (dispatch options) {} events

theorem ran_append (before rest : List DispatchEvent) : ran options (before ++ rest) = after (dispatch options) (ran options before) rest :=
  after_append

variable (events : List DispatchEvent)

theorem sound_ran : Sound (ran options events) :=
  after_preserved Sound (fun _ event sound => sound.kept event) sound_initial

structure DispatchesSafely (options : LocalDirectDispatcherOptions) (events : List DispatchEvent) : Prop where
  /-- At most one call of the handler is in flight. -/
  single : ∀ (first second : Nat) (one other : Scheduled) (attempt attempt' : Nat), (ran options events).chain[first]? = some one →
    (ran options events).chain[second]? = some other → one.turn = .handling attempt → other.turn = .handling attempt' → first = second
  /-- A start of what is executing adds nothing. -/
  once : ∀ (runId : String) (resumeGeneration : Int), ∀ scheduled ∈ (ran options events).chain,
    executionReference runId resumeGeneration = .ok scheduled.ref → scheduled.execution.status = .executing →
    (dispatch options (ran options events) (.startFeature runId resumeGeneration)).2 = ran options events
  /-- An execution is handed to the handler twice at most. -/
  twice : ∀ place : Nat, (answers (dispatch options) {} events).countP (calls place) ≤ 2
  /-- It is so a second time after a transient error, and after nothing that aborts it. -/
  again : ∀ (place : Nat) (before between rest : List DispatchEvent) (first second : DispatchEvent),
    events = before ++ first::(between ++ second::rest) → calls place (dispatch options (ran options before) first).1 = true →
    calls place (dispatch options (ran options (before ++ first::between)) second).1 = true →
    ∃ scheduled, (ran options before).chain[place]? = some scheduled ∧
      (∃ thrown, .handled place (.error thrown) ∈ between ∧ isTransient thrown = true) ∧
      .cancel scheduled.ref ∉ between ∧ .close ∉ between
  /-- Cancelled before its turn it is never handed to it. -/
  cancelled : ∀ (place : Nat) (before rest : List DispatchEvent) (scheduled : Scheduled),
    events = before ++ .cancel scheduled.ref::rest → (ran options before).chain[place]? = some scheduled → scheduled.turn = .queued →
    ∀ reaction ∈ answers (dispatch options) {} events, calls place reaction = false
  /-- What has completed or failed stays so. -/
  ended : ∀ (place : Nat) (before rest : List DispatchEvent) (scheduled : Scheduled), events = before ++ rest →
    (ran options before).chain[place]? = some scheduled → scheduled.execution.status ≠ .executing →
    ∃ later, (ran options events).chain[place]? = some later ∧ later.execution.status = scheduled.execution.status
  /-- After a close nothing is handed to the handler. -/
  closed : ∀ (place : Nat) (before rest : List DispatchEvent), events = before ++ .close::rest →
    ∀ reaction ∈ answers (dispatch options) (ran options before) (.close::rest), calls place reaction = false

theorem ran_single {first second : Nat} {one other : Scheduled} {attempt attempt' : Nat}
    (here : (ran options events).chain[first]? = some one) (there : (ran options events).chain[second]? = some other)
    (turn : one.turn = .handling attempt) (turn' : other.turn = .handling attempt') : first = second :=
  (sound_ran events).inTurn.unique here there (by simp [turn]) (by simp [turn']) (by simp [turn]) (by simp [turn'])

theorem Sound.restart (sound : Sound dispatcher) {runId : String} {resumeGeneration : Int} (inside : scheduled ∈ dispatcher.chain)
    (reference : executionReference runId resumeGeneration = .ok scheduled.ref) (executing : scheduled.execution.status = .executing) :
    (dispatch options dispatcher (.startFeature runId resumeGeneration)).2 = dispatcher := by
  obtain ⟨place,here⟩ := List.mem_iff_getElem?.mp inside
  have named := sound.named place scheduled here ((sound.tracked scheduled inside).mp executing)
  change (start options dispatcher runId resumeGeneration).2 = dispatcher
  unfold start
  split
  · rfl
  · rw [reference]
    simp [named,here,executing]

theorem settled_after (here : dispatcher.chain[place]? = some scheduled)
    (done : scheduled.turn = .settled) : ∃ later, (after (dispatch options) dispatcher events).chain[place]? = some later ∧
      later.execution.status = scheduled.execution.status := by
  have kept : ∃ later, (after (dispatch options) dispatcher events).chain[place]? = some later ∧ later.turn = .settled ∧
      later.execution.status = scheduled.execution.status := by
    refine after_preserved (fun state : Dispatcher => ∃ later, state.chain[place]? = some later ∧ later.turn = .settled ∧
      later.execution.status = scheduled.execution.status) ?_ ⟨scheduled,here,done,rfl⟩
    rintro state event ⟨held,found,done,same⟩
    obtain ⟨called,later,found',goes,_⟩ := dispatch_moves options event found
    obtain ⟨done',same'⟩ := goes.settled done
    exact ⟨later,found',done',same'.trans same⟩
  obtain ⟨later,found,_,same⟩ := kept
  exact ⟨later,found,same⟩

theorem Sound.uncalled_closed (sound : Sound dispatcher) (rest : List DispatchEvent) :
    ∀ reaction ∈ answers (dispatch options) dispatcher (.close::rest), calls place reaction = false := by
  refine List.forall_mem_cons.mpr ⟨rfl,?_⟩
  refine answers_all (fun state => state.closed = true ∧ ∀ scheduled, state.chain[place]? = some scheduled → scheduled.stopped)
    (calls place · = false) ?_ ⟨rfl,?_⟩
  · rintro state event ⟨closed,stops⟩
    refine ⟨?_,dispatch_closed event closed,?_⟩
    · by_contra called
      obtain ⟨scheduled,here⟩ := dispatch_called event (Bool.not_eq_false _ ▸ called)
      have stopped : Stopped place state := ⟨scheduled,here,stops scheduled here⟩
      exact called (stopped.kept options event).1
    · intro later found
      rcases found_after event found with ⟨scheduled,called,here,goes,_⟩ | absent
      · exact (goes.stopped (stops scheduled here)).2
      · cases closed.symm.trans (dispatch_fresh absent found).1
  · intro later found
    rcases found_after .close found with ⟨scheduled,called,here,goes,_⟩ | absent
    · obtain ⟨later',found',stopped⟩ := sound.closes here
      cases found.symm.trans found'
      exact stopped
    · have beyond := List.getElem?_eq_none_iff.mp absent
      have inside := (List.getElem?_eq_some_iff.mp found).1
      exact absurd ((List.length_mapIdx ..).symm.trans_gt inside) (by omega)

theorem callsLeft_after (options : LocalDirectDispatcherOptions) (place : Nat) (dispatcher : Dispatcher) (events : List DispatchEvent) :
    callsLeft place (after (dispatch options) dispatcher events) ≤ callsLeft place dispatcher :=
  le_trans (Nat.le_add_left _ _) (answers_countP_le (callsLeft place) (calls place) (callsLeft_dispatch options place))

variable {first second : DispatchEvent}

theorem first_call {between : List DispatchEvent} (called : calls place (dispatch options dispatcher first).1 = true)
    (recalled : calls place (dispatch options (after (dispatch options) dispatcher (first::between)) second).1 = true) :
    ∃ scheduled later, dispatcher.chain[place]? = some scheduled ∧ (dispatch options dispatcher first).2.chain[place]? = some later ∧
      later.ref = scheduled.ref ∧ later.turn = .handling 0 := by
  obtain ⟨scheduled,here⟩ := dispatch_called first called
  obtain ⟨called',later,found,goes,iff⟩ := dispatch_moves options first here
  obtain rfl := iff.mpr called
  refine ⟨scheduled,later,here,found,goes.ref,?_⟩
  rcases goes.called with ⟨_,turn⟩ | ⟨_,spent⟩
  · exact turn
  · have pays := callsLeft_dispatch options place (after (dispatch options) dispatcher (first::between)) second
    have less := callsLeft_after options place (dispatch options dispatcher first).2 between
    rw [if_pos recalled] at pays
    rw [callsLeft_at found,spent] at less
    rw [after_cons] at pays
    omega

theorem awaiting_after (options : LocalDirectDispatcherOptions) (between : List DispatchEvent) (here : dispatcher.chain[place]? = some scheduled)
    (turn : scheduled.turn = .handling 0 ∨ scheduled.turn.left = 0) :
    (∃ thrown, .handled place (.error thrown) ∈ between ∧ isTransient thrown = true) ∨
      ∃ later, (after (dispatch options) dispatcher between).chain[place]? = some later ∧
        (later.turn = .handling 0 ∨ later.turn.left = 0) := by
  induction between generalizing dispatcher scheduled with
  | nil => exact .inr ⟨scheduled,here,turn⟩
  | cons event between ih =>
    obtain ⟨called,later,found,goes,_⟩ := dispatch_moves options event here
    have further : later.turn = .handling 0 ∨ later.turn.left = 0 → _ := fun turn =>
      (ih found turn).imp_left fun ⟨thrown,inside,transientFault⟩ => (⟨thrown,List.mem_cons_of_mem event inside,transientFault⟩ :
        ∃ thrown, DispatchEvent.handled place (.error thrown) ∈ event::between ∧ isTransient thrown = true)
    rcases turn with turn | spent
    · rcases goes.awaiting turn with still | spent | ⟨thrown,rfl,transientFault⟩
      · exact further (.inl still)
      · exact further (.inr spent)
      · exact .inl ⟨thrown,List.mem_cons_self,transientFault⟩
    · have less := goes.left
      exact further (.inr (by omega))

theorem refers_after (here : dispatcher.chain[place]? = some scheduled) :
    ∃ later, (after (dispatch options) dispatcher events).chain[place]? = some later ∧ later.ref = scheduled.ref := by
  refine after_preserved (fun state : Dispatcher => ∃ later, state.chain[place]? = some later ∧ later.ref = scheduled.ref) ?_ ⟨scheduled,here,rfl⟩
  rintro state event ⟨held,found,same⟩
  obtain ⟨called,later,found',goes,_⟩ := dispatch_moves options event found
  exact ⟨later,found',goes.ref.trans same⟩

theorem Stopped.throughout (stops : Stopped place dispatcher) (options : LocalDirectDispatcherOptions) (events : List DispatchEvent) :
    Stopped place (after (dispatch options) dispatcher events) :=
  after_preserved (Stopped place) (fun _ event stops => (stops.kept options event).2) stops

theorem Sound.between (sound : Sound dispatcher) {between : List DispatchEvent}
    (called : calls place (dispatch options dispatcher first).1 = true)
    (recalled : calls place (dispatch options (after (dispatch options) dispatcher (first::between)) second).1
      = true) : ∃ scheduled, dispatcher.chain[place]? = some scheduled ∧
      (∃ thrown, .handled place (.error thrown) ∈ between ∧ isTransient thrown = true) ∧
      .cancel scheduled.ref ∉ between ∧ .close ∉ between := by
  obtain ⟨scheduled,later,here,found,same,turn⟩ := first_call called recalled
  -- what stops the execution between the calls prevents the second
  have unstopped : ∀ early event late, between = early ++ event::late →
      ¬ Stopped place (dispatch options (after (dispatch options)
        (dispatch options dispatcher first).2 early) event).2 := by
    rintro early event late rfl stops
    have quiet := ((stops.throughout options late).kept options second).1
    rw [after_cons,after_append,after_cons,quiet] at recalled
    cases recalled
  have mid : ∀ early, ∃ held, (after (dispatch options) (dispatch options dispatcher first).2
      early).chain[place]? = some held ∧ held.ref = scheduled.ref := by
    intro early
    obtain ⟨held,found',same'⟩ := refers_after early found
    exact ⟨held,found',same'.trans same⟩
  have sounds : ∀ early, Sound (after (dispatch options) (dispatch options dispatcher first).2 early) :=
    fun early => after_preserved Sound (fun _ event sound => sound.kept event) (sound.kept first)
  refine ⟨scheduled,here,?_,?_,?_⟩
  · rcases awaiting_after options between found (.inl turn) with thrown | ⟨last,found',still⟩
    · exact thrown
    · obtain ⟨held,there⟩ := dispatch_called second recalled
      cases found'.symm.trans there
      obtain ⟨called',final,_,goes,iff⟩ := dispatch_moves options second there
      obtain rfl := iff.mpr recalled
      rcases goes.called with ⟨queued,_⟩ | ⟨⟨message,delaying⟩,_⟩
      · rcases still with handling | spent
        · cases queued.symm.trans handling
        · rw [queued] at spent
          cases spent
      · rcases still with handling | spent
        · cases delaying.symm.trans handling
        · rw [delaying] at spent
          cases spent
  · intro inside
    obtain ⟨early,late,rfl⟩ := List.append_of_mem inside
    obtain ⟨held,found',same'⟩ := mid early
    exact unstopped early _ late rfl (same' ▸ (sounds early).cancels found')
  · intro inside
    obtain ⟨early,late,rfl⟩ := List.append_of_mem inside
    obtain ⟨held,found',_⟩ := mid early
    exact unstopped early _ late rfl ((sounds early).closes found')

theorem Sound.uncalled_cancelled {before rest : List DispatchEvent} (sound : Sound (ran options before))
    (here : (ran options before).chain[place]? = some scheduled) (queued : scheduled.turn = .queued) :
    ∀ reaction ∈ answers (dispatch options) {} (before ++ .cancel scheduled.ref::rest), calls place reaction = false := by
  rw [answers_append]
  intro reaction inside
  rcases List.mem_append.mp inside with early | late
  · have spent : (answers (dispatch options) {} before).countP (calls place) + callsLeft place (ran options before) ≤ callsLeft place {} :=
      answers_countP_le (callsLeft place) (calls place) (callsLeft_dispatch options place)
    have rest := callsLeft_at here
    rw [queued] at rest
    have none_called : (answers (dispatch options) {} before).countP (calls place) = 0 := by
      have total : callsLeft place (ran options before) = 2 := rest
      have bound : callsLeft place {} = 2 := rfl
      omega
    exact Bool.not_eq_true _ ▸ List.countP_eq_zero.mp none_called reaction early
  · rcases List.mem_cons.mp late with rfl | after_cancel
    · rfl
    · exact (sound.cancels here).uncalled rest reaction after_cancel

theorem dispatches_safely (options : LocalDirectDispatcherOptions) (events : List DispatchEvent) : DispatchesSafely options events where
  single first second one other attempt attempt' here there turn turn' := ran_single events here there turn turn'
  once runId resumeGeneration scheduled inside reference executing := (sound_ran events).restart inside reference executing
  twice place := le_trans (Nat.le_add_right _ _) (answers_countP_le (callsLeft place) (calls place) (callsLeft_dispatch options place))
  again place before between rest first second _ called recalled :=
    (sound_ran before).between called (ran_append before (first::between) ▸ recalled)
  cancelled place before rest scheduled same here queued := same ▸ (sound_ran before).uncalled_cancelled here queued
  ended place before rest scheduled same here still := by
    rw [same,ran_append]
    refine settled_after rest here ?_
    by_contra unsettled
    exact still (((sound_ran before).tracked scheduled (List.mem_of_getElem? here)).mpr unsettled)
  closed place before rest _ := (sound_ran before).uncalled_closed rest

end
end AgentOS.LocalDirect
