import AgentOS.Kimi.Session

/-! How sessions end: what each step can do to a session, and which runs keep the terminal event last, the usage
growing and the followers of the events in agreement. -/
namespace AgentOS.Kimi
open KimiSession

def RuntimeEvent.terminal (event : RuntimeEvent) : Bool :=
  match event.type with
  | .terminated => true
  | .error => true
  | _ => false

/-! ### The events of the loop -/

section
variable {clock : Nat → Instant} {session : KimiSession} {events : List LoopEvent}

theorem LoopEvent.runtimeType_plain (event : LoopEvent) : event.runtimeType ≠ .terminated ∧ event.runtimeType ≠ .error := by
  unfold LoopEvent.runtimeType
  split <;> simp

structure Reported (session : KimiSession) (count : Nat) (after : KimiSession) : Prop where
  status : after.status = session.status
  aborted : after.aborted = session.aborted
  usage : after.usage = session.usage
  result : after.result = session.result
  failure : after.failure = session.failure
  sequence : after.nextEventSeq = session.nextEventSeq + count
  events : ∃ more, after.events = session.events ++ more ∧ more.length = count ∧ ∀ event ∈ more, event.terminal = false

theorem emit_reported (event : LoopEvent) : Reported session 1 (session.emit clock event.runtimeType event.payload) := by
  refine ⟨rfl,rfl,rfl,rfl,rfl,rfl,_,rfl,rfl,?_⟩
  intro emitted inside
  rw [List.mem_singleton.mp inside]
  obtain ⟨notTerminated,notError⟩ := event.runtimeType_plain
  unfold RuntimeEvent.terminal
  dsimp only
  split
  · exact absurd ‹_› notTerminated
  · exact absurd ‹_› notError
  · rfl

theorem Reported.trans {first second third : KimiSession} {early late : Nat} (before : Reported first early second)
    (after : Reported second late third) : Reported first (early + late) third := by
  obtain ⟨some_,grown,counted,plain⟩ := before.events
  obtain ⟨more,laterGrown,laterCounted,laterPlain⟩ := after.events
  refine ⟨after.status.trans before.status,after.aborted.trans before.aborted,after.usage.trans before.usage,
    after.result.trans before.result,after.failure.trans before.failure,?_,some_ ++ more,?_,?_,?_⟩
  · rw [after.sequence,before.sequence,Nat.add_assoc]
  · rw [laterGrown,grown,List.append_assoc]
  · rw [List.length_append,counted,laterCounted]
  · intro event inside
    rcases List.mem_append.mp inside with here | there
    · exact plain event here
    · exact laterPlain event there

theorem report_reported : Reported session events.length (session.report clock events) := by
  induction events generalizing session with
  | nil => exact ⟨rfl,rfl,rfl,rfl,rfl,rfl,[],by simp [report],rfl,by simp⟩
  | cons event events ih =>
    have first := @emit_reported clock session event
    rw [List.length_cons,Nat.add_comm]
    exact first.trans ih

end

/-! ### The loop's steps -/

namespace Loop
variable {aborted : Bool} {loop : Loop} {uses : List ToolUse} {resultBlocks : List ContentBlock}

def Spent (usage : TokenUsage) (loop : Loop) : Prop :=
  loop.usage = usage ∧ ∀ result, loop.point = .returned result → result.usage = usage

theorem end_spent (status : LoopStatus) : Spent loop.usage (loop.end_ status) := by
  refine ⟨rfl,fun result same => ?_⟩
  cases same
  rfl

theorem nextTurn_spent : Spent loop.usage (loop.nextTurn aborted) := by
  unfold nextTurn
  split
  · split
    · exact end_spent _
    · exact ⟨rfl,by simp⟩
  · exact end_spent _

theorem dispatch_spent : Spent loop.usage (loop.dispatch aborted uses resultBlocks).2 := by
  induction uses generalizing resultBlocks with
  | nil => exact nextTurn_spent
  | cons use uses ih =>
    unfold dispatch
    split
    · exact end_spent _
    split
    · split
      · exact end_spent _
      · exact ih
    · exact ⟨rfl,by simp⟩

theorem dispatch_aborted (loop : Loop) (uses : List ToolUse) (resultBlocks : List ContentBlock) :
    (loop.dispatch true uses resultBlocks).1 = [] := by
  cases uses with
  | nil => rfl
  | cons use uses => rfl

theorem respond_spent (response : KimiResponse) : Spent
    {inputTokens := loop.usage.inputTokens + response.usage.inputTokens
     outputTokens := loop.usage.outputTokens + response.usage.outputTokens} (loop.respond aborted response).2 := by
  unfold respond
  dsimp only
  split
  · exact nextTurn_spent
  · exact dispatch_spent

theorem respond_aborted (response : KimiResponse) : (loop.respond true response).1 = texts response.content := by
  unfold respond
  dsimp only
  split
  · rfl
  · dsimp only
    rw [dispatch_aborted,List.append_nil]

theorem respond_reports (response : KimiResponse) : (texts response.content).length ≤ (loop.respond aborted response).1.length := by
  unfold respond
  dsimp only
  split
  · exact Nat.le_refl _
  · simp

theorem toolAnswered_spent {use : ToolUse} {answer : ToolAnswer} :
    Spent loop.usage (loop.toolAnswered aborted use uses resultBlocks answer).2 := by
  unfold toolAnswered
  exact dispatch_spent

theorem toolAnswered_reports {use : ToolUse} {answer : ToolAnswer} :
    1 ≤ (loop.toolAnswered aborted use uses resultBlocks answer).1.length := by
  unfold toolAnswered
  simp

end Loop

/-! ### What a step does to the session -/

def SessionInput.isAnswer (input : SessionInput) : Bool :=
  match input with
  | .response _ => true
  | .toolAnswer _ => true
  | _ => false

inductive Change (session : KimiSession) : SessionInput → KimiSession → Prop
  | same {input : SessionInput} (other : input.isAnswer = false) : Change session input session
  | threw {input : SessionInput} (other : input.isAnswer = false) {loop : Loop} (fault : TransportFault)
      (found : session.loop = some loop) (awaits : loop.point ≠ .settled) :
      Change session input {session with loop := some {loop with point := .threw fault}}
  | responded {loop after : Loop} {response : KimiResponse} {next : KimiSession} (found : session.loop = some loop)
      (awaits : loop.point ≠ .settled) (now : next.loop = some after) (usage : next.usage = after.usage)
      (spent : after.Spent {
        inputTokens := loop.usage.inputTokens + response.usage.inputTokens
        outputTokens := loop.usage.outputTokens + response.usage.outputTokens})
      (reported : Reported {session with usage := after.usage} (loop.respond session.aborted response).1.length next) :
      Change session (.response response) next
  | answered {loop after : Loop} {answer : ToolAnswer} {next : KimiSession} {count : Nat} (found : session.loop = some loop)
      (awaits : loop.point ≠ .settled) (now : next.loop = some after) (spent : after.Spent loop.usage) (some_ : 1 ≤ count) (reported : Reported session count next) :
      Change session (.toolAnswer answer) next
  | ended {input : SessionInput} (other : input.isAnswer = false) {next : KimiSession} {event : RuntimeEvent} (running : isTerminal session.status = false)
      (terminal : isTerminal next.status = true) (events : next.events = session.events ++ [event]) (last : event.terminal = true)
      (sequence : next.nextEventSeq = session.nextEventSeq + 1)
      (usage : next.usage = session.usage ∨
        ∃ loop result, session.loop = some loop ∧ loop.point = .returned result ∧ next.usage = result.usage)
      (result : next.result = session.result ∨ next.status = .submitted)
      (failure : next.failure = session.failure ∨ next.status = .failed)
      (loop : next.loop = session.loop ∧ next.aborted = true ∨
        ∃ loop, session.loop = some loop ∧ next.loop = some {loop with point := .settled}) : Change session input next
  | settled {input : SessionInput} (other : input.isAnswer = false) {loop : Loop} (terminal : isTerminal session.status = true) (found : session.loop = some loop) :
      Change session input {session with loop := some {loop with point := .settled}}

section
variable {upstreamType : String → Option String} {clock : Nat → Instant} {session next : KimiSession} {input : SessionInput}
  {attended after : Attended}

section
variable (other : input.isAnswer = false)
include other

theorem abort_change (why : String) : Change session input (session.abort clock why) := by
  unfold abort terminate
  split
  · exact .same other
  · rename_i running
    exact .ended other (by simpa using running) rfl rfl rfl rfl (.inl rfl) (.inl rfl) (.inl rfl) (.inl ⟨rfl,rfl⟩)

theorem rejected_change {loop : Loop} (fault : TransportFault) (found : session.loop = some loop) :
    Change session input {session.rejected upstreamType clock fault with loop := some {loop with point := .settled}} := by
  unfold rejected terminate
  cases terminal : isTerminal session.status with
  | true => exact .settled other terminal found
  | false => exact .ended other terminal rfl rfl rfl rfl (.inl rfl) (.inl rfl) (.inr rfl) (.inr ⟨loop,found,rfl⟩)

theorem fulfilled_change {loop : Loop} {result : LoopResult} (found : session.loop = some loop)
    (point : loop.point = .returned result) :
    Change session input {session.fulfilled clock result with loop := some {loop with point := .settled}} := by
  unfold fulfilled terminate
  cases terminal : isTerminal session.status with
  | true =>
    cases result.status with
    | submitted submitted => simpa [terminal] using Change.settled other terminal found
    | turnLimit => simpa [terminal] using Change.settled other terminal found
    | cancelled => simpa [terminal] using Change.settled other terminal found
  | false =>
    have usage : ∃ loop returned, session.loop = some loop ∧ loop.point = .returned returned ∧ result.usage = returned.usage :=
      ⟨loop,result,found,point,rfl⟩
    have settles : ∃ loop', session.loop = some loop' ∧ some {loop with point := .settled} = some {loop' with point := .settled} :=
      ⟨loop,found,rfl⟩
    cases result.status with
    | submitted submitted =>
      simp only [terminal,Bool.false_eq_true,if_false]
      exact .ended other terminal rfl rfl rfl rfl (.inr usage) (.inr rfl) (.inl rfl) (.inr settles)
    | turnLimit =>
      simp only [terminal,Bool.false_eq_true,if_false]
      exact .ended other terminal rfl rfl rfl rfl (.inr usage) (.inl rfl) (.inl rfl) (.inr settles)
    | cancelled =>
      simp only [terminal,Bool.false_eq_true,if_false]
      exact .ended other terminal rfl rfl rfl rfl (.inr usage) (.inl rfl) (.inl rfl) (.inr settles)

end

theorem loopStep_change (ok : attended.loopStep upstreamType clock input = .ok after) :
    ∃ next, after = attended.continue_ next ∧ Change attended.session input next := by
  unfold Attended.loopStep at ok
  cases found : attended.session.loop with
  | none =>
    rw [found] at ok
    cases ok
  | some loop =>
    rw [found] at ok
    dsimp only at ok
    split at ok
    · rename_i response point
      have awaits : loop.point ≠ .settled := by simp [point]
      cases ok
      have reported := @report_reported clock
        {attended.session with usage := (loop.respond attended.session.aborted response).2.usage}
        (loop.respond attended.session.aborted response).1
      exact ⟨_,rfl,.responded found awaits rfl reported.usage (Loop.respond_spent response) ⟨reported.status,reported.aborted,
        reported.usage,reported.result,reported.failure,reported.sequence,reported.events⟩⟩
    · rename_i fault point
      have awaits : loop.point ≠ .settled := by simp [point]
      cases ok
      exact ⟨_,rfl,.threw rfl fault found awaits⟩
    · rename_i use rest resultBlocks answer point
      have awaits : loop.point ≠ .settled := by simp [point]
      cases ok
      have reported := @report_reported clock attended.session
        (loop.toolAnswered attended.session.aborted use rest resultBlocks answer).1
      exact ⟨_,rfl,@Change.answered attended.session loop _ answer _ _ found awaits rfl Loop.toolAnswered_spent Loop.toolAnswered_reports
        ⟨reported.status,reported.aborted,reported.usage,reported.result,reported.failure,reported.sequence,reported.events⟩⟩
    · rename_i result point
      cases ok
      exact ⟨_,rfl,fulfilled_change rfl found point⟩
    · rename_i fault _
      cases ok
      exact ⟨_,rfl,rejected_change rfl fault found⟩
    · cases ok

/-- What a step does: the session changes, and those who wait for its events are woken, or the consumers alone do. -/
inductive Stepped (attended : Attended) (input : SessionInput) (after : Attended) : Prop
  | changed {next : KimiSession} (change : Change attended.session input next) (session : after.session = next)
      (consumers : after.consumers = (attended.continue_ next).consumers)
  | subscribed (consumer : Consumer) (session : after.session = attended.session)
      (consumers : after.consumers = attended.consumers ++ [consumer])
      (fresh : consumer.known = true → consumer.state = .reading ∧ consumer.index = 0 ∧ consumer.seen = [])
  | read (consumer : Nat) (session : after.session = attended.session)
      (consumers : after.consumers = attended.consumers.modify consumer (Consumer.next attended.session))

theorem step_stepped (ok : attended.step upstreamType clock input = .ok after) : Stepped attended input after := by
  have unchanged : attended.consumers = (attended.continue_ attended.session).consumers := by simp [Attended.continue_]
  have aborts (other : input.isAnswer = false) (why : String) (cleaning : Bool) : Stepped attended input
      (if attended.registered then {attended.continue_ (attended.session.abort clock why) with cleaning := cleaning} else attended) := by
    split
    · exact .changed (abort_change other why) rfl rfl
    · exact .changed (.same other) rfl unchanged
  unfold Attended.step at ok
  cases input with
  | cancel why =>
    cases ok
    exact aborts rfl (why.getD "cancelled") attended.cleaning
  | timeout =>
    dsimp only at ok
    split at ok
    · cases ok
      exact aborts rfl "timeout" attended.cleaning
    · cases ok
  | cleanup =>
    cases ok
    exact aborts rfl "cleanup" true
  | removed =>
    dsimp only at ok
    split at ok
    · cases ok
      exact .changed (.same rfl) rfl unchanged
    · cases ok
  | subscribe =>
    cases ok
    refine .subscribed _ rfl rfl ?_
    split
    · exact fun _ => ⟨rfl,rfl,rfl⟩
    · exact fun known => by cases known
  | next consumer =>
    cases ok
    exact .read consumer rfl rfl
  | response response =>
    obtain ⟨next,rfl,change⟩ := loopStep_change ok
    exact .changed change rfl rfl
  | transportFault fault =>
    obtain ⟨next,rfl,change⟩ := loopStep_change ok
    exact .changed change rfl rfl
  | toolAnswer answer =>
    obtain ⟨next,rfl,change⟩ := loopStep_change ok
    exact .changed change rfl rfl
  | settle =>
    obtain ⟨next,rfl,change⟩ := loopStep_change ok
    exact .changed change rfl rfl

/-! ### What holds at any time -/

structure Kept (session : KimiSession) : Prop where
  live : isTerminal session.status = false →
    (∀ event ∈ session.events, event.terminal = false) ∧ session.result = none ∧ session.failure = none
  ended : isTerminal session.status = true → session.loop ≠ none → ∃ event ∈ session.events, event.terminal = true
  aborted : isTerminal session.status = true → ∀ loop, session.loop = some loop → session.aborted = true ∨ loop.point = .settled
  usage : ∀ loop, session.loop = some loop → loop.Spent session.usage
  result : session.result.isSome → session.status = .submitted
  failure : session.failure.isSome → session.status = .failed

theorem Kept.reported {loop after : Loop} {usage : TokenUsage} {count : Nat} (kept : Kept session) (found : session.loop = some loop)
    (awaits : loop.point ≠ .settled) (now : next.loop = some after) (spent : after.Spent next.usage)
    (reported : Reported {session with usage := usage} count next) : Kept next := by
  obtain ⟨more,events,_,plain⟩ := reported.events
  have status : next.status = session.status := reported.status
  have result : next.result = session.result := reported.result
  have failure : next.failure = session.failure := reported.failure
  refine ⟨?_,?_,?_,?_,?_,?_⟩
  · intro running
    rw [status] at running
    obtain ⟨quiet,noResult,noFailure⟩ := kept.live running
    refine ⟨?_,result.trans noResult,failure.trans noFailure⟩
    rw [events]
    intro event inside
    rcases List.mem_append.mp inside with here | there
    · exact quiet event here
    · exact plain event there
  · intro terminal _
    rw [status] at terminal
    obtain ⟨event,inside,last⟩ := kept.ended terminal (by simp [found])
    exact ⟨event,events ▸ List.mem_append_left _ inside,last⟩
  · intro terminal loop' held
    rw [status] at terminal
    rcases kept.aborted terminal loop found with aborted | settled
    · exact .inl (reported.aborted.trans aborted)
    · exact absurd settled awaits
  · intro loop' held
    rw [now] at held
    cases held
    exact spent
  · intro some_
    rw [result] at some_
    exact status.trans (kept.result some_)
  · intro some_
    rw [failure] at some_
    exact status.trans (kept.failure some_)

theorem Kept.step (kept : Kept session) (change : Change session input next) : Kept next := by
  cases change with
  | same => exact kept
  | @threw _ _ loop fault found awaits =>
    refine ⟨kept.live,fun terminal _ => kept.ended terminal (by simp [found]),?_,?_,kept.result,kept.failure⟩
    · intro terminal loop' held
      rcases kept.aborted terminal loop found with aborted | settled
      · exact .inl aborted
      · exact absurd settled awaits
    · intro loop' held
      cases held
      exact ⟨(kept.usage loop found).1,by simp⟩
  | responded found awaits now usage spent reported =>
    exact kept.reported found awaits now (usage ▸ ⟨rfl,spent.1 ▸ spent.2⟩) reported
  | @answered loop after answer _ count found awaits now spent some_ reported =>
    refine kept.reported found awaits now ?_ (show Reported {session with usage := session.usage} count next from reported)
    rw [reported.usage,← (kept.usage loop found).1]
    exact spent
  | @ended _ _ _ event running terminal events last sequence usage result failure looped =>
    obtain ⟨_,noResult,noFailure⟩ := kept.live running
    have spent : ∀ loop, session.loop = some loop → loop.Spent next.usage := by
      intro loop found
      rcases usage with same | ⟨loop',result,held,point,same⟩
      · rw [same]
        exact kept.usage loop found
      · rw [found] at held
        cases held
        have here := kept.usage loop found
        rw [same,here.2 result point]
        exact here
    refine ⟨fun running => absurd terminal (by simp [running]),?_,?_,?_,?_,?_⟩
    · exact fun _ _ => ⟨event,by simp [events],last⟩
    · intro _ loop' held
      rcases looped with ⟨_,aborted⟩ | ⟨loop,_,settled⟩
      · exact .inl aborted
      · rw [settled] at held
        cases held
        exact .inr rfl
    · intro loop' held
      rcases looped with ⟨same,_⟩ | ⟨loop,found,settled⟩
      · exact spent loop' (same ▸ held)
      · rw [settled] at held
        cases held
        exact ⟨(spent loop found).1,by simp⟩
    · intro some_
      rcases result with same | submitted
      · simp [same,noResult] at some_
      · exact submitted
    · intro some_
      rcases failure with same | failed
      · simp [same,noFailure] at some_
      · exact failed
  | @settled _ _ loop terminal found =>
    refine ⟨kept.live,fun terminal _ => kept.ended terminal (by simp [found]),?_,?_,kept.result,kept.failure⟩
    · intro _ loop' held
      cases held
      exact .inr rfl
    · intro loop' held
      cases held
      exact ⟨(kept.usage loop found).1,by simp⟩

/-! ### Steps that come too late -/

/-- An answer that the session's end should have kept from being reported, or that takes tokens back. -/
def Untimely (session : KimiSession) (input : SessionInput) : Prop :=
  match input with
  | .response response => response.usage.inputTokens < 0 ∨ response.usage.outputTokens < 0 ∨
      isTerminal session.status = true ∧ Loop.texts response.content ≠ []
  | .toolAnswer _ => isTerminal session.status = true
  | _ => False

section
variable (change : Change session input next)
include change

theorem Change.grown : ∃ more, next.events = session.events ++ more := by
  cases change with
  | same => exact ⟨[],by simp⟩
  | threw => exact ⟨[],by simp⟩
  | responded _ _ _ _ _ reported =>
    obtain ⟨more,events,_⟩ := reported.events
    exact ⟨more,events⟩
  | answered _ _ _ _ _ reported =>
    obtain ⟨more,events,_⟩ := reported.events
    exact ⟨more,events⟩
  | ended _ _ _ events => exact ⟨_,events⟩
  | settled => exact ⟨[],by simp⟩

theorem Change.status (terminal : isTerminal session.status = true) : next.status = session.status := by
  cases change with
  | same => rfl
  | threw => rfl
  | responded _ _ _ _ _ reported => exact reported.status
  | answered _ _ _ _ _ reported => exact reported.status
  | ended _ running => simp [running] at terminal
  | settled => rfl

theorem Change.ends (running : isTerminal session.status = false)
    (terminal : isTerminal next.status = true) : ∃ event, next.events = session.events ++ [event] := by
  cases change with
  | same => simp [running] at terminal
  | threw => simp [running] at terminal
  | responded _ _ _ _ _ reported =>
    rw [reported.status] at terminal
    simp [running] at terminal
  | answered _ _ _ _ _ reported =>
    rw [reported.status] at terminal
    simp [running] at terminal
  | ended _ _ _ events => exact ⟨_,events⟩
  | settled _ already => simp [running] at already

theorem Change.silent (kept : Kept session) (timely : ¬ Untimely session input) (terminal : isTerminal session.status = true) :
    next.events = session.events ∧ next.nextEventSeq = session.nextEventSeq := by
  cases change with
  | same => exact ⟨rfl,rfl⟩
  | threw => exact ⟨rfl,rfl⟩
  | @responded loop after response _ found awaits now usage spent reported =>
    rcases kept.aborted terminal loop found with aborted | settled
    · rw [aborted,Loop.respond_aborted] at reported
      have quiet : Loop.texts response.content = [] := by
        by_contra loud
        exact timely (.inr (.inr ⟨terminal,loud⟩))
      rw [quiet] at reported
      obtain ⟨more,events,none,_⟩ := reported.events
      rw [List.length_eq_zero_iff.mp none,List.append_nil] at events
      exact ⟨events,reported.sequence⟩
    · exact absurd settled awaits
  | answered => exact absurd terminal timely
  | ended _ running => simp [running] at terminal
  | settled => exact ⟨rfl,rfl⟩

end

def TokenUsage.within (early late : TokenUsage) : Prop :=
  early.inputTokens ≤ late.inputTokens ∧ early.outputTokens ≤ late.outputTokens

theorem Change.spends (change : Change session input next) (kept : Kept session) (timely : ¬ Untimely session input) :
    session.usage.within next.usage := by
  have still : session.usage.within session.usage := ⟨le_rfl,le_rfl⟩
  cases change with
  | same => exact still
  | threw => exact still
  | @responded loop after response _ found awaits now usage spent reported =>
    rw [usage,spent.1,← (kept.usage loop found).1]
    have input : ¬ response.usage.inputTokens < 0 := fun negative => timely (.inl negative)
    have output : ¬ response.usage.outputTokens < 0 := fun negative => timely (.inr (.inl negative))
    constructor
    · dsimp only
      omega
    · dsimp only
      omega
  | answered _ _ _ _ _ reported =>
    rw [reported.usage]
    exact still
  | ended _ _ _ _ _ _ usage =>
    rcases usage with same | ⟨loop,result,found,point,same⟩
    · rw [same]
      exact still
    · rw [same,(kept.usage loop found).2 result point]
      exact still
  | settled => exact still

theorem Change.untimely (change : Change session input next) (kept : Kept session) (late : Untimely session input) :
    (∃ before event after, next.events = before ++ event::after ∧ event.terminal = true ∧ after ≠ []) ∨
      ¬ session.usage.within next.usage := by
  have reportedLate {count : Nat} {usage : TokenUsage} (terminal : isTerminal session.status = true) (looped : session.loop ≠ none)
      (some_ : 1 ≤ count) (reported : Reported {session with usage := usage} count next) :
      ∃ before event after, next.events = before ++ event::after ∧ event.terminal = true ∧ after ≠ [] := by
    obtain ⟨event,inside,last⟩ := kept.ended terminal looped
    obtain ⟨before,after,split⟩ := List.append_of_mem inside
    obtain ⟨more,events,counted,_⟩ := reported.events
    refine ⟨before,event,after ++ more,?_,last,?_⟩
    · rw [events,split]
      simp
    · intro none
      rw [(List.append_eq_nil_iff.mp none).2] at counted
      simp at counted
      omega
  cases change with
  | same other => cases input <;> first | exact absurd late id | cases other
  | threw other => cases input <;> first | exact absurd late id | cases other
  | @responded loop after response _ found awaits now usage spent reported =>
    rcases late with negative | negative | ⟨terminal,loud⟩
    · right
      rintro ⟨grown,_⟩
      rw [usage,spent.1,← (kept.usage loop found).1] at grown
      dsimp only at grown
      omega
    · right
      rintro ⟨_,grown⟩
      rw [usage,spent.1,← (kept.usage loop found).1] at grown
      dsimp only at grown
      omega
    · have some_ : 1 ≤ (loop.respond session.aborted response).1.length :=
        Nat.le_trans (List.length_pos_iff.mpr loud) (Loop.respond_reports response)
      exact .inl (reportedLate terminal (by simp [found]) some_ reported)
  | @answered loop after answer _ count found awaits now spent some_ reported =>
    exact .inl (reportedLate late (by simp [found]) some_ (show Reported {session with usage := session.usage} count next from reported))
  | ended other => cases input <;> first | exact absurd late id | cases other
  | settled other => cases input <;> first | exact absurd late id | cases other

end

end AgentOS.Kimi
