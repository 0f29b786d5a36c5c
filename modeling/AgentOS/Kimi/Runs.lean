import AgentOS.Kimi.Endings

/-! Runs of a session: in which of them it ends once and for all, and everyone who follows its events sees the same. -/
namespace AgentOS.Kimi
open Library KimiSession

/-- What the consumer has seen are the first events of the session, and all of them once it has returned. -/
def Follows (session : KimiSession) (consumer : Consumer) : Prop :=
  consumer.known = true → consumer.seen = session.events.take consumer.index ∧ consumer.index ≤ session.events.length ∧
    (consumer.state = .returned → isTerminal session.status = true ∧ consumer.index = session.events.length)

structure Tidy (attended : Attended) : Prop where
  kept : Kept attended.session
  last : ∀ before event after, attended.session.events = before ++ event::after → event.terminal = true → after = []
  consumers : ∀ consumer ∈ attended.consumers, Follows attended.session consumer

section
variable {upstreamType : String → Option String} {clock : Nat → Instant} {session next : KimiSession} {input : SessionInput}
  {attended after middle : Attended} {consumer : Consumer} {inputs : List SessionInput}

section
variable (follows : Follows session consumer)
include follows

theorem Follows.wake : Follows session consumer.wake := by
  unfold Consumer.wake
  split
  · intro known
    obtain ⟨seen,bound,_⟩ := follows known
    exact ⟨seen,bound,by simp⟩
  · exact follows

theorem Follows.read : Follows session (consumer.next session) := by
  unfold Consumer.next
  split
  · rename_i reading
    intro known
    split at known
    · rename_i event found
      obtain ⟨seen,bound,_⟩ := follows known
      obtain ⟨inside,same⟩ := List.getElem?_eq_some_iff.mp found
      refine ⟨?_,inside,by simp [reading]⟩
      dsimp only
      rw [seen,← same,List.take_append_getElem inside]
    · rename_i absent
      obtain ⟨seen,bound,_⟩ := follows known
      refine ⟨seen,bound,?_⟩
      have all : session.events.length ≤ consumer.index := List.getElem?_eq_none_iff.mp absent
      dsimp only
      split
      · exact fun _ => ⟨‹_›,Nat.le_antisymm bound all⟩
      · simp
  · exact follows

theorem Follows.grown (grown : ∃ more, next.events = session.events ++ more)
    (ended : isTerminal session.status = true → next.events = session.events ∧ next.status = session.status) :
    Follows next consumer := by
  intro known
  obtain ⟨seen,bound,returned⟩ := follows known
  obtain ⟨more,events⟩ := grown
  refine ⟨?_,?_,?_⟩
  · rw [events,List.take_append_of_le_length bound]
    exact seen
  · rw [events,List.length_append]
    omega
  · intro done
    obtain ⟨terminal,all⟩ := returned done
    obtain ⟨sameEvents,sameStatus⟩ := ended terminal
    rw [sameEvents,sameStatus]
    exact ⟨terminal,all⟩

end

theorem mem_modify_next {consumers : List Consumer} {index : Nat}
    (inside : consumer ∈ consumers.modify index (Consumer.next session)) :
    consumer ∈ consumers ∨ ∃ before ∈ consumers, consumer = before.next session := by
  obtain ⟨place,bound,rfl⟩ := List.mem_iff_getElem.mp inside
  rw [List.length_modify] at bound
  rw [List.getElem_modify]
  split
  · exact .inr ⟨_,List.getElem_mem bound,rfl⟩
  · exact .inl (List.getElem_mem bound)

theorem Tidy.step (tidy : Tidy attended) (timely : ¬ Untimely attended.session input) (stepped : Stepped attended input after) :
    Tidy after := by
  cases stepped with
  | changed change session consumers =>
    subst session
    have kept := tidy.kept.step change
    refine ⟨kept,?_,?_⟩
    · cases terminal : isTerminal attended.session.status with
      | true =>
        rw [(change.silent tidy.kept timely terminal).1]
        exact tidy.last
      | false =>
        intro before event rest split last
        cases ends : isTerminal after.session.status with
        | false =>
          have plain := (kept.live ends).1 event (by simp [split])
          rw [plain] at last
          cases last
        | true =>
          obtain ⟨ending,events⟩ := change.ends terminal ends
          rcases rest.eq_nil_or_concat with rfl | ⟨earlier,final,rfl⟩
          · rfl
          · have early : attended.session.events = before ++ event::earlier := by
              have same := events.symm.trans split
              rw [List.concat_eq_append,← List.cons_append,← List.append_assoc] at same
              exact (List.append_inj' same rfl).1
            have plain := (tidy.kept.live terminal).1 event (by simp [early])
            rw [plain] at last
            cases last
    · rw [consumers]
      intro consumer inside
      unfold Attended.continue_ at inside
      dsimp only at inside
      have follow (before : Consumer) (old : before ∈ attended.consumers) : Follows after.session before :=
        (tidy.consumers before old).grown change.grown fun terminal =>
          ⟨(change.silent tidy.kept timely terminal).1,change.status terminal⟩
      split at inside
      · exact follow consumer inside
      · obtain ⟨before,old,rfl⟩ := List.mem_map.mp inside
        exact (follow before old).wake
  | subscribed consumer session consumers fresh =>
    refine ⟨session ▸ tidy.kept,session ▸ tidy.last,?_⟩
    rw [session,consumers]
    intro other inside
    rcases List.mem_append.mp inside with old | new
    · exact tidy.consumers other old
    · rw [List.mem_singleton.mp new]
      intro known
      obtain ⟨reading,start,nothing⟩ := fresh known
      rw [start,nothing,reading]
      exact ⟨rfl,Nat.zero_le _,by simp⟩
  | read index session consumers =>
    refine ⟨session ▸ tidy.kept,session ▸ tidy.last,?_⟩
    rw [session,consumers]
    intro other inside
    rcases mem_modify_next inside with old | ⟨before,old,rfl⟩
    · exact tidy.consumers other old
    · exact (tidy.consumers before old).read

/-! ### Runs -/

structure Preceded (early late : KimiSession) : Prop where
  status : isTerminal early.status = true → late.status = early.status
  usage : early.usage.within late.usage

theorem Preceded.refl (session : KimiSession) : Preceded session session := ⟨fun _ => rfl,le_rfl,le_rfl⟩

theorem Preceded.trans {first second third : KimiSession} (early : Preceded first second) (late : Preceded second third) :
    Preceded first third := by
  refine ⟨fun terminal => ?_,early.usage.1.trans late.usage.1,early.usage.2.trans late.usage.2⟩
  have same := early.status terminal
  exact (late.status (same ▸ terminal)).trans same

/-- At most one event is terminal, and it is the last; a result is there only if it was submitted, and a failure only if
the session failed; and every consumer that has come to the end has seen all events. -/
structure WellEnded (attended : Attended) : Prop where
  last : ∀ before event after, attended.session.events = before ++ event::after → event.terminal = true → after = []
  result : attended.session.result.isSome → attended.session.status = .submitted
  failure : attended.session.failure.isSome → attended.session.status = .failed
  consumers : ∀ consumer ∈ attended.consumers, consumer.known = true → consumer.state = .returned →
    consumer.seen = attended.session.events

theorem Tidy.wellEnded (tidy : Tidy attended) : WellEnded attended := by
  refine ⟨tidy.last,tidy.kept.result,tidy.kept.failure,fun consumer inside known done => ?_⟩
  obtain ⟨seen,_,returned⟩ := tidy.consumers consumer inside known
  rw [seen,(returned done).2,List.take_length]

section
variable (kept : Kept attended.session)
include kept

theorem stepped_precedes (timely : ¬ Untimely attended.session input)
    (stepped : Stepped attended input after) : Preceded attended.session after.session := by
  cases stepped with
  | changed change session consumers =>
    subst session
    exact ⟨change.status,change.spends kept timely⟩
  | subscribed consumer session => exact session ▸ .refl _
  | read index session => exact session ▸ .refl _

theorem stepped_kept (stepped : Stepped attended input after) : Kept after.session := by
  cases stepped with
  | changed change session consumers =>
    subst session
    exact kept.step change
  | subscribed consumer session => exact session ▸ kept
  | read index session => exact session ▸ kept

theorem run_kept (ran : replay (Attended.step upstreamType clock) attended inputs = .ok after) : Kept after.session := by
  induction inputs generalizing attended with
  | nil =>
    cases ran
    exact kept
  | cons input inputs ih =>
    obtain ⟨next,first,rest⟩ := replay_cons.mp ran
    exact ih (stepped_kept kept (step_stepped first)) rest

end

theorem untimely_change (late : Untimely attended.session input) (ok : attended.step upstreamType clock input = .ok after) :
    ∃ next, after = attended.continue_ next ∧ Change attended.session input next := by
  cases input with
  | response response => exact loopStep_change ok
  | toolAnswer answer => exact loopStep_change ok
  | _ => exact absurd late id

section
variable (upstreamType clock)

def Timely (start : Attended) (inputs : List SessionInput) : Prop :=
  ∀ early input rest middle, inputs = early ++ input::rest →
    replay (Attended.step upstreamType clock) start early = .ok middle → ¬ Untimely middle.session input

/-- From each state of the run to each later one the session ends once and for all. -/
def Terminates (start : Attended) (inputs : List SessionInput) : Prop :=
  ∀ early between rest middle last, inputs = early ++ between ++ rest →
    replay (Attended.step upstreamType clock) start early = .ok middle →
      replay (Attended.step upstreamType clock) middle between = .ok last →
        Preceded middle.session last.session ∧ WellEnded last

end

theorem Tidy.run (tidy : Tidy attended) (timely : Timely upstreamType clock attended inputs)
    (ran : replay (Attended.step upstreamType clock) attended inputs = .ok after) :
    Tidy after ∧ Preceded attended.session after.session := by
  induction inputs generalizing attended with
  | nil =>
    cases ran
    exact ⟨tidy,.refl _⟩
  | cons input inputs ih =>
    obtain ⟨next,first,rest⟩ := replay_cons.mp ran
    have now : ¬ Untimely attended.session input := timely [] input inputs attended rfl rfl
    have stepped := step_stepped first
    have later : Timely upstreamType clock next inputs := by
      rintro early other others middle rfl reached
      exact timely (input::early) other others middle rfl (replay_cons.mpr ⟨next,first,reached⟩)
    obtain ⟨ended,preceded⟩ := ih (tidy.step now stepped) later rest
    exact ⟨ended,(stepped_precedes tidy.kept now stepped).trans preceded⟩

theorem start_tidy (start : SessionStart) : Tidy {session := KimiSession.start clock start} := by
  unfold KimiSession.start
  dsimp only
  split
  · refine ⟨⟨by simp [emit,isTerminal],by simp [emit],by simp [emit],by simp [emit],by simp [emit],by simp [emit]⟩,?_,by simp⟩
    intro before event after split last
    have inside : event ∈ before ++ event::after := by simp
    rw [← split] at inside
    simp only [emit,List.nil_append,List.mem_singleton] at inside
    rw [inside] at last
    cases last
  · refine ⟨⟨by simp,by simp [isTerminal],by simp [isTerminal],?_,by simp,by simp⟩,?_,by simp⟩
    · rintro loop ⟨⟩
      exact Loop.nextTurn_spent
    · intro before event after split
      simp at split

/-- A run from a session's start ends it once and for all if and only if every answer of the model and of a tool that
comes after the end has nothing to report, and no answer of the model takes tokens back. -/
theorem session_terminates_iff {start : SessionStart} {last : Attended}
    (ran : replay (Attended.step upstreamType clock) {session := KimiSession.start clock start} inputs = .ok last) :
    Terminates upstreamType clock {session := KimiSession.start clock start} inputs ↔
      Timely upstreamType clock {session := KimiSession.start clock start} inputs := by
  constructor
  · rintro terminates early input rest middle rfl reached late
    obtain ⟨there,first,more⟩ := replay_append.mp ran
    rw [reached] at first
    cases first
    obtain ⟨next,stepped,_⟩ := replay_cons.mp more
    have kept := run_kept (start_tidy start).kept reached
    have once : replay (Attended.step upstreamType clock) middle [input] = .ok next := replay_cons.mpr ⟨next,stepped,rfl⟩
    obtain ⟨preceded,ended⟩ := terminates early [input] rest middle next (by simp) reached once
    obtain ⟨session,rfl,change⟩ := untimely_change late stepped
    rcases change.untimely kept late with ⟨before,event,after,split,terminal,more⟩ | lower
    · exact more (ended.last before event after split terminal)
    · exact lower preceded.usage
  · rintro timely early between rest middle last rfl reached ran
    have early' : Timely upstreamType clock {session := KimiSession.start clock start} early := by
      rintro before input after there rfl met
      exact timely before input (after ++ between ++ rest) there (by simp) met
    have tidy := ((start_tidy start).run early' reached).1
    have later : Timely upstreamType clock middle between := by
      rintro before input after there rfl met
      exact timely (early ++ before) input (after ++ rest) there (by simp) (replay_append.mpr ⟨middle,reached,met⟩)
    obtain ⟨ended,preceded⟩ := tidy.run later ran
    exact ⟨preceded,ended.wellEnded⟩

end

/-! ### A session that is cancelled while the model answers -/

def fixtureStart : SessionStart where
  handle := ⟨"kimi_1",0⟩
  agentId := "implementer"
  timed := true
  trustedVerification := false
  options := {model := "kimi-k2",initialInput := .str "implement"}

def fixtureAttended : Attended := {session := KimiSession.start (fun _ => 0) fixtureStart}

theorem timely_of_unanswered {upstreamType : String → Option String} {clock : Nat → Instant} {start : Attended}
    {inputs : List SessionInput} (unanswered : ∀ input ∈ inputs, input.isAnswer = false) : Timely upstreamType clock start inputs := by
  rintro early input rest middle rfl _ late
  have other := unanswered input (by simp)
  cases input <;> first | exact late | cases other

def timedOut : List SessionInput :=
  [.subscribe,.next 0,.timeout,.next 0,.transportFault (.http 429 ""),.settle,.subscribe,.next 0,.next 1,.next 1]

theorem timed_out_terminates : ∃ last, replay (Attended.step (fun _ => none) fun _ => 0) fixtureAttended timedOut = .ok last ∧
      Terminates (fun _ => none) (fun _ => 0) fixtureAttended timedOut :=
  ⟨_,rfl,(@session_terminates_iff (fun _ => none) (fun _ => 0) timedOut fixtureStart _ rfl).mpr
    (timely_of_unanswered (by simp [timedOut,SessionInput.isAnswer]))⟩

def lateText : SessionInput :=
  .response {content := [.text "Still here."],usage := {inputTokens := 10,outputTokens := 2}}

/-- The text of a model that answers after the cancellation is reported, after the event that was the last. -/
theorem late_text_reported : ¬ ∀ (upstreamType : String → Option String) (clock : Nat → Instant) (start : SessionStart)
    (inputs : List SessionInput) (last : Attended),
    replay (Attended.step upstreamType clock) {session := KimiSession.start clock start} inputs = .ok last →
      Terminates upstreamType clock {session := KimiSession.start clock start} inputs := by
  intro claim
  have terminates := claim (fun _ => none) (fun _ => 0) fixtureStart [.cancel none,lateText] _ rfl
  have ended := (terminates [] [.cancel none,lateText] [] _ _ rfl rfl rfl).2
  have nothing := ended.last [] _ [_] rfl rfl
  cases nothing

end AgentOS.Kimi
