import AgentOS.Kimi.Endings

/-! What the agent loop says: the requests it sends in a run, whatever the transport and the tools answer and whenever it is aborted. -/
namespace AgentOS.Kimi
open Loop

/-- What the loop waits for. The transport and a tool may fail. -/
inductive LoopAnswer where
  | responded (response : KimiResponse)
  | executed (answer : ToolAnswer)
  | failed (fault : TransportFault)

/-- An answer, and whether the signal has been aborted when it comes. -/
structure Beat where
  aborted : Bool
  answer : LoopAnswer

/-- The loop after an answer, if it waits for one of that kind. -/
def Loop.take (loop : Loop) (beat : Beat) : Option Loop :=
  match loop.point, beat.answer with
  | .sending _, .responded response => some (loop.respond beat.aborted response).2
  | .executing use rest resultBlocks, .executed answer => some (loop.toolAnswered beat.aborted use rest resultBlocks answer).2
  | .sending _, .failed fault | .executing _ _ _, .failed fault => some {loop with point := .threw fault}
  | _, _ => none

def Loop.sends (loop : Loop) : List KimiRequest :=
  match loop.point with
  | .sending request => [request]
  | _ => []

/-- The loop with the requests it has sent and the usage of the responses it has received. -/
structure Course where
  loop : Loop
  sent : List KimiRequest
  received : List TokenUsage

def opening (options : LoopOptions) : Loop :=
  {options,messages := [⟨.user,[.text options.initialInput.stringify]⟩],usage := ⟨0,0⟩,turns := 0,point := .settled}

def begun (options : LoopOptions) (aborted : Bool) : Course :=
  let loop := (opening options).nextTurn aborted
  ⟨loop,loop.sends,[]⟩

def Course.next (course : Course) (beat : Beat) : Course :=
  match course.loop.take beat with
  | none => course
  | some loop => ⟨loop,course.sent ++ loop.sends,course.received ++ match beat.answer with
    | .responded response => [response.usage]
    | _ => []⟩

def results (content : List ContentBlock) : List String := content.filterMap fun block => match block with
  | .toolResult toolUseId _ _ => some toolUseId
  | _ => none

/-- The user's input, and then messages of the assistant each with the user's next: one result for each of its tool uses, in order. -/
inductive Conversation (input : Json) : List Message → Prop where
  | opening : Conversation input [⟨.user,[.text input.stringify]⟩]
  | exchange {messages : List Message} {content reply : List ContentBlock} (early : Conversation input messages)
    (answered : results reply = (toolUses content).map ToolUse.id) :
    Conversation input (messages ++ [⟨.assistant,content⟩,⟨.user,reply⟩])

/-- Where the loop stands in its conversation. -/
def Loop.Stands (loop : Loop) : Prop :=
  match loop.point with
  | .sending request => request.messages = loop.messages ∧ Conversation loop.options.initialInput loop.messages
  | .executing use rest resultBlocks => ∃ messages content, loop.messages = messages ++ [⟨.assistant,content⟩] ∧
      Conversation loop.options.initialInput messages ∧
      results resultBlocks ++ (use::rest).map ToolUse.id = (toolUses content).map ToolUse.id
  | _ => True

/-- The loop goes on from where it was: it stands in its conversation, and has counted the request that it sends, if it does. -/
structure Loop.Follows (aborted : Bool) (loop after : Loop) : Prop where
  options : after.options = loop.options
  stands : after.Stands
  turns : after.turns = loop.turns + after.sends.length
  bounded : loop.turns ≤ loop.options.maxTurns → after.turns ≤ loop.options.maxTurns
  quiet : aborted = true → after.sends = []

namespace Loop
variable {aborted : Bool} {loop after : Loop}

theorem end_follows (status : LoopStatus) : Follows aborted loop (loop.end_ status) :=
  ⟨rfl,trivial,rfl,id,fun _ => rfl⟩

theorem nextTurn_follows (early : Conversation loop.options.initialInput loop.messages) : Follows aborted loop (loop.nextTurn aborted) := by
  unfold nextTurn
  split
  · rename_i more
    split
    · exact end_follows _
    · rename_i going
      exact ⟨rfl,⟨rfl,early⟩,rfl,fun _ => more,fun stopped => absurd stopped going⟩
  · exact end_follows _

theorem results_append (left right : List ContentBlock) : results (left ++ right) = results left ++ results right :=
  List.filterMap_append

theorem dispatch_follows {messages : List Message} {content resultBlocks : List ContentBlock} {uses : List ToolUse}
    (said : loop.messages = messages ++ [⟨.assistant,content⟩]) (early : Conversation loop.options.initialInput messages)
    (answered : results resultBlocks ++ uses.map ToolUse.id = (toolUses content).map ToolUse.id) :
    Follows aborted loop (loop.dispatch aborted uses resultBlocks).2 := by
  induction uses generalizing resultBlocks with
  | nil =>
    rw [List.map_nil,List.append_nil] at answered
    have whole : Conversation loop.options.initialInput (loop.say .user resultBlocks).messages := by
      change Conversation _ (loop.messages ++ [_])
      rw [said,List.append_assoc]
      exact .exchange early answered
    have follows := @nextTurn_follows aborted (loop.say .user resultBlocks) whole
    exact ⟨follows.options,follows.stands,follows.turns,follows.bounded,follows.quiet⟩
  | cons use uses ih =>
    unfold dispatch
    split
    · exact end_follows _
    rename_i going
    split
    · split
      · exact end_follows _
      · apply ih
        rw [results_append,← answered,List.append_assoc]
        rfl
    · exact ⟨rfl,⟨messages,content,said,early,answered⟩,rfl,id,fun _ => rfl⟩

theorem respond_follows {response : KimiResponse} (early : Conversation loop.options.initialInput loop.messages) :
    Follows aborted loop (loop.respond aborted response).2 := by
  unfold respond
  dsimp only
  split
  · rename_i none_
    have whole : Conversation loop.options.initialInput
        (((loop.spend response.usage).say .assistant response.content).say .user [.text STALL_PROMPT]).messages := by
      change Conversation _ ((loop.messages ++ [_]) ++ [_])
      rw [List.append_assoc]
      apply Conversation.exchange early
      rw [none_]
      rfl
    have follows := @nextTurn_follows aborted
      (((loop.spend response.usage).say .assistant response.content).say .user [.text STALL_PROMPT]) whole
    exact ⟨follows.options,follows.stands,follows.turns,follows.bounded,follows.quiet⟩
  · have follows := @dispatch_follows aborted ((loop.spend response.usage).say .assistant response.content)
      loop.messages response.content [] (toolUses response.content) rfl early rfl
    exact ⟨follows.options,follows.stands,follows.turns,follows.bounded,follows.quiet⟩

theorem take_follows {beat : Beat} (stands : loop.Stands) (taken : loop.take beat = some after) : Follows beat.aborted loop after := by
  unfold take at taken
  unfold Stands at stands
  split at taken
  · rename_i point answer
    rw [point] at stands
    cases taken
    exact respond_follows stands.2
  · rename_i use rest resultBlocks answer point _
    rw [point] at stands
    cases taken
    obtain ⟨messages,content,said,early,answered⟩ := stands
    apply dispatch_follows said early
    rw [results_append,← answered,List.append_assoc]
    rfl
  · cases taken
    exact ⟨rfl,trivial,rfl,id,fun _ => rfl⟩
  · cases taken
    exact ⟨rfl,trivial,rfl,id,fun _ => rfl⟩
  · cases taken

end Loop

def total (received : List TokenUsage) : TokenUsage :=
  ⟨(received.map TokenUsage.inputTokens).sum,(received.map TokenUsage.outputTokens).sum⟩

/-- What holds of a run of the loop. -/
structure Course.Sound (options : LoopOptions) (course : Course) : Prop where
  options_ : course.loop.options = options
  stands : course.loop.Stands
  counted : course.sent.length = course.loop.turns
  bounded : course.loop.turns ≤ options.maxTurns
  conversations : ∀ request ∈ course.sent, Conversation options.initialInput request.messages
  spent : course.loop.Spent (total course.received)

variable {options : LoopOptions} {course : Course}

theorem sends_conversation {loop : Loop} (stands : loop.Stands) {request : KimiRequest} (sent : request ∈ loop.sends) :
    Conversation loop.options.initialInput request.messages := by
  unfold Loop.sends at sent
  unfold Loop.Stands at stands
  split at sent
  · rename_i point
    rw [point] at stands
    rw [List.mem_singleton.mp sent,stands.1]
    exact stands.2
  · cases sent

theorem begun_sound (aborted : Bool) : (begun options aborted).Sound options := by
  have follows := @nextTurn_follows aborted (opening options) .opening
  refine ⟨follows.options,follows.stands,?_,follows.bounded (Nat.zero_le _),fun request sent => ?_,nextTurn_spent⟩
  · exact (follows.turns.trans (Nat.zero_add _)).symm
  · have conversation := sends_conversation follows.stands sent
    rw [follows.options] at conversation
    exact conversation

theorem take_spent {beat : Beat} {loop after : Loop} (taken : loop.take beat = some after) : after.Spent (match beat.answer with
    | .responded response => ⟨loop.usage.inputTokens + response.usage.inputTokens,loop.usage.outputTokens + response.usage.outputTokens⟩
    | _ => loop.usage) := by
  unfold Loop.take at taken
  split at taken
  · rename_i same
    cases taken
    rw [same]
    exact respond_spent _
  · rename_i same
    cases taken
    rw [same]
    exact toolAnswered_spent
  · rename_i same
    cases taken
    rw [same]
    exact ⟨rfl,nofun⟩
  · rename_i same
    cases taken
    rw [same]
    exact ⟨rfl,nofun⟩
  · cases taken

section
variable (sound : course.Sound options)
include sound

theorem Course.Sound.next (beat : Beat) : (course.next beat).Sound options := by
  unfold Course.next
  cases taken : course.loop.take beat with
  | none => exact sound
  | some after =>
    have follows := take_follows sound.stands taken
    refine ⟨follows.options.trans sound.options_,follows.stands,?_,?_,fun request sent => ?_,?_⟩
    · rw [List.length_append,sound.counted,follows.turns]
    · have bounded := follows.bounded (sound.options_ ▸ sound.bounded)
      rw [sound.options_] at bounded
      exact bounded
    · cases List.mem_append.mp sent with
      | inl early => exact sound.conversations request early
      | inr now =>
        have conversation := sends_conversation follows.stands now
        rw [follows.options,sound.options_] at conversation
        exact conversation
    · have spent := take_spent taken
      rw [sound.spent.1] at spent
      cases answer : beat.answer with
      | responded response =>
        rw [answer] at spent
        simp only [total,List.map_append,List.sum_append,List.map_cons,List.map_nil,List.sum_singleton]
        exact spent
      | executed _ | failed _ =>
        rw [answer] at spent
        simp only [List.append_nil]
        exact spent

theorem Course.Sound.run (beats : List Beat) : (beats.foldl Course.next course).Sound options := by
  induction beats generalizing course with
  | nil => exact sound
  | cons beat beats ih => exact ih (sound.next beat)

theorem Course.Sound.quiet {beats : List Beat} (aborted : ∀ beat ∈ beats, beat.aborted = true) :
    (beats.foldl Course.next course).sent = course.sent := by
  induction beats generalizing course with
  | nil => rfl
  | cons beat beats ih =>
    rw [List.foldl_cons,ih (sound.next beat) fun other later => aborted other (List.mem_cons_of_mem _ later)]
    unfold Course.next
    cases taken : course.loop.take beat with
    | none => rfl
    | some after =>
      change course.sent ++ after.sends = course.sent
      rw [(take_follows sound.stands taken).quiet (aborted beat List.mem_cons_self),List.append_nil]

end

/-- Whatever is answered and whenever the signal is aborted: every request carries a conversation, there are at most `maxTurns` of
them and none more once the signal is aborted, and the usage is the sum of what was received. -/
theorem loop_converses (options : LoopOptions) (aborted : Bool) (beats : List Beat) :
    let course := beats.foldl Course.next (begun options aborted)
    (∀ request ∈ course.sent, Conversation options.initialInput request.messages) ∧ course.sent.length ≤ options.maxTurns ∧
      (aborted = true → (begun options aborted).sent = []) ∧
      (∀ more : List Beat, (∀ beat ∈ more, beat.aborted = true) → (more.foldl Course.next course).sent = course.sent) ∧
      course.loop.usage = total course.received ∧
      ∀ result, course.loop.point = .returned result → result.usage = total course.received := by
  have sound := (@begun_sound options aborted).run beats
  exact ⟨sound.conversations,sound.counted ▸ sound.bounded,(@nextTurn_follows aborted (opening options) .opening).quiet,
    fun _ later => sound.quiet later,sound.spent⟩

end AgentOS.Kimi
