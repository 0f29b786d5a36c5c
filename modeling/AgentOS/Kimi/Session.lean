import AgentOS.Kimi.Loop
import AgentOS.Library.Replay

/-! A session of the provider: the loop that runs in it, the calls that end it, and those who follow its events. -/
namespace AgentOS.Kimi

inductive KimiSessionStatus where
  | running
  | submitted
  | turnLimit
  | cancelled
  | failed

inductive RuntimeEventType where
  | message
  | toolCall
  | toolResult
  | terminated
  | error

structure RuntimeEvent where
  id : String
  type : RuntimeEventType
  occurredAt : Instant
  payload : Json

structure RuntimeHandle where
  id : String
  object : Nat

structure KimiSession where
  handle : RuntimeHandle
  agentId : String
  /-- Whether a timer cancels the session. -/
  timed : Bool
  aborted : Bool := false
  events : List RuntimeEvent := []
  nextEventSeq : Nat := 0
  usage : TokenUsage := {inputTokens := 0,outputTokens := 0}
  result : Option Json := none
  failure : Option TransportFault := none
  status : KimiSessionStatus := .running
  /-- The loop; a session that only verifies has none. -/
  loop : Option Loop := none

def isTerminal (status : KimiSessionStatus) : Bool :=
  match status with
  | .running => false
  | _ => true

def TransportFault.message : TransportFault → String
  | .http status _ => "Kimi transport request failed with status " ++ toString status
  | .other message => message

section
variable (upstreamType : String → Option String) (clock : Nat → Instant)

/-- The code of a failure, given how the type of the error in a body is read. -/
def runtimeErrorCode : TransportFault → Option String
  | .other _ => none
  | .http status body =>
    some (if upstreamType body = some "exceeded_current_quota_error" ∨ status = 402 then "billing_error"
      else if status = 429 then "model_rate_limited_error"
      else if status ≥ 500 then "model_overloaded_error"
      else "model_request_failed_error")

def LoopEvent.runtimeType (event : LoopEvent) : RuntimeEventType :=
  match event.type with
  | .message => .message
  | .toolCall => .toolCall
  | .toolResult => .toolResult

def LoopEvent.payload (event : LoopEvent) : Json :=
  .obj ([("detail",.str event.detail)] ++ (event.name.map fun name => ("name",Json.str name)).toList ++
    (event.isError.map fun isError => ("isError",Json.bool isError)).toList)

namespace KimiSession

def emit (session : KimiSession) (type : RuntimeEventType) (payload : Json) : KimiSession :=
  {session with
    nextEventSeq := session.nextEventSeq + 1
    events := session.events ++ [{
      id := "kimiEvent_" ++ toString session.nextEventSeq
      type := type
      occurredAt := clock session.nextEventSeq
      payload := payload}]}

def terminate (session : KimiSession) (status : KimiSessionStatus) (type : RuntimeEventType) (payload : Json) : Bool × KimiSession :=
  if isTerminal session.status then (false,session)
  else (true,{session with status := status}.emit clock type payload)

def reason (text : String) : Json := .obj [("reason",.str text)]

section
variable (session : KimiSession)

def report (events : List LoopEvent) : KimiSession :=
  events.foldl (fun session event => session.emit clock event.runtimeType event.payload) session

def proceed (events : List LoopEvent) (loop : Loop) : KimiSession :=
  {session.report clock events with loop := some loop}

def fulfilled (result : LoopResult) : KimiSession :=
  let spent := if isTerminal session.status then session else {session with usage := result.usage}
  match result.status with
  | .submitted submitted =>
    match spent.terminate clock .submitted .terminated (reason "submitted") with
    | (true,ended) => {ended with result := some submitted}
    | (false,same) => same
  | .turnLimit => (spent.terminate clock .turnLimit .error (reason "turn_limit")).2
  | .cancelled => (spent.terminate clock .cancelled .terminated (reason "cancelled")).2

def rejected (fault : TransportFault) : KimiSession :=
  match session.terminate clock .failed .error (.obj ([("message",.str fault.message)] ++
      ((runtimeErrorCode upstreamType fault).map fun code => ("code",Json.str code)).toList)) with
  | (true,ended) => {ended with failure := some fault}
  | (false,same) => same

def abort (why : String) : KimiSession :=
  if isTerminal session.status then session
  else ({session with aborted := true}.terminate clock .cancelled .terminated (reason why)).2

end

end KimiSession

structure SessionStart where
  handle : RuntimeHandle
  agentId : String
  timed : Bool
  /-- Only a command is to be verified: no model runs. -/
  trustedVerification : Bool
  options : LoopOptions

def KimiSession.start (start : SessionStart) : KimiSession :=
  let session : KimiSession := {handle := start.handle,agentId := start.agentId,timed := start.timed}
  if start.trustedVerification then
    {session with status := .submitted,result := some (.obj [])}.emit clock .message
      (.obj [("detail",.str "Trusted verification: no model session; the command is observed directly.")])
  else {session with loop := some (runKimiAgentLoop start.options)}

/-! ### Those who follow the events -/

inductive ConsumerState where
  | reading
  /-- Waits for the next event. -/
  | parked
  | returned

structure Consumer where
  /-- Whether the consumer found the session. -/
  known : Bool
  state : ConsumerState
  index : Nat
  seen : List RuntimeEvent

def Consumer.next (session : KimiSession) (consumer : Consumer) : Consumer :=
  match consumer.state with
  | .reading =>
    match session.events[consumer.index]? with
    | some event => {consumer with index := consumer.index + 1,seen := consumer.seen ++ [event]}
    | none => {consumer with state := if isTerminal session.status then .returned else .parked}
  | _ => consumer

def unknownSession (handle : RuntimeHandle) (at_ : Instant) : RuntimeEvent where
  id := "kimiEvent_unknown"
  type := .error
  occurredAt := at_
  payload := .obj [("message",.str ("unknown session: " ++ handle.id))]

def Consumer.wake (consumer : Consumer) : Consumer :=
  match consumer.state with
  | .parked => {consumer with state := .reading}
  | _ => consumer

/-- A session, whether the provider still knows it and is to clean it up, and the consumers of its events. -/
structure Attended where
  session : KimiSession
  registered : Bool := true
  cleaning : Bool := false
  consumers : List Consumer := []

inductive SessionInput where
  | response (response : KimiResponse)
  | transportFault (fault : TransportFault)
  | toolAnswer (answer : ToolAnswer)
  | settle
  | cancel (reason : Option String)
  | timeout
  | cleanup
  /-- The sandbox of a cleanup is destroyed. -/
  | removed
  | subscribe
  | next (consumer : Nat)

namespace Attended

def continue_ (attended : Attended) (session : KimiSession) : Attended :=
  {attended with
    session := session
    consumers := if session.nextEventSeq = attended.session.nextEventSeq then attended.consumers
      else attended.consumers.map Consumer.wake}

def notNow {α : Type} : Except String α := .error "this cannot happen now"

def loopStep (attended : Attended) (input : SessionInput) : Except String Attended :=
  match attended.session.loop with
  | none => notNow
  | some loop => match loop.point, input with
    | .sending _, .response response =>
      let (events,after) := loop.respond attended.session.aborted response
      .ok (attended.continue_ ({attended.session with usage := after.usage}.proceed clock events after))
    | .sending _, .transportFault fault => .ok (attended.continue_ {attended.session with loop := some {loop with point := .threw fault}})
    | .executing use rest resultBlocks, .toolAnswer answer =>
      let (events,after) := loop.toolAnswered attended.session.aborted use rest resultBlocks answer
      .ok (attended.continue_ (attended.session.proceed clock events after))
    | .returned result, .settle =>
      .ok (attended.continue_ {attended.session.fulfilled clock result with loop := some {loop with point := .settled}})
    | .threw fault, .settle =>
      .ok (attended.continue_ {attended.session.rejected upstreamType clock fault with loop := some {loop with point := .settled}})
    | _, _ => notNow

def step (attended : Attended) (input : SessionInput) : Except String Attended :=
  match input with
  | .cancel why =>
    .ok (if attended.registered then attended.continue_ (attended.session.abort clock (why.getD "cancelled")) else attended)
  | .timeout =>
    if attended.session.timed then
      .ok (if attended.registered then attended.continue_ (attended.session.abort clock "timeout") else attended)
    else notNow
  | .cleanup =>
    .ok (if attended.registered then {attended.continue_ (attended.session.abort clock "cleanup") with cleaning := true} else attended)
  | .removed => if attended.cleaning then .ok {attended with registered := false} else notNow
  | .subscribe =>
    .ok {attended with consumers := attended.consumers ++ [
      if attended.registered then {known := true,state := .reading,index := 0,seen := []}
      else {known := false,state := .returned,index := 1,seen := [unknownSession attended.session.handle (clock attended.session.nextEventSeq)]}]}
  | .next consumer => .ok {attended with consumers := attended.consumers.modify consumer (Consumer.next attended.session)}
  | input => attended.loopStep upstreamType clock input

end Attended

end

end AgentOS.Kimi
