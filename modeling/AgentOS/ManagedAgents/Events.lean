import AgentOS.Instants
import AgentOS.ManagedAgents.Provider

/-! The events of a session: the history is listed and a stream is followed, and again after every end of the stream, each event being
given out once. -/
namespace AgentOS.ManagedAgents

structure EventLimits where
  maxListedEvents : Nat := 1000
  maxEventBytes : Nat := 256 * 1024
  maxStreamDurationMs : Int := 21 * 60000
  maxStreamReconnects : Nat := 3

/-! ### Normalization -/

def ERROR_TYPES : List String :=
  ["unknown_error","model_overloaded_error","model_rate_limited_error","model_request_failed_error","mcp_connection_failed_error",
    "mcp_authentication_failed_error","billing_error","credential_host_unreachable_error"]

structure RuntimeEvent where
  id : String
  occurredAt : Instant
  type : String
  payload : Json
  deriving DecidableEq

def malformed : ProviderFault := .error "Malformed provider event"

def unsupported : ProviderFault := .error "Unsupported provider event"

def requiredString : Option Json → Except ProviderFault String
  | some (.str value) => if value = "" then .error malformed else .ok value
  | _ => .error malformed

variable (value : Option Json)

def requiredBoundedString (limit : Nat) : Except ProviderFault String := do
  let result ← requiredString value
  if utf16Length result > limit then .error malformed else .ok result

def optionalBoundedString (limit : Nat) : Except ProviderFault (Option String) :=
  if value.isNone then .ok none else (requiredBoundedString value limit).map some

def optionalId (key : String) (value : Option Json) : Except ProviderFault (List (String × Json)) :=
  if value = none ∨ value = some .null then .ok []
  else (requiredBoundedString value 128).map fun id => [(key,.str id)]

def parsedDate (fallback : Instant) : Except ProviderFault Instant :=
  match value with
  | none | some .null => .ok fallback
  | some (.timestamp at_) => .ok at_
  | some (.str text) => match Instants.dateParse text with
    | none => .error malformed
    | some at_ => .ok at_
  | some _ => .error malformed

def assertEventSize (event : Json) (limit : Nat) : Except ProviderFault Unit :=
  if byteLength event.stringify > limit then .error (.limit "Provider event exceeds maxEventBytes") else .ok ()

def textContent : Option Json → Except ProviderFault String
  | some (.arr blocks) => .ok (String.join (blocks.filterMap fun block =>
      if isRecord block ∧ block.field? "type" = some (.str "text") then (block.field? "text").bind Json.string? else none))
  | _ => .error malformed

def linkedToolId (event : Json) : Except ProviderFault (List (String × Json)) :=
  match (["custom_tool_use_id","tool_use_id","mcp_tool_use_id"].filterMap fun key => event.field? key).head? with
  | none => .ok []
  | some value => (requiredBoundedString (some value) 128).map fun id => [("toolUseId",.str id)]

def nonnegativeNumber : Option Json → Int
  | some (.num value) => if 0 ≤ value then value else 0
  | _ => 0

def normalizeRuntimeMilliseconds : Option Json → Except ProviderFault Int
  | some (.num value) =>
    if value < 0 ∨ isSafeInteger (value * 1000) = false then .error (.error "Provider runtime usage is invalid") else .ok (value * 1000)
  | _ => .error (.error "Provider runtime usage is invalid")

def normalizedUsage : Except ProviderFault (List (String × Json)) :=
  match value.filter isRecord with
  | none => .error malformed
  | some usage => do
    let cache := ((usage.field? "cache_creation").filter isRecord).getD (.obj [])
    let cache5m := nonnegativeNumber (cache.field? "ephemeral_5m_input_tokens")
    let cache1h := nonnegativeNumber (cache.field? "ephemeral_1h_input_tokens")
    let undifferentiated := nonnegativeNumber (usage.field? "cache_creation_input_tokens")
    let runtimeMs ← match usage.field? "active_seconds" with
      | none => .ok 0
      | some seconds => normalizeRuntimeMilliseconds (some seconds)
    .ok [("inputTokens",.num (nonnegativeNumber (usage.field? "input_tokens"))),
      ("outputTokens",.num (nonnegativeNumber (usage.field? "output_tokens"))),
      ("cacheReadInputTokens",.num (nonnegativeNumber (usage.field? "cache_read_input_tokens"))),
      ("cacheCreation5mInputTokens",.num cache5m),
      ("cacheCreation1hInputTokens",.num (cache1h + if cache5m = 0 ∧ cache1h = 0 then undifferentiated else 0)),
      ("runtimeMs",.num runtimeMs)]

def normalizedError : Except ProviderFault (List (String × Json)) :=
  match value.filter isRecord with
  | none => .error malformed
  | some error => do
    let type ← requiredString (error.field? "type")
    if type ∉ ERROR_TYPES then .error unsupported
    else match (error.field? "retry_status").filter isRecord with
      | none => .error malformed
      | some retry => match retry.field? "type" with
        | some (.str status) =>
          if status ∈ ["retrying","exhausted","terminal"] then .ok [("code",.str type),("retryStatus",.str status)]
          else .error unsupported
        | _ => .error unsupported

def normalizeIdle (event : Json) : Except ProviderFault (String × List (String × Json)) :=
  match (event.field? "stop_reason").filter isRecord with
  | none => .error malformed
  | some stop => do
    let reason ← requiredString (stop.field? "type")
    if reason = "end_turn" ∨ reason = "budget_reached" then .ok ("idle",[("stopReason",.str reason)])
    else if reason = "requires_action" then match stop.field? "event_ids" with
      | some (.arr values) => do
        let ids ← values.mapM fun value => requiredBoundedString (some value) 128
        .ok ("requires_action",[("eventIds",.arr (ids.map .str))])
      | _ => .error malformed
    else if reason = "retries_exhausted" then .ok ("retries_exhausted",[])
    else .error unsupported

/-- The type and the payload, but for the fingerprint, of an event of a type that is supported. -/
def eventContent (type id : String) (event : Json) : Except ProviderFault (String × List (String × Json)) :=
  let thread := optionalId "sessionThreadId" (event.field? "session_thread_id")
  match type with
  | "agent.message" => (textContent (event.field? "content")).map fun text => ("message",[("text",.str text)])
  | "agent.thinking" => .ok ("progress",[])
  | "agent.thread_context_compacted" => .ok ("message_summary",[("compacted",.bool true)])
  | "agent.custom_tool_use" | "agent.tool_use" | "agent.mcp_tool_use" => do
    let name ← requiredBoundedString (event.field? "name") 128
    let sessionThread ← thread
    let server ← if type = "agent.mcp_tool_use" then optionalId "mcpServerName" (event.field? "mcp_server_name") else .ok []
    .ok ("tool_call",[("toolUseId",.str id),("name",.str name)] ++ sessionThread ++ server)
  | "agent.tool_result" | "agent.mcp_tool_result" => (linkedToolId event).map fun linked =>
    ("tool_result",("isError",.bool (event.field? "is_error" = some (.bool true)))::linked)
  | "session.status_running" => .ok ("running",[])
  | "session.status_rescheduled" => .ok ("rescheduling",[])
  | "session.status_terminated" => .ok ("terminated",[])
  | "session.status_idle" => normalizeIdle event
  | "session.error" => (normalizedError (event.field? "error")).map fun fields => ("error",fields)
  | "session.usage" => (normalizedUsage (event.field? "usage")).map fun fields => ("usage",fields)
  | "span.model_request_end" => (normalizedUsage (event.field? "model_usage")).map fun fields => ("usage",fields)
  | "span.model_request_start" | "span.outcome_evaluation_start" | "span.outcome_evaluation_ongoing"
  | "span.outcome_evaluation_end" => .ok ("progress",[])
  | "session.thread_created" => thread.map fun fields => ("thread_created",fields)
  | "session.thread_status_running" => thread.map fun fields => ("thread_running",fields)
  | "session.thread_status_idle" => thread.map fun fields => ("thread_idle",fields)
  | "session.thread_status_rescheduled" => thread.map fun fields => ("thread_rescheduled",fields)
  | "session.thread_status_terminated" => thread.map fun fields => ("thread_terminated",fields)
  | "agent.thread_message_received" | "agent.thread_message_sent" => .ok ("thread_message",[("delivered",.bool true)])
  | "user.message" | "user.interrupt" | "user.tool_confirmation" | "user.tool_result" | "user.custom_tool_result"
  | "user.define_outcome" | "system.message" => .ok ("input_acknowledged",[])
  | "session.updated" => .ok ("session_updated",[])
  | "session.deleted" => .ok ("deleted",[])
  | _ => .error unsupported

def SUPPORTED_EVENT_TYPES : List String :=
  ["agent.message","agent.thinking","agent.thread_context_compacted","agent.custom_tool_use","agent.tool_use","agent.mcp_tool_use",
    "agent.tool_result","agent.mcp_tool_result","session.status_running","session.status_rescheduled","session.status_terminated",
    "session.status_idle","session.error","session.usage","span.model_request_end","span.model_request_start",
    "span.outcome_evaluation_start","span.outcome_evaluation_ongoing","span.outcome_evaluation_end","session.thread_created",
    "session.thread_status_running","session.thread_status_idle","session.thread_status_rescheduled","session.thread_status_terminated",
    "agent.thread_message_received","agent.thread_message_sent","user.message","user.interrupt","user.tool_confirmation",
    "user.tool_result","user.custom_tool_result","user.define_outcome","system.message","session.updated","session.deleted"]

def normalizeEvent (event : Json) (maxEventBytes : Nat) (fallbackOccurredAt : Instant) : Except ProviderFault (Option RuntimeEvent) := do
  assertEventSize event maxEventBytes
  let type ← requiredString (event.field? "type")
  if type = "event_start" ∨ type = "event_delta" then .ok none
  else if type ∉ SUPPORTED_EVENT_TYPES then .error unsupported
  else do
    let id ← requiredString (event.field? "id")
    let occurredAt ← parsedDate (event.field? "processed_at") fallbackOccurredAt
    let fingerprint ← optionalBoundedString (event.field? "fingerprint") 128
    let (kind,payload) ← eventContent type id event
    .ok (some {id,occurredAt,type := kind,payload := .obj (payload ++
      (fingerprint.map fun text => ("providerFingerprint",Json.str text)).toList)})

/-! ### Listing -/

def isLocalError : ProviderFault → Bool
  | .configuration _ | .conflict _ | .limit _ => true
  | .error message => message ∈ ["Malformed provider event","Malformed provider file metadata","Unsupported provider event",
      "Unsupported provider status"]
  | .provider _ _ | .client _ => false

def eventFault (fault : ProviderFault) : ProviderFault :=
  match fault with
  | .client error => providerError error
  | other => if isLocalError other then other else .provider none none

def payloadText (event : RuntimeEvent) : String := ((event.payload.field? "text").bind Json.string?).getD ""

/-- A listing on the way: the events, how many items were read, and the size of the output. -/
structure Listed where
  events : List RuntimeEvent := []
  listedCount : Nat := 0
  outputBytes : Nat := 0
  outputMessages : Nat := 0

def countOutput (maxOutputBytes : Option Nat) (event : RuntimeEvent) (listed : Listed) : Except ProviderFault Listed :=
  match maxOutputBytes with
  | none => .ok listed
  | some limit =>
    if event.type ≠ "message" then .ok listed
    else
      let outputBytes := listed.outputBytes + byteLength (payloadText event) + if listed.outputMessages = 0 then 0 else 1
      if outputBytes > limit then .error (.limit "Output exceeds maxOutputBytes")
      else .ok {listed with outputBytes,outputMessages := listed.outputMessages + 1}

section
variable (limits : EventLimits)

def listItem (maxOutputBytes : Option Nat) (listed : Listed) (item : Json × Instant) : Except ProviderFault Listed := do
  if listed.listedCount + 1 > limits.maxListedEvents then .error (.limit "Event collection limit exceeded")
  else
    let counted := {listed with listedCount := listed.listedCount + 1}
    match ← normalizeEvent item.1 limits.maxEventBytes item.2 with
    | none => .ok counted
    | some event =>
      if event.id ∈ counted.events.map RuntimeEvent.id then .ok counted
      else do
        let sized ← countOutput maxOutputBytes event counted
        .ok {sized with events := sized.events ++ [event]}

def listEvents (maxOutputBytes : Option Nat) (items : List (Json × Instant)) (failure : Option ClientError) :
    Except ProviderFault (List RuntimeEvent) :=
  (do
    let listed ← items.foldlM (listItem limits maxOutputBytes) {}
    match failure with
    | some error => .error (.client error)
    | none => .ok listed.events).mapError eventFault

/-! ### Following -/

inductive StreamFault where
  | fault (fault : ProviderFault)
  | sessionMissing
  deriving DecidableEq

def streamExpired : StreamFault := .fault (.limit "Stream exceeds maxStreamDurationMs")

/-- What a stream brings: an item, or silence after which the session is asked for. -/
inductive Beat where
  | item (event : Json) (now : Instant)
  | idle (now : Instant) (probe : Except ProviderFault Unit)

inductive StreamEnd where
  | done
  | broken (error : ClientError)

/-- A turn of the loop as the world has it: the history, the time after it, and the stream. -/
structure Connection where
  history : List (Json × Instant) := []
  failure : Option ClientError := none
  listedAt : Instant := 0
  beats : List Beat := []
  ending : StreamEnd := .done
  aborted : Bool := false

inductive Followed where
  | done (yielded : List RuntimeEvent)
  | broke (yielded : List RuntimeEvent) (fault : ProviderFault)
  | failed (yielded : List RuntimeEvent) (fault : StreamFault)

/-- Gives out an event that was not given out before; the fault is that there are too many. -/
def offer (yielded : List RuntimeEvent) (event : RuntimeEvent) : Except StreamFault (List RuntimeEvent) :=
  if event.id ∈ yielded.map RuntimeEvent.id then .ok yielded
  else if yielded.length + 1 > limits.maxListedEvents then .error (.fault (.limit "Event collection limit exceeded"))
  else .ok (yielded ++ [event])

def offerAll (yielded : List RuntimeEvent) : List RuntimeEvent → List RuntimeEvent × Option StreamFault
  | [] => (yielded,none)
  | event::rest => match offer limits yielded event with
    | .error fault => (yielded,some fault)
    | .ok more => offerAll more rest

def follow (deadline : Instant) (ending : StreamEnd) (yielded : List RuntimeEvent) : List Beat → Followed
  | [] => match ending with
    | .done => .done yielded
    | .broken error => .broke yielded (.client error)
  | .idle now probe::rest =>
    if deadline ≤ now then .failed yielded streamExpired
    else match probe with
      | .ok () => follow deadline ending yielded rest
      | .error fault => if isProviderNotFound fault then .failed yielded .sessionMissing else follow deadline ending yielded rest
  | .item item now::rest =>
    if deadline ≤ now then .failed yielded streamExpired
    else match normalizeEvent item limits.maxEventBytes now with
      | .error fault => if isLocalError fault then .failed yielded (.fault fault) else .broke yielded fault
      | .ok none => follow deadline ending yielded rest
      | .ok (some event) => match offer limits yielded event with
        | .error fault => .failed yielded fault
        | .ok more => follow deadline ending more rest

structure Iteration where
  yielded : List RuntimeEvent
  ended : Except StreamFault Unit
  deriving DecidableEq

def iterate (deadline : Instant) (yielded : List RuntimeEvent) : List Connection → Iteration
  | [] => ⟨yielded,.ok ()⟩
  | connection::rest => match listEvents limits none connection.history connection.failure with
    | .error fault => ⟨yielded,.error (.fault fault)⟩
    | .ok listed => match offerAll limits yielded listed with
      | (more,some fault) => ⟨more,.error fault⟩
      | (more,none) =>
        if deadline ≤ connection.listedAt then ⟨more,.error streamExpired⟩
        else match follow limits deadline connection.ending more connection.beats with
          | .failed last fault => ⟨last,.error fault⟩
          | .done last => iterate deadline last rest
          | .broke last fault =>
            if connection.aborted then ⟨last,.error streamExpired⟩
            else if rest.isEmpty then ⟨last,.error (.fault (eventFault fault))⟩
            else iterate deadline last rest

def streamDeadline (handle : Handle) (startedAt : Instant) : Instant :=
  let hardDeadline := match handle.deadlineAt with
    | some deadlineAt => if isManagedHandle handle then deadlineAt else startedAt + limits.maxStreamDurationMs
    | none => startedAt + limits.maxStreamDurationMs
  min hardDeadline (startedAt + limits.maxStreamDurationMs)

def events (handle : Handle) (startedAt : Instant) (connections : Nat → Connection) : Iteration :=
  iterate limits (streamDeadline limits handle startedAt) [] ((List.range (limits.maxStreamReconnects + 1)).map connections)

end

/-! ### What is given out -/

def yieldedId (limits : EventLimits) (item : Json) : Option String :=
  match normalizeEvent item limits.maxEventBytes 0 with
  | .ok (some event) => some event.id
  | _ => none

def deliveredIds (limits : EventLimits) : List Beat → List String
  | [] => []
  | .idle _ _::rest => deliveredIds limits rest
  | .item item now::rest => match normalizeEvent item limits.maxEventBytes now with
    | .error _ => []
    | .ok none => deliveredIds limits rest
    | .ok (some event) => event.id::deliveredIds limits rest

def historyIds (limits : EventLimits) (connection : Connection) : List String :=
  connection.history.filterMap fun item => yieldedId limits item.1

section
variable {limits : EventLimits}

theorem parsedDate_cases (value : Option Json) :
    (∀ moment, ∃ at_, parsedDate value moment = .ok at_) ∨ ∀ moment, parsedDate value moment = .error malformed := by
  match value with
  | none | some .null => exact .inl fun moment => ⟨moment,rfl⟩
  | some (.timestamp at_) => exact .inl fun _ => ⟨at_,rfl⟩
  | some (.bool _) | some (.num _) | some (.arr _) | some (.obj _) => exact .inr fun _ => rfl
  | some (.str text) =>
    cases parsed : Instants.dateParse text with
    | none =>
      refine .inr fun _ => ?_
      unfold parsedDate
      dsimp only
      rw [parsed]
    | some at_ =>
      refine .inl fun _ => ⟨at_,?_⟩
      unfold parsedDate
      dsimp only
      rw [parsed]

theorem normalizeEvent_now (item : Json) (limit : Nat) (now later : Instant) :
    (normalizeEvent item limit now).map (Option.map RuntimeEvent.id) = (normalizeEvent item limit later).map (Option.map RuntimeEvent.id) := by
  unfold normalizeEvent
  rcases assertEventSize item limit with fault | ⟨⟩
  · rfl
  rcases requiredString (item.field? "type") with fault | type
  · rfl
  change Except.map _ (if _ then _ else _) = Except.map _ (if _ then _ else _)
  split
  · rfl
  split
  · rfl
  rcases requiredString (item.field? "id") with fault | id
  · rfl
  obtain dated | undated := parsedDate_cases (item.field? "processed_at")
  · obtain ⟨early,first⟩ := dated now
    obtain ⟨late,second⟩ := dated later
    rw [first,second]
    rcases optionalBoundedString (item.field? "fingerprint") 128 with fault | fingerprint
    · rfl
    change Except.map _ (Except.bind (eventContent type id item) _) = Except.map _ (Except.bind (eventContent type id item) _)
    rcases eventContent type id item with fault | ⟨kind,payload⟩ <;> rfl
  · rw [undated now,undated later]

theorem yieldedId_some {item : Json} {now : Instant} {event : RuntimeEvent}
    (read : normalizeEvent item limits.maxEventBytes now = .ok (some event)) : yieldedId limits item = some event.id := by
  have same := normalizeEvent_now item limits.maxEventBytes 0 now
  rw [read] at same
  unfold yieldedId
  generalize normalizeEvent item limits.maxEventBytes 0 = found at same ⊢
  rcases found with fault | _ | other
  · cases same
  · cases same
  · exact Except.ok.inj same

theorem yieldedId_none {item : Json} {now : Instant} (read : normalizeEvent item limits.maxEventBytes now = .ok none) :
    yieldedId limits item = none := by
  have same := normalizeEvent_now item limits.maxEventBytes 0 now
  rw [read] at same
  unfold yieldedId
  generalize normalizeEvent item limits.maxEventBytes 0 = found at same ⊢
  rcases found with fault | _ | other
  · cases same
  · rfl
  · cases same

theorem offer_ok {yielded more : List RuntimeEvent} {event : RuntimeEvent} (offered : offer limits yielded event = .ok more) :
    (∀ id, id ∈ more.map RuntimeEvent.id ↔ id ∈ yielded.map RuntimeEvent.id ∨ id = event.id) ∧
      ((yielded.map RuntimeEvent.id).Nodup → (more.map RuntimeEvent.id).Nodup) := by
  unfold offer at offered
  split at offered
  · rename_i seen
    cases offered
    refine ⟨fun id => ⟨.inl,fun either => ?_⟩,fun once => once⟩
    obtain inside | rfl := either
    · exact inside
    · exact seen
  · rename_i fresh
    split at offered
    · cases offered
    · cases offered
      rw [List.map_append]
      refine ⟨fun id => by simp,fun once => List.nodup_append'.mpr ⟨once,List.nodup_singleton _,?_⟩⟩
      exact List.disjoint_singleton.mpr fresh

theorem offerAll_once {yielded found : List RuntimeEvent} (once : (yielded.map RuntimeEvent.id).Nodup) :
    ((offerAll limits yielded found).1.map RuntimeEvent.id).Nodup := by
  induction found generalizing yielded with
  | nil => exact once
  | cons event rest ih =>
    unfold offerAll
    cases offered : offer limits yielded event with
    | error fault => exact once
    | ok more => exact ih ((offer_ok offered).2 once)

theorem offerAll_ids {yielded found more : List RuntimeEvent} (offered : offerAll limits yielded found = (more,none)) (id : String) :
    id ∈ more.map RuntimeEvent.id ↔ id ∈ yielded.map RuntimeEvent.id ∨ id ∈ found.map RuntimeEvent.id := by
  induction found generalizing yielded with
  | nil =>
    cases offered
    simp
  | cons event rest ih =>
    unfold offerAll at offered
    cases first : offer limits yielded event with
    | error fault =>
      rw [first] at offered
      cases offered
    | ok next =>
      rw [first] at offered
      rw [ih offered,(offer_ok first).1 id,List.map_cons,List.mem_cons,or_assoc]

/-! ### Histories -/

theorem listItem_ids {listed final : Listed} {item : Json × Instant} (read : listItem limits none listed item = .ok final) (id : String) :
    id ∈ final.events.map RuntimeEvent.id ↔ id ∈ listed.events.map RuntimeEvent.id ∨ yieldedId limits item.1 = some id := by
  unfold listItem at read
  split at read
  · cases read
  cases found : normalizeEvent item.1 limits.maxEventBytes item.2 with
  | error fault =>
    rw [found] at read
    cases read
  | ok event =>
    rw [found] at read
    cases event with
    | none =>
      cases read
      simp [yieldedId_none found]
    | some event =>
      rw [yieldedId_some found]
      change (if _ then _ else _) = _ at read
      split at read
      · rename_i seen
        cases read
        refine ⟨.inl,fun either => ?_⟩
        obtain inside | same := either
        · exact inside
        · cases same
          exact seen
      · cases read
        simp [eq_comm]

theorem foldlM_ids {items : List (Json × Instant)} {listed final : Listed}
    (read : items.foldlM (listItem limits none) listed = .ok final) (id : String) : id ∈ final.events.map RuntimeEvent.id ↔
      id ∈ listed.events.map RuntimeEvent.id ∨ id ∈ items.filterMap fun item => yieldedId limits item.1 := by
  induction items generalizing listed with
  | nil =>
    cases read
    simp
  | cons item rest ih =>
    rw [List.foldlM_cons] at read
    cases first : listItem limits none listed item with
    | error fault =>
      rw [first] at read
      cases read
    | ok next =>
      rw [first] at read
      rw [ih read,listItem_ids first id,List.filterMap_cons,or_assoc]
      cases yieldedId limits item.1 with
      | none => simp
      | some other => simp [eq_comm]

section
variable {connection : Connection} {found : List RuntimeEvent}
  (listed : listEvents limits none connection.history connection.failure = .ok found)
include listed

theorem listEvents_ids (id : String) : id ∈ found.map RuntimeEvent.id ↔ id ∈ historyIds limits connection := by
  unfold listEvents at listed
  cases read : connection.history.foldlM (listItem limits none) {} with
  | error fault =>
    rw [read] at listed
    cases listed
  | ok final =>
    rw [read] at listed
    cases failure : connection.failure with
    | some error =>
      rw [failure] at listed
      cases listed
    | none =>
      rw [failure] at listed
      cases listed
      rw [foldlM_ids read id]
      simp [historyIds]

theorem listEvents_served : connection.failure = none := by
  cases failure : connection.failure with
  | none => rfl
  | some error =>
    unfold listEvents at listed
    rw [failure] at listed
    cases read : connection.history.foldlM (listItem limits none) {} with
    | error fault =>
      rw [read] at listed
      cases listed
    | ok final =>
      rw [read] at listed
      cases listed

end

/-! ### Streams -/

def Followed.yielded : Followed → List RuntimeEvent
  | .done yielded | .broke yielded _ | .failed yielded _ => yielded

variable {deadline : Instant}

variable {ending : StreamEnd}

variable {beats : List Beat} {yielded last : List RuntimeEvent}

theorem follow_once {yielded : List RuntimeEvent}
    (once : (yielded.map RuntimeEvent.id).Nodup) : ((follow limits deadline ending yielded beats).yielded.map RuntimeEvent.id).Nodup := by
  induction beats generalizing yielded with
  | nil => cases ending <;> exact once
  | cons beat rest ih =>
    cases beat with
    | idle now probe =>
      unfold follow
      split
      · exact once
      · cases probe with
        | ok _ => exact ih once
        | error fault =>
          dsimp only
          split
          · exact once
          · exact ih once
    | item item now =>
      unfold follow
      split
      · exact once
      · cases normalizeEvent item limits.maxEventBytes now with
        | error fault =>
          dsimp only
          split <;> exact once
        | ok event =>
          cases event with
          | none => exact ih once
          | some event =>
            dsimp only
            cases offered : offer limits yielded event with
            | error fault => exact once
            | ok more => exact ih ((offer_ok offered).2 once)

theorem follow_ids (ended : follow limits deadline ending yielded beats = .done last ∨
      ∃ fault, follow limits deadline ending yielded beats = .broke last fault) (id : String) :
    id ∈ last.map RuntimeEvent.id ↔ id ∈ yielded.map RuntimeEvent.id ∨ id ∈ deliveredIds limits beats := by
  induction beats generalizing yielded with
  | nil =>
    have same : last = yielded := by
      cases ending with
      | done =>
        obtain ended | ⟨_,ended⟩ := ended
        · exact (Followed.done.inj ended).symm
        · cases ended
      | broken error =>
        obtain ended | ⟨_,ended⟩ := ended
        · cases ended
        · exact (Followed.broke.inj ended).1.symm
    simp [same,deliveredIds]
  | cons beat rest ih =>
    cases beat with
    | idle now probe =>
      unfold follow at ended
      unfold deliveredIds
      split at ended
      · simp at ended
      · cases probe with
        | ok _ => exact ih ended
        | error fault =>
          dsimp only at ended
          split at ended
          · simp at ended
          · exact ih ended
    | item item now =>
      unfold follow at ended
      unfold deliveredIds
      split at ended
      · simp at ended
      · cases read : normalizeEvent item limits.maxEventBytes now with
        | error fault =>
          rw [read] at ended
          dsimp only at ended ⊢
          split at ended
          · simp at ended
          · have same : last = yielded := by simpa [eq_comm] using ended
            simp [same]
        | ok event =>
          rw [read] at ended
          cases event with
          | none => exact ih ended
          | some event =>
            dsimp only at ended ⊢
            cases offered : offer limits yielded event with
            | error fault =>
              rw [offered] at ended
              simp at ended
            | ok more =>
              rw [offered] at ended
              rw [ih ended,(offer_ok offered).1 id,List.mem_cons,or_assoc]

theorem follow_done (ended : follow limits deadline ending yielded beats = .done last) : ending = .done ∧
      ∀ item now id, Beat.item item now ∈ beats → yieldedId limits item = some id → id ∈ deliveredIds limits beats := by
  induction beats generalizing yielded with
  | nil =>
    cases ending with
    | done => exact ⟨rfl,fun _ _ _ inside => nomatch inside⟩
    | broken error => cases ended
  | cons beat rest ih =>
    cases beat with
    | idle now probe =>
      unfold follow at ended
      unfold deliveredIds
      have later : ∃ yielded, follow limits deadline ending yielded rest = .done last := by
        split at ended
        · cases ended
        · cases probe with
          | ok _ => exact ⟨_,ended⟩
          | error fault =>
            dsimp only at ended
            split at ended
            · cases ended
            · exact ⟨_,ended⟩
      obtain ⟨_,later⟩ := later
      refine ⟨(ih later).1,fun item now id inside given => (ih later).2 item now id ?_ given⟩
      simpa using inside
    | item item now =>
      unfold follow at ended
      unfold deliveredIds
      split at ended
      · cases ended
      · cases read : normalizeEvent item limits.maxEventBytes now with
        | error fault =>
          rw [read] at ended
          dsimp only at ended
          split at ended <;> cases ended
        | ok event =>
          rw [read] at ended
          cases event with
          | none =>
            refine ⟨(ih ended).1,fun other at_ id inside given => ?_⟩
            obtain _ | ⟨_,inside⟩ := inside
            · rw [yieldedId_none read] at given
              cases given
            · exact (ih ended).2 other at_ id inside given
          | some event =>
            dsimp only at ended ⊢
            cases offered : offer limits yielded event with
            | error fault =>
              rw [offered] at ended
              cases ended
            | ok more =>
              rw [offered] at ended
              refine ⟨(ih ended).1,fun other at_ id inside given => ?_⟩
              obtain _ | ⟨_,inside⟩ := inside
              · rw [yieldedId_some read] at given
                cases given
                exact List.mem_cons_self
              · exact List.mem_cons_of_mem _ ((ih ended).2 other at_ id inside given)

/-! ### Iterations -/

theorem iterate_once {connections : List Connection} {yielded : List RuntimeEvent}
    (once : (yielded.map RuntimeEvent.id).Nodup) : ((iterate limits deadline yielded connections).yielded.map RuntimeEvent.id).Nodup := by
  induction connections generalizing yielded with
  | nil => exact once
  | cons connection rest ih =>
    unfold iterate
    cases listEvents limits none connection.history connection.failure with
    | error fault => exact once
    | ok found =>
      have more := @offerAll_once limits yielded found once
      dsimp only
      generalize offerAll limits yielded found = offered at more ⊢
      obtain ⟨next,_ | fault⟩ := offered
      · dsimp only at more ⊢
        split
        · exact more
        · have last := @follow_once limits deadline connection.ending connection.beats next more
          generalize follow limits deadline connection.ending next connection.beats = followed at last ⊢
          cases followed with
          | failed final fault => exact last
          | done final => exact ih last
          | broke final fault =>
            dsimp only
            split
            · exact last
            · split
              · exact last
              · exact ih last
      · exact more

theorem iterate_turn {connection : Connection} {rest : List Connection} {yielded : List RuntimeEvent}
    (ended : (iterate limits deadline yielded (connection::rest)).ended = .ok ()) :
    ∃ found next final, listEvents limits none connection.history connection.failure = .ok found ∧
      offerAll limits yielded found = (next,none) ∧ (follow limits deadline connection.ending next connection.beats = .done final ∨
        rest ≠ [] ∧ ∃ fault, follow limits deadline connection.ending next connection.beats = .broke final fault) ∧
      iterate limits deadline yielded (connection::rest) = iterate limits deadline final rest := by
  rw [iterate] at ended ⊢
  cases listed : listEvents limits none connection.history connection.failure with
  | error fault =>
    rw [listed] at ended
    cases ended
  | ok found =>
    rw [listed] at ended
    dsimp only at ended ⊢
    rcases offered : offerAll limits yielded found with ⟨next,_ | fault⟩
    · rw [offered] at ended
      dsimp only at ended ⊢
      split at ended
      · cases ended
      · rename_i early
        rw [if_neg early]
        cases followed : follow limits deadline connection.ending next connection.beats with
        | failed final fault =>
          rw [followed] at ended
          cases ended
        | done final => exact ⟨found,next,final,rfl,offered,.inl followed,rfl⟩
        | broke final fault =>
          rw [followed] at ended
          dsimp only at ended ⊢
          split at ended
          · cases ended
          · rename_i quiet
            rw [if_neg quiet]
            split at ended
            · cases ended
            · rename_i more
              rw [if_neg more]
              exact ⟨found,next,final,rfl,offered,.inr ⟨by simpa using more,fault,followed⟩,rfl⟩
    · rw [offered] at ended
      cases ended

theorem iterate_ids {connections : List Connection} {yielded : List RuntimeEvent}
    (ended : (iterate limits deadline yielded connections).ended = .ok ()) (id : String) :
    id ∈ (iterate limits deadline yielded connections).yielded.map RuntimeEvent.id ↔ id ∈ yielded.map RuntimeEvent.id ∨
      ∃ connection ∈ connections, id ∈ historyIds limits connection ∨ id ∈ deliveredIds limits connection.beats := by
  induction connections generalizing yielded with
  | nil => simp [iterate]
  | cons connection rest ih =>
    obtain ⟨found,next,final,listed,offered,followed,same⟩ := iterate_turn ended
    rw [same] at ended ⊢
    rw [ih ended,follow_ids (followed.imp (fun done => done) fun broke => broke.2) id,offerAll_ids offered id,
      listEvents_ids listed id]
    simp [or_assoc]

theorem iterate_last {early : List Connection} {last : Connection} {yielded : List RuntimeEvent}
    (ended : (iterate limits deadline yielded (early ++ [last])).ended = .ok ()) : last.failure = none ∧ last.ending = .done ∧
      ∀ item now id, Beat.item item now ∈ last.beats → yieldedId limits item = some id → id ∈ deliveredIds limits last.beats := by
  induction early generalizing yielded with
  | nil =>
    obtain ⟨found,next,final,listed,_,followed,_⟩ := iterate_turn ended
    obtain done | ⟨none_,_⟩ := followed
    · exact ⟨listEvents_served listed,follow_done done⟩
    · exact absurd rfl none_
  | cons connection rest ih =>
    rw [List.cons_append] at ended
    obtain ⟨_,_,final,_,_,_,same⟩ := iterate_turn ended
    rw [same] at ended
    exact ih ended

end

/-! ### A log that grows -/

/-- Turns of an iteration over a log: a history is the log of its moment, and a stream that came to its end brought all that was appended
since it was opened. -/
structure Attends (connections : Nat → Connection) (log : Nat → List Json) (listed opened ended : Nat → Nat) : Prop where
  grows : ∀ time, log time <+: log (time + 1)
  order : ∀ turn, listed turn ≤ opened turn ∧ opened turn ≤ ended turn ∧ ended turn ≤ listed (turn + 1)
  history : ∀ turn, (connections turn).failure = none → (connections turn).history.map Prod.fst = log (listed turn)
  stream : ∀ turn, (connections turn).ending = .done → ∀ item ∈ (log (ended turn)).drop (log (opened turn)).length,
    ∃ now, Beat.item item now ∈ (connections turn).beats

def Complete (limits : EventLimits) (iteration : Iteration) (items : List Json) : Prop :=
  ∀ item ∈ items, ∀ id, yieldedId limits item = some id → id ∈ iteration.yielded.map RuntimeEvent.id

/-- What can be given out of the items is in a history or comes by a stream of one of the turns. -/
def Covered (limits : EventLimits) (connections : Nat → Connection) (turns : Nat) (items : List Json) : Prop :=
  ∀ item ∈ items, ∀ id, yieldedId limits item = some id →
    ∃ turn ≤ turns, id ∈ historyIds limits (connections turn) ∨ id ∈ deliveredIds limits (connections turn).beats

section
variable {limits : EventLimits} {handle : Handle} {startedAt : Instant} {connections : Nat → Connection} {log : Nat → List Json}
  {listed opened ended : Nat → Nat}

theorem Attends.prefix_ (attends : Attends connections log listed opened ended) {early late : Nat} (before : early ≤ late) :
    log early <+: log late := by
  induction late, before using Nat.le_induction with
  | base => exact List.prefix_rfl
  | succ late _ ih => exact ih.trans (attends.grows late)

theorem mem_or_appended {early late : List Json} (grows : early <+: late) {item : Json} (inside : item ∈ late) :
    item ∈ early ∨ item ∈ late.drop early.length := by
  obtain ⟨appended,rfl⟩ := grows
  rw [List.drop_left]
  exact List.mem_append.mp inside

/-- No event is given out twice; and an iteration that ends well is complete if and only if what was appended between the last history
and the opening of the last stream comes another way. -/
theorem events_once_and_complete_iff (attends : Attends connections log listed opened ended) :
    ((events limits handle startedAt connections).yielded.map RuntimeEvent.id).Nodup ∧
    ((events limits handle startedAt connections).ended = .ok () →
      (Complete limits (events limits handle startedAt connections) (log (ended limits.maxStreamReconnects)) ↔
        Covered limits connections limits.maxStreamReconnects
          ((log (opened limits.maxStreamReconnects)).drop (log (listed limits.maxStreamReconnects)).length))) := by
  refine ⟨iterate_once List.nodup_nil,fun well => ?_⟩
  have ids (id : String) : id ∈ (events limits handle startedAt connections).yielded.map RuntimeEvent.id ↔
      ∃ turn ≤ limits.maxStreamReconnects, id ∈ historyIds limits (connections turn) ∨
        id ∈ deliveredIds limits (connections turn).beats := by
    refine (iterate_ids well id).trans ?_
    simp [Nat.lt_succ_iff]
  have order := attends.order limits.maxStreamReconnects
  constructor
  · intro complete item inside id given
    have held : item ∈ log (ended limits.maxStreamReconnects) :=
      (attends.prefix_ order.2.1).subset ((List.drop_sublist _ _).subset inside)
    exact (ids id).mp (complete item held id given)
  · intro covered item inside id given
    have last : (List.range (limits.maxStreamReconnects + 1)).map connections =
        (List.range limits.maxStreamReconnects).map connections ++ [connections limits.maxStreamReconnects] := by
      rw [List.range_succ,List.map_append,List.map_singleton]
    unfold events at well
    rw [last] at well
    obtain ⟨fine,done,brought⟩ := iterate_last well
    apply (ids id).mpr
    obtain before | since := mem_or_appended (attends.prefix_ order.2.1) inside
    · obtain early | between := mem_or_appended (attends.prefix_ order.1) before
      · refine ⟨limits.maxStreamReconnects,Nat.le_refl _,.inl ?_⟩
        rw [← attends.history limits.maxStreamReconnects fine] at early
        obtain ⟨entry,there,rfl⟩ := List.mem_map.mp early
        exact List.mem_filterMap.mpr ⟨entry,there,given⟩
      · exact covered item between id given
    · obtain ⟨now,came⟩ := attends.stream limits.maxStreamReconnects done item since
      exact ⟨limits.maxStreamReconnects,Nat.le_refl _,.inr (brought item now id came given)⟩

end

/-! ### A gap -/

def lateEvent : Json := .obj [("id",.str "event-1"),("type",.str "session.status_terminated")]

/-- The log gets its one event between the history and the stream of the last turn. -/
def gapLog (time : Nat) : List Json := if time < 7 then [] else [lateEvent]

def gapConnection (turn : Nat) : Connection := if turn < 4 then {} else {history := [(lateEvent,0)]}

theorem gap_attended : Attends gapConnection gapLog (fun turn => 2 * turn) (fun turn => 2 * turn + 1) (fun turn => 2 * turn + 1) := by
  constructor
  · intro time
    unfold gapLog
    split
    · exact List.nil_prefix
    · rename_i late
      have later : ¬ time + 1 < 7 := by omega
      simp [later]
  · intro turn
    omega
  · intro turn _
    unfold gapConnection gapLog
    by_cases early : turn < 4
    · rw [if_pos early,if_pos (by omega)]
      rfl
    · rw [if_neg early,if_neg (by omega)]
      rfl
  · intro turn _ item inside
    rw [List.drop_length] at inside
    cases inside

/-- Every stream comes to its end, the iteration ends well, and the event of the log is never given out. -/
theorem gap_event_lost :
    Attends gapConnection gapLog (fun turn => 2 * turn) (fun turn => 2 * turn + 1) (fun turn => 2 * turn + 1) ∧
    events {} {id := "session-1"} 0 gapConnection = ⟨[],.ok ()⟩ ∧ gapLog 7 = [lateEvent] ∧
    ¬ Complete {} (events {} {id := "session-1"} 0 gapConnection) (gapLog 7) := by
  have nothing : events {} {id := "session-1"} 0 gapConnection = ⟨[],.ok ()⟩ := by decide +kernel
  have given : yieldedId {} lateEvent = some "event-1" := by decide +kernel
  refine ⟨gap_attended,nothing,rfl,fun complete => ?_⟩
  have inside := complete lateEvent List.mem_cons_self "event-1" given
  rw [nothing] at inside
  cases inside

/-- The event is there from the beginning. -/
theorem early_event_given : Complete {} (events {} {id := "session-1"} 0 fun _ => {history := [(lateEvent,0)]}) [lateEvent] := by
  have attends : Attends (fun _ => {history := [(lateEvent,0)]}) (fun _ => [lateEvent]) (fun turn => turn) (fun turn => turn)
      (fun turn => turn) := by
    refine ⟨fun _ => List.prefix_rfl,fun turn => ⟨Nat.le_refl _,Nat.le_refl _,Nat.le_succ _⟩,fun _ _ => rfl,fun _ _ item inside => ?_⟩
    rw [List.drop_length] at inside
    cases inside
  have well : (events {} {id := "session-1"} 0 fun _ => {history := [(lateEvent,0)]}).ended = .ok () := by decide +kernel
  refine ((events_once_and_complete_iff attends).2 well).mpr fun item inside => ?_
  rw [List.drop_length] at inside
  cases inside

end AgentOS.ManagedAgents
