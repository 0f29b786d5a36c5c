import AgentOS.Kimi.Session
import AgentOS.Library.OrderedMap
import AgentOS.Library.Interleaving

/-! Starting sessions. A start looks its session up, awaits a sandbox and the files in it, and then registers the
session; others may run wherever it awaits. -/
namespace AgentOS.Kimi
open Library Routine

structure RuntimeAgent where
  id : String
  model : String
  modelProvider : Option String := none
  instructions : Option String := none

structure RuntimeEnvironment where
  id : String

structure RuntimeFileResource where
  fileId : String
  mountPath : Option String := none

structure RuntimeStartRequest where
  runId : String
  stepId : String
  agentId : String
  environmentId : String
  input : Json
  timeoutMs : Option Int := none
  resources : List RuntimeFileResource := []
  credentialRefs : List String := []

/-- What the provider was made with; of the last two, whether they are there. -/
structure ValidatedOptions (τ : Type) where
  transport : Option τ
  transports : OrderedMap String τ := .empty
  ownershipSecret : String
  resolveFile : Bool := false
  artifactMcp : Bool := false

structure Provider (τ : Type) where
  agents : OrderedMap String RuntimeAgent := .empty
  environments : OrderedMap String RuntimeEnvironment := .empty
  sessions : OrderedMap String KimiSession := .empty
  made : List RuntimeHandle := []
  loops : List (RuntimeHandle × τ) := []

structure Preparation where
  sandbox : Except String Unit := .ok ()
  resolved : Except String Unit := .ok ()
  materialized : Except String Unit := .ok ()
  destroyed : Except String Unit := .ok ()

inductive Begun (τ : Type) where
  | existing (handle : RuntimeHandle)
  | fresh (agent : RuntimeAgent) (transport : τ)

def isTrustedVerificationRequest : Json → Bool
  | .obj fields => fields.lookup "version" == some (.str "trusted-verification-request-v1")
  | _ => false

section
variable {τ : Type} (hmac : String → String → String) (clock : Nat → Instant) (options : ValidatedOptions τ)

def deriveSessionId (runId stepId : String) : String :=
  let hex := hmac options.ownershipSecret
    (canonicalJsonValue (.obj [("version",.str "kimi-session-id-v1"),("runId",.str runId),("stepId",.str stepId)]))
  "kimi_" ++ String.ofList (hex.toList.take 32)

def transportFor (agent : RuntimeAgent) : Except String τ :=
  match if options.transports.entries.isEmpty then none else agent.modelProvider with
  | some modelProvider =>
    match options.transports.get? modelProvider with
    | some routed => .ok routed
    | none => .error ("no transport is configured for model provider '" ++ modelProvider ++ "' (agent '" ++ agent.id ++
        "', model '" ++ agent.model ++ "')")
  | none =>
    match options.transport with
    | some transport => .ok transport
    | none => .error ("no transport is configured for agent '" ++ agent.id ++ "' (model '" ++ agent.model ++
        "'): it declares no model provider and there is no default transport")

namespace Provider

section
variable (provider : Provider τ) (request : RuntimeStartRequest)

def begin_ : Except String (Begun τ) :=
  match provider.agents.get? request.agentId with
  | none => .error ("unknown agentId: " ++ request.agentId)
  | some agent =>
    if (provider.environments.get? request.environmentId).isNone then
      .error ("unknown environmentId: " ++ request.environmentId)
    else match transportFor options agent with
    | .error error => .error error
    | .ok transport =>
      if !request.resources.isEmpty && !options.resolveFile then
        .error "request.resources require a resolveFile resolver"
      else if !request.credentialRefs.isEmpty && !options.artifactMcp then
        .error "request.credentialRefs require artifactMcp configuration"
      else if request.timeoutMs.any fun timeoutMs => !isSafeInteger timeoutMs || timeoutMs < 1 then
        .error "request.timeoutMs must be a positive integer"
      else match provider.sessions.get? (deriveSessionId hmac options request.runId request.stepId) with
      | some existing =>
        if existing.agentId ≠ request.agentId then
          .error "a session already exists for this runId/stepId with a different agentId"
        else .ok (.existing existing.handle)
      | none => .ok (.fresh agent transport)

/-- Registers a session and, unless it only verifies a command, launches its loop. -/
def register (agent : RuntimeAgent) (transport : τ) : RuntimeHandle × Provider τ :=
  let sessionId := deriveSessionId hmac options request.runId request.stepId
  let handle : RuntimeHandle := ⟨sessionId,provider.made.length⟩
  let trusted := isTrustedVerificationRequest request.input
  (handle,{provider with
    sessions := provider.sessions.set sessionId (KimiSession.start clock {
      handle := handle
      agentId := request.agentId
      timed := request.timeoutMs.isSome && !trusted
      trustedVerification := trusted
      options := {model := agent.model,system := agent.instructions,initialInput := request.input}})
    made := provider.made ++ [handle]
    loops := if trusted then provider.loops else provider.loops ++ [(handle,transport)]})

end

end Provider

def awaited {α : Type} (answer : Except String α) : Routine (Provider τ) String α := atomic fun provider => (answer,provider)

section
variable (request : RuntimeStartRequest) (preparation : Preparation)

def materialize : Routine (Provider τ) String Unit :=
  if request.resources.isEmpty then pure ()
  else (awaited preparation.resolved >>= fun _ => awaited preparation.materialized).outcome >>= fun ended =>
    match ended with
    | .ok _ => pure ()
    | .error error => (awaited preparation.destroyed).outcome >>= fun _ => throw error

def start : Routine (Provider τ) String RuntimeHandle :=
  atomic (fun provider => (provider.begin_ hmac options request,provider)) >>= fun begun =>
  match begun with
  | .existing handle => pure handle
  | .fresh agent transport =>
    awaited preparation.sandbox >>= fun _ =>
    materialize request preparation >>= fun _ =>
    atomic fun provider =>
      let (handle,after) := provider.register hmac clock options request agent transport
      (.ok handle,after)

end

def syncAgent (agent : RuntimeAgent) : Routine (Provider τ) String Unit :=
  atomic fun provider => (.ok (),{provider with agents := provider.agents.set agent.id agent})

def syncEnvironment (environment : RuntimeEnvironment) : Routine (Provider τ) String Unit :=
  atomic fun provider => (.ok (),{provider with environments := provider.environments.set environment.id environment})

inductive ProviderCall where
  | syncAgent (agent : RuntimeAgent)
  | syncEnvironment (environment : RuntimeEnvironment)
  | start (request : RuntimeStartRequest) (preparation : Preparation)

def ProviderCall.thread : ProviderCall → Thread (Provider τ)
  | .syncAgent agent => (Kimi.syncAgent agent).thread
  | .syncEnvironment environment => (Kimi.syncEnvironment environment).thread
  | .start request preparation => (Kimi.start hmac clock options request preparation).thread

end

end AgentOS.Kimi
