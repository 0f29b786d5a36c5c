import AgentOS.Outbox.Start

/-! The cancel request: every runtime session that is still active is cancelled
under a request of its own, then every workflow run; a failure is kept until
the others have been tried. -/
namespace AgentOS.Outbox
open Checkpoint AgentOS.Action

def collect {α : Type} (body : α → Action Unit) : List α → Action (List Fault)
  | [] => pure []
  | item::items => do
    let ended ← (body item).outcome
    let faults ← collect body items
    match ended with
    | .ok () => pure faults
    | .error fault => pure (fault::faults)

def activeRuntimeEffects (effects : List Effect) : List Effect :=
  effects.filter fun effect => effect.kind = "runtime-session" && effect.status = .started

def completedCancellation (effects : List Effect) (runtimeEffect : Effect) : Option Effect :=
  effects.find? fun candidate =>
    candidate.kind = "runtime-session-cancel" && candidate.status = .succeeded &&
      (candidate.output.bind (·.field? "runtimeEffectKey")) = some (.str runtimeEffect.key) &&
      ((candidate.output.bind (·.field? "externalRef")).bind Json.string?).isSome

def cancelRequest (request : Request) (externalRef : String) : Request :=
  request.extended (":runtime:" ++ externalRef)

/-- Cancels one session under its own request; a recovered handle needs no loading. -/
def cancelSession (env : Environment) (request : Request) (runtimeEffectKey externalRef : String) (recovered : Bool) :
    Action Unit := do
  require (env.composition.runtime ∧ env.composition.runtimeHandles)
    "active runtime cancellation requires the trusted runtime provider"
  let cancelling := cancelRequest request externalRef
  let (effect,lease) ← ownedClaim env cancelling cancelling.fingerprint "runtime-session-cancel"
  if effect.status = .succeeded then pure ()
  else do
    let _ ← markEffectStarted env lease
    let handle ← if recovered then pure externalRef else vault env externalRef
    Runtime.cancel env handle
    let _ ← vault env externalRef
    let _ ← completeEffect env lease
      (.obj [("cancelled",.bool true),("externalRef",.str externalRef),("runtimeEffectKey",.str runtimeEffectKey)])
    pure ()

/-- Cancels the session behind an active runtime effect, recovered first where
the effect carries no reference and no cancellation is recorded for it. -/
def cancelRuntimeEffect (env : Environment) (request : Request) (effects : List Effect) (runtimeEffect : Effect) :
    Action Unit := do
  match runtimeEffect.externalRef with
  | some externalRef => cancelSession env request runtimeEffect.key externalRef false
  | none =>
    match completedCancellation effects runtimeEffect with
    | some _ => pure ()
    | none => do
      let (_,handle) ← recoverRuntimeStart env request.runId runtimeEffect
      match handle with
      | none => throw (.error "ambiguous runtime start is not visible yet")
      | some externalRef => cancelSession env request runtimeEffect.key externalRef true

def triggerStarts (effects : List Effect) : List String :=
  (effects.filterMap fun effect =>
    if effect.kind = "trigger-workflow-start" then effect.externalRef else none).eraseDups

def triggerCancelRequest (request : Request) (index : Nat) (externalRef : String) : Request :=
  request.extended (if index = 0 then ":trigger" else ":trigger:" ++ externalRef)

def cancelTriggerRun (env : Environment) (request : Request) (start : String × Nat) : Action Unit := do
  let cancelling := triggerCancelRequest request start.2 start.1
  let (effect,lease) ← ownedClaim env cancelling cancelling.fingerprint "trigger-run-cancel"
  if effect.status = .succeeded then pure ()
  else do
    let _ ← markEffectStarted env lease
    ask env fun _ => ()
    let _ ← completeEffect env lease (.obj [("cancelled",.bool true),("externalRunRef",.str start.1)])
    pure ()

def requestCancel (env : Environment) (request : Request) : Action Unit := do
  let (effect,lease) ← ownedClaim env request request.fingerprint "trigger-workflow-cancel"
  if effect.status = .succeeded then pure ()
  else do
    let _ ← markEffectStarted env lease
    let effects ← listEffects env request.runId
    let sessions ← collect (cancelRuntimeEffect env request effects) (activeRuntimeEffects effects)
    let runs ← collect (cancelTriggerRun env request) (triggerStarts effects).zipIdx
    match sessions ++ runs with
    | fault::_ => throw fault
    | [] => do
      let _ ← completeEffect env lease (.obj [("cancelled",.bool true)])
      pure ()

end AgentOS.Outbox
