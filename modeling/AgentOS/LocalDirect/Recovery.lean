import AgentOS.ControlPlane.Resume

/-! The local executor's recovery sweep: the runs its own process left behind
are put through the resume path again, one after the other, and none stops the
rest. -/
namespace AgentOS.LocalDirect
open Checkpoint Outbox ControlPlane AgentOS.Action

def RECOVERABLE_RUN_STATUSES : List RunStatus := [.running,.waiting]

def LOCAL_DIRECT_EFFECT_OWNER_PREFIX : String := "workflow:local-direct:"

def DEFAULT_RECOVERY_LIMIT : Nat := 100

def ownedLocally (effects : List Effect) : Bool :=
  effects.any fun effect => effect.ownerId.any (LOCAL_DIRECT_EFFECT_OWNER_PREFIX.toList.isPrefixOf ·.toList)

structure RecoveryOptions where
  isRunActive : Nat → String → Bool := fun _ _ => false
  limit : Nat := DEFAULT_RECOVERY_LIMIT

inductive Recovery where
  | active
  | notLocal
  | moved
  | recovered

/-- Dispatches a recovered run the way a resume does; here a failure is thrown. -/
def dispatchRecovered (env : Environment) (run : Run) (generation : Nat) : Action Unit :=
  match pipelineOf run.pipeline with
  | none => throw (.error ("run " ++ run.id ++ " has no dispatchable pipeline"))
  | some pipeline => requestStart env (resumedStart run.id pipeline generation)

def recoverRun (env : Environment) (options : RecoveryOptions) (run : Run) : Action Recovery := do
  let active ← ask env fun tick => options.isRunActive tick run.id
  if active then pure .active
  else do
    let effects ← listEffects env run.id
    if ¬ ownedLocally effects then pure .notLocal
    else do
      let generation := nextResumeGeneration effects
      let _ ← releaseRunForResume env run.id
      let at_ ← Action.now env
      match ← reopen env run RECOVERABLE_RUN_STATUSES at_ with
      | none => pure .moved
      | some _ => do
        let _ ← recordResume env (resumedEvent run.id generation at_)
        dispatchRecovered env run generation
        pure .recovered

def sweep (env : Environment) (options : RecoveryOptions) : List Run → Action (List (Run × Except Fault Recovery))
  | [] => pure []
  | run::runs => do
    let ended ← (recoverRun env options run).outcome
    let rest ← sweep env options runs
    pure ((run,ended)::rest)

structure RecoveryResult where
  recovered : List String
  skipped : List String

def recoveryResult (ended : List (Run × Except Fault Recovery)) : RecoveryResult where
  recovered := (ended.filter fun entry => entry.2 matches .ok .recovered).map fun entry => entry.1.id
  skipped := (ended.filter fun entry => ¬ entry.2 matches .ok .recovered).map fun entry => entry.1.id

def olderRun (env : Environment) (left right : Run) : Bool :=
  left.createdAt < right.createdAt || (left.createdAt = right.createdAt && env.collation.le left.id right.id)

def recoverLocalDirectRuns (env : Environment) (options : RecoveryOptions) : Action RecoveryResult := do
  let running ← readRepository env fun repository => repository.listRuns none (some .running) options.limit none
  let waiting ← readRepository env fun repository => repository.listRuns none (some .waiting) options.limit none
  let runs := ((running ++ waiting).insertionSort fun left right => olderRun env left right).take options.limit
  let ended ← sweep env options runs
  pure (recoveryResult ended)

end AgentOS.LocalDirect
