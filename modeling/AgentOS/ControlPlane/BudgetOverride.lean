import AgentOS.ControlPlane.Cancel
import AgentOS.ControlPlane.Resume
import AgentOS.Stringify
import AgentOS.Workflow.AgentStep

/-! Granting a run more budget: the grant is an event of the run, named after the
instant of the call, and the workflow sums the grants back from the events. -/
namespace AgentOS.ControlPlane
open Library Workflow Routine AgentOS.Action

def MAX_BUDGET_OVERRIDE_MICRODOLLARS : Int := 100000000

def overrideEventId (runId : String) (at_ : String) : String := "budget-override:" ++ runId ++ ":" ++ at_

def overrideEvent (runId : String) (microdollars : Int) (at_ : Instant) : EventDraft where
  runId := runId
  eventId := overrideEventId runId (isoText at_)
  fingerprint := .str (overrideEventId runId (isoText at_))
  type := BUDGET_OVERRIDE_EVENT
  payload := .obj [("microdollars",.num microdollars)]
  occurredAt := at_

def overrideRunBudget (env : Environment) (runId : String) (microdollars : Int) : Action Run :=
  if ¬ isSafeInteger microdollars ∨ microdollars ≤ 0 ∨ microdollars > MAX_BUDGET_OVERRIDE_MICRODOLLARS then
    throw (.service "invalid_budget_override" "a budget override must be a positive amount no larger than $100" 422)
  else do
    let run ← getRun env runId
    let at_ ← Action.now env
    let _ ← repository env fun _ repository => repository.appendEvent {overrideEvent runId microdollars at_ with runId := run.id}
    let refreshed ← readRepository env fun repository => repository.getRun run.id
    project env (refreshed.getD run)

def grantedBudgetOverride (env : Environment) (runId : String) : Action Int :=
  scanRunEvents env runId visitBudgetOverride 1000 none 0

/-! ### The sum over the events -/

def isOverride (event : Event) : Bool := event.type = BUDGET_OVERRIDE_EVENT

def grantedIn (events : List Event) : Int := events.foldl visitBudgetOverride 0

theorem visitBudgetOverride_other {event : Event} (other : isOverride event = false) (granted : Int) :
    visitBudgetOverride granted event = granted := by
  unfold visitBudgetOverride
  rw [if_pos]
  simpa [isOverride] using other

theorem grantedIn_filter (events : List Event) : grantedIn (events.filter isOverride) = grantedIn events := by
  have fromAny : ∀ granted, (events.filter isOverride).foldl visitBudgetOverride granted =
      events.foldl visitBudgetOverride granted := by
    induction events with
    | nil => exact fun _ => rfl
    | cons event events ih =>
      intro granted
      rw [List.filter_cons,List.foldl_cons]
      cases mine : isOverride event with
      | true =>
        rw [if_pos rfl,List.foldl_cons]
        exact ih _
      | false =>
        rw [if_neg (by simp),visitBudgetOverride_other mine]
        exact ih _
  exact fromAny 0

theorem visitBudgetOverride_grant {event : Event} {microdollars : Int} (type : event.type = BUDGET_OVERRIDE_EVENT)
    (payload : event.payload = .obj [("microdollars",.num microdollars)]) (safe : isSafeInteger microdollars = true)
    (positive : 0 < microdollars) (granted : Int) : visitBudgetOverride granted event = granted + microdollars := by
  unfold visitBudgetOverride
  rw [if_neg (not_not.mpr type),payload]
  have read : ((Json.obj [("microdollars",.num microdollars)]).field? "microdollars").bind Json.number? = some microdollars :=
    rfl
  rw [read]
  simp [safe,positive]

/-! ### The calls -/

variable {env : Environment} {world after : World} {runId : String} {microdollars : Int}

theorem overrideRunBudget_leads (steady : Steady env) : (overrideRunBudget env runId microdollars).Leads world
    fun answer after => match answer with
      | .ok _ => isSafeInteger microdollars = true ∧ 0 < microdollars ∧ ∃ event,
          world.repository.appendEvent (overrideEvent runId microdollars (env.clock (world.tick + 1))) =
            .ok (event,after.repository)
      | .error _ => after.repository = world.repository := by
  unfold overrideRunBudget
  split
  · rfl
  rename_i admitted
  simp only [not_or,not_not,not_le] at admitted
  obtain ⟨safe,positive,_⟩ := admitted
  unfold getRun
  rw [bind_assoc]
  apply leads_readRepository steady
  cases found : world.repository.getRun runId with
  | none => rfl
  | some run =>
    have named : run.id = runId := world.repository.keyed _ _ found
    rw [pure_bind]
    apply leads_now
    cases appended : world.repository.appendEvent
        {overrideEvent runId microdollars (env.clock (world.tick + 1)) with runId := run.id} with
    | error fault =>
      unfold Leads
      rw [exec_bind]
      have refused : (repository env fun _ repository => repository.appendEvent
          {overrideEvent runId microdollars (env.clock world.ticked.tick) with runId := run.id}).exec world.ticked.ticked =
          (.error fault,world.ticked.ticked.ticked) := by
        simp only [repository,call,exec_atomic,steady world.ticked.ticked.tick]
        rw [show world.ticked.ticked.ticked.repository = world.repository from rfl,
          show world.ticked.tick = world.tick + 1 from rfl,appended]
      rw [refused]
      rfl
    | ok answer =>
      obtain ⟨event,next⟩ := answer
      apply leads_repository steady appended
      apply leads_readRepository steady
      unfold project
      have answered : ∀ middle : World, ∀ returned : Run, (ask env fun _ => returned).exec middle = (.ok returned,middle.ticked) :=
        fun middle returned => exec_ask_ok.mpr ⟨steady _,rfl,rfl⟩
      unfold Leads
      rw [answered]
      refine ⟨safe,positive,event,?_⟩
      rw [named] at appended
      exact appended

end AgentOS.ControlPlane
