import AgentOS.Checkpoint.Admission

/-! The database's own admission function. It checks its arguments, computes
the spend and the reserved totals by queries, and decides by them. -/
namespace AgentOS.Checkpoint

structure UsageRow where
  runId : String
  microdollars : Int
  recordedAt : Instant

/-- The tables the function reads: reservations and leases, usage, and the project of each run. -/
structure Database where
  tables : Store := {}
  usage : List UsageRow := []
  projectOf : String → Option String := fun _ => none

structure Totals where
  workflowSpent : Int := 0
  dailySpent : Int := 0
  deploymentSpent : Int := 0
  workflowReserved : Int := 0
  dailyReserved : Int := 0
  deploymentReserved : Int := 0

inductive Verdict where
  | refused (reason : Refusal)
  | retaken
  | reserved
  deriving DecidableEq

namespace Database

def day : Int := 24 * 60 * 60 * 1000

def spent (db : Database) (select : UsageRow → Bool) : Int :=
  ((db.usage.filter select).map UsageRow.microdollars).sum

def recent (now : Instant) (record : UsageRow) : Bool := now - day ≤ record.recordedAt && record.recordedAt ≤ now

def workflowSpent (db : Database) (runId : String) : Int := db.spent fun record => record.runId = runId

def dailySpent (db : Database) (projectId : String) (now : Instant) : Int :=
  db.spent fun record => db.projectOf record.runId = some projectId && recent now record

def deploymentSpent (db : Database) (now : Instant) : Int := db.spent (recent now)

def deploymentDailyLimit (request : SessionAdmission) : Int := request.deploymentDailyLimitMicrodollars.getD 0

def invalid (request : SessionAdmission) : Bool :=
  request.estimatedMicrodollars ≤ 0 || request.workflowLimitMicrodollars < 0 || request.dailyLimitMicrodollars < 0 ||
    request.admissionNumerator ≤ 0 || request.admissionDenominator ≤ 0 ||
    request.admissionNumerator > request.admissionDenominator || request.leaseExpiresAt ≤ request.now

def differs (existing : Reservation) (request : SessionAdmission) : Bool :=
  existing.runId ≠ request.runId || existing.projectId ≠ request.projectId ||
    existing.stepKey ≠ request.stepKey || existing.estimatedMicrodollars ≠ request.estimatedMicrodollars

def judge (request : SessionAdmission) (totals : Totals) (held : Bool) : Verdict :=
  if deploymentDailyLimit request > 0 ∧ Store.exceeds totals.deploymentSpent totals.deploymentReserved
      request.estimatedMicrodollars (deploymentDailyLimit request) request then .refused .dailyBudget
  else if Store.exceeds totals.workflowSpent totals.workflowReserved request.estimatedMicrodollars
      request.workflowLimitMicrodollars request then .refused .workflowBudget
  else if Store.exceeds totals.dailySpent totals.dailyReserved request.estimatedMicrodollars
      request.dailyLimitMicrodollars request then .refused .dailyBudget
  else if held then .refused .concurrency
  else .reserved

def readSpent (db : Database) (request : SessionAdmission) : Totals where
  workflowSpent := db.workflowSpent request.runId
  dailySpent := db.dailySpent request.projectId request.now
  deploymentSpent := db.deploymentSpent request.now

def readWorkflow (db : Database) (request : SessionAdmission) (totals : Totals) : Totals :=
  {totals with workflowReserved := db.tables.reserved fun held => held.runId = request.runId}

def readDaily (db : Database) (request : SessionAdmission) (totals : Totals) : Totals :=
  {totals with dailyReserved := db.tables.reserved fun held => held.projectId = request.projectId}

def readDeployment (db : Database) (totals : Totals) : Totals :=
  {totals with deploymentReserved := db.tables.reserved fun _ => true}

def totals (db : Database) (request : SessionAdmission) : Totals :=
  db.readDeployment (db.readDaily request (db.readWorkflow request (db.readSpent request)))

def answer : Verdict → Admission
  | .refused reason => .refused reason
  | .retaken => .admitted
  | .reserved => .admitted

def write (tables : Store) (request : SessionAdmission) : Verdict → Store
  | .refused _ => tables
  | .retaken => tables.takeLease request
  | .reserved => (tables.reserve request).takeLease request

def raise {α : Type} (message : String) : Except Fault α := .error (.error message)

def agentosAdmitWorkflowSession (db : Database) (request : SessionAdmission) : Except Fault (Admission × Store) :=
  if invalid request then raise "invalid workflow admission request"
  else match db.tables.reservations.get? request.reservationKey with
    | some existing =>
      if differs existing request then raise "workflow reservation conflicts"
      else
        let verdict := if db.tables.heldByAnother request then .refused .concurrency else .retaken
        .ok (answer verdict,write db.tables request verdict)
    | none =>
      let verdict := judge request (db.totals request) (db.tables.heldByAnother request)
      .ok (answer verdict,write db.tables request verdict)

end Database

/-! ### Requests -/

structure BudgetConfig where
  workflowMicrodollars : Int
  dailyMicrodollars : Int
  admissionReservePercent : Int
  workflow_nonneg : 0 ≤ workflowMicrodollars
  daily_nonneg : 0 ≤ dailyMicrodollars
  percent_nonneg : 0 ≤ admissionReservePercent
  percent_le : admissionReservePercent ≤ 100

structure SessionAsk where
  reservationKey : String
  projectId : String
  runId : String
  stepKey : String
  estimatedMicrodollars : Int
  now : Instant

structure DeploymentLimit where
  microdollars : Int
  positive : 0 < microdollars

/-- The admission request of a step under its project's budgets, which carries the spend so far. -/
def sessionAdmission (db : Database) (config : BudgetConfig) (deployment : Option DeploymentLimit)
    (ask : SessionAsk) : Except Fault SessionAdmission :=
  if ask.estimatedMicrodollars < 1 ∨ config.workflowMicrodollars < ask.estimatedMicrodollars then
    .error (.permanent "role cost reservation is invalid")
  else .ok {
    reservationKey := ask.reservationKey
    projectId := ask.projectId
    runId := ask.runId
    stepKey := ask.stepKey
    workflowSpentMicrodollars := db.workflowSpent ask.runId
    dailySpentMicrodollars := db.dailySpent ask.projectId ask.now
    workflowLimitMicrodollars := config.workflowMicrodollars
    dailyLimitMicrodollars := config.dailyMicrodollars
    admissionNumerator := config.admissionReservePercent
    admissionDenominator := 100
    deploymentDailyLimitMicrodollars := deployment.map DeploymentLimit.microdollars
    deploymentSpentMicrodollars := deployment.map fun _ => db.deploymentSpent ask.now
    now := ask.now
    leaseExpiresAt := ask.now + 20 * 60 * 1000 + 60000
    estimatedMicrodollars := ask.estimatedMicrodollars}

/-! ### Agreement with the store -/

/-- Both answer the same and leave the same reservations and leases, or both throw. -/
def Agrees : Except Fault (Admission × Store) → Except Fault (Admission × Store) → Prop
  | .ok (answer,tables), .ok (other,left) =>
    answer = other ∧ tables.reservations = left.reservations ∧ tables.sessions = left.sessions
  | .error _, .error _ => True
  | _, _ => False

namespace Database
variable {db : Database} {config : BudgetConfig} {deployment : Option DeploymentLimit} {ask : SessionAsk}
  {request : SessionAdmission}

private theorem lease_later (now : Int) : ¬ now + 20 * 60 * 1000 + 60000 ≤ now := by omega

section
variable (resolved : sessionAdmission db config deployment ask = .ok request)
include resolved

theorem invalid_iff : invalid request = true ↔ request.admissionNumerator = 0 := by
  unfold sessionAdmission at resolved
  split at resolved
  · cases resolved
  · rename_i asked
    cases resolved
    have workflow := config.workflow_nonneg
    have daily := config.daily_nonneg
    have lower := config.percent_nonneg
    have upper := config.percent_le
    have leased := lease_later ask.now
    simp only [invalid,Bool.or_eq_true,decide_eq_true_eq,leased,or_false]
    omega

theorem exceedsDeployment_eq : db.tables.exceedsDeployment request = true ↔ deploymentDailyLimit request > 0 ∧
      Store.exceeds (db.totals request).deploymentSpent (db.totals request).deploymentReserved
        request.estimatedMicrodollars (deploymentDailyLimit request) request = true := by
  unfold sessionAdmission at resolved
  split at resolved
  · cases resolved
  · cases resolved
    cases deployment with
    | none => simp [Store.exceedsDeployment,deploymentDailyLimit]
    | some limit =>
      simp [Store.exceedsDeployment,deploymentDailyLimit,totals,readDeployment,readDaily,readWorkflow,readSpent]

theorem admitSession_judge (absent : db.tables.reservations.get? request.reservationKey = none) :
    db.tables.admitSession request = .ok (answer (judge request (db.totals request)
      (db.tables.heldByAnother request)),write db.tables request (judge request (db.totals request)
        (db.tables.heldByAnother request))) := by
  have deployed := exceedsDeployment_eq resolved
  have workflow : (db.totals request).workflowSpent = request.workflowSpentMicrodollars ∧
      (db.totals request).dailySpent = request.dailySpentMicrodollars := by
    unfold sessionAdmission at resolved
    split at resolved
    · cases resolved
    · cases resolved
      exact ⟨rfl,rfl⟩
  unfold Store.admitSession judge
  rw [absent,workflow.1,workflow.2]
  simp only [← deployed]
  split_ifs <;> first | rfl | (simp_all [totals,readDeployment,readDaily,readWorkflow,readSpent])

end

theorem differs_iff (existing : Reservation) (request : SessionAdmission) : differs existing request = true ↔
    existing.runId ≠ request.runId ∨ existing.projectId ≠ request.projectId ∨
      existing.stepKey ≠ request.stepKey ∨ existing.estimatedMicrodollars ≠ request.estimatedMicrodollars := by
  simp [differs,or_assoc]

theorem agrees_of_valid (resolved : sessionAdmission db config deployment ask = .ok request) (valid : invalid request = false) :
    Agrees (db.tables.admitSession request) (db.agentosAdmitWorkflowSession request) := by
  unfold agentosAdmitWorkflowSession
  rw [valid]
  cases found : db.tables.reservations.get? request.reservationKey with
  | none =>
    rw [admitSession_judge resolved found]
    exact ⟨rfl,rfl,rfl⟩
  | some existing =>
    simp only [Store.admitSession,found,Bool.false_eq_true,if_false,← differs_iff]
    cases differs existing request with
    | true => trivial
    | false =>
      cases db.tables.heldByAnother request <;> exact ⟨rfl,rfl,rfl⟩

def noReserve : BudgetConfig where
  workflowMicrodollars := 2000000
  dailyMicrodollars := 5000000
  admissionReservePercent := 0
  workflow_nonneg := by decide
  daily_nonneg := by decide
  percent_nonneg := by decide
  percent_le := by decide

def planning : SessionAsk where
  reservationKey := "reservation:run-1:plan:1"
  projectId := "project-1"
  runId := "run-1"
  stepKey := "plan"
  estimatedMicrodollars := 700000
  now := 0

def planningRequest : SessionAdmission where
  reservationKey := "reservation:run-1:plan:1"
  projectId := "project-1"
  runId := "run-1"
  stepKey := "plan"
  workflowSpentMicrodollars := 0
  dailySpentMicrodollars := 0
  workflowLimitMicrodollars := 2000000
  dailyLimitMicrodollars := 5000000
  admissionNumerator := 0
  admissionDenominator := 100
  now := 0
  leaseExpiresAt := 1260000
  estimatedMicrodollars := 700000

end Database
end AgentOS.Checkpoint
