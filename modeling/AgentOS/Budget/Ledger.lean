import AgentOS.Stringify
import AgentOS.Library.Replay
import AgentOS.Library.Totals
import AgentOS.Workflow.Run
import Mathlib.Algebra.Order.Ring.Rat

/-! The usage ledger of a day: what workflows have spent, what is reserved for
them, and how reservations are admitted and settled. -/
namespace AgentOS.Budget
open Library Workflow

/-- What an amount or a limit may be before it is checked. A number that is not finite fares as a fraction does. -/
abbrev Number := ℚ

def MAX_SAFE_INTEGER : Int := 9007199254740991

def requireNonNegativeInteger (value : Number) (label : String) : Except String Int :=
  if value.den = 1 ∧ isSafeInteger value.num ∧ 0 ≤ value.num then .ok value.num
  else .error (label ++ " must be a non-negative safe integer")

def toMicrodollars (value : Int) : Except String Int :=
  if value > MAX_SAFE_INTEGER then .error "Microdollar total exceeds the safe integer range" else .ok value

structure BudgetReservation where
  id : String
  workflowId : String
  microdollars : Int
  deriving DecidableEq

/-- `JSON.stringify([workflowId, estimatedMicrodollars])`, whose text tells any two of these apart. -/
structure RequestFingerprint where
  workflowId : String
  estimatedMicrodollars : Number
  deriving DecidableEq

inductive Outcome where
  | consumed
  | released
  deriving DecidableEq

structure SettledReservation where
  id : String
  requestFingerprint : RequestFingerprint
  outcome : Outcome
  actualMicrodollars : Option Number := none
  deriving DecidableEq

structure UsageLedger where
  day : String
  dailySpentMicrodollars : Int
  workflowSpentMicrodollars : OrderedMap String Int
  activeWorkflowIds : List String
  reservations : OrderedMap String BudgetReservation
  settledReservations : OrderedMap String SettledReservation
  settledReservationIds : List String
  deriving DecidableEq

/-- Matches `\d{4}-\d{2}-\d{2}`. -/
def isDay (day : String) : Bool :=
  match day.toList with
  | [a,b,c,d,dash,e,f,hyphen,g,h] => [a,b,c,d,e,f,g,h].all Char.isDigit && dash = '-' && hyphen = '-'
  | _ => false

def createUsageLedger (day : String) : Except String UsageLedger :=
  if isDay day then
    .ok {day,dailySpentMicrodollars := 0,workflowSpentMicrodollars := .empty,activeWorkflowIds := [],reservations := .empty
         settledReservations := .empty,settledReservationIds := []}
  else .error "Ledger day must use YYYY-MM-DD"

def workflowSpent (ledger : UsageLedger) (workflowId : String) : Int := (ledger.workflowSpentMicrodollars.get? workflowId).getD 0

def recordUsageCost (ledger : UsageLedger) (workflowId : String) (microdollars : Number) : Except String UsageLedger :=
  requireNonNegativeInteger microdollars "microdollars" >>= fun amount =>
  requireNonNegativeInteger (workflowSpent ledger workflowId) "workflow spent" >>= fun spent =>
  requireNonNegativeInteger ledger.dailySpentMicrodollars "daily spent" >>= fun dailySpent =>
  toMicrodollars (dailySpent + amount) >>= fun daily =>
  toMicrodollars (spent + amount) >>= fun total =>
  .ok {ledger with dailySpentMicrodollars := daily
                   workflowSpentMicrodollars := ledger.workflowSpentMicrodollars.set workflowId total}

def textually (left right : String) : Prop := Json.compareCanonicalKeys left right

instance : DecidableRel textually := fun _ _ => inferInstanceAs (Decidable (_ = true))

def markWorkflowActive (ledger : UsageLedger) (workflowId : String) : UsageLedger :=
  if workflowId ∈ ledger.activeWorkflowIds then ledger
  else {ledger with activeWorkflowIds := (ledger.activeWorkflowIds ++ [workflowId]).insertionSort textually}

def markWorkflowInactive (ledger : UsageLedger) (workflowId : String) : UsageLedger :=
  if workflowId ∉ ledger.activeWorkflowIds then ledger
  else {ledger with activeWorkflowIds := ledger.activeWorkflowIds.filter (· ≠ workflowId)}

structure BudgetLimits where
  workflowMicrodollars : Number
  dailyMicrodollars : Number
  concurrency : Number
  admissionReservePercent : Option Number := none

structure BudgetReservationRequest where
  reservationId : String
  workflowId : String
  estimatedMicrodollars : Number

inductive CancelReason where
  | concurrencyLimit
  | admissionReserve
  deriving DecidableEq

inductive ExhaustReason where
  | workflowCap
  | dailyCap
  deriving DecidableEq

inductive BudgetDecision where
  | admitted
  | cancel (reason : CancelReason)
  | exhaust (reason : ExhaustReason)
  deriving DecidableEq

def reservedLimit (limit percent : Number) : Except String Int :=
  requireNonNegativeInteger limit "budget limit" >>= fun limit =>
  requireNonNegativeInteger percent "admission reserve percent" >>= fun percent =>
  .ok (limit * percent / 100)

/-- `reservationTotal`, of the reservations that are counted. -/
def reservationTotal (counted : BudgetReservation → Bool) : List BudgetReservation → Except String Int
  | [] => .ok 0
  | reservation::rest =>
    reservationTotal counted rest >>= fun total =>
    if counted reservation then
      requireNonNegativeInteger reservation.microdollars "reservation microdollars" >>= fun amount => .ok (total + amount)
    else .ok total

def reservedWorkflowIds (ledger : UsageLedger) : List String :=
  (ledger.activeWorkflowIds ++ ledger.reservations.values.map BudgetReservation.workflowId).dedup

def withinReserve (limits : BudgetLimits) (workflowNeeds dailyNeeds : Int) : Except String BudgetDecision :=
  let percent := limits.admissionReservePercent.getD 80
  if percent < 0 ∨ percent > 100 then .error "admission reserve percent must be between 0 and 100"
  else reservedLimit limits.workflowMicrodollars percent >>= fun workflowLimit =>
    if workflowNeeds > workflowLimit then .ok (.cancel .admissionReserve)
    else reservedLimit limits.dailyMicrodollars percent >>= fun dailyLimit =>
      if dailyNeeds > dailyLimit then .ok (.cancel .admissionReserve) else .ok .admitted

def decideBudgetAction (ledger : UsageLedger) (request : BudgetReservationRequest) (limits : BudgetLimits) :
    Except String BudgetDecision :=
  requireNonNegativeInteger (workflowSpent ledger request.workflowId) "workflow spent" >>= fun spent =>
  requireNonNegativeInteger ledger.dailySpentMicrodollars "daily spent" >>= fun dailySpent =>
  requireNonNegativeInteger limits.workflowMicrodollars "workflow cap" >>= fun workflowCap =>
  requireNonNegativeInteger limits.dailyMicrodollars "daily cap" >>= fun dailyCap =>
  requireNonNegativeInteger request.estimatedMicrodollars "estimated microdollars" >>= fun estimate =>
  reservationTotal (fun reservation => reservation.workflowId = request.workflowId) ledger.reservations.values >>= fun workflowReserved =>
  reservationTotal (fun _ => true) ledger.reservations.values >>= fun dailyReserved =>
  if spent + workflowReserved ≥ workflowCap then .ok (.exhaust .workflowCap)
  else if dailySpent + dailyReserved ≥ dailyCap then .ok (.exhaust .dailyCap)
  else if ¬ (limits.concurrency.den = 1 ∧ isSafeInteger limits.concurrency.num) ∨ limits.concurrency ≤ 0 then
    .error "concurrency must be a positive safe integer"
  else if request.workflowId ∉ reservedWorkflowIds ledger ∧ ((reservedWorkflowIds ledger).length : Number) ≥ limits.concurrency then
    .ok (.cancel .concurrencyLimit)
  else withinReserve limits (spent + workflowReserved + estimate) (dailySpent + dailyReserved + estimate)

inductive ReservationAnswer where
  | decided (decision : BudgetDecision)
  | replay (settlement : Outcome)

structure BudgetReservationResult where
  answer : ReservationAnswer
  shouldExecute : Bool
  ledger : UsageLedger

def reusedReservation {α : Type} : Except String α := .error "Reservation ID was reused with different details"

section
variable (ledger : UsageLedger)

def reserveBudget (request : BudgetReservationRequest) (limits : BudgetLimits) : Except String BudgetReservationResult :=
  if trim request.reservationId = "" then .error "reservationId must be non-empty"
  else match ledger.reservations.get? request.reservationId with
    | some existing =>
      if existing.workflowId ≠ request.workflowId ∨ (existing.microdollars : Number) ≠ request.estimatedMicrodollars then reusedReservation
      else .ok {answer := .decided .admitted,shouldExecute := false,ledger}
    | none => match ledger.settledReservations.get? request.reservationId with
      | some settled =>
        if settled.requestFingerprint ≠ ⟨request.workflowId,request.estimatedMicrodollars⟩ then reusedReservation
        else .ok {answer := .replay settled.outcome,shouldExecute := false,ledger}
      | none =>
        decideBudgetAction ledger request limits >>= fun decision =>
        if decision ≠ .admitted then .ok {answer := .decided decision,shouldExecute := false,ledger}
        else requireNonNegativeInteger request.estimatedMicrodollars "estimated microdollars" >>= fun estimate =>
          toMicrodollars estimate >>= fun microdollars =>
          .ok {answer := .decided .admitted,shouldExecute := true
               ledger := {ledger with reservations :=
                ledger.reservations.set request.reservationId ⟨request.reservationId,request.workflowId,microdollars⟩}}

def withoutReservation (reservationId : String) : UsageLedger :=
  {ledger with reservations := ledger.reservations.erase reservationId}

def settleReservation (reservation : BudgetReservation) (outcome : Outcome) (actualMicrodollars : Option Number) : UsageLedger :=
  {ledger with
    settledReservationIds := ledger.settledReservationIds ++ [reservation.id]
    settledReservations := ledger.settledReservations.set reservation.id
      ⟨reservation.id,⟨reservation.workflowId,reservation.microdollars⟩,outcome,actualMicrodollars⟩}

def releaseBudgetReservation (reservationId : String) : Except String UsageLedger :=
  match ledger.reservations.get? reservationId with
  | none => match ledger.settledReservations.get? reservationId with
    | none => .ok ledger
    | some settled => if settled.outcome = .released then .ok ledger else .error "Reservation was already consumed"
  | some reservation => .ok (settleReservation (withoutReservation ledger reservationId) reservation .released none)

def consumeBudgetReservation (reservationId : String) (actualMicrodollars : Number) : Except String UsageLedger :=
  match ledger.reservations.get? reservationId with
  | none => match ledger.settledReservations.get? reservationId with
    | some settled =>
      if settled.outcome = .consumed ∧ settled.actualMicrodollars = some actualMicrodollars then .ok ledger
      else .error "Reservation settlement was replayed with different details"
    | none => .error ("Unknown budget reservation: " ++ reservationId)
  | some reservation =>
    recordUsageCost (withoutReservation ledger reservationId) reservation.workflowId actualMicrodollars >>= fun recorded =>
    .ok (settleReservation recorded reservation .consumed (some actualMicrodollars))

end

/-! ### Operations -/

inductive LedgerOperation where
  | reserve (request : BudgetReservationRequest) (limits : BudgetLimits)
  | consume (reservationId : String) (actualMicrodollars : Number)
  | release (reservationId : String)
  | record (workflowId : String) (microdollars : Number)
  | active (workflowId : String)
  | inactive (workflowId : String)

def operate (ledger : UsageLedger) : LedgerOperation → Except String UsageLedger
  | .reserve request limits => (reserveBudget ledger request limits).map BudgetReservationResult.ledger
  | .consume reservationId actualMicrodollars => consumeBudgetReservation ledger reservationId actualMicrodollars
  | .release reservationId => releaseBudgetReservation ledger reservationId
  | .record workflowId microdollars => recordUsageCost ledger workflowId microdollars
  | .active workflowId => .ok (markWorkflowActive ledger workflowId)
  | .inactive workflowId => .ok (markWorkflowInactive ledger workflowId)

def operateAll (ledger : UsageLedger) (operations : List LedgerOperation) : UsageLedger := attempts operate ledger operations

end AgentOS.Budget
