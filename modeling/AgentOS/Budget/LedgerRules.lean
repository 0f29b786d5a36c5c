import AgentOS.Budget.Ledger
import Mathlib.Data.List.Dedup
import Mathlib.Data.Rat.Floor

/-! What the operations of the usage ledger do, one rule for each. -/
namespace AgentOS.Budget
open Library

/-! ### Amounts -/

section
variable {value : Number} {label : String} {amount : Int}

theorem require_ok (ok : requireNonNegativeInteger value label = .ok amount) :
    value = amount ∧ 0 ≤ amount ∧ amount ≤ MAX_SAFE_INTEGER := by
  unfold requireNonNegativeInteger at ok
  split at ok
  · rename_i checked
    obtain ⟨whole,safe,positive⟩ := checked
    cases ok
    simp only [isSafeInteger,Bool.and_eq_true,decide_eq_true_eq] at safe
    exact ⟨(Rat.den_eq_one_iff value).mp whole |>.symm,positive,safe.2⟩
  · cases ok

theorem require_same {other : Int} (ok : requireNonNegativeInteger (amount : Number) label = .ok other) : other = amount := by
  have same := (require_ok ok).1
  exact_mod_cast same.symm

theorem toMicrodollars_ok {total : Int} (ok : toMicrodollars total = .ok amount) : amount = total := by
  unfold toMicrodollars at ok
  split at ok
  · cases ok
  · cases ok
    rfl

end

/-! ### Totals -/

def reservedFor (ledger : UsageLedger) (workflowId : String) : Int :=
  ledger.reservations.total fun reservation => if reservation.workflowId = workflowId then reservation.microdollars else 0

def reserved (ledger : UsageLedger) : Int := ledger.reservations.total BudgetReservation.microdollars

theorem reservationTotal_ok {counted : BudgetReservation → Bool} {reservations : List BudgetReservation} {total : Int}
    (ok : reservationTotal counted reservations = .ok total) :
    total = (reservations.map fun reservation => if counted reservation then reservation.microdollars else 0).sum := by
  induction reservations generalizing total with
  | nil =>
    cases ok
    rfl
  | cons reservation rest ih =>
    rw [reservationTotal,bind_ok] at ok
    obtain ⟨later,summed,ok⟩ := ok
    have tail := ih summed
    rw [List.map_cons,List.sum_cons,← tail]
    cases counts : counted reservation with
    | false =>
      rw [counts] at ok
      cases ok
      simp
    | true =>
      rw [counts,if_pos rfl,bind_ok] at ok
      obtain ⟨amount,required,same⟩ := ok
      cases same
      rw [require_same required]
      simp [add_comm]

section
variable {ledger after : UsageLedger} {workflowId : String} {microdollars : Number}

/-! ### Recording a cost -/

structure Records (ledger : UsageLedger) (workflowId : String) (microdollars : Number) (amount : Int) (after : UsageLedger) : Prop where
  whole : microdollars = amount
  positive : 0 ≤ amount
  same : after = {ledger with
    dailySpentMicrodollars := ledger.dailySpentMicrodollars + amount
    workflowSpentMicrodollars := ledger.workflowSpentMicrodollars.set workflowId (workflowSpent ledger workflowId + amount)}

theorem recordUsageCost_ok (ok : recordUsageCost ledger workflowId microdollars = .ok after) :
    ∃ amount, Records ledger workflowId microdollars amount after := by
  unfold recordUsageCost at ok
  obtain ⟨amount,required,ok⟩ := bind_ok.mp ok
  obtain ⟨spent,spentRequired,ok⟩ := bind_ok.mp ok
  obtain ⟨daily,dailyRequired,ok⟩ := bind_ok.mp ok
  obtain ⟨total,totalled,ok⟩ := bind_ok.mp ok
  obtain ⟨mine,mineTotalled,same⟩ := bind_ok.mp ok
  cases same
  have first := require_ok required
  refine ⟨amount,first.1,first.2.1,?_⟩
  rw [toMicrodollars_ok totalled,toMicrodollars_ok mineTotalled,require_same spentRequired,require_same dailyRequired]

theorem workflowSpent_set (ledger : UsageLedger) (workflowId other : String) (amount : Int) (daily : Int) :
    workflowSpent {ledger with dailySpentMicrodollars := daily
                               workflowSpentMicrodollars := ledger.workflowSpentMicrodollars.set workflowId amount} other =
      if other = workflowId then amount else workflowSpent ledger other := by
  rw [workflowSpent,OrderedMap.get?_set,workflowSpent]
  split
  · rfl
  · rfl

end

/-! ### Reserving -/

section
variable {ledger : UsageLedger} {request : BudgetReservationRequest} {limits : BudgetLimits}

def part (limit : Number) (limits : BudgetLimits) : Int := ⌊limit * limits.admissionReservePercent.getD 80 / 100⌋

theorem reservedLimit_ok {limit percent : Number} {part : Int} (ok : reservedLimit limit percent = .ok part) :
    part = ⌊limit * percent / 100⌋ := by
  unfold reservedLimit at ok
  obtain ⟨whole,first,ok⟩ := bind_ok.mp ok
  obtain ⟨hundredths,second,same⟩ := bind_ok.mp ok
  cases same
  rw [(require_ok first).1,(require_ok second).1]
  have floor := Rat.floor_intCast_div_natCast (whole * hundredths) 100
  push_cast at floor
  exact floor.symm

/-- What is known of the ledger and the request when a reservation is admitted. -/
structure Admits (ledger : UsageLedger) (request : BudgetReservationRequest) (limits : BudgetLimits) (estimate : Int) : Prop where
  whole : request.estimatedMicrodollars = estimate
  positive : 0 ≤ estimate
  room : request.workflowId ∈ reservedWorkflowIds ledger ∨
    ((reservedWorkflowIds ledger).length + 1 : Number) ≤ limits.concurrency
  workflow : workflowSpent ledger request.workflowId + reservedFor ledger request.workflowId + estimate ≤
    part limits.workflowMicrodollars limits
  daily : ledger.dailySpentMicrodollars + reserved ledger + estimate ≤ part limits.dailyMicrodollars limits

theorem withinReserve_admitted {workflowNeeds dailyNeeds : Int} (ok : withinReserve limits workflowNeeds dailyNeeds = .ok .admitted) :
    workflowNeeds ≤ part limits.workflowMicrodollars limits ∧ dailyNeeds ≤ part limits.dailyMicrodollars limits := by
  unfold withinReserve at ok
  dsimp only at ok
  split at ok
  · cases ok
  · obtain ⟨workflowLimit,first,ok⟩ := bind_ok.mp ok
    split at ok
    · cases ok
    · obtain ⟨dailyLimit,second,ok⟩ := bind_ok.mp ok
      split at ok
      · cases ok
      · have mine := reservedLimit_ok first
        have all := reservedLimit_ok second
        unfold part
        rw [← mine,← all]
        omega

theorem decideBudgetAction_admitted (ok : decideBudgetAction ledger request limits = .ok .admitted) :
    ∃ estimate, Admits ledger request limits estimate := by
  unfold decideBudgetAction at ok
  obtain ⟨spent,spentRequired,ok⟩ := bind_ok.mp ok
  obtain ⟨daily,dailyRequired,ok⟩ := bind_ok.mp ok
  obtain ⟨workflowCap,_,ok⟩ := bind_ok.mp ok
  obtain ⟨dailyCap,_,ok⟩ := bind_ok.mp ok
  obtain ⟨estimate,required,ok⟩ := bind_ok.mp ok
  obtain ⟨mine,mineTotal,ok⟩ := bind_ok.mp ok
  obtain ⟨all,allTotal,ok⟩ := bind_ok.mp ok
  split at ok
  · cases ok
  split at ok
  · cases ok
  split at ok
  · cases ok
  rename_i concurrency
  split at ok
  · cases ok
  rename_i occupied
  obtain ⟨whole,positive,_⟩ := require_ok required
  have workflowReserved : mine = reservedFor ledger request.workflowId := by
    rw [reservationTotal_ok mineTotal,reservedFor,OrderedMap.total]
    simp only [decide_eq_true_eq]
  have dailyReserved : all = reserved ledger := by
    rw [reservationTotal_ok allTotal,reserved,OrderedMap.total]
    simp
  obtain ⟨workflow,dailyBound⟩ := withinReserve_admitted ok
  rw [require_same spentRequired,workflowReserved] at workflow
  rw [require_same dailyRequired,dailyReserved] at dailyBound
  refine ⟨estimate,whole,positive,?_,workflow,dailyBound⟩
  by_cases inside : request.workflowId ∈ reservedWorkflowIds ledger
  · exact .inl inside
  · right
    have fewer : ((reservedWorkflowIds ledger).length : Number) < limits.concurrency :=
      not_le.mp fun full => occupied ⟨inside,full⟩
    simp only [not_or,not_not] at concurrency
    have integral := (Rat.den_eq_one_iff limits.concurrency).mp concurrency.1.1
    rw [← integral] at fewer ⊢
    exact_mod_cast fewer

def withReservation (ledger : UsageLedger) (reservation : BudgetReservation) : UsageLedger :=
  {ledger with reservations := ledger.reservations.set reservation.id reservation}

inductive Reserves (ledger : UsageLedger) (request : BudgetReservationRequest) (limits : BudgetLimits) : BudgetReservationResult → Prop
  | held {existing : BudgetReservation} (found : ledger.reservations.get? request.reservationId = some existing)
      (workflow : existing.workflowId = request.workflowId)
      (amount : (existing.microdollars : Number) = request.estimatedMicrodollars) :
      Reserves ledger request limits ⟨.decided .admitted,false,ledger⟩
  | settled {settled : SettledReservation} (found : ledger.settledReservations.get? request.reservationId = some settled) :
      Reserves ledger request limits ⟨.replay settled.outcome,false,ledger⟩
  | declined (decision : BudgetDecision) : Reserves ledger request limits ⟨.decided decision,false,ledger⟩
  | admitted {estimate : Int} (unreserved : ledger.reservations.get? request.reservationId = none)
      (unsettled : ledger.settledReservations.get? request.reservationId = none) (admits : Admits ledger request limits estimate) :
      Reserves ledger request limits ⟨.decided .admitted,true,withReservation ledger ⟨request.reservationId,request.workflowId,estimate⟩⟩

theorem reserveBudget_ok {result : BudgetReservationResult} (ok : reserveBudget ledger request limits = .ok result) :
    Reserves ledger request limits result := by
  unfold reserveBudget at ok
  split at ok
  · cases ok
  cases found : ledger.reservations.get? request.reservationId with
  | some existing =>
    rw [found] at ok
    dsimp only at ok
    split at ok
    · cases ok
    · rename_i same
      cases ok
      simp only [not_or,not_not] at same
      exact .held found same.1 same.2
  | none =>
    rw [found] at ok
    dsimp only at ok
    cases settled : ledger.settledReservations.get? request.reservationId with
    | some settled =>
      rw [settled] at ok
      dsimp only at ok
      split at ok
      · cases ok
      · cases ok
        exact .settled ‹_›
    | none =>
      rw [settled] at ok
      dsimp only at ok
      obtain ⟨decision,decided,ok⟩ := bind_ok.mp ok
      split at ok
      · cases ok
        exact .declined decision
      · rename_i admitted
        rw [not_not] at admitted
        subst admitted
        obtain ⟨estimate,required,ok⟩ := bind_ok.mp ok
        obtain ⟨microdollars,converted,same⟩ := bind_ok.mp ok
        cases same
        obtain ⟨amount,admits⟩ := decideBudgetAction_admitted decided
        have one : (amount : Number) = (estimate : Number) := admits.whole.symm.trans (require_ok required).1
        have equal : amount = estimate := by exact_mod_cast one
        rw [equal] at admits
        rw [toMicrodollars_ok converted]
        exact .admitted found settled admits

end

/-! ### Steps -/

inductive LedgerStep (ledger : UsageLedger) : LedgerOperation → UsageLedger → Prop
  | idle (operation : LedgerOperation) : LedgerStep ledger operation ledger
  | reserved {request : BudgetReservationRequest} {limits : BudgetLimits} {estimate : Int}
      (unreserved : ledger.reservations.get? request.reservationId = none)
      (unsettled : ledger.settledReservations.get? request.reservationId = none) (admits : Admits ledger request limits estimate) :
      LedgerStep ledger (.reserve request limits) (withReservation ledger ⟨request.reservationId,request.workflowId,estimate⟩)
  | released {id : String} {reservation : BudgetReservation} (found : ledger.reservations.get? id = some reservation) :
      LedgerStep ledger (.release id) (settleReservation (withoutReservation ledger id) reservation .released none)
  | consumed {id : String} {reservation : BudgetReservation} {actual : Number} {amount : Int} {recorded : UsageLedger}
      (found : ledger.reservations.get? id = some reservation)
      (records : Records (withoutReservation ledger id) reservation.workflowId actual amount recorded) :
      LedgerStep ledger (.consume id actual) (settleReservation recorded reservation .consumed (some actual))
  | recorded {workflowId : String} {microdollars : Number} {amount : Int} {after : UsageLedger}
      (records : Records ledger workflowId microdollars amount after) : LedgerStep ledger (.record workflowId microdollars) after
  | activated {workflowId : String} {workflowIds : List String}
      (more : ∀ id ∈ workflowIds, id ∈ ledger.activeWorkflowIds ∨ id = workflowId) :
      LedgerStep ledger (.active workflowId) {ledger with activeWorkflowIds := workflowIds}
  | inactivated {workflowId : String} {workflowIds : List String} (fewer : ∀ id ∈ workflowIds, id ∈ ledger.activeWorkflowIds) :
      LedgerStep ledger (.inactive workflowId) {ledger with activeWorkflowIds := workflowIds}

section
variable {ledger after : UsageLedger}

theorem releaseBudgetReservation_step {id : String} (ok : releaseBudgetReservation ledger id = .ok after) :
    LedgerStep ledger (.release id) after := by
  unfold releaseBudgetReservation at ok
  cases found : ledger.reservations.get? id with
  | none =>
    rw [found] at ok
    dsimp only at ok
    split at ok
    · cases ok
      exact .idle _
    · split at ok
      · cases ok
        exact .idle _
      · cases ok
  | some reservation =>
    rw [found] at ok
    cases ok
    exact .released found

theorem consumeBudgetReservation_step {id : String} {actual : Number} (ok : consumeBudgetReservation ledger id actual = .ok after) :
    LedgerStep ledger (.consume id actual) after := by
  unfold consumeBudgetReservation at ok
  cases found : ledger.reservations.get? id with
  | none =>
    rw [found] at ok
    dsimp only at ok
    split at ok
    · split at ok
      · cases ok
        exact .idle _
      · cases ok
    · cases ok
  | some reservation =>
    rw [found] at ok
    obtain ⟨recorded,charged,same⟩ := bind_ok.mp ok
    cases same
    obtain ⟨amount,records⟩ := recordUsageCost_ok charged
    exact .consumed found records

theorem markWorkflowActive_step (ledger : UsageLedger) (workflowId : String) :
    LedgerStep ledger (.active workflowId) (markWorkflowActive ledger workflowId) := by
  unfold markWorkflowActive
  split
  · exact .idle _
  · refine .activated fun id inside => ?_
    rw [List.mem_insertionSort,List.mem_append,List.mem_singleton] at inside
    exact inside

theorem markWorkflowInactive_step (ledger : UsageLedger) (workflowId : String) :
    LedgerStep ledger (.inactive workflowId) (markWorkflowInactive ledger workflowId) := by
  unfold markWorkflowInactive
  split
  · exact .idle _
  · exact .inactivated fun id inside => (List.mem_filter.mp inside).1

theorem operate_step {operation : LedgerOperation} (ok : operate ledger operation = .ok after) : LedgerStep ledger operation after := by
  cases operation with
  | reserve request limits =>
    cases reserved : reserveBudget ledger request limits with
    | error fault =>
      rw [operate,reserved] at ok
      cases ok
    | ok result =>
      rw [operate,reserved] at ok
      cases ok
      cases reserveBudget_ok reserved with
      | held _ _ _ => exact .idle _
      | settled _ => exact .idle _
      | declined _ => exact .idle _
      | admitted unreserved unsettled admits => exact .reserved unreserved unsettled admits
  | consume id actual => exact consumeBudgetReservation_step ok
  | release id => exact releaseBudgetReservation_step ok
  | record workflowId microdollars =>
    obtain ⟨amount,records⟩ := recordUsageCost_ok ok
    exact .recorded records
  | active workflowId =>
    cases ok
    exact markWorkflowActive_step ledger workflowId
  | inactive workflowId =>
    cases ok
    exact markWorkflowInactive_step ledger workflowId

end

end AgentOS.Budget
