import AgentOS.Budget.Settlement

/-! A ledger stays within its limits. What is spent and what is reserved are never more than the part
of a limit that admission may give out. -/
namespace AgentOS.Budget
open Library

structure BudgetLimits.Sensible (limits : BudgetLimits) : Prop where
  workflow : 0 ≤ limits.workflowMicrodollars
  daily : 0 ≤ limits.dailyMicrodollars
  percent : 0 ≤ limits.admissionReservePercent.getD 80 ∧ limits.admissionReservePercent.getD 80 ≤ 100
  concurrency : 0 ≤ limits.concurrency

structure Within (limits : BudgetLimits) (ledger : UsageLedger) : Prop where
  daily : ledger.dailySpentMicrodollars + reserved ledger ≤ part limits.dailyMicrodollars limits
  workflow : ∀ workflowId, workflowSpent ledger workflowId + reservedFor ledger workflowId ≤ part limits.workflowMicrodollars limits
  occupied : ((reservedWorkflowIds ledger).length : Number) ≤ limits.concurrency
  positive : ∀ id reservation, ledger.reservations.get? id = some reservation → 0 ≤ reservation.microdollars

def Allowed (limits : BudgetLimits) (ledger : UsageLedger) : LedgerOperation → Prop
  | .reserve _ theirs => theirs = limits
  | .consume id actual => ∀ reservation, ledger.reservations.get? id = some reservation → actual ≤ reservation.microdollars
  | .release _ => True
  | .record _ _ => False
  | .active workflowId => ∃ id reservation, ledger.reservations.get? id = some reservation ∧ reservation.workflowId = workflowId
  | .inactive _ => True

section
variable {ledger after : UsageLedger} {limits : BudgetLimits} {operation : LedgerOperation} {id workflowId : String}
  {reservation : BudgetReservation} {amount : Int}

theorem part_nonneg {limit : Number} (sensible : limits.Sensible) (positive : 0 ≤ limit) : 0 ≤ part limit limits := by
  have percent := sensible.percent.1
  exact Int.floor_nonneg.mpr (by positivity)

theorem mem_reservedWorkflowIds : workflowId ∈ reservedWorkflowIds ledger ↔ workflowId ∈ ledger.activeWorkflowIds ∨
    ∃ id reservation, ledger.reservations.get? id = some reservation ∧ reservation.workflowId = workflowId := by
  rw [reservedWorkflowIds,List.mem_dedup,List.mem_append,List.mem_map]
  simp only [OrderedMap.mem_values]
  constructor
  · rintro (inside | ⟨reservation,⟨id,found⟩,same⟩)
    · exact .inl inside
    · exact .inr ⟨id,reservation,found,same⟩
  · rintro (inside | ⟨id,reservation,found,same⟩)
    · exact .inl inside
    · exact .inr ⟨reservation,⟨id,found⟩,same⟩

theorem occupied_le (ids : List String) (fewer : ∀ workflowId ∈ reservedWorkflowIds after, workflowId ∈ ids) :
    (reservedWorkflowIds after).length ≤ ids.length :=
  (List.subperm_of_subset (List.nodup_dedup _) fewer).length_le

theorem Within.of_less (within : Within limits ledger)
    (daily : after.dailySpentMicrodollars + reserved after ≤ ledger.dailySpentMicrodollars + reserved ledger)
    (workflow : ∀ workflowId, workflowSpent after workflowId + reservedFor after workflowId ≤
      workflowSpent ledger workflowId + reservedFor ledger workflowId)
    (fewer : ∀ workflowId ∈ reservedWorkflowIds after, workflowId ∈ reservedWorkflowIds ledger)
    (kept : ∀ id reservation, after.reservations.get? id = some reservation → ledger.reservations.get? id = some reservation) :
    Within limits after where
  daily := daily.trans within.daily
  workflow workflowId := (workflow workflowId).trans (within.workflow workflowId)
  occupied := by
    have less := occupied_le _ fewer
    exact (by exact_mod_cast less : ((reservedWorkflowIds after).length : Number) ≤ (reservedWorkflowIds ledger).length).trans within.occupied
  positive id reservation found := within.positive id reservation (kept id reservation found)

section
variable (fresh : ledger.reservations.get? reservation.id = none)
include fresh

theorem reserved_withReservation : reserved (withReservation ledger reservation) = reserved ledger + reservation.microdollars :=
  OrderedMap.total_set_new _ _ _ _ fresh

theorem reservedFor_withReservation (workflowId : String) :
    reservedFor (withReservation ledger reservation) workflowId = reservedFor ledger workflowId +
      if reservation.workflowId = workflowId then reservation.microdollars else 0 :=
  OrderedMap.total_set_new _ _ _ _ fresh

end

theorem Within.reserve (within : Within limits ledger) {request : BudgetReservationRequest}
    (unreserved : ledger.reservations.get? request.reservationId = none) (admits : Admits ledger request limits amount) :
    Within limits (withReservation ledger ⟨request.reservationId,request.workflowId,amount⟩) where
  daily := by
    rw [reserved_withReservation unreserved,← add_assoc]
    exact admits.daily
  workflow workflowId := by
    have spent : workflowSpent (withReservation ledger ⟨request.reservationId,request.workflowId,amount⟩) workflowId =
        workflowSpent ledger workflowId := rfl
    rw [reservedFor_withReservation unreserved,spent]
    split
    · rename_i same
      subst same
      rw [← add_assoc]
      exact admits.workflow
    · rw [add_zero]
      exact within.workflow workflowId
  occupied := by
    have more : ∀ workflowId ∈ reservedWorkflowIds (withReservation ledger ⟨request.reservationId,request.workflowId,amount⟩),
        workflowId = request.workflowId ∨ workflowId ∈ reservedWorkflowIds ledger := by
      intro workflowId inside
      rcases mem_reservedWorkflowIds.mp inside with active | ⟨id,reservation,found,same⟩
      · exact .inr (mem_reservedWorkflowIds.mpr (.inl active))
      · rcases OrderedMap.get?_set_some found with ⟨_,rfl⟩ | ⟨_,before⟩
        · exact .inl same.symm
        · exact .inr (mem_reservedWorkflowIds.mpr (.inr ⟨id,reservation,before,same⟩))
    rcases admits.room with inside | room
    · have less := occupied_le _ fun workflowId member => (more workflowId member).elim (fun same => same ▸ inside) fun before => before
      exact (by exact_mod_cast less : (_ : Number) ≤ _).trans within.occupied
    · have less := occupied_le (request.workflowId::reservedWorkflowIds ledger)
        fun workflowId member => List.mem_cons.mpr (more workflowId member)
      exact (by exact_mod_cast less : (_ : Number) ≤ _).trans room
  positive id reservation found := by
    rcases OrderedMap.get?_set_some found with ⟨_,rfl⟩ | ⟨_,before⟩
    · exact admits.positive
    · exact within.positive id reservation before

theorem Within.settle (within : Within limits ledger) (found : ledger.reservations.get? id = some reservation)
    (open_ : after.reservations = ledger.reservations.erase id) (active : after.activeWorkflowIds = ledger.activeWorkflowIds)
    (daily : after.dailySpentMicrodollars ≤ ledger.dailySpentMicrodollars + reservation.microdollars)
    (spent : ∀ workflowId, workflowSpent after workflowId ≤ workflowSpent ledger workflowId +
      if reservation.workflowId = workflowId then reservation.microdollars else 0) : Within limits after := by
  have still : ∀ other held, after.reservations.get? other = some held → ledger.reservations.get? other = some held := by
    intro other held inside
    rw [open_,OrderedMap.get?_erase] at inside
    split at inside
    · cases inside
    · exact inside
  refine within.of_less ?_ ?_ ?_ still
  · have total := ledger.reservations.total_erase id reservation BudgetReservation.microdollars found
    have less : reserved after = (ledger.reservations.erase id).total BudgetReservation.microdollars := by rw [reserved,open_]
    have before : reserved ledger = ledger.reservations.total BudgetReservation.microdollars := rfl
    omega
  · intro workflowId
    have total := ledger.reservations.total_erase id reservation
      (fun reservation => if reservation.workflowId = workflowId then reservation.microdollars else 0) found
    have less : reservedFor after workflowId = (ledger.reservations.erase id).total fun reservation =>
        if reservation.workflowId = workflowId then reservation.microdollars else 0 := by rw [reservedFor,open_]
    have before : reservedFor ledger workflowId = ledger.reservations.total fun reservation =>
        if reservation.workflowId = workflowId then reservation.microdollars else 0 := rfl
    have mine := spent workflowId
    omega
  · intro workflowId inside
    rcases mem_reservedWorkflowIds.mp inside with busy | ⟨other,held,inside,same⟩
    · rw [active] at busy
      exact mem_reservedWorkflowIds.mpr (.inl busy)
    · exact mem_reservedWorkflowIds.mpr (.inr ⟨other,held,still other held inside,same⟩)

theorem Within.step (within : Within limits ledger) (allowed : Allowed limits ledger operation)
    (step : LedgerStep ledger operation after) : Within limits after := by
  cases step with
  | idle => exact within
  | reserved unreserved unsettled admits =>
    rw [show _ = limits from allowed] at admits
    exact within.reserve unreserved admits
  | @released id reservation found =>
    have positive := within.positive id reservation found
    refine within.settle found rfl rfl (by show _ ≤ _; exact le_add_of_nonneg_right positive) fun workflowId => ?_
    show workflowSpent ledger workflowId ≤ _
    split <;> omega
  | @consumed id reservation actual amount recorded found records =>
    have bound := allowed reservation found
    obtain ⟨whole,positive,rfl⟩ := records
    rw [whole] at bound
    have less : amount ≤ reservation.microdollars := by exact_mod_cast bound
    refine within.settle found rfl rfl ?_ fun workflowId => ?_
    · show ledger.dailySpentMicrodollars + amount ≤ _
      omega
    · have spent := workflowSpent_set (withoutReservation ledger id) reservation.workflowId workflowId
        (workflowSpent ledger reservation.workflowId + amount) (ledger.dailySpentMicrodollars + amount)
      refine (le_of_eq spent).trans ?_
      by_cases same : workflowId = reservation.workflowId
      · subst same
        rw [if_pos rfl,if_pos rfl]
        omega
      · rw [if_neg same,if_neg (Ne.symm same),add_zero]
        exact le_refl _
  | recorded records => exact allowed.elim
  | @activated workflowId workflowIds more =>
    obtain ⟨id,reservation,found,same⟩ := allowed
    refine within.of_less (le_refl _) (fun _ => le_refl _) (fun other inside => ?_) fun _ _ found => found
    rcases mem_reservedWorkflowIds.mp inside with busy | held
    · rcases more other busy with before | rfl
      · exact mem_reservedWorkflowIds.mpr (.inl before)
      · exact mem_reservedWorkflowIds.mpr (.inr ⟨id,reservation,found,same⟩)
    · exact mem_reservedWorkflowIds.mpr (.inr held)
  | inactivated fewer =>
    refine within.of_less (le_refl _) (fun _ => le_refl _) (fun other inside => ?_) fun _ _ found => found
    rcases mem_reservedWorkflowIds.mp inside with busy | held
    · exact mem_reservedWorkflowIds.mpr (.inl (fewer other busy))
    · exact mem_reservedWorkflowIds.mpr (.inr held)

theorem Within.created {day : String} (sensible : limits.Sensible) (created : createUsageLedger day = .ok ledger) :
    Within limits ledger := by
  unfold createUsageLedger at created
  split at created
  · cases created
    refine ⟨part_nonneg sensible sensible.daily,fun _ => part_nonneg sensible sensible.workflow,?_,by simp⟩
    exact sensible.concurrency
  · cases created

end

/-- Over any operations of callers that keep to what they reserved, what is spent and reserved of a day, and of a
workflow, is within the part of its limit that may be given out, and no more workflows are occupied than may be. -/
theorem ledger_within_limits {day : String} {ledger : UsageLedger} {limits : BudgetLimits} {operations : List LedgerOperation}
    (created : createUsageLedger day = .ok ledger) (sensible : limits.Sensible)
    (allowed : ∀ early operation late, operations = early ++ operation::late → Allowed limits (operateAll ledger early) operation) :
    (operateAll ledger operations).dailySpentMicrodollars + reserved (operateAll ledger operations) ≤
      ⌊limits.dailyMicrodollars * limits.admissionReservePercent.getD 80 / 100⌋ ∧
    (∀ workflowId, workflowSpent (operateAll ledger operations) workflowId + reservedFor (operateAll ledger operations) workflowId ≤
      ⌊limits.workflowMicrodollars * limits.admissionReservePercent.getD 80 / 100⌋) ∧
    ((reservedWorkflowIds (operateAll ledger operations)).length : Number) ≤ limits.concurrency := by
  have within : Within limits (operateAll ledger operations) := by
    refine attempts_preserved (Allowed limits) (Within limits) ?_ (Within.created sensible created) allowed
    exact fun _ _ _ within allowed ok => within.step allowed (operate_step ok)
  exact ⟨within.daily,within.workflow,within.occupied⟩

/-! ### A day -/

theorem wideLimits_sensible : wideLimits.Sensible := by
  constructor <;> norm_num [wideLimits]

theorem oneSettlement_within_limits : (operateAll newLedger oneSettlement).dailySpentMicrodollars +
    reserved (operateAll newLedger oneSettlement) ≤ ⌊wideLimits.dailyMicrodollars * wideLimits.admissionReservePercent.getD 80 / 100⌋ := by
  have created : createUsageLedger "2026-01-02" = .ok newLedger := by decide +kernel
  refine (ledger_within_limits created wideLimits_sensible ?_).1
  intro early operation late split
  match early with
  | [] =>
    obtain ⟨rfl,_⟩ := List.cons.inj split
    rfl
  | [first] =>
    obtain ⟨rfl,rest⟩ := List.cons.inj split
    obtain ⟨rfl,_⟩ := List.cons.inj rest
    have held : (operateAll newLedger [.reserve ⟨"reservation-1","workflow-1",100⟩ wideLimits]).reservations.get? "reservation-1" =
        some ⟨"reservation-1","workflow-1",100⟩ := by decide +kernel
    intro reservation found
    rw [held] at found
    cases found
    norm_num
  | _::_::early =>
    obtain ⟨_,rest⟩ := List.cons.inj split
    obtain ⟨_,rest⟩ := List.cons.inj rest
    cases early <;> cases rest

end AgentOS.Budget
