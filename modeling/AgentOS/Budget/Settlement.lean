import AgentOS.Budget.LedgerRules

/-! Reservations are settled once. Over any operations a reservation is executed once at most, it is
either open or settled, and what took effect can be repeated. -/
namespace AgentOS.Budget
open Library Workflow
open OrderedMap (get?_set get?_erase get?_set_some)

structure Kept (ledger : UsageLedger) : Prop where
  named : ∀ id reservation, ledger.reservations.get? id = some reservation → reservation.id = id
  apart : ∀ id, (ledger.reservations.get? id).isSome → ledger.settledReservations.get? id = none
  once : ledger.settledReservationIds.Nodup
  listed : ∀ id, id ∈ ledger.settledReservationIds ↔ (ledger.settledReservations.get? id).isSome
  summed : ledger.dailySpentMicrodollars = ledger.workflowSpentMicrodollars.total fun spent => spent

def Known (id : String) (ledger : UsageLedger) : Prop :=
  (ledger.reservations.get? id).isSome ∨ (ledger.settledReservations.get? id).isSome

inductive Booked (request : BudgetReservationRequest) (ledger : UsageLedger) : Prop
  | reserved {reservation : BudgetReservation} (found : ledger.reservations.get? request.reservationId = some reservation)
      (workflow : reservation.workflowId = request.workflowId)
      (amount : (reservation.microdollars : Number) = request.estimatedMicrodollars)
  | settled {settled : SettledReservation} (found : ledger.settledReservations.get? request.reservationId = some settled)
      (fingerprint : settled.requestFingerprint = ⟨request.workflowId,request.estimatedMicrodollars⟩)

def IsSettled (id : String) (outcome : Outcome) (actual : Option Number) (ledger : UsageLedger) : Prop :=
  ∃ settled, ledger.settledReservations.get? id = some settled ∧ settled.outcome = outcome ∧ settled.actualMicrodollars = actual

section
variable {ledger after recorded : UsageLedger} {operation : LedgerOperation} {reservation : BudgetReservation} {id workflowId : String}
  {outcome : Outcome} {actual : Option Number} {microdollars : Number} {amount : Int}

/-! ### Keeping a ledger in order -/

theorem Kept.created {day : String} (created : createUsageLedger day = .ok ledger) : Kept ledger := by
  unfold createUsageLedger at created
  split at created
  · cases created
    exact ⟨by simp,by simp,List.nodup_nil,by simp,rfl⟩
  · cases created

theorem Kept.reserve (kept : Kept ledger) (unsettled : ledger.settledReservations.get? reservation.id = none) :
    Kept (withReservation ledger reservation) where
  named other found held := by
    rcases get?_set_some held with ⟨rfl,rfl⟩ | ⟨_,before⟩
    · rfl
    · exact kept.named other found before
  apart other held := by
    obtain ⟨found,held⟩ := Option.isSome_iff_exists.mp held
    rcases get?_set_some held with ⟨rfl,_⟩ | ⟨_,before⟩
    · exact unsettled
    · exact kept.apart other (by rw [before]; rfl)
  once := kept.once
  listed := kept.listed
  summed := kept.summed

theorem Kept.withdraw (kept : Kept ledger) : Kept (withoutReservation ledger id) where
  named other found held := by
    unfold withoutReservation at held
    rw [get?_erase] at held
    split at held
    · cases held
    · exact kept.named other found held
  apart other held := by
    unfold withoutReservation at held
    rw [get?_erase] at held
    split at held
    · cases held
    · exact kept.apart other held
  once := kept.once
  listed := kept.listed
  summed := kept.summed

theorem Kept.record (kept : Kept ledger) (records : Records ledger workflowId microdollars amount after) : Kept after := by
  obtain ⟨_,_,rfl⟩ := records
  refine ⟨kept.named,kept.apart,kept.once,kept.listed,?_⟩
  have spent : ((ledger.workflowSpentMicrodollars.get? workflowId).map fun spent => spent).getD 0 = workflowSpent ledger workflowId := by
    rw [Option.map_id']
    rfl
  show ledger.dailySpentMicrodollars + amount = _
  rw [OrderedMap.total_set,spent,kept.summed]
  omega

theorem Kept.settle (kept : Kept ledger) (unreserved : ledger.reservations.get? reservation.id = none)
    (unsettled : ledger.settledReservations.get? reservation.id = none) : Kept (settleReservation ledger reservation outcome actual) where
  named := kept.named
  apart other held := by
    have different : other ≠ reservation.id := by
      rintro rfl
      rw [show (settleReservation ledger reservation outcome actual).reservations = ledger.reservations from rfl,unreserved] at held
      cases held
    unfold settleReservation
    rw [get?_set,if_neg different]
    exact kept.apart other held
  once := by
    have fresh : reservation.id ∉ ledger.settledReservationIds := by
      rw [kept.listed,unsettled]
      simp
    exact kept.once.append (List.nodup_singleton _) (by simpa using fresh)
  listed other := by
    unfold settleReservation
    rw [get?_set,List.mem_append,List.mem_singleton,kept.listed]
    split
    · simp [*]
    · simp [*]
  summed := kept.summed

theorem Kept.step (kept : Kept ledger) (step : LedgerStep ledger operation after) : Kept after := by
  cases step with
  | idle => exact kept
  | reserved unreserved unsettled admits => exact kept.reserve unsettled
  | @released id reservation found =>
    have same := kept.named id reservation found
    have unsettled := kept.apart id (by rw [found]; rfl)
    refine kept.withdraw.settle ?_ (by rw [same]; exact unsettled)
    unfold withoutReservation
    rw [get?_erase,if_pos same]
  | @consumed id reservation actual amount recorded found records =>
    have same := kept.named id reservation found
    have unsettled := kept.apart id (by rw [found]; rfl)
    have charged := kept.withdraw.record records
    obtain ⟨_,_,rfl⟩ := records
    refine charged.settle ?_ (by rw [same]; exact unsettled)
    show (ledger.reservations.erase id).get? reservation.id = none
    rw [get?_erase,if_pos same]
  | recorded records => exact kept.record records
  | activated more => exact ⟨kept.named,kept.apart,kept.once,kept.listed,kept.summed⟩
  | inactivated fewer => exact ⟨kept.named,kept.apart,kept.once,kept.listed,kept.summed⟩

/-! ### What stays -/

theorem settled_stays (kept : Kept ledger) (step : LedgerStep ledger operation after) {settled : SettledReservation}
    (found : ledger.settledReservations.get? id = some settled) : after.settledReservations.get? id = some settled := by
  have other {reservation : BudgetReservation} {open_ : String} (held : ledger.reservations.get? open_ = some reservation) :
      id ≠ reservation.id := by
    rw [kept.named open_ reservation held]
    rintro rfl
    rw [kept.apart id (by rw [held]; rfl)] at found
    cases found
  cases step with
  | idle => exact found
  | reserved unreserved unsettled admits => exact found
  | released held =>
    unfold settleReservation
    rw [get?_set,if_neg (other held)]
    exact found
  | consumed held records =>
    obtain ⟨_,_,rfl⟩ := records
    unfold settleReservation
    rw [get?_set,if_neg (other held)]
    exact found
  | recorded records =>
    obtain ⟨_,_,rfl⟩ := records
    exact found
  | activated more => exact found
  | inactivated fewer => exact found

theorem reserved_stays (kept : Kept ledger) (step : LedgerStep ledger operation after)
    (found : ledger.reservations.get? id = some reservation) : after.reservations.get? id = some reservation ∨
      ∃ settled, after.settledReservations.get? id = some settled ∧
        settled.requestFingerprint = ⟨reservation.workflowId,reservation.microdollars⟩ := by
  have settles {open_ : String} {mine : BudgetReservation} {between : UsageLedger} {outcome : Outcome} {actual : Option Number}
      (held : ledger.reservations.get? open_ = some mine) (same : between.reservations = ledger.reservations.erase open_) :
      (settleReservation between mine outcome actual).reservations.get? id = some reservation ∨
        ∃ settled, (settleReservation between mine outcome actual).settledReservations.get? id = some settled ∧
          settled.requestFingerprint = ⟨reservation.workflowId,reservation.microdollars⟩ := by
    unfold settleReservation
    rw [same,get?_erase,get?_set,kept.named open_ mine held]
    by_cases equal : id = open_
    · subst equal
      rw [found] at held
      cases held
      exact .inr ⟨_,if_pos rfl,rfl⟩
    · rw [if_neg equal]
      exact .inl found
  cases step with
  | idle => exact .inl found
  | @reserved request limits estimate unreserved unsettled admits =>
    left
    unfold withReservation
    rw [get?_set,if_neg]
    · exact found
    · rintro rfl
      rw [unreserved] at found
      cases found
  | released held => exact settles held rfl
  | consumed held records =>
    obtain ⟨_,_,rfl⟩ := records
    exact settles held rfl
  | recorded records =>
    obtain ⟨_,_,rfl⟩ := records
    exact .inl found
  | activated more => exact .inl found
  | inactivated fewer => exact .inl found

theorem known_stays (kept : Kept ledger) (step : LedgerStep ledger operation after) (known : Known id ledger) : Known id after := by
  rcases known with held | held
  · obtain ⟨reservation,found⟩ := Option.isSome_iff_exists.mp held
    rcases reserved_stays kept step found with still | ⟨settled,now,_⟩
    · exact .inl (by rw [still]; rfl)
    · exact .inr (by rw [now]; rfl)
  · obtain ⟨settled,found⟩ := Option.isSome_iff_exists.mp held
    exact .inr (by rw [settled_stays kept step found]; rfl)

variable {request : BudgetReservationRequest}

section
variable (kept : Kept ledger) (step : LedgerStep ledger operation after)
include kept step

theorem booked_stays (booked : Booked request ledger) : Booked request after := by
  cases booked with
  | reserved found workflow amount =>
    rcases reserved_stays kept step found with still | ⟨settled,now,fingerprint⟩
    · exact .reserved still workflow amount
    · refine .settled now ?_
      rw [fingerprint,workflow,amount]
  | settled found fingerprint => exact .settled (settled_stays kept step found) fingerprint

theorem isSettled_stays (settled : IsSettled id outcome actual ledger) : IsSettled id outcome actual after := by
  obtain ⟨settlement,found,rest⟩ := settled
  exact ⟨settlement,settled_stays kept step found,rest⟩

end

theorem stays {holds : UsageLedger → Prop} (kept : Kept ledger) (start : holds ledger)
    (steps : ∀ {ledger after operation}, Kept ledger → LedgerStep ledger operation after → holds ledger → holds after)
    (operations : List LedgerOperation) : Kept (operateAll ledger operations) ∧ holds (operateAll ledger operations) := by
  refine attempts_kept (fun ledger => Kept ledger ∧ holds ledger) ?_ ⟨kept,start⟩
  rintro now operation after ⟨kept,held⟩ ok
  have step := operate_step ok
  exact ⟨kept.step step,steps kept step held⟩

/-! ### Executing once -/

def executes (ledger : UsageLedger) : LedgerOperation → Bool
  | .reserve request limits => match reserveBudget ledger request limits with
    | .ok result => result.shouldExecute
    | .error _ => false
  | _ => false

theorem executes_reserve {limits : BudgetLimits}
    (told : executes ledger (.reserve request limits) = true) : ¬ Known request.reservationId ledger ∧
      ∃ after, operate ledger (.reserve request limits) = .ok after ∧ Known request.reservationId after := by
  unfold executes at told
  cases answered : reserveBudget ledger request limits with
  | error fault =>
    simp [answered] at told
  | ok result =>
    simp only [answered] at told
    cases reserveBudget_ok answered with
    | held _ _ _ => cases told
    | settled _ => cases told
    | declined _ => cases told
    | @admitted estimate unreserved unsettled admits =>
      refine ⟨?_,_,by rw [operate,answered]; rfl,.inl ?_⟩
      · rintro (held | held)
        · rw [unreserved] at held
          cases held
        · rw [unsettled] at held
          cases held
      · unfold withReservation
        rw [get?_set,if_pos rfl]
        rfl

/-! ### Repeating -/

def LedgerOperation.reserves : LedgerOperation → Bool
  | .reserve _ _ => true
  | .consume _ _ => true
  | .release _ => true
  | _ => false

def TookEffect : LedgerOperation → UsageLedger → Prop
  | .reserve request _, ledger => trim request.reservationId ≠ "" ∧ Booked request ledger
  | .consume id actual, ledger => IsSettled id .consumed (some actual) ledger
  | .release id, ledger => IsSettled id .released none ledger
  | _, _ => True

theorem tookEffect_stays {done : LedgerOperation} (kept : Kept ledger) (step : LedgerStep ledger operation after)
    (took : TookEffect done ledger) : TookEffect done after := by
  cases done with
  | reserve request limits => exact ⟨took.1,booked_stays kept step took.2⟩
  | consume id actual => exact isSettled_stays kept step took
  | release id => exact isSettled_stays kept step took
  | record _ _ => trivial
  | active _ => trivial
  | inactive _ => trivial

theorem operate_tookEffect (kept : Kept ledger) (ok : operate ledger operation = .ok after) (changed : after ≠ ledger) :
    TookEffect operation after := by
  have settles {open_ : String} {mine : BudgetReservation} {between : UsageLedger} {outcome : Outcome} {actual : Option Number}
      (held : ledger.reservations.get? open_ = some mine) :
      IsSettled open_ outcome actual (settleReservation between mine outcome actual) := by
    refine ⟨⟨mine.id,⟨mine.workflowId,mine.microdollars⟩,outcome,actual⟩,?_,rfl,rfl⟩
    unfold settleReservation
    rw [get?_set,if_pos (kept.named open_ mine held).symm]
  have step := operate_step ok
  cases step with
  | idle => exact absurd rfl changed
  | @reserved request limits estimate unreserved unsettled admits =>
    refine ⟨fun blank => ?_,.reserved (by unfold withReservation; rw [get?_set,if_pos rfl]) rfl admits.whole.symm⟩
    rw [operate,reserveBudget,if_pos blank] at ok
    cases ok
  | released held => exact settles held
  | consumed held records => exact settles held
  | recorded records => trivial
  | activated more => trivial
  | inactivated fewer => trivial

theorem operate_again (kept : Kept ledger) (reserves : operation.reserves = true) (took : TookEffect operation ledger) :
    operate ledger operation = .ok ledger := by
  have unreserved {id : String} {outcome : Outcome} {actual : Option Number} (settled : IsSettled id outcome actual ledger) :
      ledger.reservations.get? id = none := by
    obtain ⟨settlement,found,_⟩ := settled
    cases held : ledger.reservations.get? id with
    | none => rfl
    | some reservation =>
      rw [kept.apart id (by rw [held]; rfl)] at found
      cases found
  cases operation with
  | reserve request limits =>
    obtain ⟨named,booked⟩ := took
    unfold operate reserveBudget
    dsimp only
    rw [if_neg named]
    cases booked with
    | reserved found workflow amount =>
      rw [found]
      dsimp only
      rw [if_neg (by simp [workflow,amount])]
      rfl
    | settled found fingerprint =>
      have free : ledger.reservations.get? request.reservationId = none := unreserved ⟨_,found,rfl,rfl⟩
      rw [free,found]
      dsimp only
      rw [if_neg (by simp [fingerprint])]
      rfl
  | consume id actual =>
    have free := unreserved took
    obtain ⟨settled,found,outcome,spent⟩ := took
    show consumeBudgetReservation ledger id actual = .ok ledger
    unfold consumeBudgetReservation
    rw [free,found]
    dsimp only
    rw [if_pos ⟨outcome,spent⟩]
  | release id =>
    have free := unreserved took
    obtain ⟨settled,found,outcome,_⟩ := took
    show releaseBudgetReservation ledger id = .ok ledger
    unfold releaseBudgetReservation
    rw [free,found]
    dsimp only
    rw [if_pos outcome]
  | record _ _ => cases reserves
  | active _ => cases reserves
  | inactive _ => cases reserves

end

/-- Over any operations: no reservation is executed twice, open reservations and settled ones are apart, every
settlement is listed once, the day's spending is the workflows', and what took effect can be repeated. -/
theorem ledger_settles_once {day : String} {ledger : UsageLedger} (created : createUsageLedger day = .ok ledger)
    (operations : List LedgerOperation) : (∀ early request limits middle request' limits' late,
      operations = early ++ .reserve request limits::(middle ++ .reserve request' limits'::late) →
      request.reservationId = request'.reservationId → executes (operateAll ledger early) (.reserve request limits) = true →
      executes (operateAll ledger (early ++ .reserve request limits::middle)) (.reserve request' limits') = false) ∧
    (∀ id, ((operateAll ledger operations).reservations.get? id).isSome →
      (operateAll ledger operations).settledReservations.get? id = none) ∧
    ((operateAll ledger operations).settledReservationIds.Nodup ∧ ∀ id, id ∈ (operateAll ledger operations).settledReservationIds ↔
        ((operateAll ledger operations).settledReservations.get? id).isSome) ∧ ((operateAll ledger operations).dailySpentMicrodollars =
      (operateAll ledger operations).workflowSpentMicrodollars.total fun spent => spent) ∧
    ∀ early operation late after, operations = early ++ operation::late → operation.reserves = true →
      operate (operateAll ledger early) operation = .ok after → after ≠ operateAll ledger early →
      operate (operateAll ledger operations) operation = .ok (operateAll ledger operations) := by
  have start := Kept.created created
  have always (operations : List LedgerOperation) : Kept (operateAll ledger operations) :=
    (stays start trivial (fun _ _ _ => trivial) operations).1
  refine ⟨?_,(always operations).apart,⟨(always operations).once,(always operations).listed⟩,(always operations).summed,?_⟩
  · intro early request limits middle request' limits' late _ same told
    obtain ⟨_,after,ok,known⟩ := executes_reserve told
    have later : operateAll ledger (early ++ .reserve request limits::middle) = operateAll after middle := by
      unfold operateAll
      rw [attempts_append]
      show attempts operate (attempt operate (operateAll ledger early) _) middle = _
      rw [attempt_ok ok]
    have kept : Kept after := (always early).step (operate_step ok)
    have still := (stays kept known (fun kept step known => known_stays kept step known) middle).2
    rw [later,← Bool.not_eq_true]
    intro again
    exact (executes_reserve again).1 (same ▸ still)
  · intro early operation late after split reserves ok changed
    have later : operateAll ledger operations = operateAll after late := by
      unfold operateAll
      rw [split,attempts_append]
      show attempts operate (attempt operate (operateAll ledger early) _) late = _
      rw [attempt_ok ok]
    have kept : Kept after := (always early).step (operate_step ok)
    have took := operate_tookEffect (always early) ok changed
    have still := (stays kept took (fun kept step took => tookEffect_stays kept step took) late).2
    rw [later]
    exact operate_again (later ▸ always operations) reserves still

/-! ### A day -/

def newLedger : UsageLedger :=
  {day := "2026-01-02",dailySpentMicrodollars := 0,workflowSpentMicrodollars := .empty,activeWorkflowIds := [],reservations := .empty
   settledReservations := .empty,settledReservationIds := []}

def wideLimits : BudgetLimits := {workflowMicrodollars := 1000,dailyMicrodollars := 2000,concurrency := 2}

def oneSettlement : List LedgerOperation := [.reserve ⟨"reservation-1","workflow-1",100⟩ wideLimits,.consume "reservation-1" 60]

theorem oneSettlement_settles_once : (operateAll newLedger oneSettlement).settledReservationIds.Nodup ∧
    (operateAll newLedger oneSettlement).dailySpentMicrodollars =
      (operateAll newLedger oneSettlement).workflowSpentMicrodollars.total fun spent => spent := by
  have settles := ledger_settles_once (show createUsageLedger "2026-01-02" = .ok newLedger by decide +kernel) oneSettlement
  exact ⟨settles.2.2.1.1,settles.2.2.2.1⟩

example : (operateAll newLedger oneSettlement).dailySpentMicrodollars = 60 := by decide +kernel

end AgentOS.Budget
