import AgentOS.Checkpoint.Effects
import AgentOS.Library.Totals

/-! Runs of the session operations on the checkpoint store, kept beside the
money that settlements have spent. A run, a project and the deployment are the
accounts that an admission is checked against. -/
namespace AgentOS.Checkpoint
open Library
open OrderedMap (get?_set get?_erase)

structure Limits where
  workflow : Int
  daily : Int
  deployment : Option Int
  admissionNumerator : Int
  admissionDenominator : Int

inductive Account where
  | run (runId : String)
  | project (projectId : String)
  | deployment

def Account.covers (account : Account) (runId projectId : String) : Bool :=
  match account with
  | .run id => runId = id
  | .project id => projectId = id
  | .deployment => true

namespace Limits

def limit (limits : Limits) : Account → Option Int
  | .run _ => some limits.workflow
  | .project _ => some limits.daily
  | .deployment => limits.deployment.filter fun limit => 0 < limit

def Within (limits : Limits) (amount limit : Int) : Prop :=
  amount < (limit * limits.admissionNumerator).fdiv limits.admissionDenominator ∧ amount ≤ limit

end Limits

structure Charge where
  runId : String
  projectId : String
  microdollars : Int

structure Ledger where
  store : Store := {}
  charges : List Charge := []

inductive SessionCall where
  | admitSession (request : SessionAdmission)
  | settleSession (request : SessionSettlement)
  | releaseSession (projectId runId stepKey : String)
  | releaseRunForResume (runId : String)

namespace Ledger

def spent (ledger : Ledger) (account : Account) : Int :=
  ((ledger.charges.filter fun charge => account.covers charge.runId charge.projectId).map Charge.microdollars).sum

def committed (ledger : Ledger) (account : Account) : Int :=
  ledger.spent account + ledger.store.reserved fun held => account.covers held.runId held.projectId

def charge (ledger : Ledger) (request : SessionSettlement) : List Charge :=
  match ledger.store.reservations.get? request.reservationKey with
  | none => ledger.charges
  | some reservation =>
    ⟨reservation.runId,reservation.projectId,request.actualMicrodollars⟩::ledger.charges

def step (ledger : Ledger) : SessionCall → Ledger
  | .admitSession request =>
    match ledger.store.admitSession request with
    | .error _ => ledger
    | .ok (_,after) => {ledger with store := after}
  | .settleSession request =>
    match ledger.store.settleSession request with
    | .error _ => ledger
    | .ok (_,after) => {store := after,charges := ledger.charge request}
  | .releaseSession projectId runId stepKey =>
    {ledger with store := ledger.store.releaseSession projectId runId stepKey}
  | .releaseRunForResume runId => {ledger with store := (ledger.store.releaseRunForResume runId).2}

def play (ledger : Ledger) (calls : List SessionCall) : Ledger := calls.foldl step ledger

/-- A request for a positive estimate that carries the limits and the true spend so far. -/
structure Truthful (limits : Limits) (ledger : Ledger) (request : SessionAdmission) : Prop where
  workflowSpent : request.workflowSpentMicrodollars = ledger.spent (.run request.runId)
  dailySpent : request.dailySpentMicrodollars = ledger.spent (.project request.projectId)
  deploymentSpent : limits.deployment ≠ none →
    request.deploymentSpentMicrodollars = some (ledger.spent .deployment)
  workflowLimit : request.workflowLimitMicrodollars = limits.workflow
  dailyLimit : request.dailyLimitMicrodollars = limits.daily
  deploymentLimit : request.deploymentDailyLimitMicrodollars = limits.deployment
  admissionNumerator : request.admissionNumerator = limits.admissionNumerator
  admissionDenominator : request.admissionDenominator = limits.admissionDenominator
  estimated : 0 < request.estimatedMicrodollars

/-- An admission carries the truth and a settlement costs at most the estimate. -/
def Permitted (limits : Limits) (ledger : Ledger) : SessionCall → Prop
  | .admitSession request => Truthful limits ledger request
  | .settleSession request => ∀ reservation,
      ledger.store.reservations.get? request.reservationKey = some reservation →
        request.actualMicrodollars ≤ reservation.estimatedMicrodollars
  | _ => True

/-- The ledgers that permitted calls lead to, whatever had been spent before them. -/
inductive Reachable (limits : Limits) : Ledger → Prop
  | start (charges : List Charge) : Reachable limits {charges := charges}
  | step {ledger : Ledger} (reached : Reachable limits ledger) (call : SessionCall)
      (permitted : Permitted limits ledger call) : Reachable limits (ledger.step call)

def Safe (limits : Limits) (ledger : Ledger) : Prop :=
  ∀ key reservation, ledger.store.reservations.get? key = some reservation →
    ∀ account, account.covers reservation.runId reservation.projectId = true →
      ∀ limit, limits.limit account = some limit → limits.Within (ledger.committed account) limit

end Ledger

def Store.HeldBy (store : Store) (projectId runId stepKey : String) : Prop :=
  ∃ lease, store.sessions.get? projectId = some lease ∧ lease.runId = runId ∧ lease.stepKey = stepKey

def SessionCall.Frees (projectId runId stepKey : String) : SessionCall → Prop
  | .releaseSession project run step => project = projectId ∧ run = runId ∧ step = stepKey
  | .releaseRunForResume run => run = runId
  | _ => False

def Store.Conflicts (store : Store) (request : SessionAdmission) : Prop :=
  ∃ existing, store.reservations.get? request.reservationKey = some existing ∧
    (existing.runId ≠ request.runId ∨ existing.projectId ≠ request.projectId ∨
      existing.stepKey ≠ request.stepKey ∨ existing.estimatedMicrodollars ≠ request.estimatedMicrodollars)

def Store.OverBudget (store : Store) (request : SessionAdmission) : Prop :=
  store.reservations.get? request.reservationKey = none ∧
    (store.exceedsDeployment request = true ∨
      Store.exceeds request.workflowSpentMicrodollars (store.reserved fun held => held.runId = request.runId)
        request.estimatedMicrodollars request.workflowLimitMicrodollars request = true ∨
      Store.exceeds request.dailySpentMicrodollars (store.reserved fun held => held.projectId = request.projectId)
        request.estimatedMicrodollars request.dailyLimitMicrodollars request = true)

/-- The request is not admitted: it conflicts, is over budget, or the project's session is busy. -/
def Store.Refuses (store : Store) (request : SessionAdmission) : Prop :=
  (∃ fault, store.admitSession request = .error fault ∧ store.Conflicts request) ∨
    ∃ reason, store.admitSession request = .ok (.refused reason,store) ∧
      (reason = .concurrency ∨ store.OverBudget request)

/-! ### What each call can do -/

namespace Store
variable {store : Store}

/-- Everything an admission can do: conflict, refuse, take the lease for an open reservation, or reserve. -/
inductive Admits (store : Store) (request : SessionAdmission) : Except Fault (Admission × Store) → Prop
  | conflict {fault : Fault} (conflicts : store.Conflicts request) : Admits store request (.error fault)
  | overBudget (reason : Refusal) (exceeds : store.OverBudget request) :
      Admits store request (.ok (.refused reason,store))
  | busy (held : store.heldByAnother request = true) : Admits store request (.ok (.refused .concurrency,store))
  | replayed (existing : Reservation) (found : store.reservations.get? request.reservationKey = some existing)
      (free : store.heldByAnother request = false) : Admits store request (.ok (.admitted,store.takeLease request))
  | reserved (absent : store.reservations.get? request.reservationKey = none) (within : ¬ store.OverBudget request)
      (free : store.heldByAnother request = false) :
      Admits store request (.ok (.admitted,(store.reserve request).takeLease request))

theorem admitSession_admits (store : Store) (request : SessionAdmission) : Admits store request (store.admitSession request) := by
  unfold admitSession
  split
  · rename_i existing found
    split
    · rename_i differs
      exact .conflict ⟨existing,found,differs⟩
    · split
      · rename_i held
        exact .busy held
      · rename_i free
        exact .replayed existing found (by simpa using free)
  · rename_i absent
    split
    · rename_i exceeds
      exact .overBudget _ ⟨absent,.inl exceeds⟩
    · rename_i deployment
      split
      · rename_i exceeds
        exact .overBudget _ ⟨absent,.inr (.inl exceeds)⟩
      · rename_i workflow
        split
        · rename_i exceeds
          exact .overBudget _ ⟨absent,.inr (.inr exceeds)⟩
        · rename_i daily
          split
          · rename_i held
            exact .busy held
          · rename_i free
            refine .reserved absent ?_ (by simpa using free)
            rintro ⟨_,exceeds | exceeds | exceeds⟩
            · exact deployment exceeds
            · exact workflow exceeds
            · exact daily exceeds

/-- Everything a settlement can do: nothing, throw, or close the reservation. -/
inductive Settles (store : Store) (request : SessionSettlement) : Except Fault (Settlement × Store) → Prop
  | closed (absent : store.reservations.get? request.reservationKey = none) :
      Settles store request (.ok (.settled,store))
  | conflict {fault : Fault} (reservation : Reservation)
      (found : store.reservations.get? request.reservationKey = some reservation) :
      Settles store request (.error fault)
  | settled (reservation : Reservation) (answer : Settlement)
      (found : store.reservations.get? request.reservationKey = some reservation)
      (run : reservation.runId = request.runId)
      (exceeded : answer ≠ .settled → request.workflowSpentMicrodollars > request.workflowLimitMicrodollars ∨
        request.dailySpentMicrodollars > request.dailyLimitMicrodollars) :
      Settles store request (.ok (answer,{store with
        reservations := store.reservations.erase request.reservationKey}))

theorem settleSession_settles (store : Store) (request : SessionSettlement) : Settles store request (store.settleSession request) := by
  unfold settleSession
  split
  · rename_i absent
    exact .closed absent
  · rename_i reservation found
    split
    · exact .conflict reservation found
    · rename_i mine
      have run : reservation.runId = request.runId := by
        by_contra differs
        exact mine (.inl differs)
      dsimp only
      split
      · rename_i exceeds
        exact .settled reservation _ found run fun _ => .inl exceeds
      · split
        · rename_i exceeds
          exact .settled reservation _ found run fun _ => .inr exceeds
        · exact .settled reservation _ found run fun unsettled => absurd rfl unsettled

end Store

/-! ### The accounts -/

namespace Ledger
variable {limits : Limits} {ledger later : Ledger}

theorem reserved_eq_total (store : Store) (select : Reservation → Bool) : store.reserved select =
    store.reservations.total fun held => if select held then held.estimatedMicrodollars else 0 := by
  unfold Store.reserved OrderedMap.total
  induction store.reservations.values with
  | nil => rfl
  | cons head rest ih =>
    by_cases selected : select head = true
    · simpa [List.filter_cons,selected] using ih
    · simpa [List.filter_cons,selected] using ih

def Estimated (ledger : Ledger) : Prop :=
  ∀ key reservation, ledger.store.reservations.get? key = some reservation → 0 < reservation.estimatedMicrodollars

theorem Safe.weaken (safe : Safe limits ledger) (kept : ∀ key reservation, later.store.reservations.get? key = some reservation →
      ledger.store.reservations.get? key = some reservation)
    (less : ∀ account, later.committed account ≤ ledger.committed account) : Safe limits later := by
  intro key reservation held account covers limit known
  obtain ⟨below,within⟩ := safe key reservation (kept key reservation held) account covers limit known
  have bound := less account
  constructor <;> omega

theorem committed_reserve (ledger : Ledger) (request : SessionAdmission)
    (absent : ledger.store.reservations.get? request.reservationKey = none) (account : Account) :
    committed {ledger with store := (ledger.store.reserve request).takeLease request} account =
      ledger.committed account +
        if account.covers request.runId request.projectId then request.estimatedMicrodollars else 0 := by
  have total := OrderedMap.total_set_new ledger.store.reservations request.reservationKey
    ⟨request.runId,request.projectId,request.stepKey,request.estimatedMicrodollars,request.leaseExpiresAt⟩
    (fun held => if account.covers held.runId held.projectId then held.estimatedMicrodollars else 0) absent
  simp only [committed,reserved_eq_total,Store.takeLease,Store.reserve] at total ⊢
  rw [total]
  simp only [spent]
  omega

theorem committed_settle (ledger : Ledger) (request : SessionSettlement) (reservation : Reservation)
    (found : ledger.store.reservations.get? request.reservationKey = some reservation) (account : Account) :
    committed ⟨{ledger.store with reservations := ledger.store.reservations.erase request.reservationKey},
        ledger.charge request⟩ account =
      ledger.committed account + if account.covers reservation.runId reservation.projectId then
        request.actualMicrodollars - reservation.estimatedMicrodollars else 0 := by
  have total := OrderedMap.total_erase ledger.store.reservations request.reservationKey reservation
    (fun held => if account.covers held.runId held.projectId then held.estimatedMicrodollars else 0) found
  simp only [committed,reserved_eq_total] at total ⊢
  rw [total]
  by_cases covers : account.covers reservation.runId reservation.projectId = true
  · simp [spent,charge,found,covers]
    omega
  · simp [spent,charge,found,covers]

variable {request : SessionAdmission} {call : SessionCall}

theorem Truthful.within (truthful : Truthful limits ledger request)
    (absent : ledger.store.reservations.get? request.reservationKey = none)
    (free : ¬ ledger.store.OverBudget request) {account : Account}
    (covers : account.covers request.runId request.projectId = true) {limit : Int} (known : limits.limit account = some limit) :
    limits.Within (ledger.committed account + request.estimatedMicrodollars) limit := by
  have room : ∀ {spent reserved limit : Int},
      Store.exceeds spent reserved request.estimatedMicrodollars limit request ≠ true →
        limits.Within (spent + reserved + request.estimatedMicrodollars) limit := by
    intro spent reserved limit below
    simp only [Store.exceeds,truthful.admissionNumerator,truthful.admissionDenominator,ne_eq,Bool.or_eq_true,
      decide_eq_true_eq,not_or] at below
    exact ⟨by omega,by omega⟩
  cases account with
  | run id =>
    simp only [Account.covers,decide_eq_true_eq] at covers
    subst covers
    cases known
    have checked := room fun exceeds => free ⟨absent,.inr (.inl exceeds)⟩
    rwa [truthful.workflowSpent,truthful.workflowLimit] at checked
  | project id =>
    simp only [Account.covers,decide_eq_true_eq] at covers
    subst covers
    cases known
    have checked := room fun exceeds => free ⟨absent,.inr (.inr exceeds)⟩
    rwa [truthful.dailySpent,truthful.dailyLimit] at checked
  | deployment =>
    obtain ⟨set,positive⟩ := Option.filter_eq_some_iff.mp known
    have spent := truthful.deploymentSpent (by simp [set])
    apply room
    intro exceeds
    apply free
    refine ⟨absent,.inl ?_⟩
    simpa [Store.exceedsDeployment,truthful.deploymentLimit,set,spent,of_decide_eq_true positive,
      Account.covers] using exceeds

theorem Estimated.step (estimated : ledger.Estimated) (permitted : Permitted limits ledger call) : (ledger.step call).Estimated := by
  cases call with
  | admitSession request =>
    have admits := Store.admitSession_admits ledger.store request
    simp only [Ledger.step]
    revert admits
    generalize ledger.store.admitSession request = result
    intro admits
    cases admits with
    | conflict => exact estimated
    | overBudget => exact estimated
    | busy => exact estimated
    | replayed => exact estimated
    | reserved =>
      intro key reservation held
      simp only [Store.takeLease,Store.reserve,get?_set] at held
      split at held
      · cases held
        exact permitted.estimated
      · exact estimated key reservation held
  | settleSession request =>
    have settles := Store.settleSession_settles ledger.store request
    simp only [Ledger.step]
    revert settles
    generalize ledger.store.settleSession request = result
    intro settles
    cases settles with
    | closed => exact estimated
    | conflict => exact estimated
    | settled =>
      intro key reservation held
      simp only [get?_erase] at held
      split at held
      · cases held
      · exact estimated key reservation held
  | releaseSession projectId runId stepKey =>
    intro key reservation held
    simp only [Ledger.step,Store.releaseSession] at held
    split at held
    · exact estimated key reservation held
    · split at held <;> exact estimated key reservation held
  | releaseRunForResume runId =>
    intro key reservation held
    exact estimated key reservation ((Store.releaseRunForResume_reservations _ _ _ _).mp held).1

theorem Safe.step (safe : Safe limits ledger) (estimated : ledger.Estimated)
    (permitted : Permitted limits ledger call) : Safe limits (ledger.step call) := by
  cases call with
  | admitSession request =>
    have admits := Store.admitSession_admits ledger.store request
    simp only [Ledger.step]
    revert admits
    generalize ledger.store.admitSession request = result
    intro admits
    cases admits with
    | conflict => exact safe
    | overBudget => exact safe
    | busy => exact safe
    | replayed => exact safe
    | reserved absent within =>
      intro key reservation held account covers limit known
      rw [committed_reserve ledger request absent account]
      by_cases touched : account.covers request.runId request.projectId = true
      · rw [if_pos touched]
        exact permitted.within absent within touched known
      · rw [if_neg touched,Int.add_zero]
        simp only [Store.takeLease,Store.reserve,get?_set] at held
        split at held
        · cases held
          exact absurd covers touched
        · exact safe key reservation held account covers limit known
  | settleSession request =>
    have settles := Store.settleSession_settles ledger.store request
    simp only [Ledger.step]
    revert settles
    generalize ledger.store.settleSession request = result
    intro settles
    cases settles with
    | closed absent =>
      have same : ledger.charge request = ledger.charges := by simp [charge,absent]
      rw [same]
      exact safe
    | conflict => exact safe
    | settled reservation answer found =>
      apply safe.weaken
      · intro key other held
        simp only [get?_erase] at held
        split at held
        · cases held
        · exact held
      · intro account
        rw [committed_settle ledger request reservation found account]
        have cost := permitted reservation found
        split <;> omega
  | releaseSession projectId runId stepKey =>
    have same : (ledger.store.releaseSession projectId runId stepKey).reservations = ledger.store.reservations := by
      unfold Store.releaseSession
      split
      · rfl
      · split <;> rfl
    apply safe.weaken
    · intro key reservation held
      rwa [Ledger.step,same] at held
    · intro account
      simp only [Ledger.step,committed,Store.reserved,same]
      exact Int.le_refl _
  | releaseRunForResume runId =>
    apply safe.weaken
    · intro key reservation held
      exact ((Store.releaseRunForResume_reservations _ _ _ _).mp held).1
    · intro account
      simp only [Ledger.step,committed,reserved_eq_total,Store.releaseRunForResume]
      apply Int.add_le_add_left
      apply OrderedMap.total_filter_le
      intro key reservation held
      have positive := estimated key reservation held
      split <;> omega

theorem Reachable.safe (reached : Reachable limits ledger) : Safe limits ledger ∧ ledger.Estimated := by
  induction reached with
  | start charges =>
    constructor
    · intro key reservation held
      cases held
    · intro key reservation held
      cases held
  | step _ call permitted ih => exact ⟨ih.1.step ih.2 permitted,ih.2.step permitted⟩

/-! ### The session lease -/

section
variable {projectId runId stepKey : String} (held : ledger.store.HeldBy projectId runId stepKey)
include held

theorem HeldBy.step (kept : ¬ call.Frees projectId runId stepKey) : (ledger.step call).store.HeldBy projectId runId stepKey := by
  obtain ⟨lease,found,run,step⟩ := held
  cases call with
  | admitSession request =>
    have admits := Store.admitSession_admits ledger.store request
    have retaken (free : ledger.store.heldByAnother request = false) :
        (ledger.store.takeLease request).HeldBy projectId runId stepKey := by
      by_cases same : projectId = request.projectId
      · subst same
        simp only [Store.heldByAnother,found,Bool.or_eq_false_iff,decide_eq_false_iff_not,ne_eq,not_not] at free
        refine ⟨⟨request.runId,request.stepKey,request.leaseExpiresAt⟩,?_,free.1.symm.trans run,
          free.2.symm.trans step⟩
        simp [Store.takeLease,get?_set]
      · exact ⟨lease,by simpa [Store.takeLease,get?_set,same] using found,run,step⟩
    simp only [Ledger.step]
    revert admits
    generalize ledger.store.admitSession request = result
    intro admits
    cases admits with
    | conflict => exact ⟨lease,found,run,step⟩
    | overBudget => exact ⟨lease,found,run,step⟩
    | busy => exact ⟨lease,found,run,step⟩
    | replayed _ _ free => exact retaken free
    | reserved _ _ free => exact retaken free
  | settleSession request =>
    have settles := Store.settleSession_settles ledger.store request
    simp only [Ledger.step]
    revert settles
    generalize ledger.store.settleSession request = result
    intro settles
    cases settles <;> exact ⟨lease,found,run,step⟩
  | releaseSession project otherRun otherStep =>
    refine ⟨lease,?_,run,step⟩
    simp only [Ledger.step,Store.releaseSession]
    split
    · exact found
    · rename_i session present
      split
      · rename_i mine
        have other : projectId ≠ project := by
          rintro rfl
          cases found.symm.trans present
          exact kept ⟨rfl,mine.1.symm.trans run,mine.2.symm.trans step⟩
        simpa [get?_erase,other] using found
      · exact found
  | releaseRunForResume otherRun =>
    refine ⟨lease,(Store.releaseRunForResume_sessions _ _ _ _).mpr ⟨found,?_⟩,run,step⟩
    intro same
    exact kept (same.symm.trans run)

theorem HeldBy.play (calls : List SessionCall) (kept : ∀ call ∈ calls, ¬ call.Frees projectId runId stepKey) :
    (ledger.play calls).store.HeldBy projectId runId stepKey := by
  induction calls generalizing ledger with
  | nil => exact held
  | cons call rest ih =>
    have here := HeldBy.step held (kept call (by simp))
    exact ih here fun later inside => kept later (List.mem_cons_of_mem call inside)

end

theorem HeldBy.refuses {store : Store} {runId stepKey : String} (held : store.HeldBy request.projectId runId stepKey)
    (another : request.runId ≠ runId ∨ request.stepKey ≠ stepKey) : store.Refuses request := by
  obtain ⟨lease,found,run,step⟩ := held
  have busy : store.heldByAnother request = true := by
    simp only [Store.heldByAnother,found,Bool.or_eq_true,decide_eq_true_eq,ne_eq,run,step]
    rcases another with other | other
    · exact .inl fun same => other same.symm
    · exact .inr fun same => other same.symm
  have admits := Store.admitSession_admits store request
  unfold Store.Refuses
  generalize store.admitSession request = result at admits
  cases admits with
  | conflict conflicts => exact .inl ⟨_,rfl,conflicts⟩
  | overBudget reason exceeds => exact .inr ⟨reason,rfl,.inr exceeds⟩
  | busy => exact .inr ⟨_,rfl,.inl rfl⟩
  | replayed _ _ free => simp [busy] at free
  | reserved _ _ free => simp [busy] at free

theorem replay_reserves_nothing (ledger : Ledger) {existing : Reservation}
    (found : ledger.store.reservations.get? request.reservationKey = some existing) :
    (ledger.step (.admitSession request)).store.reservations = ledger.store.reservations := by
  have admits := Store.admitSession_admits ledger.store request
  simp only [Ledger.step]
  revert admits
  generalize ledger.store.admitSession request = result
  intro admits
  cases admits with
  | reserved absent => simp [absent] at found
  | _ => rfl

theorem refused_unchanged (ledger : Ledger) (refused : ∀ after, ledger.store.admitSession request ≠ .ok (.admitted,after)) :
    ledger.step (.admitSession request) = ledger := by
  have admits := Store.admitSession_admits ledger.store request
  simp only [Ledger.step]
  revert admits refused
  generalize ledger.store.admitSession request = result
  intro refused admits
  cases admits with
  | conflict => rfl
  | overBudget => rfl
  | busy => rfl
  | replayed => exact absurd rfl (refused _)
  | reserved => exact absurd rfl (refused _)

/-- A settlement of an open reservation whose cost is within the estimate, with that cost in the true spend. -/
structure SettlesTruly (limits : Limits) (ledger : Ledger) (request : SessionSettlement)
    (reservation : Reservation) : Prop where
  found : ledger.store.reservations.get? request.reservationKey = some reservation
  cost : request.actualMicrodollars ≤ reservation.estimatedMicrodollars
  workflowSpent : request.workflowSpentMicrodollars =
    ledger.spent (.run reservation.runId) + request.actualMicrodollars
  dailySpent : request.dailySpentMicrodollars =
    ledger.spent (.project reservation.projectId) + request.actualMicrodollars
  workflowLimit : request.workflowLimitMicrodollars = limits.workflow
  dailyLimit : request.dailyLimitMicrodollars = limits.daily

theorem SettlesTruly.settled {request : SessionSettlement} {reservation : Reservation}
    (truly : SettlesTruly limits ledger request reservation) (safe : Safe limits ledger)
    (estimated : ledger.Estimated) {answer : Settlement} {after : Store}
    (ok : ledger.store.settleSession request = .ok (answer,after)) : answer = .settled := by
  have room (account : Account) (covers : account.covers reservation.runId reservation.projectId = true)
      {limit : Int} (known : limits.limit account = some limit) :
      ledger.spent account + request.actualMicrodollars ≤ limit := by
    have within := (safe _ _ truly.found account covers limit known).2
    have share := ledger.store.reservations.le_total
      (fun held => if account.covers held.runId held.projectId then held.estimatedMicrodollars else 0)
      (fun key held found => by have positive := estimated key held found; split <;> omega) truly.found
    simp only [covers,if_true] at share
    rw [committed,reserved_eq_total] at within
    have cost := truly.cost
    omega
  have settles := Store.settleSession_settles ledger.store request
  rw [ok] at settles
  cases settles with
  | closed => rfl
  | settled other _ found _ exceeded =>
    by_contra unsettled
    have workflow := room (.run reservation.runId) (by simp [Account.covers]) rfl
    have daily := room (.project reservation.projectId) (by simp [Account.covers]) rfl
    have exceeds := exceeded unsettled
    rw [truly.workflowSpent,truly.dailySpent,truly.workflowLimit,truly.dailyLimit] at exceeds
    omega

/-- What spending and open reservations, the session leases and the answers of a ledger are held to. -/
structure Upholds (limits : Limits) (ledger : Ledger) : Prop where
  accounts : Safe limits ledger
  oneHolder : ∀ projectId runId stepKey otherRun otherStep, ledger.store.HeldBy projectId runId stepKey →
    ledger.store.HeldBy projectId otherRun otherStep → otherRun = runId ∧ otherStep = stepKey
  untilReleased : ∀ projectId runId stepKey calls, ledger.store.HeldBy projectId runId stepKey →
    (∀ call ∈ calls, ¬ SessionCall.Frees projectId runId stepKey call) →
      ∀ request : SessionAdmission, request.projectId = projectId →
        (request.runId ≠ runId ∨ request.stepKey ≠ stepKey) → (ledger.play calls).store.Refuses request
  replayed : ∀ (request : SessionAdmission) existing,
    ledger.store.reservations.get? request.reservationKey = some existing →
      (ledger.step (.admitSession request)).store.reservations = ledger.store.reservations
  refused : ∀ request, (∀ after, ledger.store.admitSession request ≠ .ok (.admitted,after)) →
    ledger.step (.admitSession request) = ledger
  thrown : ∀ request fault, ledger.store.settleSession request = .error fault →
    ledger.step (.settleSession request) = ledger
  settled : ∀ request reservation answer after, SettlesTruly limits ledger request reservation →
    ledger.store.settleSession request = .ok (answer,after) → answer = .settled

/-- A project whose session is held by one run while another asks for more than its own budget. -/
def busyProject : Limits × SessionAdmission × SessionAdmission :=
  let limits := {
    workflow := 1000
    daily := 2000
    deployment := none
    admissionNumerator := 80
    admissionDenominator := 100}
  let ask (runId : String) (estimated : Int) : SessionAdmission := {
    reservationKey := runId
    projectId := "project-1"
    runId := runId
    stepKey := "plan"
    workflowSpentMicrodollars := 0
    dailySpentMicrodollars := 0
    workflowLimitMicrodollars := 1000
    dailyLimitMicrodollars := 2000
    admissionNumerator := 80
    admissionDenominator := 100
    now := 0
    leaseExpiresAt := 1260000
    estimatedMicrodollars := estimated}
  (limits,ask "run-1" 100,ask "run-2" 900)

def busyLedger : Ledger := ({} : Ledger).step (.admitSession busyProject.2.1)

theorem busyLedger_reachable : Reachable busyProject.1 busyLedger := by
  apply Reachable.step (.start [])
  constructor <;> first | rfl | decide

end Ledger
end AgentOS.Checkpoint
