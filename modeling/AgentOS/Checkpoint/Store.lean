import AgentOS.Domain
import AgentOS.Library.OrderedMap
import Mathlib.Data.List.Sort

/-! The workflow checkpoint store: fenced effects, budget reservations and the
one session lease of each project. Every operation is one atomic step that
either throws and changes nothing or answers with the next store. -/
namespace AgentOS.Checkpoint
open Library

inductive EffectStatus where
  | pending
  | started
  | succeeded
  | failed
  | deadLetter
  deriving DecidableEq

structure EffectDraft where
  key : String
  runId : String
  kind : String
  inputFingerprint : Fingerprint
  externalRef : Option String := none
  output : Option Json := none
  error : Option String := none
  createdAt : Instant
  updatedAt : Instant
  deriving DecidableEq

structure Effect extends EffectDraft where
  status : EffectStatus
  ownerId : Option String
  leaseVersion : Nat
  leaseExpiresAt : Option Instant
  deriving DecidableEq

structure EffectLease where
  key : String
  ownerId : String
  leaseVersion : Nat

structure EffectClaim where
  ownerId : String
  now : Instant
  leaseExpiresAt : Instant

structure SessionLease where
  runId : String
  stepKey : String
  leaseExpiresAt : Instant
  deriving DecidableEq

structure Reservation where
  runId : String
  projectId : String
  stepKey : String
  estimatedMicrodollars : Int
  expiresAt : Instant
  deriving DecidableEq

structure BudgetReservation extends Reservation where
  reservationKey : String
  deriving DecidableEq

structure SessionAdmission where
  reservationKey : String
  projectId : String
  runId : String
  stepKey : String
  workflowSpentMicrodollars : Int
  dailySpentMicrodollars : Int
  workflowLimitMicrodollars : Int
  dailyLimitMicrodollars : Int
  admissionNumerator : Int
  admissionDenominator : Int
  deploymentDailyLimitMicrodollars : Option Int := none
  deploymentSpentMicrodollars : Option Int := none
  now : Instant
  leaseExpiresAt : Instant
  estimatedMicrodollars : Int

inductive Refusal where
  | workflowBudget
  | dailyBudget
  | concurrency
  deriving DecidableEq

inductive Admission where
  | admitted
  | refused (reason : Refusal)

structure SessionSettlement where
  reservationKey : String
  runId : String
  stepKey : String
  actualMicrodollars : Int
  workflowSpentMicrodollars : Int
  dailySpentMicrodollars : Int
  workflowLimitMicrodollars : Int
  dailyLimitMicrodollars : Int
  now : Instant

inductive Settlement where
  | settled
  | exceeded (reason : BudgetReason)
  deriving DecidableEq

theorem Store.keyed_empty (key : String) (effect : Effect) : OrderedMap.empty.get? key = some effect →
    effect.key = key := nofun

structure Store where
  effects : OrderedMap String Effect := .empty
  sessions : OrderedMap String SessionLease := .empty
  reservations : OrderedMap String Reservation := .empty
  keyed : ∀ key effect, effects.get? key = some effect → effect.key = key := by
    first | exact Checkpoint.Store.keyed_empty | simp

/-- A collation of strings: any transitive and total comparison. The in-memory
store sorts by the locale, the database by code points. -/
structure Collation where
  le : String → String → Bool
  trans : ∀ a b c, le a b → le b c → le a c
  total : ∀ a b, le a b ∨ le b a

/-- The database's collation. -/
def Collation.codePoints : Collation where
  le left right := left ≤ right
  trans _ _ _ := by simpa using String.le_trans
  total left right := by simpa using String.le_total left right

namespace Store

def setEffect (store : Store) (effect : Effect) : Store :=
  {store with
    effects := store.effects.set effect.key effect
    keyed := by
      intro key held found
      rw [OrderedMap.get?_set] at found
      split at found
      · rename_i same
        cases found
        exact same.symm
      · exact store.keyed key held found}

def requireEffect (store : Store) (key : String) : Except Fault Effect :=
  match store.effects.get? key with
  | none => .error (.checkpointConflict ("workflow effect " ++ key ++ " does not exist"))
  | some effect => .ok effect

def owned (store : Store) (lease : EffectLease) : Except Fault Effect := do
  let effect ← store.requireEffect lease.key
  if effect.ownerId ≠ some lease.ownerId ∨ effect.leaseVersion ≠ lease.leaseVersion then
    .error (.checkpointConflict ("workflow effect " ++ lease.key ++ " fencing lease is not owned"))
  else .ok effect

/-- Whether a claim takes over an unfinished effect: its own, unleased or expired. -/
def claimable (effect : Effect) (claim : EffectClaim) : Bool :=
  effect.status ≠ .succeeded &&
    (effect.ownerId = some claim.ownerId || match effect.leaseExpiresAt with
      | none => true
      | some expires => expires ≤ claim.now)

def claimEffect (store : Store) (draft : EffectDraft) (claim : EffectClaim) : Except Fault (Effect × Store) :=
  match store.effects.get? draft.key with
  | some existing =>
    if existing.runId ≠ draft.runId ∨ existing.kind ≠ draft.kind ∨
        existing.inputFingerprint ≠ draft.inputFingerprint then
      .error (.checkpointConflict ("workflow effect " ++ draft.key ++ " was replayed with different input"))
    else if claimable existing claim then
      let taken := {existing with
        ownerId := some claim.ownerId
        leaseVersion := if existing.ownerId = some claim.ownerId then existing.leaseVersion
          else existing.leaseVersion + 1
        leaseExpiresAt := some claim.leaseExpiresAt
        updatedAt := claim.now}
      .ok (taken,store.setEffect taken)
    else .ok (existing,store)
  | none =>
    let effect := {draft with
      status := .pending
      ownerId := some claim.ownerId
      leaseVersion := 1
      leaseExpiresAt := some claim.leaseExpiresAt}
    .ok (effect,store.setEffect effect)

def markEffectStarted (store : Store) (lease : EffectLease) (now : Instant) : Except Fault (Effect × Store) := do
  let effect ← store.owned lease
  if effect.status ≠ .pending ∧ effect.status ≠ .failed then .ok (effect,store)
  else
    let started := {effect with status := .started,updatedAt := now}
    .ok (started,store.setEffect started)

def attachExternalRef (store : Store) (lease : EffectLease) (externalRef : String) (now : Instant) :
    Except Fault (Effect × Store) := do
  let effect ← store.owned lease
  if effect.status ≠ .started then
    .error (.checkpointConflict ("workflow effect " ++ lease.key ++ " is not started"))
  else if effect.externalRef ≠ none ∧ effect.externalRef ≠ some externalRef then
    .error (.checkpointConflict ("workflow effect " ++ lease.key ++ " has a different external reference"))
  else
    let attached := {effect with externalRef := some externalRef,updatedAt := now}
    .ok (attached,store.setEffect attached)

def completeEffect (store : Store) (lease : EffectLease) (output : Json) (now : Instant) :
    Except Fault (Effect × Store) := do
  let effect ← store.owned lease
  if effect.status = .succeeded then
    if effect.output ≠ some output then
      .error (.checkpointConflict ("workflow effect " ++ lease.key ++ " has different output"))
    else .ok (effect,store)
  else if effect.status ≠ .started then
    .error (.checkpointConflict ("workflow effect " ++ lease.key ++ " is not started"))
  else
    let succeeded := {effect with status := .succeeded,output := some output,updatedAt := now}
    .ok (succeeded,store.setEffect succeeded)

/-- The characters that fit into a number of UTF-16 code units; one that is cut in half is left as a replacement. -/
def sliceUnits : Nat → List Char → List Char
  | _, [] => []
  | units, char::rest =>
    if char.val < 0x10000 then if units = 0 then [] else char::sliceUnits (units - 1) rest
    else match units with
      | 0 => []
      | 1 => [Char.ofNat 0xFFFD]
      | units + 2 => char::sliceUnits units rest

/-- JavaScript's `slice` from the start of a text. -/
def slice (text : String) (units : Nat) : String := String.ofList (sliceUnits units text.toList)

theorem sliceUnits_units (limit : Nat) (text : List Char) :
    ((sliceUnits limit text).map fun char => if char.val < 0x10000 then 1 else 2).sum ≤ limit := by
  induction limit, text using sliceUnits.induct with
  | case1 => simp [sliceUnits]
  | case2 char rest small => simp [sliceUnits,small]
  | case3 limit char rest small positive ih =>
    have kept : sliceUnits limit (char::rest) = char::sliceUnits (limit - 1) rest := by
      rw [sliceUnits.eq_def]
      simp [small,positive]
    rw [kept]
    simp only [List.map_cons,List.sum_cons,small,if_true]
    omega
  | case4 char rest large => simp [sliceUnits,large]
  | case5 char rest large => simp [sliceUnits,large]
  | case6 char rest large units ih =>
    rw [sliceUnits,if_neg large]
    simp only [List.map_cons,List.sum_cons,large,if_false]
    omega

def failEffect (store : Store) (lease : EffectLease) (error : String) (deadLetter : Bool) (now : Instant) :
    Except Fault (Effect × Store) := do
  let effect ← store.owned lease
  if effect.status = .succeeded then .ok (effect,store)
  else
    let failed := {effect with
      status := if deadLetter then .deadLetter else .failed
      error := some (slice error 1000)
      updatedAt := now}
    .ok (failed,store.setEffect failed)

def renewEffect (store : Store) (lease : EffectLease) (now leaseExpiresAt : Instant) :
    Except Fault (Effect × Store) := do
  let effect ← store.owned lease
  let renewed := {effect with leaseExpiresAt := some leaseExpiresAt,updatedAt := now}
  .ok (renewed,store.setEffect renewed)

def getEffect (store : Store) (key : String) : Option Effect := store.effects.get? key

def listEffects (collation : Collation) (store : Store) (runId : String) : List Effect :=
  (store.effects.values.filter fun effect => effect.runId = runId).insertionSort
    fun left right => collation.le left.key right.key

def reserved (store : Store) (select : Reservation → Bool) : Int :=
  ((store.reservations.values.filter select).map Reservation.estimatedMicrodollars).sum

section
variable (store : Store) (request : SessionAdmission)

def heldByAnother : Bool :=
  match store.sessions.get? request.projectId with
  | none => false
  | some session => session.runId ≠ request.runId || session.stepKey ≠ request.stepKey

def takeLease : Store :=
  let lease := {runId := request.runId,stepKey := request.stepKey,leaseExpiresAt := request.leaseExpiresAt}
  {store with sessions := store.sessions.set request.projectId lease}

def reserve : Store :=
  let reservation := {
    runId := request.runId
    projectId := request.projectId
    stepKey := request.stepKey
    estimatedMicrodollars := request.estimatedMicrodollars
    expiresAt := request.leaseExpiresAt}
  {store with reservations := store.reservations.set request.reservationKey reservation}

end

def exceeds (spent reserved estimated limit : Int) (request : SessionAdmission) : Bool :=
  spent + reserved + estimated ≥ (limit * request.admissionNumerator).fdiv request.admissionDenominator ||
    spent + reserved + estimated > limit

def exceedsDeployment (store : Store) (request : SessionAdmission) : Bool :=
  match request.deploymentDailyLimitMicrodollars, request.deploymentSpentMicrodollars with
  | some limit, some spent =>
    decide (limit > 0) && exceeds spent (store.reserved fun _ => true) request.estimatedMicrodollars limit request
  | _, _ => false

def admitSession (store : Store) (request : SessionAdmission) : Except Fault (Admission × Store) :=
  match store.reservations.get? request.reservationKey with
  | some existing =>
    if existing.runId ≠ request.runId ∨ existing.projectId ≠ request.projectId ∨
        existing.stepKey ≠ request.stepKey ∨ existing.estimatedMicrodollars ≠ request.estimatedMicrodollars then
      .error (.checkpointConflict ("workflow reservation " ++ request.reservationKey ++ " conflicts"))
    else if store.heldByAnother request then .ok (.refused .concurrency,store)
    else .ok (.admitted,store.takeLease request)
  | none =>
    if store.exceedsDeployment request then .ok (.refused .dailyBudget,store)
    else if exceeds request.workflowSpentMicrodollars (store.reserved fun held => held.runId = request.runId)
        request.estimatedMicrodollars request.workflowLimitMicrodollars request then
      .ok (.refused .workflowBudget,store)
    else if exceeds request.dailySpentMicrodollars (store.reserved fun held => held.projectId = request.projectId)
        request.estimatedMicrodollars request.dailyLimitMicrodollars request then
      .ok (.refused .dailyBudget,store)
    else if store.heldByAnother request then .ok (.refused .concurrency,store)
    else .ok (.admitted,(store.reserve request).takeLease request)

def settleSession (store : Store) (request : SessionSettlement) : Except Fault (Settlement × Store) :=
  match store.reservations.get? request.reservationKey with
  | none => .ok (.settled,store)
  | some reservation =>
    if reservation.runId ≠ request.runId ∨ reservation.stepKey ≠ request.stepKey ∨
        ¬ isSafeInteger request.actualMicrodollars ∨ request.actualMicrodollars < 0 then
      .error (.checkpointConflict ("workflow reservation " ++ request.reservationKey ++ " cannot be settled"))
    else
      let settled := {store with reservations := store.reservations.erase request.reservationKey}
      if request.workflowSpentMicrodollars > request.workflowLimitMicrodollars then
        .ok (.exceeded .workflowBudget,settled)
      else if request.dailySpentMicrodollars > request.dailyLimitMicrodollars then
        .ok (.exceeded .dailyBudget,settled)
      else .ok (.settled,settled)

def releaseSession (store : Store) (projectId runId stepKey : String) : Store :=
  match store.sessions.get? projectId with
  | none => store
  | some session =>
    if session.runId = runId ∧ session.stepKey = stepKey then
      {store with sessions := store.sessions.erase projectId}
    else store

def listExpiredReservations (collation : Collation) (store : Store) (runId : String) (now : Instant) :
    List BudgetReservation :=
  ((store.reservations.entries.filter fun entry => entry.2.runId = runId && entry.2.expiresAt ≤ now).insertionSort
    fun left right => collation.le left.1 right.1).map
      fun entry => {entry.2 with reservationKey := entry.1}

def unfinished (runId : String) (effect : Effect) : Bool := effect.runId = runId && effect.status ≠ .succeeded

/-- Every unfinished effect, every reservation and every lease of the run goes. -/
def releaseRunForResume (store : Store) (runId : String) : Nat × Store :=
  ((store.effects.values.filter (unfinished runId)).length,{store with
    effects := store.effects.filter fun _ effect => ¬ unfinished runId effect
    sessions := store.sessions.filter fun _ session => session.runId ≠ runId
    reservations := store.reservations.filter fun _ reservation => reservation.runId ≠ runId
    keyed := by
      intro key effect found
      rw [OrderedMap.get?_filter,Option.filter_eq_some_iff] at found
      exact store.keyed key effect found.1})

end Store
end AgentOS.Checkpoint
