import AgentOS.Checkpoint.Store

/-! What each operation on an effect can do: it replaces the effect under one
key and touches neither the other effects nor the reservations and leases. -/
namespace AgentOS.Checkpoint
open Library

/-- `after` is `before` with `effect` under `key`. -/
structure Replaces (before : Store) (key : String) (effect : Effect) (after : Store) : Prop where
  stored : after.effects.get? key = some effect
  others : ∀ other, other ≠ key → after.effects.get? other = before.effects.get? other
  reservations : after.reservations = before.reservations
  sessions : after.sessions = before.sessions

namespace Store
variable {store after : Store} {effect : Effect} {lease : EffectLease} {now : Instant}

theorem get?_setEffect (store : Store) (effect : Effect) (key : String) :
    (store.setEffect effect).effects.get? key = if key = effect.key then some effect else store.effects.get? key :=
  OrderedMap.get?_set _ _ _ _

theorem replaces_setEffect (store : Store) (effect : Effect) :
    Replaces store effect.key effect (store.setEffect effect) where
  stored := by simp [get?_setEffect]
  others other different := by simp [get?_setEffect,different]
  reservations := rfl
  sessions := rfl

theorem replaces_self {key : String} (held : store.effects.get? key = some effect) :
    Replaces store key effect store where
  stored := held
  others _ _ := rfl
  reservations := rfl
  sessions := rfl

theorem requireEffect_ok {key : String} (ok : store.requireEffect key = .ok effect) : store.effects.get? key = some effect := by
  unfold requireEffect at ok
  split at ok
  · cases ok
  · rename_i held found
    cases ok
    exact found

theorem owned_ok (ok : store.owned lease = .ok effect) : store.effects.get? lease.key = some effect ∧
    effect.ownerId = some lease.ownerId ∧ effect.leaseVersion = lease.leaseVersion := by
  unfold owned at ok
  cases required : store.requireEffect lease.key with
  | error fault => simp [required,bind,Except.bind] at ok
  | ok found =>
    simp only [required,bind,Except.bind] at ok
    split at ok
    · cases ok
    · rename_i mine
      cases ok
      simp only [ne_eq,not_or,not_not] at mine
      exact ⟨requireEffect_ok required,mine.1,mine.2⟩

def taken (existing : Effect) (claim : EffectClaim) : Effect :=
  {existing with
    ownerId := some claim.ownerId
    leaseVersion := if existing.ownerId = some claim.ownerId then existing.leaseVersion
      else existing.leaseVersion + 1
    leaseExpiresAt := some claim.leaseExpiresAt
    updatedAt := claim.now}

def fresh (draft : EffectDraft) (claim : EffectClaim) : Effect :=
  {draft with
    status := .pending
    ownerId := some claim.ownerId
    leaseVersion := 1
    leaseExpiresAt := some claim.leaseExpiresAt}

def claimed (found : Option Effect) (draft : EffectDraft) (claim : EffectClaim) : Effect :=
  match found with
  | some existing => if claimable existing claim then taken existing claim else existing
  | none => fresh draft claim

variable {draft : EffectDraft} {claim : EffectClaim}

section
variable (ok : store.claimEffect draft claim = .ok (effect,after))
include ok

theorem claimEffect_ok : Replaces store draft.key effect after ∧ effect = claimed (store.effects.get? draft.key) draft claim ∧
      ∀ existing, store.effects.get? draft.key = some existing → existing.runId = draft.runId ∧
        existing.kind = draft.kind ∧ existing.inputFingerprint = draft.inputFingerprint := by
  unfold claimEffect at ok
  split at ok
  · rename_i existing found
    have key := store.keyed _ _ found
    split at ok
    · cases ok
    · rename_i same
      simp only [ne_eq,not_or,not_not] at same
      refine ⟨?_,?_,fun other held => by cases found.symm.trans held; exact same⟩
      · split at ok <;> cases ok
        · have replaced := replaces_setEffect store (taken existing claim)
          rw [show (taken existing claim).key = draft.key from key] at replaced
          exact replaced
        · exact replaces_self found
      · simp only [claimed,found]
        split at ok <;> rename_i free <;> cases ok
        · rw [if_pos free]
          rfl
        · rw [if_neg free]
  · rename_i absent
    cases ok
    refine ⟨replaces_setEffect store (fresh draft claim),?_,fun _ held => by simp [absent] at held⟩
    simp only [claimed,absent]
    rfl

theorem claimEffect_draft : effect.key = draft.key ∧ effect.runId = draft.runId ∧ effect.kind = draft.kind := by
  obtain ⟨replaced,answer,same⟩ := claimEffect_ok ok
  refine ⟨after.keyed _ _ replaced.stored,?_⟩
  cases found : store.effects.get? draft.key with
  | none =>
    rw [answer,found]
    exact ⟨rfl,rfl⟩
  | some existing =>
    obtain ⟨run,kind,_⟩ := same existing found
    rw [answer,found,← run,← kind]
    simp only [claimed]
    split <;> exact ⟨rfl,rfl⟩

end

/-! ### Under a lease -/

/-- An operation that owned the effect under its lease and left `change` of it. -/
def Changes (before : Store) (lease : EffectLease) (change : Effect → Effect) (effect : Effect) (after : Store) : Prop :=
  ∃ existing, before.owned lease = .ok existing ∧ effect = change existing ∧ Replaces before lease.key effect after

variable {change : Effect → Effect} {next : Store}

theorem Changes.found (changes : Changes store lease change effect after) :
    ∃ existing, store.effects.get? lease.key = some existing ∧ effect = change existing ∧ Replaces store lease.key effect after := by
  obtain ⟨existing,owned,same,replaced⟩ := changes
  exact ⟨existing,(owned_ok owned).1,same,replaced⟩

private theorem bind_owned_ok {rest : Effect → Except Fault (Effect × Store)}
    (ok : (store.owned lease >>= rest) = .ok (effect,after)) :
    ∃ existing, store.owned lease = .ok existing ∧ rest existing = .ok (effect,after) := by
  cases owned : store.owned lease with
  | error fault => simp [owned,bind,Except.bind] at ok
  | ok existing => exact ⟨existing,rfl,by simpa [owned,bind,Except.bind] using ok⟩

variable {externalRef : String} {existing : Effect}

private theorem replaced_self (owned : store.owned lease = .ok existing) :
    Replaces store lease.key existing store := replaces_self (owned_ok owned).1

private theorem replaced_by (owned : store.owned lease = .ok existing)
    (same : effect.key = existing.key) : Replaces store lease.key effect (store.setEffect effect) := by
  have key : effect.key = lease.key := same.trans (store.keyed _ _ (owned_ok owned).1)
  exact key ▸ replaces_setEffect store effect

def startedBy (now : Instant) (existing : Effect) : Effect :=
  if existing.status ≠ .pending ∧ existing.status ≠ .failed then existing
  else {existing with status := .started,updatedAt := now}

theorem markEffectStarted_ok (ok : store.markEffectStarted lease now = .ok (effect,after)) :
    Changes store lease (startedBy now) effect after := by
  obtain ⟨existing,owned,ok⟩ := bind_owned_ok ok
  refine ⟨existing,owned,?_⟩
  unfold startedBy
  split at ok <;> rename_i status <;> cases ok
  · exact ⟨by rw [if_pos status],replaced_self owned⟩
  · exact ⟨by rw [if_neg status],replaced_by owned rfl⟩

def attachedBy (externalRef : String) (now : Instant) (existing : Effect) : Effect :=
  {existing with externalRef := some externalRef,updatedAt := now}

theorem attachExternalRef_ok (ok : store.attachExternalRef lease externalRef now = .ok (effect,after)) :
    Changes store lease (attachedBy externalRef now) effect after ∧ effect.status = .started := by
  obtain ⟨existing,owned,ok⟩ := bind_owned_ok ok
  split at ok
  · cases ok
  · rename_i status
    split at ok
    · cases ok
    · cases ok
      exact ⟨⟨existing,owned,rfl,replaced_by owned rfl⟩,by simpa using status⟩

def completedBy (output : Json) (now : Instant) (existing : Effect) : Effect :=
  if existing.status = .succeeded then existing
  else {existing with status := .succeeded,output := some output,updatedAt := now}

theorem completeEffect_ok {output : Json} (ok : store.completeEffect lease output now = .ok (effect,after)) :
    Changes store lease (completedBy output now) effect after ∧ effect.status = .succeeded ∧ effect.output = some output := by
  obtain ⟨existing,owned,ok⟩ := bind_owned_ok ok
  split at ok
  · rename_i succeeded
    split at ok
    · cases ok
    · rename_i same
      cases ok
      exact ⟨⟨_,owned,(if_pos succeeded).symm,replaced_self owned⟩,succeeded,by simpa using same⟩
  · rename_i unfinished
    split at ok <;> cases ok
    exact ⟨⟨existing,owned,(if_neg unfinished).symm,replaced_by owned rfl⟩,rfl,rfl⟩

def failedBy (error : String) (deadLetter : Bool) (now : Instant) (existing : Effect) : Effect :=
  if existing.status = .succeeded then existing
  else {existing with
    status := if deadLetter then .deadLetter else .failed
    error := some (slice error 1000)
    updatedAt := now}

theorem failEffect_ok {error : String} {deadLetter : Bool} (ok : store.failEffect lease error deadLetter now = .ok (effect,after)) :
    Changes store lease (failedBy error deadLetter now) effect after := by
  obtain ⟨existing,owned,ok⟩ := bind_owned_ok ok
  refine ⟨existing,owned,?_⟩
  unfold failedBy
  split at ok <;> rename_i status <;> cases ok
  · exact ⟨by rw [if_pos status],replaced_self owned⟩
  · exact ⟨by rw [if_neg status],replaced_by owned rfl⟩

def renewedBy (now leaseExpiresAt : Instant) (existing : Effect) : Effect :=
  {existing with leaseExpiresAt := some leaseExpiresAt,updatedAt := now}

theorem renewEffect_ok {leaseExpiresAt : Instant} (ok : store.renewEffect lease now leaseExpiresAt = .ok (effect,after)) :
    Changes store lease (renewedBy now leaseExpiresAt) effect after := by
  obtain ⟨existing,owned,ok⟩ := bind_owned_ok ok
  cases ok
  exact ⟨existing,owned,rfl,replaced_by owned rfl⟩

theorem mem_listEffects (collation : Collation) (store : Store) (runId : String) (effect : Effect) :
    effect ∈ store.listEffects collation runId ↔ store.effects.get? effect.key = some effect ∧ effect.runId = runId := by
  simp only [listEffects,List.mem_insertionSort,List.mem_filter,OrderedMap.mem_values,decide_eq_true_eq]
  constructor
  · rintro ⟨⟨key,found⟩,run⟩
    exact ⟨store.keyed key effect found ▸ found,run⟩
  · rintro ⟨found,run⟩
    exact ⟨⟨_,found⟩,run⟩

/-! ### Which effects have succeeded -/

structure Success where
  runId : String
  kind : String
  externalRef : Option String
  output : Option Json

def success (effect : Effect) : Option Success :=
  if effect.status = .succeeded then some ⟨effect.runId,effect.kind,effect.externalRef,effect.output⟩ else none

theorem success_isSome (effect : Effect) : (success effect).isSome = true ↔ effect.status = .succeeded := by
  unfold success
  split <;> simp [*]

def result (store : Store) (key : String) : Option Success := (store.effects.get? key).bind success

def succeeded (store : Store) (key : String) : Bool := (store.result key).isSome

section
variable {key : String} (held : store.effects.get? key = some effect)
include held

theorem result_stored : store.result key = success effect := by
  simp [result,held]

theorem result_succeeded (status : effect.status = .succeeded) :
    store.result key = some ⟨effect.runId,effect.kind,effect.externalRef,effect.output⟩ := by
  rw [result_stored held,success,if_pos status]

end

theorem success_claimed (found : Option Effect) (draft : EffectDraft) (claim : EffectClaim) :
    success (claimed found draft claim) = found.bind success := by
  cases found with
  | none => rfl
  | some existing =>
    simp only [claimed,Option.bind_some]
    split <;> rfl

section
variable (ok : store.claimEffect draft claim = .ok (effect,next))
include ok

theorem result_claim (key : String) : next.result key = store.result key := by
  obtain ⟨replaced,answer,_⟩ := claimEffect_ok ok
  by_cases same : key = draft.key
  · rw [same,result_stored replaced.stored,answer,success_claimed]
    rfl
  · rw [result,replaced.others key same,result]

theorem claimed_succeeded : effect.status = .succeeded ↔ store.succeeded draft.key = true := by
  rw [succeeded,← result_claim ok,result_stored (claimEffect_ok ok).1.stored,success_isSome]

end

theorem result_change (changes : Changes store lease change effect next)
    (keeps : ∀ existing, success (change existing) = success existing) (key : String) : next.result key = store.result key := by
  obtain ⟨existing,found,answer,replaced⟩ := changes.found
  by_cases same : key = lease.key
  · rw [same,result_stored replaced.stored,result_stored found,answer,keeps]
  · rw [result,replaced.others key same,result]

theorem success_startedBy (now : Instant) (existing : Effect) : success (startedBy now existing) = success existing := by
  unfold startedBy
  split
  · rfl
  · rename_i status
    simp only [ne_eq,not_and_or,not_not] at status
    rcases status with status | status <;> simp [success,status]

theorem result_attach (ok : store.attachExternalRef lease externalRef now = .ok (effect,next)) (key : String) :
    next.result key = store.result key := by
  obtain ⟨changes,status⟩ := attachExternalRef_ok ok
  obtain ⟨existing,found,answer,replaced⟩ := changes.found
  have before : existing.status = .started := by rwa [answer] at status
  by_cases same : key = lease.key
  · rw [same,result_stored replaced.stored,result_stored found,success,success,status,before]
    rfl
  · rw [result,replaced.others key same,result]

/-! ### What an effect is -/

def Persists (before after : Store) : Prop :=
  ∀ key effect, before.effects.get? key = some effect →
    ∃ next, after.effects.get? key = some next ∧ next.runId = effect.runId ∧ next.kind = effect.kind

theorem Persists.refl (store : Store) : Persists store store := fun _ effect held => ⟨effect,held,rfl,rfl⟩

theorem Persists.trans {first second third : Store} (left : Persists first second) (right : Persists second third) :
    Persists first third := by
  intro key effect held
  obtain ⟨middle,found,run,kind⟩ := left key effect held
  obtain ⟨last,final,sameRun,sameKind⟩ := right key middle found
  exact ⟨last,final,sameRun.trans run,sameKind.trans kind⟩

theorem Persists.of_replaces {key : String} (replaced : Replaces store key effect after)
    (same : ∀ existing, store.effects.get? key = some existing →
      effect.runId = existing.runId ∧ effect.kind = existing.kind) : Persists store after := by
  intro other existing held
  by_cases here : other = key
  · subst here
    exact ⟨effect,replaced.stored,same existing held⟩
  · exact ⟨existing,(replaced.others other here).trans held,rfl,rfl⟩

theorem persists_claim (ok : store.claimEffect draft claim = .ok (effect,after)) : Persists store after := by
  obtain ⟨replaced,_,same⟩ := claimEffect_ok ok
  obtain ⟨_,run,kind⟩ := claimEffect_draft ok
  exact .of_replaces replaced fun existing held =>
    ⟨run.trans (same existing held).1.symm,kind.trans (same existing held).2.1.symm⟩

theorem persists_change (changes : Changes store lease change effect after)
    (keeps : ∀ existing, (change existing).runId = existing.runId ∧ (change existing).kind = existing.kind) :
    Persists store after := by
  obtain ⟨existing,found,answer,replaced⟩ := changes.found
  refine .of_replaces replaced fun other held => ?_
  cases found.symm.trans held
  rw [answer]
  exact keeps existing

theorem startedBy_identity (now : Instant) (existing : Effect) :
    (startedBy now existing).runId = existing.runId ∧ (startedBy now existing).kind = existing.kind := by
  unfold startedBy
  split <;> exact ⟨rfl,rfl⟩

theorem completedBy_identity (output : Json) (now : Instant) (existing : Effect) :
    (completedBy output now existing).runId = existing.runId ∧ (completedBy output now existing).kind = existing.kind := by
  unfold completedBy
  split <;> exact ⟨rfl,rfl⟩

/-! ### Sessions and reservations -/

theorem settleSession_ok {request : SessionSettlement} {settlement : Settlement}
    (ok : store.settleSession request = .ok (settlement,after)) : after.effects = store.effects ∧ after.sessions = store.sessions ∧
      after.reservations = store.reservations.erase request.reservationKey := by
  unfold settleSession at ok
  split at ok
  · rename_i absent
    cases ok
    refine ⟨rfl,rfl,((OrderedMap.filter_eq_self _ _).mpr ?_).symm⟩
    rintro key reservation found
    simp only [ne_eq,decide_eq_true_eq]
    rintro rfl
    simp [absent] at found
  · split at ok
    · cases ok
    · split at ok
      · cases ok
        exact ⟨rfl,rfl,rfl⟩
      · split at ok <;> cases ok <;> exact ⟨rfl,rfl,rfl⟩

theorem releaseSession_effects (store : Store) (projectId runId stepKey : String) :
    (store.releaseSession projectId runId stepKey).effects = store.effects := by
  unfold releaseSession
  split
  · rfl
  · split <;> rfl

theorem releaseSession_reservations (store : Store) (projectId runId stepKey : String) :
    (store.releaseSession projectId runId stepKey).reservations = store.reservations := by
  unfold releaseSession
  split
  · rfl
  · split <;> rfl

theorem releaseSession_sessions (store : Store) (projectId runId stepKey other : String) (lease : SessionLease) :
    (store.releaseSession projectId runId stepKey).sessions.get? other = some lease ↔ store.sessions.get? other = some lease ∧
        ¬ (other = projectId ∧ lease.runId = runId ∧ lease.stepKey = stepKey) := by
  unfold releaseSession
  split
  · rename_i absent
    refine ⟨fun held => ⟨held,?_⟩,And.left⟩
    rintro ⟨rfl,_⟩
    simp [absent] at held
  · rename_i session found
    split
    · rename_i mine
      rw [OrderedMap.get?_erase]
      by_cases same : other = projectId
      · subst same
        simp only [if_true,found,Option.some.injEq,true_and,reduceCtorEq,false_iff]
        rintro ⟨rfl,other⟩
        exact other mine
      · simp [same]
    · rename_i another
      refine ⟨fun held => ⟨held,?_⟩,And.left⟩
      rintro ⟨rfl,mine⟩
      cases found.symm.trans held
      exact another mine

theorem releaseRunForResume_effects (store : Store) (runId key : String) (effect : Effect) :
    (store.releaseRunForResume runId).2.effects.get? key = some effect ↔
      store.effects.get? key = some effect ∧ ¬ unfinished runId effect := by
  simp only [releaseRunForResume,OrderedMap.get?_filter,Option.filter_eq_some_iff,decide_eq_true_eq]

theorem releaseRunForResume_reservations (store : Store) (runId key : String) (reservation : Reservation) :
    (store.releaseRunForResume runId).2.reservations.get? key = some reservation ↔
      store.reservations.get? key = some reservation ∧ reservation.runId ≠ runId := by
  simp only [releaseRunForResume,OrderedMap.get?_filter,Option.filter_eq_some_iff,decide_eq_true_eq]

theorem releaseRunForResume_sessions (store : Store) (runId projectId : String) (lease : SessionLease) :
    (store.releaseRunForResume runId).2.sessions.get? projectId = some lease ↔
      store.sessions.get? projectId = some lease ∧ lease.runId ≠ runId := by
  simp only [releaseRunForResume,OrderedMap.get?_filter,Option.filter_eq_some_iff,decide_eq_true_eq]

theorem not_unfinished (runId : String) (effect : Effect) :
    ¬ unfinished runId effect ↔ effect.runId = runId → effect.status = .succeeded := by
  simp [unfinished]

theorem mem_listExpiredReservations (collation : Collation) (store : Store) (runId : String) (now : Instant)
    (reservation : BudgetReservation) : reservation ∈ store.listExpiredReservations collation runId now ↔
      store.reservations.get? reservation.reservationKey = some reservation.toReservation ∧
        reservation.runId = runId ∧ reservation.expiresAt ≤ now := by
  simp only [listExpiredReservations,List.mem_map,List.mem_insertionSort,List.mem_filter,Bool.and_eq_true,
    decide_eq_true_eq,Prod.exists,OrderedMap.mem_entries]
  constructor
  · rintro ⟨key,held,⟨found,run,expired⟩,rfl⟩
    exact ⟨found,run,expired⟩
  · rintro ⟨found,run,expired⟩
    exact ⟨_,_,⟨found,run,expired⟩,rfl⟩

theorem listExpiredReservations_distinct (collation : Collation) (store : Store) (runId : String) (now : Instant) :
    ((store.listExpiredReservations collation runId now).map BudgetReservation.reservationKey).Nodup := by
  simp only [listExpiredReservations,List.map_map]
  have same : BudgetReservation.reservationKey ∘ (fun entry : String × Reservation =>
      ({entry.2 with reservationKey := entry.1} : BudgetReservation)) = Prod.fst := rfl
  rw [same]
  apply ((List.perm_insertionSort _ _).map _).nodup_iff.mpr
  exact store.reservations.distinct.sublist (List.filter_sublist.map _)

end Store
end AgentOS.Checkpoint
