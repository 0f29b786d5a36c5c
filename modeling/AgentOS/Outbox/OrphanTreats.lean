import AgentOS.Outbox.OrphanSettles

/-! Whose session an orphan reconciliation stops before it settles a reservation. -/
namespace AgentOS.Outbox
open Library Checkpoint Routine AgentOS.Action
variable {env : Environment} {world after : World}

def treats : Happening → Bool
  | .sessionCleaned _ => true
  | .startAbsent _ => true
  | _ => false

def treatment (journal : List Happening) : Option Happening := (journal.filter treats).getLast?

theorem treatment_append (early late : List Happening) : treatment (early ++ late) = (treatment late).or (treatment early) := by
  simp [treatment,List.filter_append,List.getLast?_append]

def Plain (happening : Happening) : Prop :=
  match happening with
  | .startAbsent _ | .sessionCancelled _ | .sessionCleaned _ => True
  | _ => False

/-- The guard's record of a first absence: when it was observed and of which effect. -/
def Observed (store : Store) (guard : Request) (firstObservedAt : Instant) (output : Json) : Prop :=
  ∃ success, store.result (guard.extended ":absence-observed").idempotencyKey = some success ∧
    success.kind = "runtime-session-start-absence" ∧ success.output = some output ∧
    output.field? "firstObservedAt" = some (.timestamp firstObservedAt)

/-- What the settlement of a reservation under `guard` rests on, when the
session of `runtimeEffect` was looked for. -/
def RestsOn (store : Store) (started : List Happening) (guard : Request) (now : Instant) (runtimeEffect : Effect)
    (before : List Happening) : Prop :=
  (∃ handle, treatment before = some (.sessionCleaned handle) ∧
    (runtimeEffect.externalRef = some handle ∨ .sessionStarted runtimeEffect.key handle ∈ started)) ∨
  (treatment before = some (.startAbsent runtimeEffect.key) ∧ ∃ firstObservedAt output,
    Observed store guard firstObservedAt output ∧ RUNTIME_START_VISIBILITY_DELAY_MS ≤ now - firstObservedAt)

variable {reservation : BudgetReservation} {answer : Option String} {now : Instant} {guard : Request}

variable {recovery : RecoveryBinding} {reservationKey : String} {runtimeEffect : Effect} {effects : List Effect}

theorem observeAbsence_ok (ok : (observeAbsence env guard now runtimeEffect).exec world = (.ok (),after)) :
    ∃ firstObservedAt output, Observed world.checkpoints guard firstObservedAt output ∧
      RUNTIME_START_VISIBILITY_DELAY_MS ≤ now - firstObservedAt := by
  simp only [observeAbsence,exec_bind_ok] at ok
  obtain ⟨⟨absence,lease⟩,middle,claiming,rest⟩ := ok
  have claimed := ownedClaim_ok claiming
  split at rest
  · simp only [exec_bind_ok,exec_throw,Prod.mk.injEq,reduceCtorEq,false_and,and_false,exists_false] at rest
  · rename_i status
    split at rest
    · rename_i firstObservedAt found
      split at rest
      · cases rest
      · rename_i late
        simp only [Option.bind_eq_some_iff] at found
        obtain ⟨field,⟨output,outputFound,observed⟩,instant⟩ := found
        have recorded : world.checkpoints.result (guard.extended ":absence-observed").idempotencyKey =
            some ⟨absence.runId,absence.kind,absence.externalRef,absence.output⟩ := by
          rw [← claimed.result,Store.result_stored claimed.replaced.stored,Store.success,
            if_pos (not_not.mp status)]
        refine ⟨firstObservedAt,output,⟨_,recorded,claimed.kind,outputFound,?_⟩,not_lt.mp late⟩
        cases field <;> simp_all [Json.instant?]
    · cases rest

/-! ### Looking for a session and stopping it -/

theorem mem_listed {idempotencyKey externalRef : String} (shown : externalRef ∈ Runtime.listed env world idempotencyKey) :
    .sessionStarted idempotencyKey externalRef ∈ world.journal := by
  obtain ⟨happening,inside,picked⟩ := List.mem_filterMap.mp shown
  cases happening with
  | sessionStarted key started =>
    dsimp only at picked
    split at picked
    · rename_i kept
      cases picked
      exact kept.1 ▸ inside
    · cases picked
  | _ => cases picked

theorem reconcileStart_ok {idempotencyKey : String}
    (ok : (Runtime.reconcileStart env idempotencyKey).exec world = (.ok answer,after)) : match answer with
    | none => after.journal = world.journal ++ [.startAbsent idempotencyKey]
    | some handle => after.journal = world.journal ∧ .sessionStarted idempotencyKey handle ∈ world.journal := by
  rw [Runtime.reconcileStart,exec_call_ok] at ok
  have answered := ok.2
  split at answered
  · cases answered
    rfl
  · rename_i externalRef shown
    cases answered
    have inside : externalRef ∈ Runtime.listed env world.ticked idempotencyKey := by simp [shown]
    have started := mem_listed inside
    exact ⟨rfl,started⟩
  · cases answered

theorem recoverRuntimeStart_ok {runId : String} {effect : Effect}
    (ok : (recoverRuntimeStart env runId effect).exec world = (.ok (recovery,answer),after)) : match answer with
    | none => after.journal = world.journal ++ [.startAbsent effect.key]
    | some handle => after.journal = world.journal ∧ .sessionStarted effect.key handle ∈ world.journal := by
  simp only [recoverRuntimeStart,exec_bind_ok,exec_require_ok,resolve,exec_ask_ok] at ok
  obtain ⟨_,_,⟨_,rfl⟩,_,_,⟨_,_,rfl⟩,found,listed,listing,rest⟩ := ok
  have seen := reconcileStart_ok listing
  cases found with
  | none =>
    cases rest
    exact seen
  | some handle =>
    simp only [exec_bind_ok,vault,exec_ask_ok] at rest
    obtain ⟨_,_,⟨_,_,rfl⟩,done⟩ := rest
    cases done
    exact seen

theorem observeAbsence_journal (guard : Request) (now : Instant) (runtimeEffect : Effect) :
    (observeAbsence env guard now runtimeEffect).Keeps World.journal :=
  observeAbsence_takes guard now runtimeEffect (fun _ => rfl) fun _ _ => rfl

theorem locateSession_ok
    (ok : (locateSession env guard now runtimeEffect).exec world = (.ok (recovery,answer),after)) : match answer with
    | some handle => after.journal = world.journal ∧
        (runtimeEffect.externalRef = some handle ∨ .sessionStarted runtimeEffect.key handle ∈ world.journal)
    | none => after.journal = world.journal ++ [.startAbsent runtimeEffect.key] ∧ ∃ firstObservedAt output,
        Observed world.checkpoints guard firstObservedAt output ∧ RUNTIME_START_VISIBILITY_DELAY_MS ≤ now - firstObservedAt := by
  unfold locateSession at ok
  split at ok
  · rename_i externalRef held
    simp only [exec_bind_ok,exec_require_ok,resolve,vault,exec_ask_ok] at ok
    obtain ⟨_,_,⟨_,rfl⟩,_,_,⟨_,_,rfl⟩,_,_,⟨_,rfl,rfl⟩,done⟩ := ok
    cases done
    exact ⟨rfl,.inl held⟩
  · rw [exec_bind_ok] at ok
    obtain ⟨⟨recovered,handle⟩,found,locating,rest⟩ := ok
    have seen := recoverRuntimeStart_ok locating
    have kept : (recoverRuntimeStart env guard.runId runtimeEffect).Keeps World.checkpoints :=
      recoverRuntimeStart_takes _ _ (fun _ => rfl) fun _ => rfl
    have store := kept.of_exec locating
    cases handle with
    | none =>
      simp only [exec_bind_ok] at rest
      obtain ⟨_,_,observing,done⟩ := rest
      cases done
      exact ⟨((observeAbsence_journal _ _ _).of_exec observing).trans seen,store ▸ observeAbsence_ok observing⟩
    | some handle =>
      simp only [exec_bind_ok,exec_checkpoint_ok,exec_require_ok] at rest
      obtain ⟨_,_,⟨_,_,_,claimJournal,_⟩,_,_,⟨_,rfl⟩,_,_,⟨_,_,_,attachJournal,_⟩,done⟩ := rest
      cases done
      exact ⟨attachJournal.trans (claimJournal.trans seen.1),.inr seen.2⟩

theorem stopSession_ok
    {charge : Charge} (ok : (stopSession env reservation recovery answer).exec world = (.ok charge,after)) : match answer with
    | some handle => ∃ added, after.journal = world.journal ++ added ∧ (∀ happening ∈ added, Plain happening) ∧
        treatment added = some (.sessionCleaned handle)
    | none => after.journal = world.journal := by
  cases answer with
  | none =>
    have kept : (Runtime.cleanupAccess env).Keeps World.journal := cleanupAccess_takes fun _ => rfl
    simp only [stopSession,exec_bind_ok,exec_require_ok] at ok
    obtain ⟨_,_,⟨_,rfl⟩,_,_,cleaning,done⟩ := ok
    cases done
    exact kept.of_exec cleaning
  | some handle =>
    have cancelling : (Runtime.cancel env handle).Takes (Logs Plain) :=
      takes_happen (fun _ => .same rfl) fun _ => .log _ trivial
    have reporting : (Runtime.usage env).Keeps World.journal := takes_ask fun _ => rfl
    simp only [stopSession,Runtime.cleanup,exec_bind_ok,exec_outcome,vault,exec_ask_ok,exec_happen_ok,Prod.mk.injEq,
      Except.ok.injEq] at ok
    obtain ⟨_,cancelled,⟨_,cancel⟩,_,used,⟨_,usage⟩,_,_,⟨_,rfl⟩,_,_,⟨_,_,rfl⟩,_,_,⟨_,_,rfl⟩,done⟩ := ok
    cases done
    obtain ⟨added,grown,plain⟩ := Logs.steps (cancelling.exec world)
    rw [cancel] at grown
    have same : used.journal = cancelled.journal := usage ▸ reporting.exec cancelled
    refine ⟨added ++ [.sessionCleaned handle],?_,?_,?_⟩
    · simp [same,grown]
    · simpa [or_imp,forall_and] using ⟨plain,trivial⟩
    · simp [treatment,treats]

/-! ### One reservation -/

/-- What a reconciliation of one reservation adds to the journal, however far it
comes: plain happenings, then perhaps the settlement. -/
def Adds (effects : List Effect) (store : Store) (started : List Happening) (request : Request) (now : Instant)
    (reservation : BudgetReservation) (added : List Happening) : Prop :=
  (∀ happening ∈ added, Plain happening) ∨ ∃ runtimeEffect before,
    runtimeIntent effects reservation.stepKey = some runtimeEffect ∧
    added = before ++ [.reservationSettled reservation.reservationKey] ∧ (∀ happening ∈ before, Plain happening) ∧
    RestsOn store started (reconcileGuard request reservation) now runtimeEffect before

def SettlesOnce (reservationKey : String) (before after : World) : Prop :=
  (after.journal = before.journal ∧ (before.checkpoints.reservations.get? reservationKey = none →
    after.checkpoints.reservations.get? reservationKey = none)) ∨
  (before.checkpoints.reservations.get? reservationKey ≠ none ∧
    after.checkpoints.reservations.get? reservationKey = none ∧
    after.journal = before.journal ++ [.reservationSettled reservationKey])

theorem SettlesOnce.trans {first second third : World}
    (left : SettlesOnce reservationKey first second) (right : SettlesOnce reservationKey second third) :
    SettlesOnce reservationKey first third := by
  rcases left with ⟨same,absent⟩ | ⟨held,gone,settled⟩
  · rcases right with ⟨again,still⟩ | ⟨held,gone,settled⟩
    · exact .inl ⟨again.trans same,fun none => still (absent none)⟩
    · exact .inr ⟨fun none => held (absent none),gone,by rw [settled,same]⟩
  · rcases right with ⟨again,still⟩ | ⟨twice,_⟩
    · exact .inr ⟨held,still gone,by rw [again,settled]⟩
    · exact absurd gone twice

theorem SettlesOnce.steps {first second : World} (taken : Relation.ReflTransGen (SettlesOnce reservationKey) first second) :
    SettlesOnce reservationKey first second := by
  induction taken with
  | refl => exact .inl ⟨rfl,id⟩
  | tail _ last ih => exact ih.trans last

theorem settleReservation_takes (reservation : BudgetReservation) (recovery : RecoveryBinding) (charge : Charge) (now : Instant) :
    (settleReservation env reservation recovery charge now).Takes (SettlesOnce reservation.reservationKey) := by
  have passed : ∀ world : World, SettlesOnce reservation.reservationKey world world.ticked := fun _ => .inl ⟨rfl,id⟩
  refine .bind (takes_repository passed fun _ _ _ _ _ => .inl ⟨rfl,id⟩) fun _ => .bind (takes_readRepository passed) fun _ =>
    .bind (budgetLimitsForRun_takes _ passed) fun _ => .bind (projectDailyUsage_takes _ _ passed) fun _ =>
      .bind (takes_settleSession passed ?_) fun _ => takes_checkpoint passed ?_
  · intro _ world settlement store settled
    have erased := (Store.settleSession_ok settled).2.2
    simp only [settlementLog]
    split
    · rename_i absent
      exact .inl ⟨by simp,fun _ => by simp [erased,OrderedMap.get?_erase]⟩
    · rename_i held
      exact .inr ⟨by simp [held],by simp [erased,OrderedMap.get?_erase],rfl⟩
  · intro _ world _ store released
    cases released
    exact .inl ⟨rfl,fun absent => by rwa [Store.releaseSession_reservations]⟩

theorem Observed.of_result {before after : Store} {firstObservedAt : Instant} {output : Json}
    (kept : ∀ key, after.result key = before.result key) (observed : Observed after guard firstObservedAt output) :
    Observed before guard firstObservedAt output := by
  obtain ⟨success,found,recorded⟩ := observed
  exact ⟨success,kept _ ▸ found,recorded⟩

theorem reconcileReservation_adds (request : Request) (now : Instant) (effects : List Effect)
    (reservation : BudgetReservation) (steps : Nat) (world : World) :
    ∃ added, ((reconcileReservation env request now effects reservation).cut steps world).journal = world.journal ++ added ∧
      Adds effects world.checkpoints world.journal request now reservation added := by
  have passed : ∀ world : World, Logs Plain world world.ticked := fun _ => .same rfl
  have plainly : ∀ added, (∀ happening ∈ added, Plain happening) →
      Adds effects world.checkpoints world.journal request now reservation added := fun _ plain => .inl plain
  unfold reconcileReservation
  split
  · exact ⟨[],by simp,plainly [] (by simp)⟩
  rename_i runtimeEffect chosen
  refine cut_bind_logs plainly (.same rfl) (ownedClaim_takes _ _ _ passed fun _ _ _ _ _ => .same rfl) ?_
  rintro ⟨effect,lease⟩ guarded later claiming before
  have claimed := ownedClaim_ok claiming
  dsimp only
  split
  · rw [cut_pure]
    exact ⟨[],by simp [claimed.journal],plainly [] (by simp)⟩
  refine cut_bind_logs plainly before (takes_checkpoint passed fun _ _ _ _ _ => .same rfl) ?_
  intro _ started later starting before
  rw [markEffectStarted,exec_checkpoint_ok] at starting
  have quiet := claimed.quiet.trans (.start starting.2.1)
  refine cut_bind_logs plainly before (locateSession_takes _ _ _ passed (fun _ _ => .same rfl) fun _ => .log _ trivial) ?_
  rintro ⟨recovery,handle⟩ located later locating before
  have found := locateSession_ok locating
  refine cut_bind_logs plainly before (stopSession_takes _ _ _ passed (fun _ _ => .log _ trivial) fun _ _ =>
    .log _ trivial) ?_
  intro charge stopped later stopping before
  have rests : ∃ added, stopped.journal = world.journal ++ added ∧ (∀ happening ∈ added, Plain happening) ∧
      RestsOn world.checkpoints world.journal (reconcileGuard request reservation) now runtimeEffect added := by
    have startJournal : started.journal = world.journal := starting.2.2.2.1.trans claimed.journal
    have stopJournal := stopSession_ok stopping
    cases handle with
    | some handle =>
      obtain ⟨locatedJournal,origin⟩ := found
      obtain ⟨added,grown,plain,last⟩ := stopJournal
      refine ⟨added,by rw [grown,locatedJournal,startJournal],plain,.inl ⟨handle,last,?_⟩⟩
      rwa [startJournal] at origin
    | none =>
      obtain ⟨locatedJournal,firstObservedAt,output,observed,late⟩ := found
      refine ⟨[.startAbsent runtimeEffect.key],by rw [stopJournal,locatedJournal,startJournal],by simp [Plain],
        .inr ⟨rfl,firstObservedAt,output,observed.of_result quiet.result,late⟩⟩
  obtain ⟨added,grown,plain,rests⟩ := rests
  have settled : ∀ world' : World, SettlesOnce reservation.reservationKey stopped world' →
      ∃ added, world'.journal = world.journal ++ added ∧
        Adds effects world.checkpoints world.journal request now reservation added := by
    rintro world' (⟨same,_⟩ | ⟨_,_,settled⟩)
    · exact ⟨added,same.trans grown,plainly added plain⟩
    · exact ⟨added ++ [.reservationSettled reservation.reservationKey],by rw [settled,grown,List.append_assoc],
        .inr ⟨runtimeEffect,added,chosen,rfl,plain,rests⟩⟩
  have once : ∀ world : World, SettlesOnce reservation.reservationKey world world.ticked := fun _ => .inl ⟨rfl,id⟩
  apply settled
  apply SettlesOnce.steps
  refine Takes.cut (.bind (settleReservation_takes reservation recovery charge now) fun _ =>
    .bind (failOrphanedRun_takes _ _ once fun _ _ => .inl ⟨rfl,id⟩) fun _ =>
      .bind (takes_checkpoint once ?_) fun _ => takes_pure _) later stopped
  intro _ world _ store completed
  obtain ⟨_,_,_,replaced⟩ := (Store.completeEffect_ok completed).1.found
  exact .inl ⟨rfl,fun absent => by rwa [replaced.reservations]⟩

/-! ### All expired reservations -/

theorem Observed.before_reconcile {request guard : Request} {now firstObservedAt : Instant} {output : Json}
    (ok : (reconcileReservation env request now effects reservation).exec world = (.ok (),after))
    (observed : Observed after.checkpoints guard firstObservedAt output) :
    Observed world.checkpoints guard firstObservedAt output := by
  obtain ⟨success,found,kind,recorded⟩ := observed
  refine ⟨success,?_,kind,recorded⟩
  obtain ⟨kept,⟨guarded,guardFound,guardKind⟩,_⟩ := reconcileReservation_ok ok
  rw [← kept]
  · exact found
  · intro same
    rw [same,guardFound] at found
    cases found
    exact absurd (guardKind.symm.trans kind) (by decide)

theorem RestsOn.of_prefix {store earlier : Store} {started origin : List Happening}
    {early before : List Happening} (rests : RestsOn store started guard now runtimeEffect before)
    (observed : ∀ firstObservedAt output, Observed store guard firstObservedAt output →
      Observed earlier guard firstObservedAt output) (same : ∀ handle, .sessionStarted runtimeEffect.key handle ∈ started →
      .sessionStarted runtimeEffect.key handle ∈ origin) : RestsOn earlier origin guard now runtimeEffect (early ++ before) := by
  rw [RestsOn,treatment_append]
  rcases rests with ⟨handle,last,source⟩ | ⟨last,firstObservedAt,output,seen,late⟩
  · exact .inl ⟨handle,by rw [last]; rfl,source.imp_right (same handle)⟩
  · exact .inr ⟨by rw [last]; rfl,firstObservedAt,output,observed _ _ seen,late⟩

/-- Every settlement in `added` is of a listed reservation and rests on the
session its step's runtime intent names. -/
def Settlements (effects : List Effect) (store : Store) (started : List Happening) (request : Request) (now : Instant)
    (reservations : List BudgetReservation) (added : List Happening) : Prop :=
  ∀ before reservationKey later, added = before ++ .reservationSettled reservationKey :: later →
    ∃ reservation ∈ reservations, reservation.reservationKey = reservationKey ∧ ∃ runtimeEffect,
      runtimeIntent effects reservation.stepKey = some runtimeEffect ∧
      RestsOn store started (reconcileGuard request reservation) now runtimeEffect before

private theorem plain_settles_nothing {added before later : List Happening} (plain : ∀ happening ∈ added, Plain happening)
    (split : added = before ++ .reservationSettled reservationKey :: later) : False :=
  plain (.reservationSettled reservationKey) (by simp [split])

private theorem settlement_last {plain before later : List Happening} {first second : String}
    (allPlain : ∀ happening ∈ plain, Plain happening)
    (split : plain ++ [.reservationSettled first] = before ++ .reservationSettled second :: later) :
    before = plain ∧ second = first := by
  rcases List.append_eq_append_iff.mp split with ⟨middle,rfl,rest⟩ | ⟨middle,rfl,rest⟩
  · cases middle with
    | nil => simpa [eq_comm] using And.left (List.cons.inj rest)
    | cons head tail => simp at rest
  · cases middle with
    | nil => simpa using (List.cons.inj rest).1
    | cons head tail =>
      obtain ⟨rfl,_⟩ := List.cons.inj rest
      exact (plain_settles_nothing allPlain rfl).elim

variable {started : List Happening} {added : List Happening} {request : Request}

theorem Adds.settlements {store : Store} {reservations : List BudgetReservation}
    (adds : Adds effects store started request now reservation added) (inside : reservation ∈ reservations) :
    Settlements effects store started request now reservations added := by
  intro before reservationKey later split
  rcases adds with plain | ⟨runtimeEffect,rested,chosen,rfl,plain,rests⟩
  · exact (plain_settles_nothing plain split).elim
  · obtain ⟨rfl,rfl⟩ := settlement_last plain split
    exact ⟨reservation,inside,rfl,runtimeEffect,chosen,rests⟩

theorem Adds.starts_nothing {store : Store}
    (adds : Adds effects store started request now reservation added) (idempotencyKey externalRef : String) :
    .sessionStarted idempotencyKey externalRef ∉ added := by
  intro inside
  rcases adds with plain | ⟨_,before,_,rfl,plain,_⟩
  · exact plain _ inside
  · rcases List.mem_append.mp inside with early | last
    · exact plain _ early
    · simp at last

theorem reconcileReservations_settlements (request : Request) (now : Instant) (effects : List Effect)
    (reservations : List BudgetReservation) (steps : Nat) (world : World) :
    ∃ added, ((reservations.forM (reconcileReservation env request now effects)).cut steps world).journal = world.journal ++ added ∧
      Settlements effects world.checkpoints world.journal request now reservations added := by
  induction reservations generalizing steps world with
  | nil => exact ⟨[],by simp [List.forM],fun before _ _ split => by simp at split⟩
  | cons head rest ih =>
    change ∃ added, ((reconcileReservation env request now effects head >>= fun _ =>
      rest.forM (reconcileReservation env request now effects)).cut steps world).journal = _ ∧ _
    rcases cut_bind (reconcileReservation env request now effects head) (fun _ =>
      rest.forM (reconcileReservation env request now effects)) steps world with early | ⟨_,middle,later,first,late⟩
    · obtain ⟨added,grown,adds⟩ := reconcileReservation_adds request now effects head steps world
      exact ⟨added,early ▸ grown,adds.settlements List.mem_cons_self⟩
    · obtain ⟨done,same⟩ := exists_cut (reconcileReservation env request now effects head) world
      obtain ⟨added,grown,adds⟩ := reconcileReservation_adds request now effects head done world
      rw [same,first] at grown
      obtain ⟨more,grownMore,settlements⟩ := ih later middle
      refine ⟨added ++ more,by rw [late,grownMore,grown,List.append_assoc],?_⟩
      have lifted : ∀ before reservationKey after, more = before ++ .reservationSettled reservationKey :: after →
          ∃ reservation ∈ head::rest, reservation.reservationKey = reservationKey ∧ ∃ runtimeEffect,
            runtimeIntent effects reservation.stepKey = some runtimeEffect ∧
            RestsOn world.checkpoints world.journal (reconcileGuard request reservation) now runtimeEffect
              (added ++ before) := by
        intro before reservationKey after split
        obtain ⟨reservation,inside,named,runtimeEffect,chosen,rests⟩ := settlements before reservationKey after split
        refine ⟨reservation,List.mem_cons_of_mem _ inside,named,runtimeEffect,chosen,rests.of_prefix ?_ ?_⟩
        · exact fun _ _ observed => observed.before_reconcile first
        · intro handle started
          rw [grown] at started
          exact (List.mem_append.mp started).resolve_right (adds.starts_nothing _ _)
      intro before reservationKey after split
      rcases List.append_eq_append_iff.mp split with ⟨tail,rfl,rest⟩ | ⟨tail,rfl,rest⟩
      · exact lifted tail reservationKey after rest
      · cases tail with
        | nil => simpa using lifted [] reservationKey after rest.symm
        | cons _ tail =>
          obtain ⟨rfl,_⟩ := List.cons.inj rest
          exact adds.settlements List.mem_cons_self before reservationKey tail rfl

theorem requestOrphanReconciliation_settlements (env : Environment) (request : Request) (steps : Nat) (world : World) :
    ∃ added, ((requestOrphanReconciliation env request).cut steps world).journal = world.journal ++ added ∧
      Settlements (world.checkpoints.listEffects env.collation request.runId) world.checkpoints world.journal request
        (env.clock world.tick) (expiredAt env world request.runId) added := by
  have nothing : Settlements (world.checkpoints.listEffects env.collation request.runId) world.checkpoints world.journal
      request (env.clock world.tick) (expiredAt env world request.runId) [] := fun _ _ _ split => by simp at split
  have plainly : ∀ added : List Happening, (∀ happening ∈ added, False) →
      Settlements (world.checkpoints.listEffects env.collation request.runId) world.checkpoints world.journal request
        (env.clock world.tick) (expiredAt env world request.runId) added := by
    intro added none
    rw [List.eq_nil_iff_forall_not_mem.mpr none]
    exact nothing
  have passed : ∀ world : World, Logs (fun _ => False) world world.ticked := fun _ => .same rfl
  refine cut_bind_logs plainly (.same rfl) (takes_require _ _) ?_
  intro _ composed later composing before
  rw [exec_require_ok] at composing
  obtain ⟨_,rfl⟩ := composing
  refine cut_bind_logs plainly before (takes_now passed) ?_
  intro now timed later timing before
  rw [exec_now_ok] at timing
  obtain ⟨rfl,rfl⟩ := timing
  refine cut_bind_logs plainly before (takes_readCheckpoints passed) ?_
  intro expired listed later listing before
  rw [exec_readCheckpoints_ok] at listing
  obtain ⟨_,found,rfl⟩ := listing
  split
  · rw [cut_pure]
    exact ⟨[],by simp,nothing⟩
  refine cut_bind_logs plainly before (takes_readCheckpoints passed) ?_
  intro effects loaded later loading before
  rw [listEffects,exec_readCheckpoints_ok] at loading
  obtain ⟨_,rfl,rfl⟩ := loading
  exact found ▸ reconcileReservations_settlements request _ _ _ later _

/-! ### Whose session -/

def startsApart : Happening → Happening → Bool
  | .sessionStarted first left, .sessionStarted second right => decide (left = right → first = second)
  | _, _ => true

/-- What the history of a world guarantees of its runtime sessions: an effect's
reference was started under the effect's key, and no reference was started twice. -/
structure Traced (world : World) : Prop where
  referenced : ∀ key effect externalRef, world.checkpoints.effects.get? key = some effect →
    effect.kind = "runtime-session" → effect.externalRef = some externalRef →
    .sessionStarted key externalRef ∈ world.journal
  once : ∀ first second externalRef, .sessionStarted first externalRef ∈ world.journal →
    .sessionStarted second externalRef ∈ world.journal → first = second

instance (world : World) : Decidable (Traced world) :=
  decidable_of_iff
    ((∀ entry ∈ world.checkpoints.effects.entries, entry.2.kind = "runtime-session" →
        ∀ externalRef ∈ entry.2.externalRef, .sessionStarted entry.1 externalRef ∈ world.journal) ∧
      ∀ first ∈ world.journal, ∀ second ∈ world.journal, startsApart first second)
    (by
      constructor
      · rintro ⟨referenced,once⟩
        refine ⟨fun key effect externalRef found kind held => ?_,fun first second externalRef left right => ?_⟩
        · exact referenced (key,effect) ((OrderedMap.mem_entries _ _ _).mpr found) kind externalRef held
        · simpa [startsApart] using once _ left _ right
      · rintro ⟨referenced,once⟩
        refine ⟨fun entry inside kind externalRef held => ?_,fun first left second right => ?_⟩
        · exact referenced entry.1 entry.2 externalRef ((OrderedMap.mem_entries _ _ _).mp inside) kind held
        · unfold startsApart
          split
          · rename_i leftKey _ rightKey _
            simp only [decide_eq_true_eq]
            rintro rfl
            exact once _ _ _ left right
          · rfl)

/-- The settlement rests on the session of the effect under `key`: that session
was cleaned up, or seen to be absent after an absence recorded of it before. -/
def RestsOnOwn (world : World) (guard : Request) (now : Instant) (key : String) (before : List Happening) : Prop :=
  (∃ handle, treatment before = some (.sessionCleaned handle) ∧ .sessionStarted key handle ∈ world.journal) ∨
  (treatment before = some (.startAbsent key) ∧ ∃ firstObservedAt output,
    Observed world.checkpoints guard firstObservedAt output ∧
    output.field? "runtimeEffectKey" = some (.str key) ∧ RUNTIME_START_VISIBILITY_DELAY_MS ≤ now - firstObservedAt)

/-- The runtime intent a call that starts at `world` picks for a reservation. -/
def intentKey (env : Environment) (world : World) (reservation : BudgetReservation) : Option String :=
  (runtimeIntent (world.checkpoints.listEffects env.collation reservation.runId) reservation.stepKey).map (·.key)

/-- The effect a reservation was made for: its key is what follows `reservation:`. -/
def ownEffectKey (reservation : BudgetReservation) : String :=
  String.ofList (reservation.reservationKey.toList.drop "reservation:".length)

theorem expired_unique {env : Environment} {world : World} {runId : String} {first second : BudgetReservation}
    (left : first ∈ expiredAt env world runId) (right : second ∈ expiredAt env world runId)
    (same : first.reservationKey = second.reservationKey) : first = second := by
  have leftHeld := ((Store.mem_listExpiredReservations _ _ _ _ _).mp left).1
  have rightHeld := ((Store.mem_listExpiredReservations _ _ _ _ _).mp right).1
  rw [same,rightHeld] at leftHeld
  obtain ⟨first,key⟩ := first
  cases leftHeld
  cases same
  rfl

/-- Whatever a reconciliation settles, however far it came, rests on the session
of the reservation's own attempt when the first effect listed for the step is
that attempt's and an absence recorded for it before names it; and when another
effect is listed first it does not. -/
theorem requestOrphanReconciliation_rests_on_own (env : Environment) (request : Request) (world : World) (steps : Nat)
    (reservation : BudgetReservation) (before later : List Happening) (traced : Traced world)
    (expired : reservation ∈ expiredAt env world request.runId)
    (settled : ((requestOrphanReconciliation env request).cut steps world).journal =
      world.journal ++ (before ++ .reservationSettled reservation.reservationKey :: later)) :
    (intentKey env world reservation = some (ownEffectKey reservation) → (∀ firstObservedAt output,
        Observed world.checkpoints (reconcileGuard request reservation) firstObservedAt output →
        output.field? "runtimeEffectKey" = some (.str (ownEffectKey reservation))) →
      RestsOnOwn world (reconcileGuard request reservation) (env.clock world.tick) (ownEffectKey reservation) before) ∧
    (RestsOnOwn world (reconcileGuard request reservation) (env.clock world.tick) (ownEffectKey reservation) before →
      intentKey env world reservation = some (ownEffectKey reservation)) := by
  obtain ⟨added,grown,settlements⟩ := requestOrphanReconciliation_settlements env request steps world
  obtain ⟨other,inside,same,runtimeEffect,chosen,rests⟩ :=
    settlements before reservation.reservationKey later (List.append_cancel_left (grown.symm.trans settled))
  obtain rfl := expired_unique inside expired same
  have run := ((Store.mem_listExpiredReservations _ _ _ _ _).mp expired).2.1
  have intent : intentKey env world other = some runtimeEffect.key := by
    rw [intentKey,run,chosen]
    rfl
  have listed := List.mem_of_find?_eq_some chosen
  have kind : runtimeEffect.kind = "runtime-session" := by
    have found := List.find?_some chosen
    simp only [Bool.and_eq_true,decide_eq_true_eq] at found
    exact found.1
  have stored := ((Store.mem_listEffects _ _ _ _).mp listed).1
  rw [intent]
  constructor
  · intro own recorded
    replace own := Option.some.inj own
    rcases rests with ⟨handle,last,held | started⟩ | ⟨last,firstObservedAt,output,observed,late⟩
    · exact .inl ⟨handle,last,own ▸ traced.referenced _ _ _ stored kind held⟩
    · exact .inl ⟨handle,last,own ▸ started⟩
    · exact .inr ⟨own ▸ last,firstObservedAt,output,observed,recorded _ _ observed,late⟩
  · rintro (⟨handle,last,started⟩ | ⟨last,_⟩)
    · rcases rests with ⟨found,same,held | began⟩ | ⟨same,_⟩ <;> rw [same] at last <;> cases last
      · exact congrArg some (traced.once _ _ _ (traced.referenced _ _ _ stored kind held) started)
      · exact congrArg some (traced.once _ _ _ began started)
    · rcases rests with ⟨found,same,_⟩ | ⟨same,_⟩ <;> rw [same] at last
      · cases last
      · exact congrArg some (Happening.startAbsent.inj (Option.some.inj last))

theorem requestOrphanReconciliation_rests_on_own_orphaned :
    RestsOnOwn orphaned (reconcileGuard orphanRequest (attemptReservation 1 0)) (Environment.steady.clock 30)
      (runtimeEffectKey "run-1" "implementation" 1) [.sessionCancelled "session-1",.sessionCleaned "session-1"] := by
  refine (requestOrphanReconciliation_rests_on_own .steady orphanRequest orphaned 100 (attemptReservation 1 0) _ []
    (by decide) (by decide) (by decide)).1 (by decide) ?_
  rintro _ _ ⟨success,found,_⟩
  have none : orphaned.checkpoints.result
      ((reconcileGuard orphanRequest (attemptReservation 1 0)).extended ":absence-observed").idempotencyKey = none := rfl
  rw [none] at found
  cases found

/-- Both attempts of a step are orphaned: the first one's cleanup failed too. -/
def orphanedTwice : World := {attempted orphaned 2 "session-2" 60000 with tick := 60}

/-- The second attempt's reservation is settled after the first attempt's
session was cleaned up once more; its own session is left alone. -/
theorem orphanedTwice_rests_on_another :
    ∃ before later, ((requestOrphanReconciliation .steady orphanRequest).cut 100 orphanedTwice).journal = orphanedTwice.journal ++
          (before ++ .reservationSettled (attemptReservation 2 60000).reservationKey :: later) ∧
      Traced orphanedTwice ∧ attemptReservation 2 60000 ∈ expiredAt .steady orphanedTwice "run-1" ∧
      ¬ RestsOnOwn orphanedTwice (reconcileGuard orphanRequest (attemptReservation 2 60000))
        (Environment.steady.clock 60) (runtimeEffectKey "run-1" "implementation" 2) before := by
  refine ⟨[.sessionCancelled "session-1",.sessionCleaned "session-1",
    .reservationSettled (attemptReservation 1 0).reservationKey,.sessionCancelled "session-1",
    .sessionCleaned "session-1"],[],by decide,by decide,by decide,?_⟩
  rintro (⟨handle,last,started⟩ | ⟨last,_⟩)
  · cases last
    exact absurd started (by decide)
  · exact absurd last (by decide)

end AgentOS.Outbox
