import AgentOS.Checkpoint.Effects
import AgentOS.Library.Fence
import Mathlib.Data.List.Induction

/-! Runs of the effect operations by any number of owners, and the leases their
claims have answered. A lease is superseded once another owner claims the
effect, or once it is claimed again after a resume has deleted it. -/
namespace AgentOS.Checkpoint
open Library

inductive Operation where
  | claimEffect (draft : EffectDraft) (claim : EffectClaim)
  | markEffectStarted (lease : EffectLease) (now : Instant)
  | attachExternalRef (lease : EffectLease) (externalRef : String) (now : Instant)
  | completeEffect (lease : EffectLease) (output : Json) (now : Instant)
  | failEffect (lease : EffectLease) (error : String) (deadLetter : Bool) (now : Instant)
  | renewEffect (lease : EffectLease) (now leaseExpiresAt : Instant)
  | releaseRunForResume (runId : String)

namespace Operation

def lease? : Operation → Option EffectLease
  | .claimEffect _ _ => none
  | .markEffectStarted lease _ => some lease
  | .attachExternalRef lease _ _ => some lease
  | .completeEffect lease _ _ => some lease
  | .failEffect lease _ _ _ => some lease
  | .renewEffect lease _ _ => some lease
  | .releaseRunForResume _ => none

def perform (store : Store) : Operation → Except Fault Store
  | .claimEffect draft claim => (store.claimEffect draft claim).map Prod.snd
  | .markEffectStarted lease now => (store.markEffectStarted lease now).map Prod.snd
  | .attachExternalRef lease externalRef now => (store.attachExternalRef lease externalRef now).map Prod.snd
  | .completeEffect lease output now => (store.completeEffect lease output now).map Prod.snd
  | .failEffect lease error deadLetter now => (store.failEffect lease error deadLetter now).map Prod.snd
  | .renewEffect lease now leaseExpiresAt => (store.renewEffect lease now leaseExpiresAt).map Prod.snd
  | .releaseRunForResume runId => .ok (store.releaseRunForResume runId).2

def free (store : Store) (draft : EffectDraft) (claim : EffectClaim) : Bool :=
  match store.effects.get? draft.key with
  | none => false
  | some existing => Store.claimable existing claim

def Replays (store : Store) (draft : EffectDraft) : Prop :=
  ∀ existing, store.effects.get? draft.key = some existing → existing.runId = draft.runId ∧
    existing.kind = draft.kind ∧ existing.inputFingerprint = draft.inputFingerprint

/-- What an operation that was not rejected means for the leases of the effect under a key. -/
def fence (store : Store) (operation : Operation) (key : String) (fence : Fence String) : Fence String :=
  match operation with
  | .claimEffect draft claim =>
    if key = draft.key then fence.claim claim.ownerId (free store draft claim) else fence
  | .releaseRunForResume runId =>
    match store.effects.get? key with
    | none => fence
    | some effect => if Store.unfinished runId effect then fence.delete else fence
  | _ => fence

end Operation

def EffectLease.token (lease : EffectLease) : Token String := ⟨lease.ownerId,lease.leaseVersion⟩

structure History where
  store : Store := {}
  fences : String → Fence String := fun _ => {}

namespace History

def step (history : History) (operation : Operation) : History :=
  match operation.perform history.store with
  | .error _ => history
  | .ok after => {
      store := after
      fences := fun key => operation.fence history.store key (history.fences key)}

def run (operations : List Operation) : History := operations.foldl step {}

def Fenced (history : History) : Prop :=
  ∀ lease : EffectLease, lease.token ∈ (history.fences lease.key).superseded →
    ∀ operation : Operation, operation.lease? = some lease →
      ∃ fault, operation.perform history.store = .error fault

/-- A claim that creates or takes over its effect does so under an owner and a
version that were not in force before a resume deleted the effect. -/
def Fresh (history : History) : Operation → Prop
  | .claimEffect draft claim => Operation.Replays history.store draft →
      (history.fences draft.key).Fresh claim.ownerId (Operation.free history.store draft claim)
  | _ => True

end History

def KeepsOutputs (before after : Store) : Prop :=
  ∀ key effect, before.effects.get? key = some effect → effect.status = .succeeded →
    ∃ kept, after.effects.get? key = some kept ∧ kept.status = .succeeded ∧ kept.output = effect.output

/-! ### What an operation does -/

theorem map_snd_ok {result : Except Fault (Effect × Store)} {after : Store}
    (ok : result.map Prod.snd = .ok after) : ∃ effect, result = .ok (effect,after) := by
  cases result with
  | error fault => simp [Except.map] at ok
  | ok answer =>
    obtain ⟨effect,next⟩ := answer
    simp only [Except.map,Except.ok.injEq] at ok
    exact ⟨effect,by rw [ok]⟩

/-- What an operation under a lease makes of the effect it owns: owner and version stay, and so does a success. -/
structure Retains (existing effect : Effect) : Prop where
  ownerId : effect.ownerId = existing.ownerId
  leaseVersion : effect.leaseVersion = existing.leaseVersion
  succeeded : existing.status = .succeeded → effect.status = .succeeded ∧ effect.output = existing.output

namespace Operation
variable {store after : Store} {operation : Operation}

theorem Replays.answered {draft : EffectDraft} (replays : Replays store draft) (claim : EffectClaim) :
    ∃ answer, store.claimEffect draft claim = .ok answer := by
  unfold Store.claimEffect
  split
  · rename_i existing found
    obtain ⟨run,kind,input⟩ := replays existing found
    simp only [run,kind,input,ne_eq,not_true_eq_false,or_self,if_false]
    split <;> exact ⟨_,rfl⟩
  · exact ⟨_,rfl⟩

section
variable {lease : EffectLease} (presented : operation.lease? = some lease)
include presented

theorem retains (ok : operation.perform store = .ok after) : ∃ existing effect, store.owned lease = .ok existing ∧
      Replaces store lease.key effect after ∧ Retains existing effect := by
  cases operation with
  | claimEffect => cases presented
  | releaseRunForResume => cases presented
  | markEffectStarted held now =>
    cases presented
    obtain ⟨effect,ok⟩ := map_snd_ok ok
    obtain ⟨existing,owned,rfl,replaced⟩ := Store.markEffectStarted_ok ok
    refine ⟨existing,_,owned,replaced,?_⟩
    unfold Store.startedBy
    split
    · exact ⟨rfl,rfl,fun done => ⟨done,rfl⟩⟩
    · rename_i unstarted
      exact ⟨rfl,rfl,fun done => by simp [done] at unstarted⟩
  | attachExternalRef held externalRef now =>
    cases presented
    obtain ⟨effect,ok⟩ := map_snd_ok ok
    obtain ⟨⟨existing,owned,rfl,replaced⟩,_⟩ := Store.attachExternalRef_ok ok
    exact ⟨existing,_,owned,replaced,rfl,rfl,fun done => ⟨done,rfl⟩⟩
  | completeEffect held output now =>
    cases presented
    obtain ⟨effect,ok⟩ := map_snd_ok ok
    obtain ⟨⟨existing,owned,rfl,replaced⟩,_⟩ := Store.completeEffect_ok ok
    refine ⟨existing,_,owned,replaced,?_⟩
    unfold Store.completedBy
    split
    · exact ⟨rfl,rfl,fun done => ⟨done,rfl⟩⟩
    · rename_i unfinished
      exact ⟨rfl,rfl,fun done => absurd done unfinished⟩
  | failEffect held error deadLetter now =>
    cases presented
    obtain ⟨effect,ok⟩ := map_snd_ok ok
    obtain ⟨existing,owned,rfl,replaced⟩ := Store.failEffect_ok ok
    refine ⟨existing,_,owned,replaced,?_⟩
    unfold Store.failedBy
    split
    · exact ⟨rfl,rfl,fun done => ⟨done,rfl⟩⟩
    · rename_i unfinished
      exact ⟨rfl,rfl,fun done => absurd done unfinished⟩
  | renewEffect held now leaseExpiresAt =>
    cases presented
    obtain ⟨effect,ok⟩ := map_snd_ok ok
    obtain ⟨existing,owned,rfl,replaced⟩ := Store.renewEffect_ok ok
    exact ⟨existing,_,owned,replaced,rfl,rfl,fun done => ⟨done,rfl⟩⟩

theorem rejects (stale : ∀ existing, store.effects.get? lease.key = some existing → existing.ownerId = some lease.ownerId →
      existing.leaseVersion ≠ lease.leaseVersion) : ∃ fault, operation.perform store = .error fault := by
  cases performed : operation.perform store with
  | error fault => exact ⟨fault,rfl⟩
  | ok after =>
    obtain ⟨existing,_,owned,_⟩ := retains presented performed
    obtain ⟨found,owner,version⟩ := Store.owned_ok owned
    exact absurd version (stale existing found owner)

end

theorem keepsOutputs (ok : operation.perform store = .ok after) : KeepsOutputs store after := by
  intro key effect held done
  have leased : ∀ {lease}, operation.lease? = some lease →
      ∃ kept, after.effects.get? key = some kept ∧ kept.status = .succeeded ∧ kept.output = effect.output := by
    intro lease presented
    obtain ⟨existing,next,owned,replaced,retains⟩ := retains presented ok
    by_cases same : key = lease.key
    · subst same
      have found := (Store.owned_ok owned).1
      cases held.symm.trans found
      exact ⟨next,replaced.stored,retains.succeeded done⟩
    · exact ⟨effect,by rw [replaced.others key same,held],done,rfl⟩
  cases operation with
  | claimEffect draft claim =>
    obtain ⟨next,ok⟩ := map_snd_ok ok
    obtain ⟨replaced,answer,_⟩ := Store.claimEffect_ok ok
    by_cases same : key = draft.key
    · subst same
      have kept : next = effect := by
        rw [answer,held]
        simp [Store.claimed,Store.claimable,done]
      exact ⟨effect,kept ▸ replaced.stored,done,rfl⟩
    · exact ⟨effect,by rw [replaced.others key same,held],done,rfl⟩
  | releaseRunForResume runId =>
    cases ok
    refine ⟨effect,?_,done,rfl⟩
    simp [Store.releaseRunForResume,OrderedMap.get?_filter,held,Store.unfinished,done]
  | markEffectStarted => exact leased rfl
  | attachExternalRef => exact leased rfl
  | completeEffect => exact leased rfl
  | failEffect => exact leased rfl
  | renewEffect => exact leased rfl

end Operation

/-! ### The leases follow the store -/

/-- The token in force under a key is the owner and version of the effect stored there. -/
def InForce : Option Effect → Option (Token String) → Prop
  | none, token => token = none
  | some effect, token => ∃ owner, effect.ownerId = some owner ∧ token = some ⟨owner,effect.leaseVersion⟩

structure History.Tracks (history : History) : Prop where
  sound : ∀ key, (history.fences key).Sound
  inForce : ∀ key, InForce (history.store.effects.get? key) (history.fences key).current

theorem InForce.retained {existing effect : Effect} {token : Option (Token String)}
    (inForce : InForce (some existing) token) (retains : Retains existing effect) : InForce (some effect) token := by
  obtain ⟨owner,owned,current⟩ := inForce
  exact ⟨owner,retains.ownerId.trans owned,by rw [retains.leaseVersion,current]⟩

theorem InForce.claimed {found : Option Effect} {fence : Fence String} (inForce : InForce found fence.current)
    (draft : EffectDraft) (claim : EffectClaim) : InForce (some (Store.claimed found draft claim))
      (fence.claim claim.ownerId (found.any fun existing => Store.claimable existing claim)).current := by
  cases found with
  | none =>
    have none : fence.current = none := inForce
    exact ⟨claim.ownerId,rfl,by simp [Fence.claim,none,Fence.enter,Store.claimed,Store.fresh]⟩
  | some existing =>
    obtain ⟨owner,owned,current⟩ := inForce
    simp only [Store.claimed,Fence.claim,current,Option.any_some]
    by_cases mine : owner = claim.ownerId
    · subst mine
      split <;> simp [InForce,Store.taken,owned,Fence.enter]
    · by_cases free : Store.claimable existing claim = true
      · simp [InForce,Store.taken,owned,Fence.enter,mine,free]
      · simp [InForce,owned,mine,free]

theorem free_eq (store : Store) (draft : EffectDraft) (claim : EffectClaim) :
    Operation.free store draft claim = (store.effects.get? draft.key).any fun existing =>
      Store.claimable existing claim := by
  unfold Operation.free
  cases store.effects.get? draft.key <;> rfl

namespace History
variable {history : History}

theorem tracks_empty : ({} : History).Tracks where
  sound _ := Fence.sound_empty
  inForce _ := rfl

theorem Tracks.step (tracks : history.Tracks) (operation : Operation) : (history.step operation).Tracks := by
  unfold History.step
  cases performed : operation.perform history.store with
  | error fault => exact tracks
  | ok after =>
    have leased : ∀ {lease}, operation.lease? = some lease → ∀ key,
        InForce (after.effects.get? key) (history.fences key).current := by
      intro lease presented key
      obtain ⟨existing,effect,owned,replaced,retains⟩ := Operation.retains presented performed
      have before := tracks.inForce key
      by_cases same : key = lease.key
      · subst same
        rw [(Store.owned_ok owned).1] at before
        rw [replaced.stored]
        exact before.retained retains
      · rwa [replaced.others key same]
    cases operation with
    | claimEffect draft claim =>
      obtain ⟨effect,ok⟩ := map_snd_ok performed
      obtain ⟨replaced,answer,_⟩ := Store.claimEffect_ok ok
      refine ⟨fun key => ?_,fun key => ?_⟩
      · simp only [Operation.fence]
        split
        · exact (tracks.sound key).claim _ _
        · exact tracks.sound key
      · simp only [Operation.fence]
        split
        · rename_i same
          subst same
          rw [replaced.stored,answer,free_eq]
          exact (tracks.inForce draft.key).claimed draft claim
        · rename_i other
          rw [replaced.others key other]
          exact tracks.inForce key
    | releaseRunForResume runId =>
      cases performed
      have kept (key : String) : (history.store.releaseRunForResume runId).2.effects.get? key =
          (history.store.effects.get? key).filter fun effect => ¬ Store.unfinished runId effect :=
        OrderedMap.get?_filter _ _ _
      refine ⟨fun key => ?_,fun key => ?_⟩
      · simp only [Operation.fence]
        split
        · exact tracks.sound key
        · split
          · exact (tracks.sound key).delete
          · exact tracks.sound key
      · simp only [Operation.fence]
        have before := tracks.inForce key
        rw [kept key]
        cases found : history.store.effects.get? key with
        | none =>
          rw [found] at before
          exact before
        | some effect =>
          rw [found] at before
          by_cases gone : Store.unfinished runId effect = true
          · simp [gone,Option.filter,InForce,Fence.delete]
          · simpa [gone,Option.filter] using before
    | markEffectStarted => exact ⟨tracks.sound,leased rfl⟩
    | attachExternalRef => exact ⟨tracks.sound,leased rfl⟩
    | completeEffect => exact ⟨tracks.sound,leased rfl⟩
    | failEffect => exact ⟨tracks.sound,leased rfl⟩
    | renewEffect => exact ⟨tracks.sound,leased rfl⟩

theorem run_append (past : List Operation) (operation : Operation) : run (past ++ [operation]) = (run past).step operation := by
  simp [run]

theorem run_tracks (operations : List Operation) : (run operations).Tracks := by
  induction operations using List.reverseRecOn with
  | nil => exact tracks_empty
  | append_singleton past operation ih =>
    rw [run_append]
    exact ih.step operation

theorem fenced_iff (tracks : history.Tracks) : history.Fenced ↔ ∀ key, (history.fences key).Fenced := by
  constructor
  · intro fenced key token gone current
    have before := tracks.inForce key
    cases found : history.store.effects.get? key with
    | none =>
      rw [found] at before
      rw [current] at before
      cases before
    | some existing =>
      rw [found] at before
      obtain ⟨owner,owned,held⟩ := before
      cases current.symm.trans held
      -- A renewal under the lease in force is always answered.
      obtain ⟨fault,rejected⟩ := fenced ⟨key,owner,existing.leaseVersion⟩ gone (.renewEffect _ 0 0) rfl
      simp [Operation.perform,Store.renewEffect,Store.owned,Store.requireEffect,found,owned,bind,Except.bind,
        Except.map] at rejected
  · intro fenced lease gone operation presented
    apply Operation.rejects presented
    intro existing found owner version
    obtain ⟨holder,owned,current⟩ := found ▸ tracks.inForce lease.key
    cases owner.symm.trans owned
    exact fenced lease.key lease.token gone (by rw [current,version]; rfl)

theorem fenced_step_iff (tracks : history.Tracks) (fenced : history.Fenced) (operation : Operation) :
    (history.step operation).Fenced ↔ history.Fresh operation := by
  have whole := (fenced_iff tracks).mp fenced
  rw [fenced_iff (tracks.step operation)]
  unfold step
  cases performed : operation.perform history.store with
  | error fault =>
    refine ⟨fun _ => ?_,fun _ => whole⟩
    cases operation with
    | claimEffect draft claim =>
      intro replays
      obtain ⟨answer,ok⟩ := replays.answered claim
      simp [Operation.perform,ok,Except.map] at performed
    | _ => trivial
  | ok after =>
    cases operation with
    | claimEffect draft claim =>
      obtain ⟨effect,ok⟩ := map_snd_ok performed
      have judged := Fence.fenced_claim_iff (tracks.sound draft.key) (whole draft.key) claim.ownerId
        (Operation.free history.store draft claim)
      constructor
      · intro after _
        have here := after draft.key
        simp only [Operation.fence,if_true] at here
        exact judged.mp here
      · intro fresh key
        simp only [Operation.fence]
        split
        · rename_i same
          rw [same]
          exact judged.mpr (fresh (Store.claimEffect_ok ok).2.2)
        · exact whole key
    | releaseRunForResume runId =>
      refine ⟨fun _ => trivial,fun _ key => ?_⟩
      simp only [Operation.fence]
      split
      · exact whole key
      · split
        · exact .delete _
        · exact whole key
    | _ => exact ⟨fun _ => trivial,fun _ => whole⟩

theorem step_keepsOutputs (history : History) (operation : Operation) : KeepsOutputs history.store (history.step operation).store := by
  unfold step
  cases performed : operation.perform history.store with
  | error fault => exact fun key effect held done => ⟨effect,held,done,rfl⟩
  | ok after => exact Operation.keepsOutputs performed

theorem run_keepsOutputs (past later : List Operation) : KeepsOutputs (run past).store (run (past ++ later)).store := by
  induction later using List.reverseRecOn with
  | nil => exact fun key effect held done => ⟨effect,by simpa using held,done,rfl⟩
  | append_singleton later operation ih =>
    intro key effect held done
    obtain ⟨middle,found,finished,output⟩ := ih key effect held done
    rw [← List.append_assoc,run_append]
    obtain ⟨kept,last,ended,same⟩ := step_keepsOutputs (run (past ++ later)) operation key middle found finished
    exact ⟨kept,last,ended,same.trans output⟩

/-- Every superseded lease is rejected throughout a run, and the output of a succeeded effect never changes. -/
def Upheld (operations : List Operation) : Prop :=
  ∀ past later, operations = past ++ later →
    (run past).Fenced ∧ KeepsOutputs (run past).store (run operations).store

theorem superseded_leases_rejected_iff (operations : List Operation) :
    Upheld operations ↔ ∀ past operation later, operations = past ++ operation::later → (run past).Fresh operation := by
  constructor
  · rintro upheld past operation later rfl
    have before := (upheld past (operation::later) rfl).1
    have after := (upheld (past ++ [operation]) later (by simp)).1
    rw [run_append] at after
    exact (fenced_step_iff (run_tracks past) before operation).mp after
  · intro fresh past later split
    have fenced : ∀ before after, operations = before ++ after → (run before).Fenced := by
      intro before
      induction before using List.reverseRecOn with
      | nil =>
        intro _ _ lease gone
        simp [run] at gone
      | append_singleton before operation ih =>
        intro after split
        have cut : operations = before ++ operation::after := by simpa using split
        rw [run_append]
        exact (fenced_step_iff (run_tracks before) (ih _ cut) operation).mpr (fresh before operation after cut)
    exact ⟨fenced past later split,split ▸ run_keepsOutputs past later⟩

/-- A cleanup whose effect a resume deletes while it is held: the next delivery
of the cleanup claims under the same owner, and the version counts from one again. -/
def resumedCleanup : List Operation :=
  let draft := {
    key := "workflow-cleanup:run-1"
    runId := "run-1"
    kind := "workflow-cleanup"
    inputFingerprint := .null
    createdAt := 0
    updatedAt := 0}
  [.claimEffect draft ⟨"outbox:workflow-cleanup:run-1",0,120000⟩,.releaseRunForResume "run-1",
    .claimEffect draft ⟨"outbox:workflow-cleanup:run-1",1000,121000⟩]

theorem resumedCleanup_revives_lease : ¬ Upheld resumedCleanup := by
  intro upheld
  obtain ⟨fault,rejected⟩ := (upheld resumedCleanup [] (by simp)).1
    ⟨"workflow-cleanup:run-1","outbox:workflow-cleanup:run-1",1⟩ (by decide) (.markEffectStarted _ 2000) rfl
  cases rejected

end History
end AgentOS.Checkpoint
