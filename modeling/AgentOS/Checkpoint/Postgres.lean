import AgentOS.Checkpoint.Effects

/-! The checkpoint store over the database: each operation is one statement on
the effects' rows, and the row that it returns is checked afterwards. -/
namespace AgentOS.Checkpoint
open Library

/-! ### Stored values -/

/-- The order in which the database keeps an object's keys. -/
def keyBefore (left right : String) : Bool :=
  left.utf8ByteSize < right.utf8ByteSize || (left.utf8ByteSize = right.utf8ByteSize && left ≤ right)

mutual
/-- The value the database keeps of a JSON text. -/
def jsonb : Json → Json
  | .arr items => .arr (jsonbItems items)
  | .obj fields => .obj ((jsonbFields fields).insertionSort fun left right => keyBefore left.1 right.1)
  | .null => .null
  | .bool value => .bool value
  | .num value => .num value
  | .str value => .str value
  | .timestamp instant => .timestamp instant
def jsonbItems : List Json → List Json
  | [] => []
  | item::rest => jsonb item::jsonbItems rest
def jsonbFields : List (String × Json) → List (String × Json)
  | [] => []
  | (name,value)::rest => (name,jsonb value)::jsonbFields rest
end

theorem jsonb_null (value : Json) : jsonb value = .null ↔ value = .null := by
  cases value <;> simp [jsonb]

/-- The database's `left` on a text of characters. -/
def left (text : String) (characters : Nat) : String := String.ofList (text.toList.take characters)

def rowOf (effect : Effect) : Effect := {effect with output := effect.output.map jsonb}

def effectOf (row : Effect) : Effect := {row with output := row.output.filter fun output => output ≠ .null}

structure PostgresStore where
  rows : OrderedMap String Effect := .empty

namespace PostgresStore

def put (postgres : PostgresStore) (key : String) (row : Effect) : PostgresStore :=
  {postgres with rows := postgres.rows.set key row}

def conflict (message : String) : Except Fault Effect := .error (.checkpointConflict message)

def expired (row : Effect) (now : Instant) : Bool :=
  match row.leaseExpiresAt with
  | none => true
  | some expires => expires ≤ now

def upserted (row : Effect) (claim : EffectClaim) : Effect :=
  let free := row.status ≠ .succeeded && (row.ownerId = some claim.ownerId || expired row claim.now)
  let counted := row.status ≠ .succeeded && row.ownerId ≠ some claim.ownerId && expired row claim.now
  {row with
    ownerId := if free then some claim.ownerId else row.ownerId
    leaseVersion := if counted then row.leaseVersion + 1 else row.leaseVersion
    leaseExpiresAt := if free then some claim.leaseExpiresAt else row.leaseExpiresAt
    updatedAt := if free then claim.now else row.updatedAt}

def inserted (draft : EffectDraft) (claim : EffectClaim) : Effect :=
  {draft with
    output := draft.output.map jsonb
    updatedAt := claim.now
    status := .pending
    ownerId := some claim.ownerId
    leaseVersion := 1
    leaseExpiresAt := some claim.leaseExpiresAt}

/-- The upsert writes first; the returned row is compared with the draft afterwards. -/
def claimEffect (postgres : PostgresStore) (draft : EffectDraft) (claim : EffectClaim) :
    Except Fault Effect × PostgresStore :=
  let row := match postgres.rows.get? draft.key with
    | none => inserted draft claim
    | some existing => upserted existing claim
  let value := effectOf row
  (if value.runId ≠ draft.runId ∨ value.kind ≠ draft.kind ∨ value.inputFingerprint ≠ draft.inputFingerprint then
    conflict ("workflow effect " ++ draft.key ++ " was replayed with different input")
  else .ok value,postgres.put draft.key row)

def owned? (postgres : PostgresStore) (lease : EffectLease) (admits : Effect → Bool) : Option Effect :=
  (postgres.rows.get? lease.key).filter fun row =>
    row.ownerId = some lease.ownerId && row.leaseVersion = lease.leaseVersion && admits row

def owned (postgres : PostgresStore) (lease : EffectLease) : Except Fault Effect :=
  match postgres.rows.get? lease.key with
  | none => conflict ("workflow effect " ++ lease.key ++ " does not exist")
  | some row =>
    let value := effectOf row
    if value.ownerId ≠ some lease.ownerId ∨ value.leaseVersion ≠ lease.leaseVersion then
      conflict ("workflow effect " ++ lease.key ++ " fencing lease is not owned")
    else .ok value

/-- An update of the row that a statement selects, or what is answered where it selects none. -/
def update (postgres : PostgresStore) (lease : EffectLease) (admits : Effect → Bool) (change : Effect → Effect)
    (otherwise : Except Fault Effect) : Except Fault Effect × PostgresStore :=
  match postgres.owned? lease admits with
  | none => (otherwise,postgres)
  | some row => (.ok (effectOf (change row)),postgres.put lease.key (change row))

def markEffectStarted (postgres : PostgresStore) (lease : EffectLease) (now : Instant) :
    Except Fault Effect × PostgresStore :=
  postgres.update lease (fun row => row.status = .pending || row.status = .failed)
    (fun row => {row with status := .started,updatedAt := now}) (postgres.owned lease)

def attachExternalRef (postgres : PostgresStore) (lease : EffectLease) (externalRef : String) (now : Instant) :
    Except Fault Effect × PostgresStore :=
  postgres.update lease
    (fun row => row.status = .started && (row.externalRef = none || row.externalRef = some externalRef))
    (fun row => {row with externalRef := some externalRef,updatedAt := now})
    (conflict ("workflow effect " ++ lease.key ++ " cannot attach an external reference"))

def completeEffect (postgres : PostgresStore) (lease : EffectLease) (output : Json) (now : Instant) :
    Except Fault Effect × PostgresStore :=
  postgres.update lease
    (fun row => row.status = .started || (row.status = .succeeded && row.output = some (jsonb output)))
    (fun row => {row with status := .succeeded,output := some (jsonb output),updatedAt := now})
    (conflict ("workflow effect " ++ lease.key ++ " cannot be completed"))

def failEffect (postgres : PostgresStore) (lease : EffectLease) (error : String) (deadLetter : Bool) (now : Instant) :
    Except Fault Effect × PostgresStore :=
  postgres.update lease (fun row => row.status ≠ .succeeded)
    (fun row => {row with
      status := if deadLetter then .deadLetter else .failed
      error := some (left error 1000)
      updatedAt := now})
    (postgres.owned lease)

end PostgresStore

/-! ### One call on both stores -/

inductive EffectCall where
  | claimEffect (draft : EffectDraft) (claim : EffectClaim)
  | markEffectStarted (lease : EffectLease) (now : Instant)
  | attachExternalRef (lease : EffectLease) (externalRef : String) (now : Instant)
  | completeEffect (lease : EffectLease) (output : Json) (now : Instant)
  | failEffect (lease : EffectLease) (error : String) (deadLetter : Bool) (now : Instant)

namespace EffectCall

def settled (store : Store) : Except Fault (Effect × Store) → Except Fault Effect × Store
  | .error fault => (.error fault,store)
  | .ok (effect,after) => (.ok effect,after)

def inMemory (store : Store) : EffectCall → Except Fault Effect × Store
  | .claimEffect draft claim => settled store (store.claimEffect draft claim)
  | .markEffectStarted lease now => settled store (store.markEffectStarted lease now)
  | .attachExternalRef lease externalRef now => settled store (store.attachExternalRef lease externalRef now)
  | .completeEffect lease output now => settled store (store.completeEffect lease output now)
  | .failEffect lease error deadLetter now => settled store (store.failEffect lease error deadLetter now)

def postgres (store : PostgresStore) : EffectCall → Except Fault Effect × PostgresStore
  | .claimEffect draft claim => store.claimEffect draft claim
  | .markEffectStarted lease now => store.markEffectStarted lease now
  | .attachExternalRef lease externalRef now => store.attachExternalRef lease externalRef now
  | .completeEffect lease output now => store.completeEffect lease output now
  | .failEffect lease error deadLetter now => store.failEffect lease error deadLetter now

end EffectCall

structure Corresponds (store : Store) (postgres : PostgresStore) : Prop where
  rows : ∀ key, postgres.rows.get? key = (store.effects.get? key).map rowOf
  outputs : ∀ key effect, store.effects.get? key = some effect → effect.output ≠ some .null

/-- Both reject with a conflict, or both answer the same effect up to the order of object keys. -/
def SameAnswer : Except Fault Effect → Except Fault Effect → Prop
  | .ok effect, .ok other => rowOf effect = other
  | .error (.checkpointConflict _), .error (.checkpointConflict _) => True
  | _, _ => False

def StepsAlike (store : Store) (postgres : PostgresStore) (call : EffectCall) : Prop :=
  SameAnswer (call.inMemory store).1 (call.postgres postgres).1 ∧
    Corresponds (call.inMemory store).2 (call.postgres postgres).2

def Alike (store : Store) : EffectCall → Prop
  | .claimEffect draft claim =>
    match store.effects.get? draft.key with
    | none => draft.updatedAt = claim.now ∧ draft.output ≠ some .null
    | some existing =>
      (existing.runId = draft.runId ∧ existing.kind = draft.kind ∧
          existing.inputFingerprint = draft.inputFingerprint) ∨
        Store.claimable existing claim = false ∨
        (existing.ownerId = some claim.ownerId ∧ existing.leaseExpiresAt = some claim.leaseExpiresAt ∧
          existing.updatedAt = claim.now)
  | .markEffectStarted _ _ => True
  | .attachExternalRef _ _ _ => True
  | .completeEffect lease output now => ∀ effect, store.owned lease = .ok effect →
      (effect.status = .started → output ≠ .null) ∧
        (effect.status = .succeeded → effect.output = some output → effect.updatedAt = now) ∧
        (effect.status = .succeeded → effect.output.map jsonb = some (jsonb output) → effect.output = some output)
  | .failEffect lease error _ _ => ∀ effect, store.owned lease = .ok effect → effect.status ≠ .succeeded →
      Store.slice error 1000 = left error 1000

/-! ### Rows and effects -/

variable {store : Store} {postgres : PostgresStore} {lease : EffectLease}

theorem effectOf_rowOf (effect : Effect) (present : effect.output ≠ some .null) : effectOf (rowOf effect) = rowOf effect := by
  have kept : (effect.output.map jsonb).filter (fun output => output ≠ .null) = effect.output.map jsonb := by
    cases held : effect.output with
    | none => rfl
    | some output =>
      have some_ : output ≠ .null := fun null => present (by rw [held,null])
      simp [Option.filter,jsonb_null,some_]
  simp only [effectOf,rowOf] at kept ⊢
  rw [kept]

theorem same_answer_iff (effect row : Effect) (same : rowOf effect = row) :
    SameAnswer (.ok effect) (.ok (effectOf row)) ↔ effect.output ≠ some .null := by
  subst same
  constructor
  · intro answered null
    have equal : rowOf effect = effectOf (rowOf effect) := answered
    have outputs := congrArg (fun effect : Effect => effect.output) equal
    simp [effectOf,rowOf,null,jsonb,Option.filter] at outputs
  · intro present
    exact (effectOf_rowOf effect present).symm

namespace Corresponds

section
variable (corresponds : Corresponds store postgres)
include corresponds

variable {key : String}

theorem found {effect : Effect} (held : store.effects.get? key = some effect) : postgres.rows.get? key = some (rowOf effect) := by
  rw [corresponds.rows key,held]
  rfl

theorem absent (missing : store.effects.get? key = none) : postgres.rows.get? key = none := by
  rw [corresponds.rows key,missing]
  rfl

theorem put_iff {effect row : Effect} {after : Store}
    (replaced : Replaces store key effect after) : Corresponds after (postgres.put key row) ↔
      row = rowOf effect ∧ effect.output ≠ some .null := by
  constructor
  · intro later
    refine ⟨?_,later.outputs key effect replaced.stored⟩
    have here := later.found replaced.stored
    simpa [PostgresStore.put,OrderedMap.get?_set] using here
  · rintro ⟨rfl,present⟩
    refine ⟨fun other => ?_,fun other held found => ?_⟩
    · by_cases same : other = key
      · subst same
        simp [PostgresStore.put,OrderedMap.get?_set,replaced.stored]
      · rw [replaced.others other same,← corresponds.rows other]
        simp [PostgresStore.put,OrderedMap.get?_set,same]
    · by_cases same : other = key
      · subst same
        cases replaced.stored.symm.trans found
        exact present
      · exact corresponds.outputs other held ((replaced.others other same).symm.trans found)

theorem rejected {fault : Fault} (owned : store.owned lease = .error fault) :
    (∃ message, fault = .checkpointConflict message) ∧ (∀ admits, postgres.owned? lease admits = none) ∧
      ∃ message, postgres.owned lease = PostgresStore.conflict message := by
  simp only [Store.owned,Store.requireEffect,bind,Except.bind] at owned
  unfold PostgresStore.owned? PostgresStore.owned
  cases held : store.effects.get? lease.key with
  | none =>
    simp only [held] at owned
    cases owned
    exact ⟨⟨_,rfl⟩,by simp [corresponds.absent held],⟨_,by rw [corresponds.absent held]⟩⟩
  | some effect =>
    simp only [held] at owned
    split at owned
    · rename_i other
      cases owned
      refine ⟨⟨_,rfl⟩,fun admits => ?_,?_⟩
      · rw [corresponds.found held,Option.filter_eq_none_iff]
        rintro row ⟨⟩ selected
        simp only [Bool.and_eq_true,decide_eq_true_eq] at selected
        rcases other with owner | version
        · exact owner selected.1.1
        · exact version selected.1.2
      · rw [corresponds.found held]
        have moved : (effectOf (rowOf effect)).ownerId ≠ some lease.ownerId ∨
            (effectOf (rowOf effect)).leaseVersion ≠ lease.leaseVersion := other
        exact ⟨_,if_pos moved⟩
    · cases owned

theorem taken {effect : Effect} (owned : store.owned lease = .ok effect) :
    (∀ admits, postgres.owned? lease admits = if admits (rowOf effect) then some (rowOf effect) else none) ∧
      postgres.owned lease = .ok (rowOf effect) := by
  obtain ⟨held,owner,version⟩ := Store.owned_ok owned
  unfold PostgresStore.owned? PostgresStore.owned
  rw [corresponds.found held]
  have ownerId : (rowOf effect).ownerId = some lease.ownerId := owner
  have leaseVersion : (rowOf effect).leaseVersion = lease.leaseVersion := version
  refine ⟨fun admits => ?_,?_⟩
  · simp only [Option.filter,ownerId,leaseVersion,decide_true,Bool.true_and]
  · simp only [effectOf_rowOf effect (corresponds.outputs _ _ held),ownerId,leaseVersion,ne_eq,not_true_eq_false,
      or_self,if_false]

theorem both_written_iff {next row : Effect} {after : Store} (replaced : Replaces store key next after) :
    SameAnswer (.ok next) (.ok (effectOf row)) ∧ Corresponds after (postgres.put key row) ↔
      row = rowOf next ∧ next.output ≠ some .null := by
  rw [corresponds.put_iff replaced]
  constructor
  · exact fun written => written.2
  · rintro ⟨rfl,present⟩
    exact ⟨(same_answer_iff next _ rfl).mpr present,rfl,present⟩

theorem written_iff {effect next row : Effect} (owned : store.owned lease = .ok effect) (same : next.key = effect.key) :
    SameAnswer (.ok next) (.ok (effectOf row)) ∧ Corresponds (store.setEffect next) (postgres.put lease.key row) ↔
      row = rowOf next ∧ next.output ≠ some .null := by
  have key : next.key = lease.key := same.trans (store.keyed _ _ (Store.owned_ok owned).1)
  exact corresponds.both_written_iff (key ▸ Store.replaces_setEffect store next)

/-! ### The calls under a lease -/

theorem started (now : Instant) : StepsAlike store postgres (.markEffectStarted lease now) := by
  unfold StepsAlike
  simp only [EffectCall.inMemory,EffectCall.postgres,PostgresStore.markEffectStarted,PostgresStore.update,
    Store.markEffectStarted,bind,Except.bind]
  cases owned : store.owned lease with
  | error fault =>
    obtain ⟨⟨message,rfl⟩,unselected,⟨other,missing⟩⟩ := corresponds.rejected owned
    rw [unselected,missing]
    exact ⟨trivial,corresponds⟩
  | ok effect =>
    obtain ⟨selects,answered⟩ := corresponds.taken owned
    have present := corresponds.outputs _ _ (Store.owned_ok owned).1
    rw [selects,answered]
    by_cases done : effect.status ≠ .pending ∧ effect.status ≠ .failed
    · have unadmitted : ((rowOf effect).status = .pending || (rowOf effect).status = .failed) = false := by
        simp [rowOf,done.1,done.2]
      simp only [if_pos done,unadmitted,Bool.false_eq_true,if_false,EffectCall.settled]
      exact ⟨rfl,corresponds⟩
    · have admitted : ((rowOf effect).status = .pending || (rowOf effect).status = .failed) = true := by
        have startable : effect.status = .pending ∨ effect.status = .failed := by tauto
        rcases startable with status | status <;> simp [rowOf,status]
      simp only [if_neg done,admitted,if_true,EffectCall.settled]
      exact (corresponds.written_iff owned (by rfl)).mpr ⟨rfl,present⟩

theorem attached (externalRef : String) (now : Instant) : StepsAlike store postgres (.attachExternalRef lease externalRef now) := by
  unfold StepsAlike
  simp only [EffectCall.inMemory,EffectCall.postgres,PostgresStore.attachExternalRef,PostgresStore.update,
    Store.attachExternalRef,bind,Except.bind]
  cases owned : store.owned lease with
  | error fault =>
    obtain ⟨⟨message,rfl⟩,unselected,_⟩ := corresponds.rejected owned
    rw [unselected]
    exact ⟨trivial,corresponds⟩
  | ok effect =>
    have selects := (corresponds.taken owned).1
    have present := corresponds.outputs _ _ (Store.owned_ok owned).1
    rw [selects]
    by_cases status : effect.status = .started
    · by_cases bound : effect.externalRef ≠ none ∧ effect.externalRef ≠ some externalRef
      · have unadmitted : ((rowOf effect).status = .started &&
            ((rowOf effect).externalRef = none || (rowOf effect).externalRef = some externalRef)) = false := by
          simp [rowOf,bound.1,bound.2]
        simp only [status,ne_eq,not_true_eq_false,if_false,if_pos bound,unadmitted,Bool.false_eq_true,
          EffectCall.settled]
        exact ⟨trivial,corresponds⟩
      · have admitted : ((rowOf effect).status = .started &&
            ((rowOf effect).externalRef = none || (rowOf effect).externalRef = some externalRef)) = true := by
          have free : effect.externalRef = none ∨ effect.externalRef = some externalRef := by tauto
          rcases free with ref | ref <;> simp [rowOf,status,ref]
        simp only [status,ne_eq,not_true_eq_false,if_false,if_neg bound,admitted,if_true,EffectCall.settled]
        exact (corresponds.written_iff owned (by rfl)).mpr ⟨by simp [rowOf,status],present⟩
    · have unadmitted : ((rowOf effect).status = .started &&
          ((rowOf effect).externalRef = none || (rowOf effect).externalRef = some externalRef)) = false := by
        simp [rowOf,status]
      simp only [ne_eq,status,not_false_eq_true,if_true,unadmitted,Bool.false_eq_true,if_false,EffectCall.settled]
      exact ⟨trivial,corresponds⟩

theorem completed_iff (output : Json) (now : Instant) : StepsAlike store postgres (.completeEffect lease output now) ↔
      Alike store (.completeEffect lease output now) := by
  unfold StepsAlike Alike
  simp only [EffectCall.inMemory,EffectCall.postgres,PostgresStore.completeEffect,PostgresStore.update,
    Store.completeEffect,bind,Except.bind]
  cases owned : store.owned lease with
  | error fault =>
    obtain ⟨⟨message,rfl⟩,unselected,_⟩ := corresponds.rejected owned
    rw [unselected]
    constructor
    · intro _ _ taken
      cases taken
    · exact fun _ => ⟨trivial,corresponds⟩
  | ok effect =>
    have selects := (corresponds.taken owned).1
    have held := (Store.owned_ok owned).1
    have present := corresponds.outputs _ _ held
    rw [selects]
    simp only [Except.ok.injEq,forall_eq']
    by_cases done : effect.status = .succeeded
    · simp only [done,reduceCtorEq,false_implies,true_implies,true_and,if_true]
      by_cases same : effect.output = some output
      · -- The same output: the database writes the row once more.
        have admitted : ((rowOf effect).status = .started ||
            (rowOf effect).status = .succeeded && (rowOf effect).output = some (jsonb output)) = true := by
          simp [rowOf,done,same]
        simp only [same,ne_eq,not_true_eq_false,if_false,admitted,if_true,EffectCall.settled,implies_true,and_true,
          true_implies]
        constructor
        · rintro ⟨_,later⟩
          have row := (corresponds.put_iff (Store.replaces_self held)).mp later
          have times := congrArg (fun effect : Effect => effect.updatedAt) row.1
          exact times.symm
        · rintro rfl
          have row : {rowOf effect with
              status := .succeeded
              output := some (jsonb output)
              updatedAt := effect.updatedAt} = rowOf effect := by
            simp only [rowOf,same,done,Option.map_some]
          rw [row]
          refine ⟨(same_answer_iff _ _ rfl).mpr present,?_⟩
          exact (corresponds.put_iff (Store.replaces_self held)).mpr ⟨rfl,present⟩
      · simp only [ne_eq,same,not_false_eq_true,if_true,EffectCall.settled,false_implies,true_and,imp_false]
        by_cases value : effect.output.map jsonb = some (jsonb output)
        · have admitted : ((rowOf effect).status = .started ||
              (rowOf effect).status = .succeeded && (rowOf effect).output = some (jsonb output)) = true := by
            simp [rowOf,done,value]
          simp only [admitted,if_true,value,not_true_eq_false,iff_false]
          exact fun alike => alike.1
        · have unadmitted : ((rowOf effect).status = .started ||
              (rowOf effect).status = .succeeded && (rowOf effect).output = some (jsonb output)) = false := by
            simp only [rowOf,done,reduceCtorEq,decide_false,Bool.false_or,decide_true,Bool.true_and,
              decide_eq_false_iff_not]
            exact value
          simp only [unadmitted,Bool.false_eq_true,if_false,value,not_false_eq_true,iff_true]
          exact ⟨trivial,corresponds⟩
    · simp only [done,false_implies,and_true]
      by_cases status : effect.status = .started
      · have admitted : ((rowOf effect).status = .started ||
            (rowOf effect).status = .succeeded && (rowOf effect).output = some (jsonb output)) = true := by
          simp [rowOf,status]
        simp only [status,ne_eq,not_true_eq_false,if_false,admitted,if_true,EffectCall.settled,true_implies]
        refine (corresponds.written_iff owned (by rfl)).trans ?_
        simp [rowOf]
      · have unadmitted : ((rowOf effect).status = .started ||
            (rowOf effect).status = .succeeded && (rowOf effect).output = some (jsonb output)) = false := by
          simp [rowOf,status,done]
        simp only [ne_eq,status,not_false_eq_true,if_true,unadmitted,Bool.false_eq_true,if_false,EffectCall.settled,
          false_implies,iff_true]
        exact ⟨trivial,corresponds⟩

theorem failed_iff (error : String) (deadLetter : Bool) (now : Instant) :
    StepsAlike store postgres (.failEffect lease error deadLetter now) ↔ Alike store (.failEffect lease error deadLetter now) := by
  unfold StepsAlike Alike
  simp only [EffectCall.inMemory,EffectCall.postgres,PostgresStore.failEffect,PostgresStore.update,
    Store.failEffect,bind,Except.bind]
  cases owned : store.owned lease with
  | error fault =>
    obtain ⟨⟨message,rfl⟩,unselected,⟨other,missing⟩⟩ := corresponds.rejected owned
    rw [unselected,missing]
    constructor
    · intro _ _ taken
      cases taken
    · exact fun _ => ⟨trivial,corresponds⟩
  | ok effect =>
    obtain ⟨selects,answered⟩ := corresponds.taken owned
    have present := corresponds.outputs _ _ (Store.owned_ok owned).1
    rw [selects,answered]
    simp only [Except.ok.injEq,forall_eq']
    by_cases done : effect.status = .succeeded
    · have unadmitted : decide ((rowOf effect).status ≠ .succeeded) = false := by simp [rowOf,done]
      simp only [unadmitted,Bool.false_eq_true,if_false,if_true,EffectCall.settled,done,ne_eq,not_true_eq_false,
        false_implies,iff_true]
      exact ⟨rfl,corresponds⟩
    · have admitted : decide ((rowOf effect).status ≠ .succeeded) = true := by simp [rowOf,done]
      simp only [if_neg done,admitted,if_true,EffectCall.settled]
      refine (corresponds.written_iff owned (by rfl)).trans ?_
      simp [rowOf,present,done,eq_comm]

end

/-! ### Claims -/

theorem upserted_rowOf (existing : Effect) (claim : EffectClaim) : PostgresStore.upserted (rowOf existing) claim =
    rowOf (if Store.claimable existing claim then Store.taken existing claim else existing) := by
  have expired : PostgresStore.expired (rowOf existing) claim.now = PostgresStore.expired existing claim.now := rfl
  have free : Store.claimable existing claim = (existing.status ≠ .succeeded &&
      (existing.ownerId = some claim.ownerId || PostgresStore.expired existing claim.now)) := by
    unfold Store.claimable PostgresStore.expired
    cases existing.leaseExpiresAt <;> rfl
  rw [free]
  by_cases done : existing.status = .succeeded
  · simp [PostgresStore.upserted,rowOf,done]
  · by_cases mine : existing.ownerId = some claim.ownerId
    · simp [PostgresStore.upserted,rowOf,Store.taken,done,mine]
    · cases late : PostgresStore.expired existing claim.now <;>
        simp only [PostgresStore.upserted,expired,late] <;> simp [rowOf,Store.taken,done,mine]

theorem taken_self_iff (existing : Effect) (claim : EffectClaim) : rowOf (Store.taken existing claim) = rowOf existing ↔
    existing.ownerId = some claim.ownerId ∧ existing.leaseExpiresAt = some claim.leaseExpiresAt ∧ existing.updatedAt = claim.now := by
  constructor
  · intro same
    have owner := congrArg (fun effect : Effect => effect.ownerId) same
    have expires := congrArg (fun effect : Effect => effect.leaseExpiresAt) same
    have updated := congrArg (fun effect : Effect => effect.updatedAt) same
    exact ⟨owner.symm,expires.symm,updated.symm⟩
  · rintro ⟨owner,expires,updated⟩
    simp only [rowOf,Store.taken,owner,if_true,← expires,← updated]

theorem claimed_iff (corresponds : Corresponds store postgres) (draft : EffectDraft) (claim : EffectClaim) :
    StepsAlike store postgres (.claimEffect draft claim) ↔ Alike store (.claimEffect draft claim) := by
  unfold StepsAlike Alike
  simp only [EffectCall.inMemory,EffectCall.postgres,PostgresStore.claimEffect,Store.claimEffect]
  cases held : store.effects.get? draft.key with
  | none =>
    have accepted : ¬ ((effectOf (PostgresStore.inserted draft claim)).runId ≠ draft.runId ∨
        (effectOf (PostgresStore.inserted draft claim)).kind ≠ draft.kind ∨
        (effectOf (PostgresStore.inserted draft claim)).inputFingerprint ≠ draft.inputFingerprint) := by
      simp [effectOf,PostgresStore.inserted]
    simp only [corresponds.absent held,if_neg accepted,EffectCall.settled]
    refine (corresponds.both_written_iff (Store.replaces_setEffect store (Store.fresh draft claim))).trans ?_
    simp [PostgresStore.inserted,rowOf,Store.fresh,eq_comm]
  | some existing =>
    have present := corresponds.outputs _ _ held
    have self := Store.replaces_self held
    have row := upserted_rowOf existing claim
    have identity : ((effectOf (PostgresStore.upserted (rowOf existing) claim)).runId ≠ draft.runId ∨
        (effectOf (PostgresStore.upserted (rowOf existing) claim)).kind ≠ draft.kind ∨
        (effectOf (PostgresStore.upserted (rowOf existing) claim)).inputFingerprint ≠ draft.inputFingerprint) ↔
          existing.runId ≠ draft.runId ∨ existing.kind ≠ draft.kind ∨
            existing.inputFingerprint ≠ draft.inputFingerprint := Iff.rfl
    simp only [corresponds.found held,identity]
    by_cases differs : existing.runId ≠ draft.runId ∨ existing.kind ≠ draft.kind ∨
        existing.inputFingerprint ≠ draft.inputFingerprint
    · -- Rejected: the in-memory store is as before, the row has been written.
      have mismatch : ¬ (existing.runId = draft.runId ∧ existing.kind = draft.kind ∧
          existing.inputFingerprint = draft.inputFingerprint) := by tauto
      simp only [if_pos differs,EffectCall.settled,mismatch,false_or]
      have answered : SameAnswer (.error (.checkpointConflict ("workflow effect " ++ draft.key ++
          " was replayed with different input"))) (PostgresStore.conflict ("workflow effect " ++ draft.key ++
            " was replayed with different input")) := trivial
      simp only [answered,true_and]
      rw [corresponds.put_iff self,row]
      cases free : Store.claimable existing claim with
      | false => simp [present]
      | true => simp [present,taken_self_iff]
    · have same : existing.runId = draft.runId ∧ existing.kind = draft.kind ∧
          existing.inputFingerprint = draft.inputFingerprint := by tauto
      simp only [if_neg differs]
      refine ⟨fun _ => .inl same,fun _ => ?_⟩
      rw [row]
      cases free : Store.claimable existing claim with
      | false => exact (corresponds.both_written_iff self).mpr ⟨rfl,present⟩
      | true =>
        have key : existing.key = draft.key := store.keyed _ _ held
        have replaced := Store.replaces_setEffect store (Store.taken existing claim)
        rw [show (Store.taken existing claim).key = draft.key from key] at replaced
        exact (corresponds.both_written_iff replaced).mpr ⟨rfl,present⟩

end Corresponds

def expiredEffect : Effect where
  key := "publisher:run-1"
  runId := "run-1"
  kind := "trusted-draft-publication"
  inputFingerprint := .str "first"
  createdAt := 0
  updatedAt := 0
  status := .pending
  ownerId := some "owner-1"
  leaseVersion := 1
  leaseExpiresAt := some 120000

def expiredStore : Store := ({} : Store).setEffect expiredEffect

def expiredRows : PostgresStore := ({} : PostgresStore).put "publisher:run-1" expiredEffect

def changedClaim : EffectCall :=
  .claimEffect {expiredEffect with inputFingerprint := .str "second"} ⟨"owner-2",180000,300000⟩

theorem expiredStore_corresponds : Corresponds expiredStore expiredRows := by
  have empty : Corresponds {} {} := by
    refine ⟨fun _ => rfl,fun _ _ held => ?_⟩
    cases held
  exact (empty.put_iff (Store.replaces_setEffect {} expiredEffect)).mpr ⟨rfl,by decide⟩

end AgentOS.Checkpoint
