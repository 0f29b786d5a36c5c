import AgentOS.Publication.BaseTree
import AgentOS.Library.Guarantee

/-! The store of publication records: how far a publication has come, moved one phase at a time by
whoever knows its revision. -/
namespace AgentOS.Publication
open Library

inductive PublicationPhase where
  | claimed
  | blobsCreated
  | treeCreated
  | commitCreated
  | refCreated
  | prCreated
  | succeeded
  | failed
  | cancelled
  deriving DecidableEq

/-- `PHASE_ORDER`, and `LOCAL_PHASE_ORDER`. -/
def PublicationPhase.order : PublicationPhase → Nat
  | .failed => 0
  | .claimed => 0
  | .blobsCreated => 1
  | .treeCreated => 2
  | .commitCreated => 3
  | .refCreated => 4
  | .prCreated => 5
  | .succeeded => 6
  | .cancelled => 7

def phaseAtLeast (current expected : PublicationPhase) : Bool := expected.order ≤ current.order

def transitions : PublicationPhase → List PublicationPhase
  | .claimed => [.blobsCreated,.failed,.cancelled]
  | .failed => [.blobsCreated,.cancelled]
  | .blobsCreated => [.treeCreated,.failed,.cancelled]
  | .treeCreated => [.commitCreated,.failed,.cancelled]
  | .commitCreated => [.refCreated,.failed,.cancelled]
  | .refCreated => [.prCreated,.failed,.cancelled]
  | .prCreated => [.succeeded,.failed,.cancelled]
  | .succeeded => []
  | .cancelled => []

structure PublicationClaim where
  key : String
  bindingKey : String
  projectId : String
  runId : String
  repositoryId : Nat
  manifestDigest : String
  policyDigest : String
  baseSha : String
  branch : String
  deriving DecidableEq

structure PublicationRecord extends PublicationClaim where
  phase : PublicationPhase
  blobShas : Option (List (String × String)) := none
  treeSha : Option String := none
  commitSha : Option String := none
  pullRequestNumber : Option Nat := none
  pullRequestUrl : Option String := none
  draft : Bool := false
  revision : Nat
  createdAt : Instant
  updatedAt : Instant

structure Patch where
  phase : PublicationPhase
  blobShas : Option (List (String × String)) := none
  treeSha : Option String := none
  commitSha : Option String := none
  pullRequest : Option (Nat × String) := none
  updatedAt : Instant

def Patch.onto (patch : Patch) (record : PublicationRecord) : PublicationRecord where
  toPublicationClaim := record.toPublicationClaim
  phase := patch.phase
  blobShas := patch.blobShas <|> record.blobShas
  treeSha := patch.treeSha <|> record.treeSha
  commitSha := patch.commitSha <|> record.commitSha
  pullRequestNumber := patch.pullRequest.map Prod.fst <|> record.pullRequestNumber
  pullRequestUrl := patch.pullRequest.map Prod.snd <|> record.pullRequestUrl
  draft := patch.pullRequest.isSome || record.draft
  revision := record.revision + 1
  createdAt := record.createdAt
  updatedAt := patch.updatedAt

structure PublicationEvent where
  publicationKey : String
  phase : PublicationPhase
  at_ : Instant

structure PublicationStore where
  records : OrderedMap String PublicationRecord
  bindingKeys : OrderedMap String String
  events : List PublicationEvent

namespace PublicationStore

def claimed (claim : PublicationClaim) (now : Instant) : PublicationRecord where
  toPublicationClaim := claim
  phase := .claimed
  revision := 1
  createdAt := now
  updatedAt := now

def claim (store : PublicationStore) (input : PublicationClaim) (now : Instant) :
    Except PublisherFault PublicationRecord × PublicationStore :=
  match store.records.get? input.key with
  | some existing => (.ok existing,store)
  | none =>
    if (store.bindingKeys.get? input.bindingKey).any (· ≠ input.key) then
      (.error (.publisher .collision "Run is already bound to a different publication manifest"),store)
    else (.ok (claimed input now),
      {records := store.records.set input.key (claimed input now)
       bindingKeys := store.bindingKeys.set input.bindingKey input.key
       events := store.events ++ [⟨input.key,.claimed,now⟩]})

def cancellationEnrichment (existing : PublicationRecord) (patch : Patch) : Bool :=
  existing.phase = .cancelled && patch.phase = .cancelled && existing.pullRequestNumber.isNone && patch.pullRequest.isSome

def allows (existing : PublicationRecord) (expectedRevision : Nat) (patch : Patch) : Bool :=
  existing.revision = expectedRevision &&
    ((transitions existing.phase).contains patch.phase || cancellationEnrichment existing patch)

def changedConcurrently {α : Type} : Except PublisherFault α :=
  .error (.publisher .storeConflict "Publication checkpoint changed concurrently")

def save (store : PublicationStore) (key : String) (expectedRevision : Nat) (patch : Patch) :
    Except PublisherFault PublicationRecord × PublicationStore :=
  match store.records.get? key with
  | none => (changedConcurrently,store)
  | some existing =>
    if allows existing expectedRevision patch then
      (.ok (patch.onto existing),
        {store with records := store.records.set key (patch.onto existing)
                    events := store.events ++ [⟨key,patch.phase,patch.updatedAt⟩]})
    else (changedConcurrently,store)

def get (store : PublicationStore) (key : String) : Option PublicationRecord := store.records.get? key

section
variable {store : PublicationStore} {key : String} {revision : Nat} {patch : Patch} {record : PublicationRecord}

theorem save_ok (ok : (store.save key revision patch).1 = .ok record) : ∃ existing, store.get key = some existing ∧
    allows existing revision patch = true ∧ record = patch.onto existing ∧
    ∀ other, (store.save key revision patch).2.get other = if other = key then some record else store.get other := by
  unfold save at ok ⊢
  cases found : store.records.get? key with
  | none =>
    rw [found] at ok
    cases ok
  | some existing =>
    rw [found] at ok
    dsimp only at ok ⊢
    split at ok
    · rename_i allowed
      cases ok
      refine ⟨existing,found,allowed,rfl,fun other => ?_⟩
      rw [if_pos allowed,get,get,OrderedMap.get?_set]
    · cases ok

theorem save_of {existing : PublicationRecord} (found : store.get key = some existing) (allowed : allows existing revision patch = true) :
    (store.save key revision patch).1 = .ok (patch.onto existing) := by
  have held : store.records.get? key = some existing := found
  unfold save
  rw [held]
  dsimp only
  rw [if_pos allowed]

variable {input : PublicationClaim} {fault : PublisherFault}

theorem save_error (failed : (store.save key revision patch).1 = .error fault) :
    (store.save key revision patch).2 = store ∧ fault = .publisher .storeConflict "Publication checkpoint changed concurrently" := by
  unfold save changedConcurrently at failed ⊢
  split at failed
  · cases failed
    exact ⟨rfl,rfl⟩
  · split at failed
    · cases failed
    · rename_i refused
      cases failed
      exact ⟨by rw [if_neg refused],rfl⟩

theorem claim_ok {now : Instant} (ok : (store.claim input now).1 = .ok record) :
    (store.get input.key = some record ∧ (store.claim input now).2 = store) ∨
      store.get input.key = none ∧ (∀ bound, store.bindingKeys.get? input.bindingKey = some bound → bound = input.key) ∧
        record = claimed input now ∧ (store.claim input now).2.bindingKeys = store.bindingKeys.set input.bindingKey input.key ∧
        ∀ other, (store.claim input now).2.get other = if other = input.key then some record else store.get other := by
  unfold claim at ok ⊢
  cases found : store.records.get? input.key with
  | some existing =>
    rw [found] at ok
    cases ok
    exact .inl ⟨found,rfl⟩
  | none =>
    rw [found] at ok
    dsimp only at ok ⊢
    split at ok
    · cases ok
    · rename_i free
      cases ok
      refine .inr ⟨found,fun bound held => ?_,rfl,by rw [if_neg free],fun other => ?_⟩
      · simpa [held] using free
      · rw [if_neg free,get,get,OrderedMap.get?_set]

theorem claim_error {now : Instant} (failed : (store.claim input now).1 = .error fault) : (store.claim input now).2 = store := by
  unfold claim at failed ⊢
  split at failed
  · cases failed
  · split at failed
    · rename_i bound
      rw [if_pos bound]
    · cases failed

end

end PublicationStore

end AgentOS.Publication
