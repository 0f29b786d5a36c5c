import AgentOS.Publication.GitHubPublisher

/-! The store of publication records in full, with the patch and the event of every checkpoint: in memory, and as the
tables, constraints and functions of the database. -/
namespace AgentOS.Publication
open Library Workflow Gate

inductive Detail where
  | text (value : String)
  | number (value : Nat)
  | flag (value : Bool)

structure CheckpointEvent extends PublicationEvent where
  details : List (String × Detail) := []

/-- A record, and a row of the table: a column is null where the record has no value. -/
structure CheckpointRecord extends PublicationRecord where
  errorCode : Option String := none

structure CheckpointPatch where
  phase : PublicationPhase
  blobShas : Option (List (String × String)) := none
  treeSha : Option String := none
  commitSha : Option String := none
  pullRequestNumber : Option Nat := none
  pullRequestUrl : Option String := none
  draft : Bool := false
  errorCode : Option String := none
  updatedAt : Instant

def CheckpointPatch.onto (patch : CheckpointPatch) (existing : CheckpointRecord) : CheckpointRecord where
  toPublicationClaim := existing.toPublicationClaim
  phase := patch.phase
  blobShas := patch.blobShas <|> existing.blobShas
  treeSha := patch.treeSha <|> existing.treeSha
  commitSha := patch.commitSha <|> existing.commitSha
  pullRequestNumber := patch.pullRequestNumber <|> existing.pullRequestNumber
  pullRequestUrl := patch.pullRequestUrl <|> existing.pullRequestUrl
  draft := patch.draft || existing.draft
  errorCode := patch.errorCode <|> existing.errorCode
  revision := existing.revision + 1
  createdAt := existing.createdAt
  updatedAt := patch.updatedAt

def claimedRecord (input : PublicationClaim) (now : Instant) : CheckpointRecord where
  toPublicationRecord := PublicationStore.claimed input now

def claimedEvent (input : PublicationClaim) (now : Instant) : CheckpointEvent where
  publicationKey := input.key
  phase := .claimed
  at_ := now

/-- Both stores' `save` first look whether the event goes with the patch. -/
def matchesCheckpoint (key : String) (expectedRevision : Int) (patch : CheckpointPatch) (event : CheckpointEvent) : Bool :=
  event.publicationKey = key && event.phase = patch.phase && event.at_ = patch.updatedAt &&
    isSafeInteger expectedRevision && 0 < expectedRevision

def storeConflict (message : String) : PublisherFault := .publisher .storeConflict message

inductive StoreCall where
  | claim (input : PublicationClaim) (now : Instant)
  | save (key : String) (expectedRevision : Int) (patch : CheckpointPatch) (event : CheckpointEvent)

/-! ### In memory -/

structure InMemoryPublicationStore where
  records : OrderedMap String CheckpointRecord := .empty
  bindingKeys : OrderedMap String String := .empty
  events : List CheckpointEvent := []

namespace InMemoryPublicationStore

variable (store : InMemoryPublicationStore)

def claim (input : PublicationClaim) (now : Instant) : Except PublisherFault CheckpointRecord × InMemoryPublicationStore :=
  match store.records.get? input.key with
  | some existing => (.ok existing,store)
  | none =>
    if (store.bindingKeys.get? input.bindingKey).any (· ≠ input.key) then
      (.error (.publisher .collision "Run is already bound to a different publication manifest"),store)
    else (.ok (claimedRecord input now),
      {records := store.records.set input.key (claimedRecord input now)
       bindingKeys := store.bindingKeys.set input.bindingKey input.key
       events := store.events ++ [claimedEvent input now]})

section
variable (existing : CheckpointRecord) (patch : CheckpointPatch)

def cancellationEnrichment : Bool :=
  existing.phase = .cancelled && patch.phase = .cancelled && existing.pullRequestNumber.isNone &&
    patch.pullRequestNumber.isSome && patch.pullRequestUrl.isSome && patch.draft

def allows : Bool :=
  (transitions existing.phase).contains patch.phase || cancellationEnrichment existing patch

end

def save (key : String) (expectedRevision : Int) (patch : CheckpointPatch)
    (event : CheckpointEvent) : Except PublisherFault CheckpointRecord × InMemoryPublicationStore :=
  if matchesCheckpoint key expectedRevision patch event then
    match store.records.get? key with
    | none => (.error (storeConflict "Publication checkpoint changed concurrently"),store)
    | some existing =>
      if existing.revision = expectedRevision ∧ allows existing patch then
        (.ok (patch.onto existing),
          {store with records := store.records.set key (patch.onto existing),events := store.events ++ [event]})
      else (.error (storeConflict "Publication checkpoint changed concurrently"),store)
  else (.error (storeConflict "Publication event does not match its checkpoint"),store)

def respond : StoreCall → Except PublisherFault CheckpointRecord × InMemoryPublicationStore
  | .claim input now => store.claim input now
  | .save key expectedRevision patch event => store.save key expectedRevision patch event

end InMemoryPublicationStore

/-! ### In the database -/

/-- `projects` and `runs` hold the identifiers that the foreign keys refer to. -/
structure PublicationTables where
  projects : List String
  runs : List String
  records : OrderedMap String CheckpointRecord := .empty
  events : List CheckpointEvent := []

inductive DatabaseFault where
  | conflict
  | checkViolation
  | foreignKeyViolation

/-- The expression `^agentos/[a-z0-9._-]{1,100}-[0-9a-f]{8}$`. -/
def inNamespace (branch : String) : Bool :=
  let rest := branch.toList.drop 8
  let name := rest.take (rest.length - 9)
  let ending := rest.drop (rest.length - 9)
  branch.toList.take 8 = "agentos/".toList && 1 ≤ name.length && name.length ≤ 100 && name.all GitHub.slugChar &&
    ending.length = 9 && ending.head? = some '-' && ending.tail.all isHex

def checkpointShape (row : CheckpointRecord) : Bool :=
  (row.phase ∉ [.blobsCreated,.treeCreated,.commitCreated,.refCreated,.prCreated,.succeeded] || row.blobShas.isSome) &&
    (row.phase ∉ [.treeCreated,.commitCreated,.refCreated,.prCreated,.succeeded] || row.treeSha.isSome) &&
    (row.phase ∉ [.commitCreated,.refCreated,.prCreated,.succeeded] || row.commitSha.isSome) &&
    (row.phase ∉ [.prCreated,.succeeded] || row.pullRequestNumber.isSome && row.pullRequestUrl.isSome && row.draft)

def satisfiesChecks (row : CheckpointRecord) : Bool :=
  0 < row.repositoryId && isSafeInteger row.repositoryId && 0 < row.revision && isSafeInteger row.revision &&
    isDigest row.key && isDigest row.bindingKey && isDigest row.manifestDigest && isDigest row.policyDigest &&
    isCommitSha row.baseSha && row.treeSha.all isCommitSha && row.commitSha.all isCommitSha && inNamespace row.branch &&
    row.pullRequestNumber.all (fun number => 0 < number) && row.pullRequestUrl.all (startsWith "https://github.com/") &&
    checkpointShape row

namespace PublicationTables

section
variable (tables : PublicationTables) (input : PublicationClaim)

/-- The row that an insert conflicts with: by the publication's key, else by its binding's. -/
def conflicting : Option CheckpointRecord :=
  tables.records.get? input.key <|> tables.records.values.find? fun row => row.bindingKey = input.bindingKey

/-- The constraints are looked at before the conflicts, the foreign keys after. -/
def agentosClaimPublication (now : Instant) : Except DatabaseFault CheckpointRecord × PublicationTables :=
  if satisfiesChecks (claimedRecord input now) then
    match tables.conflicting input with
    | some stored => if stored.toPublicationClaim = input then (.ok stored,tables) else (.error .conflict,tables)
    | none =>
      if input.projectId ∈ tables.projects ∧ input.runId ∈ tables.runs then
        (.ok (claimedRecord input now),{tables with records := tables.records.set input.key (claimedRecord input now)
                                                    events := tables.events ++ [claimedEvent input now]})
      else (.error .foreignKeyViolation,tables)
  else (.error .checkViolation,tables)

end

def validPatch (patch : CheckpointPatch) : Bool :=
  patch.pullRequestNumber.all (fun number => 0 < number && number < 10 ^ 16) &&
    (patch.phase ≠ .blobsCreated || patch.blobShas.any fun shas => shas.all fun blob => isCommitSha blob.2) &&
    (patch.phase ≠ .treeCreated || patch.treeSha.any isCommitSha) &&
    (patch.phase ∉ [.commitCreated,.refCreated] || patch.commitSha.any isCommitSha) &&
    (patch.phase ≠ .prCreated || patch.pullRequestNumber.isSome && patch.pullRequestUrl.isSome && patch.draft)

def mayMove (row : CheckpointRecord) (patch : CheckpointPatch) : Bool :=
  match row.phase with
  | .claimed => patch.phase ∈ [.blobsCreated,.failed,.cancelled]
  | .failed => patch.phase ∈ [.blobsCreated,.cancelled]
  | .blobsCreated => patch.phase ∈ [.treeCreated,.failed,.cancelled]
  | .treeCreated => patch.phase ∈ [.commitCreated,.failed,.cancelled]
  | .commitCreated => patch.phase ∈ [.refCreated,.failed,.cancelled]
  | .refCreated => patch.phase ∈ [.prCreated,.failed,.cancelled]
  | .prCreated => patch.phase ∈ [.succeeded,.failed,.cancelled]
  | .cancelled => patch.phase = .cancelled && row.pullRequestNumber.isNone && patch.pullRequestNumber.isSome &&
      patch.pullRequestUrl.isSome && patch.draft
  | .succeeded => false

def agentosSavePublication (tables : PublicationTables) (key : String) (expectedRevision : Int) (patch : CheckpointPatch)
    (event : CheckpointEvent) : Except DatabaseFault CheckpointRecord × PublicationTables :=
  if validPatch patch then
    match tables.records.get? key with
    | none => (.error .conflict,tables)
    | some row =>
      if row.revision = expectedRevision ∧ mayMove row patch then
        if satisfiesChecks (patch.onto row) then
          (.ok (patch.onto row),{tables with records := tables.records.set key (patch.onto row)
                                             events := tables.events ++ [event]})
        else (.error .checkViolation,tables)
      else (.error .conflict,tables)
  else (.error .conflict,tables)

end PublicationTables

/-! ### The store over the database -/

/-- What the store over the database throws: its own faults, and the database's that are no conflict. -/
inductive PostgresFault where
  | publisher (fault : PublisherFault)
  | database (fault : DatabaseFault)

def conflictsAs (fault : PublisherFault) : DatabaseFault → PostgresFault
  | .conflict => .publisher fault
  | other => .database other

namespace PostgresPublicationStore

section
variable (tables : PublicationTables)

def claim (input : PublicationClaim) (now : Instant) : Except PostgresFault CheckpointRecord × PublicationTables :=
  let reply := tables.agentosClaimPublication input now
  (reply.1.mapError (conflictsAs (.publisher .collision "Publication binding conflicts with durable state")),reply.2)

def save (key : String) (expectedRevision : Int) (patch : CheckpointPatch)
    (event : CheckpointEvent) : Except PostgresFault CheckpointRecord × PublicationTables :=
  if matchesCheckpoint key expectedRevision patch event then
    let reply := tables.agentosSavePublication key expectedRevision patch event
    (reply.1.mapError (conflictsAs (storeConflict "Publication checkpoint changed concurrently")),reply.2)
  else (.error (.publisher (storeConflict "Publication event does not match its checkpoint")),tables)

def respond : StoreCall → Except PostgresFault CheckpointRecord × PublicationTables
  | .claim input now => claim tables input now
  | .save key expectedRevision patch event => save tables key expectedRevision patch event

end

end PostgresPublicationStore
end AgentOS.Publication
