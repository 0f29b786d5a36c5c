import AgentOS.Library.Machines
import AgentOS.Publication.CheckpointClaims

/-! The store of publication records in memory and over the database, asked alike by the publishers: they answer alike except
for a claim whose row the table's constraints or foreign keys refuse. -/
namespace AgentOS.Publication
open Library Machines Gate
open OrderedMap (get?_set get?_set_some mem_values)

/-! ### What the publishers ask -/

def Patch.full (patch : Patch) : CheckpointPatch where
  phase := patch.phase
  blobShas := patch.blobShas
  treeSha := patch.treeSha
  commitSha := patch.commitSha
  pullRequestNumber := patch.pullRequest.map Prod.fst
  pullRequestUrl := patch.pullRequest.map Prod.snd
  draft := patch.pullRequest.isSome
  updatedAt := patch.updatedAt

inductive Checkpoints : Patch → Prop
  | blobs (shas : List (String × String)) (at_ : Instant) (named : ∀ blob ∈ shas, isCommitSha blob.2 = true) :
      Checkpoints {phase := .blobsCreated,blobShas := some shas,updatedAt := at_}
  | tree (sha : String) (at_ : Instant) (named : isCommitSha sha = true) :
      Checkpoints {phase := .treeCreated,treeSha := some sha,updatedAt := at_}
  | commit (sha : String) (at_ : Instant) (named : isCommitSha sha = true) :
      Checkpoints {phase := .commitCreated,commitSha := some sha,updatedAt := at_}
  | reference (sha : String) (at_ : Instant) (named : isCommitSha sha = true) :
      Checkpoints {phase := .refCreated,commitSha := some sha,updatedAt := at_}
  | pull (number : Nat) (url : String) (at_ : Instant) (positive : 0 < number) (safe : isSafeInteger number = true)
      (page : startsWith "https://github.com/" url = true) :
      Checkpoints {phase := .prCreated,pullRequest := some (number,url),updatedAt := at_}
  | succeeded (at_ : Instant) : Checkpoints {phase := .succeeded,updatedAt := at_}
  | cancelled (at_ : Instant) : Checkpoints {phase := .cancelled,updatedAt := at_}
  | cancelledPull (number : Nat) (url : String) (at_ : Instant) (positive : 0 < number) (safe : isSafeInteger number = true)
      (page : startsWith "https://github.com/" url = true) :
      Checkpoints {phase := .cancelled,pullRequest := some (number,url),updatedAt := at_}

/-- A claim for a manifest, or a checkpoint at a revision that was read, with its event. -/
inductive Issued (crypto : Crypto) (texts : List String) : StoreCall → Prop
  | claim (input : PublicationClaim) (now : Instant) (issued : IssuedClaim crypto texts input) : Issued crypto texts (.claim input now)
  | save (key : String) (revision : Nat) (patch : Patch) (details : List (String × Detail)) (checkpoints : Checkpoints patch)
      (positive : 0 < revision) (safe : isSafeInteger revision = true) : Issued crypto texts
        (.save key revision patch.full {publicationKey := key,phase := patch.phase,at_ := patch.updatedAt,details})

section
variable {crypto : Crypto} {texts : List String} {patch : Patch} {row : CheckpointRecord} {key : String} {revision : Nat}

variable {call : StoreCall} {details : List (String × Detail)}

theorem matchesCheckpoint_issued (positive : 0 < revision)
    (safe : isSafeInteger revision = true) : matchesCheckpoint key revision patch.full
      {publicationKey := key,phase := patch.phase,at_ := patch.updatedAt,details} = true := by
  simp [matchesCheckpoint,Patch.full,positive,safe]

structure Named (patch : CheckpointPatch) : Prop where
  treeSha : patch.treeSha.all isCommitSha = true
  commitSha : patch.commitSha.all isCommitSha = true
  number : patch.pullRequestNumber.all (fun number => 0 < number) = true
  url : patch.pullRequestUrl.all (startsWith "https://github.com/") = true

theorem Checkpoints.named (checkpoints : Checkpoints patch) : Named patch.full := by
  cases checkpoints with
  | blobs shas at_ named => exact ⟨rfl,rfl,rfl,rfl⟩
  | tree sha at_ named => exact ⟨named,rfl,rfl,rfl⟩
  | commit sha at_ named => exact ⟨rfl,named,rfl,rfl⟩
  | reference sha at_ named => exact ⟨rfl,named,rfl,rfl⟩
  | pull number url at_ positive safe page => exact ⟨rfl,rfl,decide_eq_true positive,page⟩
  | succeeded at_ => exact ⟨rfl,rfl,rfl,rfl⟩
  | cancelled at_ => exact ⟨rfl,rfl,rfl,rfl⟩
  | cancelledPull number url at_ positive safe page => exact ⟨rfl,rfl,decide_eq_true positive,page⟩

theorem lt_of_isSafeInteger {number : Nat} (safe : isSafeInteger number = true) : number < 10000000000000000 := by
  simp only [isSafeInteger,Bool.and_eq_true,decide_eq_true_eq] at safe
  omega

theorem Checkpoints.validPatch (checkpoints : Checkpoints patch) : PublicationTables.validPatch patch.full = true := by
  cases checkpoints with
  | blobs shas at_ named => simpa [PublicationTables.validPatch,Patch.full] using fun path sha => named (path,sha)
  | tree sha at_ named => simp [PublicationTables.validPatch,Patch.full,named]
  | commit sha at_ named => simp [PublicationTables.validPatch,Patch.full,named]
  | reference sha at_ named => simp [PublicationTables.validPatch,Patch.full,named]
  | pull number url at_ positive safe page =>
    have bound := lt_of_isSafeInteger safe
    simp [PublicationTables.validPatch,Patch.full,positive,bound]
  | succeeded at_ => rfl
  | cancelled at_ => rfl
  | cancelledPull number url at_ positive safe page =>
    have bound := lt_of_isSafeInteger safe
    simp [PublicationTables.validPatch,Patch.full,positive,bound]

/-! ### The two tables of transitions -/

open InMemoryPublicationStore PublicationTables in
theorem mayMove_eq_allows (row : CheckpointRecord) (patch : CheckpointPatch) : mayMove row patch = allows row patch := by
  unfold mayMove allows cancellationEnrichment
  cases row.phase <;> cases patch.phase <;> simp [transitions]

theorem allows_cases (allowed : InMemoryPublicationStore.allows row patch.full = true) : patch.phase ∈ transitions row.phase ∨
    row.phase = .cancelled ∧ patch.phase = .cancelled ∧ row.pullRequestNumber = none ∧ patch.pullRequest.isSome = true := by
  simp only [InMemoryPublicationStore.allows,InMemoryPublicationStore.cancellationEnrichment,Patch.full,Bool.or_eq_true,
    List.contains_iff_mem,Bool.and_eq_true,decide_eq_true_eq,Option.isNone_iff_eq_none,Option.isSome_map] at allowed
  exact allowed.imp_right fun both => ⟨both.1.1.1.1.1,of_decide_eq_true both.1.1.1.1.2,both.1.1.1.2,both.2⟩

/-! ### Rows that may stand in the table -/

def CheckpointRecord.left (record : CheckpointRecord) : Nat :=
  if record.phase = .cancelled then (if record.pullRequestNumber.isNone then 1 else 0) else 8 - record.phase.order

structure Standing (crypto : Crypto) (texts : List String) (key : String) (row : CheckpointRecord) : Prop where
  key : row.key = key
  issued : IssuedClaim crypto texts row.toPublicationClaim
  checks : satisfiesChecks row = true
  room : row.revision + row.left ≤ 9007199254740991

theorem standing_claimed {input : PublicationClaim} {now : Instant} (issued : IssuedClaim crypto texts input)
    (hashed : ∀ text, isDigest (crypto.sha256 text) = true) (inside : inNamespace input.branch = true) :
    Standing crypto texts input.key (claimedRecord input now) where
  key := rfl
  issued := issued
  checks := (satisfiesChecks_claimed (issued.formed hashed) now).trans inside
  room := (by decide : 1 + 8 ≤ 9007199254740991)

section
variable (checkpoints : Checkpoints patch) (allowed : InMemoryPublicationStore.allows row patch.full = true)
include checkpoints allowed

theorem checkpointShape_onto (shape : checkpointShape row = true) : checkpointShape (patch.full.onto row) = true := by
  have moves := allows_cases allowed
  unfold checkpointShape CheckpointPatch.onto Patch.full at *
  cases checkpoints <;> cases phase : row.phase <;> simp_all [transitions]

theorem left_onto : (patch.full.onto row).left < row.left := by
  have moves := allows_cases allowed
  unfold CheckpointRecord.left CheckpointPatch.onto Patch.full at *
  cases checkpoints <;> cases phase : row.phase <;> simp_all [transitions,PublicationPhase.order]
  all_goals
    split
    · decide
    · decide

end

theorem all_orElse {α : Type} {first second : Option α} {holds : α → Bool} (here : first.all holds = true)
    (there : second.all holds = true) : (first <|> second).all holds = true := by
  cases first with
  | none => exact there
  | some value => exact here

theorem Standing.onto (standing : Standing crypto texts key row) (checkpoints : Checkpoints patch)
    (allowed : InMemoryPublicationStore.allows row patch.full = true) : Standing crypto texts key (patch.full.onto row) where
  key := standing.key
  issued := standing.issued
  checks := by
    have named := checkpoints.named
    have fewer := left_onto checkpoints allowed
    have room := standing.room
    have old := standing.checks
    have later : isSafeInteger ((row.revision + 1 : Nat) : Int) = true := by
      simp only [isSafeInteger,Bool.and_eq_true,decide_eq_true_eq]
      omega
    simp only [satisfiesChecks,Bool.and_eq_true,decide_eq_true_eq] at old ⊢
    obtain ⟨⟨⟨⟨⟨⟨⟨⟨⟨⟨⟨⟨⟨⟨numbered,safe⟩,_⟩,_⟩,key⟩,binding⟩,manifest⟩,policy⟩,base⟩,tree⟩,commit⟩,branch⟩,number⟩,url⟩,shape⟩ := old
    exact ⟨⟨⟨⟨⟨⟨⟨⟨⟨⟨⟨⟨⟨⟨numbered,safe⟩,Nat.succ_pos _⟩,later⟩,key⟩,binding⟩,manifest⟩,policy⟩,base⟩,all_orElse named.treeSha tree⟩,
      all_orElse named.commitSha commit⟩,branch⟩,all_orElse named.number number⟩,all_orElse named.url url⟩,
      checkpointShape_onto checkpoints allowed shape⟩
  room := by
    have fewer := left_onto checkpoints allowed
    have room := standing.room
    change row.revision + 1 + _ ≤ _
    omega

/-! ### Corresponding states -/

structure Corresponds (crypto : Crypto) (texts : List String) (memory : InMemoryPublicationStore) (tables : PublicationTables) :
    Prop where
  records : ∀ key, memory.records.get? key = tables.records.get? key
  bindings : ∀ binding key, memory.bindingKeys.get? binding = some key ↔
    ∃ row, tables.records.get? key = some row ∧ row.bindingKey = binding
  events : memory.events = tables.events
  standing : ∀ key row, tables.records.get? key = some row → Standing crypto texts key row

theorem corresponds_initial (crypto : Crypto) (texts projects runs : List String) :
    Corresponds crypto texts {} {projects,runs} where
  records _ := rfl
  bindings _ _ := iff_of_false (fun held => by cases held) fun ⟨_,held,_⟩ => by cases held
  events := rfl
  standing _ _ held := by cases held

variable {memory : InMemoryPublicationStore} {tables : PublicationTables}

section
variable (corresponds : Corresponds crypto texts memory tables)
include corresponds

theorem Corresponds.conflicting_none {input : PublicationClaim} :
    tables.conflicting input = none ↔ memory.records.get? input.key = none ∧ memory.bindingKeys.get? input.bindingKey = none := by
  unfold PublicationTables.conflicting
  rw [← corresponds.records]
  cases memory.records.get? input.key with
  | some stored => exact iff_of_false (fun none_held => by cases none_held) fun both => by cases both.1
  | none =>
    change List.find? _ _ = none ↔ _
    rw [List.find?_eq_none]
    refine Iff.trans ?_ (and_iff_right rfl).symm
    rw [Option.eq_none_iff_forall_ne_some]
    constructor
    · intro free key bound
      obtain ⟨row,held,same⟩ := (corresponds.bindings _ _).mp bound
      exact free row ((mem_values _ _).mpr ⟨key,held⟩) (decide_eq_true same)
    · intro free row inside same
      obtain ⟨key,held⟩ := (mem_values _ _).mp inside
      exact free key ((corresponds.bindings _ _).mpr ⟨row,held,of_decide_eq_true same⟩)

theorem Corresponds.saved {after : CheckpointRecord} {event : CheckpointEvent}
    (held : tables.records.get? key = some row) (same : after.bindingKey = row.bindingKey)
    (standing : Standing crypto texts key after) : Corresponds crypto texts
      {memory with records := memory.records.set key after,events := memory.events ++ [event]}
      {tables with records := tables.records.set key after,events := tables.events ++ [event]} where
  records other := by
    rw [get?_set,get?_set,corresponds.records]
  bindings binding other := by
    rw [corresponds.bindings,get?_set]
    by_cases here : other = key
    · subst here
      rw [if_pos rfl,held]
      simp [same]
    · rw [if_neg here]
  events := congrArg (· ++ [event]) corresponds.events
  standing other found stored := by
    rcases get?_set_some stored with ⟨rfl,rfl⟩ | ⟨_,stored⟩
    · exact standing
    · exact corresponds.standing other found stored

theorem Corresponds.inserted {input : PublicationClaim} {now : Instant}
    (fresh : memory.records.get? input.key = none) (unbound : memory.bindingKeys.get? input.bindingKey = none)
    (standing : Standing crypto texts input.key (claimedRecord input now)) : Corresponds crypto texts
      {records := memory.records.set input.key (claimedRecord input now)
       bindingKeys := memory.bindingKeys.set input.bindingKey input.key
       events := memory.events ++ [claimedEvent input now]}
      {tables with records := tables.records.set input.key (claimedRecord input now)
                   events := tables.events ++ [claimedEvent input now]} where
  records other := by
    rw [get?_set,get?_set,corresponds.records]
  bindings binding other := by
    rw [get?_set,get?_set]
    rw [corresponds.records] at fresh
    by_cases bound : binding = input.bindingKey
    · subst bound
      rw [if_pos rfl]
      constructor
      · intro same
        cases same
        exact ⟨claimedRecord input now,by rw [if_pos rfl],rfl⟩
      · rintro ⟨row,held,same⟩
        split at held
        · rename_i here
          rw [here]
        · have old := (corresponds.bindings input.bindingKey other).mpr ⟨row,held,same⟩
          cases unbound.symm.trans old
    · rw [if_neg bound,corresponds.bindings]
      refine exists_congr fun row => and_congr_left fun same => ?_
      split
      · rename_i here
        subst here
        rw [fresh]
        exact iff_of_false (fun held => by cases held) fun held => by cases held; exact bound same.symm
      · rfl
  events := congrArg (· ++ [claimedEvent input now]) corresponds.events
  standing other found stored := by
    rcases get?_set_some stored with ⟨rfl,rfl⟩ | ⟨_,stored⟩
    · exact standing
    · exact corresponds.standing other found stored

end

/-! ### One call -/

/-- Whether the database takes a claim that is new to it: its project and its run are stored, and its branch may be. -/
def Lands (tables : PublicationTables) : StoreCall → Prop
  | .claim input _ => tables.conflicting input = none → input.projectId ∈ tables.projects ∧ input.runId ∈ tables.runs ∧ Storable input
  | .save _ _ _ _ => True

/-- Both stores accept a call with the same record and event, or both refuse it and change nothing. -/
def Alike (crypto : Crypto) (texts : List String) (memory : InMemoryPublicationStore) (tables : PublicationTables) (call : StoreCall) :
    Prop :=
  (∃ record after after', memory.respond call = (.ok record,after) ∧ PostgresPublicationStore.respond tables call = (.ok record,after') ∧
    Corresponds crypto texts after after') ∨
  ∃ fault fault', memory.respond call = (.error fault,memory) ∧ PostgresPublicationStore.respond tables call = (.error fault',tables)

variable {input : PublicationClaim} {now : Instant}

theorem postgres_claim (checks : satisfiesChecks (claimedRecord input now) = inNamespace input.branch) :
    PostgresPublicationStore.claim tables input now =
      if inNamespace input.branch then
        match tables.conflicting input with
        | some stored =>
          if stored.toPublicationClaim = input then (.ok stored,tables)
          else (.error (.publisher (.publisher .collision "Publication binding conflicts with durable state")),tables)
        | none =>
          if input.projectId ∈ tables.projects ∧ input.runId ∈ tables.runs then
            (.ok (claimedRecord input now),{tables with records := tables.records.set input.key (claimedRecord input now)
                                                        events := tables.events ++ [claimedEvent input now]})
          else (.error (.database .foreignKeyViolation),tables)
      else (.error (.database .checkViolation),tables) := by
  unfold PostgresPublicationStore.claim PublicationTables.agentosClaimPublication
  rw [checks]
  cases inNamespace input.branch with
  | false => rfl
  | true =>
    rw [if_pos rfl,if_pos rfl]
    cases tables.conflicting input with
    | some stored =>
      dsimp only
      split
      · rfl
      · rfl
    | none =>
      dsimp only
      split
      · rfl
      · rfl

theorem claim_stored {stored : CheckpointRecord} (hashed : ∀ text, isDigest (crypto.sha256 text) = true)
    (separate : CollisionFree crypto.sha256 texts) (corresponds : Corresponds crypto texts memory tables)
    (issued : IssuedClaim crypto texts input) (held : memory.records.get? input.key = some stored) :
    Alike crypto texts memory tables (.claim input now) := by
  have there := (corresponds.records _).symm.trans held
  have standing := corresponds.standing _ _ there
  have same : stored.toPublicationClaim = input := standing.issued.eq_of_key issued hashed separate standing.key
  have inside : inNamespace input.branch = true := by
    rw [← same]
    have checks := standing.checks
    simp only [satisfiesChecks,Bool.and_eq_true] at checks
    exact checks.1.1.1.2
  have conflicting : tables.conflicting input = some stored := by
    unfold PublicationTables.conflicting
    rw [there]
    rfl
  refine .inl ⟨stored,memory,tables,?_,?_,corresponds⟩
  · unfold InMemoryPublicationStore.respond InMemoryPublicationStore.claim
    dsimp only
    rw [held]
  · change PostgresPublicationStore.claim tables input now = _
    rw [postgres_claim (satisfiesChecks_claimed (issued.formed hashed) now),inside,if_pos rfl,conflicting]
    dsimp only
    rw [if_pos same]

theorem claim_bound {bound : String} (hashed : ∀ text, isDigest (crypto.sha256 text) = true)
    (corresponds : Corresponds crypto texts memory tables) (issued : IssuedClaim crypto texts input)
    (fresh : memory.records.get? input.key = none) (held : memory.bindingKeys.get? input.bindingKey = some bound) :
    Alike crypto texts memory tables (.claim input now) := by
  obtain ⟨row,stored,same⟩ := (corresponds.bindings _ _).mp held
  have other : bound ≠ input.key := by
    rintro rfl
    cases ((corresponds.records _).symm.trans fresh).symm.trans stored
  refine .inr ?_
  have refused : ∃ fault, PostgresPublicationStore.claim tables input now = (.error fault,tables) := by
    rw [postgres_claim (satisfiesChecks_claimed (issued.formed hashed) now)]
    split
    · split
      · rename_i found conflicting
        have apart : found.toPublicationClaim ≠ input := by
          intro equal
          have key : found.key = input.key := congrArg PublicationClaim.key equal
          unfold PublicationTables.conflicting at conflicting
          rw [← corresponds.records,fresh] at conflicting
          obtain ⟨place,at_place⟩ := (mem_values _ _).mp (List.mem_of_find?_eq_some conflicting)
          have placed := (corresponds.standing place found at_place).key
          rw [key] at placed
          subst placed
          cases ((corresponds.records _).symm.trans fresh).symm.trans at_place
        rw [if_neg apart]
        exact ⟨_,rfl⟩
      · rename_i free
        cases (corresponds.conflicting_none.mp free).2.symm.trans held
    · exact ⟨_,rfl⟩
  obtain ⟨fault,refused⟩ := refused
  refine ⟨.publisher .collision "Run is already bound to a different publication manifest",fault,?_,refused⟩
  unfold InMemoryPublicationStore.respond InMemoryPublicationStore.claim
  dsimp only
  rw [fresh,held]
  dsimp only
  rw [if_pos (by simp [other])]

theorem claim_accepted (fresh : memory.records.get? input.key = none) (unbound : memory.bindingKeys.get? input.bindingKey = none) :
    memory.respond (.claim input now) = (.ok (claimedRecord input now),
      {records := memory.records.set input.key (claimedRecord input now)
       bindingKeys := memory.bindingKeys.set input.bindingKey input.key
       events := memory.events ++ [claimedEvent input now]}) := by
  unfold InMemoryPublicationStore.respond InMemoryPublicationStore.claim
  dsimp only
  rw [fresh,unbound]
  rfl

theorem postgres_accepts {record : CheckpointRecord} (hashed : ∀ text, isDigest (crypto.sha256 text) = true)
    (issued : IssuedClaim crypto texts input) (conflicting : tables.conflicting input = none)
    (accepted : (PostgresPublicationStore.claim tables input now).1 = .ok record) :
    input.projectId ∈ tables.projects ∧ input.runId ∈ tables.runs ∧ Storable input := by
  rw [postgres_claim (satisfiesChecks_claimed (issued.formed hashed) now),conflicting] at accepted
  split at accepted
  · rename_i inside
    dsimp only at accepted
    split at accepted
    · rename_i stored
      exact ⟨stored.1,stored.2,(issued.inNamespace_iff hashed).mp inside⟩
    · cases accepted
  · cases accepted

section
variable (hashed : ∀ text, isDigest (crypto.sha256 text) = true)
include hashed

theorem claim_fresh_iff (corresponds : Corresponds crypto texts memory tables)
    (issued : IssuedClaim crypto texts input) (fresh : memory.records.get? input.key = none)
    (unbound : memory.bindingKeys.get? input.bindingKey = none) : Alike crypto texts memory tables (.claim input now) ↔
      input.projectId ∈ tables.projects ∧ input.runId ∈ tables.runs ∧ Storable input := by
  have conflicting := corresponds.conflicting_none.mpr ⟨fresh,unbound⟩
  have accepted : memory.respond (.claim input now) = _ := claim_accepted fresh unbound
  constructor
  · rintro (⟨record,after,after',_,there,_⟩ | ⟨fault,_,refused,_⟩)
    · exact postgres_accepts hashed issued conflicting (congrArg Prod.fst there)
    · cases accepted.symm.trans refused
  · rintro ⟨project,run,storable⟩
    have inside := (issued.inNamespace_iff hashed).mpr storable
    refine .inl ⟨_,_,_,accepted,?_,corresponds.inserted fresh unbound (standing_claimed issued hashed inside)⟩
    change PostgresPublicationStore.claim tables input now = _
    rw [postgres_claim (satisfiesChecks_claimed (issued.formed hashed) now),conflicting,if_pos inside]
    dsimp only
    rw [if_pos ⟨project,run⟩]

theorem claim_alike_iff (separate : CollisionFree crypto.sha256 texts)
    (corresponds : Corresponds crypto texts memory tables) (issued : IssuedClaim crypto texts input) :
    Alike crypto texts memory tables (.claim input now) ↔ Lands tables (.claim input now) := by
  have conflicting : tables.conflicting input = none ↔ _ := corresponds.conflicting_none
  cases held : memory.records.get? input.key with
  | some stored =>
    refine iff_of_true (claim_stored hashed separate corresponds issued held) fun free => ?_
    cases (conflicting.mp free).1.symm.trans held
  | none =>
    cases bound : memory.bindingKeys.get? input.bindingKey with
    | some key =>
      refine iff_of_true (claim_bound hashed corresponds issued held bound) fun free => ?_
      cases (conflicting.mp free).2.symm.trans bound
    | none =>
      refine (claim_fresh_iff hashed corresponds issued held bound).trans ?_
      exact ⟨fun lands _ => lands,fun lands => lands (conflicting.mpr ⟨held,bound⟩)⟩

end

theorem save_alike {patch : Patch} (corresponds : Corresponds crypto texts memory tables)
    (checkpoints : Checkpoints patch) (positive : 0 < revision) (safe : isSafeInteger revision = true) :
    Alike crypto texts memory tables
      (.save key revision patch.full {publicationKey := key,phase := patch.phase,at_ := patch.updatedAt,details}) := by
  unfold Alike InMemoryPublicationStore.respond PostgresPublicationStore.respond PostgresPublicationStore.save
    InMemoryPublicationStore.save PublicationTables.agentosSavePublication
  dsimp only
  rw [if_pos (matchesCheckpoint_issued positive safe),if_pos (matchesCheckpoint_issued positive safe),if_pos checkpoints.validPatch,
    corresponds.records]
  cases held : tables.records.get? key with
  | none => exact .inr ⟨_,_,rfl,rfl⟩
  | some row =>
    dsimp only
    rw [mayMove_eq_allows]
    split
    · rename_i allowed
      have standing := (corresponds.standing key row held).onto checkpoints allowed.2
      rw [if_pos standing.checks]
      exact .inl ⟨_,_,_,rfl,rfl,corresponds.saved held rfl standing⟩
    · exact .inr ⟨_,_,rfl,rfl⟩

theorem respond_alike_iff (hashed : ∀ text, isDigest (crypto.sha256 text) = true)
    (separate : CollisionFree crypto.sha256 texts) (corresponds : Corresponds crypto texts memory tables)
    (issued : Issued crypto texts call) : Alike crypto texts memory tables call ↔ Lands tables call := by
  cases issued with
  | claim input now issued => exact claim_alike_iff hashed separate corresponds issued
  | save key revision patch details checkpoints positive safe =>
    exact iff_of_true (save_alike corresponds checkpoints positive safe) trivial

/-! ### Records over a run -/

inductive Advance (before after : CheckpointRecord) : Prop
  | moves (claim : after.toPublicationClaim = before.toPublicationClaim) (revision : after.revision = before.revision + 1)
      (transition : after.phase ∈ transitions before.phase)
  /-- A cancelled record gains its pull request. -/
  | gains (number : Nat) (url : String) (at_ : Instant) (cancelled : before.phase = .cancelled) (bare : before.pullRequestNumber = none)
      (gained : after = {before with pullRequestNumber := some number,pullRequestUrl := some url,draft := true
                                     revision := before.revision + 1,updatedAt := at_})

theorem advance_of_allows {patch : Patch} (checkpoints : Checkpoints patch)
    (allowed : InMemoryPublicationStore.allows row patch.full = true) : Advance row (patch.full.onto row) := by
  rcases allows_cases allowed with moved | ⟨from_,to_,bare,opened⟩
  · exact .moves rfl rfl moved
  · cases checkpoints with
    | cancelledPull number url at_ positive safe page =>
      refine .gains number url at_ from_ bare ?_
      rw [← from_]
      rfl
    | cancelled at_ => cases opened
    | blobs shas at_ named => cases to_
    | tree sha at_ named => cases to_
    | commit sha at_ named => cases to_
    | reference sha at_ named => cases to_
    | pull number url at_ positive safe page => cases to_
    | succeeded at_ => cases to_

section
variable {before after : CheckpointRecord} (advance : Advance before after)
include advance

theorem Advance.not_succeeded : before.phase ≠ .succeeded := by
  intro succeeded
  cases advance with
  | moves claim revision transition =>
    rw [succeeded] at transition
    cases transition
  | gains number url at_ cancelled => cases succeeded.symm.trans cancelled

theorem Advance.of_cancelled (cancelled : before.phase = .cancelled) :
    before.pullRequestNumber = none ∧ after.phase = .cancelled ∧ after.pullRequestNumber ≠ none := by
  cases advance with
  | moves claim revision transition =>
    rw [cancelled] at transition
    cases transition
  | gains number url at_ _ bare gained =>
    subst gained
    exact ⟨bare,cancelled,Option.some_ne_none _⟩

end

structure Evolved (before after : CheckpointRecord) : Prop where
  path : Relation.ReflTransGen Advance before after
  succeeded : before.phase = .succeeded → after = before
  cancelled : before.phase = .cancelled → after = before ∨ before.pullRequestNumber = none ∧ Advance before after

theorem evolved_of_path {before after : CheckpointRecord} (path : Relation.ReflTransGen Advance before after) :
    Evolved before after where
  path := path
  succeeded done := by
    rcases path.cases_head with same | ⟨next,advance,_⟩
    · exact same.symm
    · exact absurd done advance.not_succeeded
  cancelled done := by
    rcases path.cases_head with same | ⟨next,advance,rest⟩
    · exact .inl same.symm
    · -- once the pull request is there nothing more can be gained
      obtain ⟨bare,still,opened⟩ := advance.of_cancelled done
      refine .inr ⟨bare,?_⟩
      rcases rest.cases_head with same | ⟨further,more,_⟩
      · exact same ▸ advance
      · exact absurd (more.of_cancelled still).1 opened

theorem memory_advances (issued : Issued crypto texts call) (held : memory.records.get? key = some row) :
    ∃ after, (memory.respond call).2.records.get? key = some after ∧ (after = row ∨ Advance row after) := by
  cases issued with
  | claim input now issued =>
    unfold InMemoryPublicationStore.respond InMemoryPublicationStore.claim
    dsimp only
    split
    · exact ⟨row,held,.inl rfl⟩
    · rename_i fresh
      split
      · exact ⟨row,held,.inl rfl⟩
      · refine ⟨row,?_,.inl rfl⟩
        have apart : key ≠ input.key := by
          rintro rfl
          cases fresh.symm.trans held
        exact (get?_set _ _ _ _).trans ((if_neg apart).trans held)
  | save saved revision patch details checkpoints positive safe =>
    unfold InMemoryPublicationStore.respond InMemoryPublicationStore.save
    dsimp only
    rw [if_pos (matchesCheckpoint_issued positive safe)]
    split
    · exact ⟨row,held,.inl rfl⟩
    · rename_i existing found
      split
      · rename_i allowed
        by_cases here : key = saved
        · subst here
          cases held.symm.trans found
          exact ⟨_,(get?_set _ _ _ _).trans (if_pos rfl),.inr (advance_of_allows checkpoints allowed.2)⟩
        · exact ⟨row,(get?_set _ _ _ _).trans ((if_neg here).trans held),.inl rfl⟩
      · exact ⟨row,held,.inl rfl⟩

theorem tables_advance (issued : Issued crypto texts call) (held : tables.records.get? key = some row) :
    ∃ after, (PostgresPublicationStore.respond tables call).2.records.get? key = some after ∧ (after = row ∨ Advance row after) := by
  cases issued with
  | claim input now issued =>
    unfold PostgresPublicationStore.respond PostgresPublicationStore.claim PublicationTables.agentosClaimPublication
    dsimp only
    split
    · split
      · split
        · exact ⟨row,held,.inl rfl⟩
        · exact ⟨row,held,.inl rfl⟩
      · rename_i free
        split
        · refine ⟨row,?_,.inl rfl⟩
          have apart : key ≠ input.key := by
            rintro rfl
            unfold PublicationTables.conflicting at free
            rw [held] at free
            cases free
          exact (get?_set _ _ _ _).trans ((if_neg apart).trans held)
        · exact ⟨row,held,.inl rfl⟩
    · exact ⟨row,held,.inl rfl⟩
  | save saved revision patch details checkpoints positive safe =>
    unfold PostgresPublicationStore.respond PostgresPublicationStore.save PublicationTables.agentosSavePublication
    dsimp only
    rw [if_pos (matchesCheckpoint_issued positive safe),if_pos checkpoints.validPatch]
    dsimp only
    split
    · exact ⟨row,held,.inl rfl⟩
    · rename_i existing found
      split
      · rename_i allowed
        split
        · rw [mayMove_eq_allows] at allowed
          by_cases here : key = saved
          · subst here
            cases held.symm.trans found
            exact ⟨_,(get?_set _ _ _ _).trans (if_pos rfl),.inr (advance_of_allows checkpoints allowed.2)⟩
          · exact ⟨row,(get?_set _ _ _ _).trans ((if_neg here).trans held),.inl rfl⟩
        · exact ⟨row,held,.inl rfl⟩
      · exact ⟨row,held,.inl rfl⟩

end

/-! ### Runs -/

abbrev PublisherCall (crypto : Crypto) (texts : List String) := {call : StoreCall // Issued crypto texts call}

section
variable (crypto : Crypto) (texts : List String)

def askMemory (memory : InMemoryPublicationStore) (call : PublisherCall crypto texts) :
    Option CheckpointRecord × InMemoryPublicationStore :=
  ((memory.respond call.1).1.toOption,(memory.respond call.1).2)

def askTables (tables : PublicationTables) (call : PublisherCall crypto texts) : Option CheckpointRecord × PublicationTables :=
  ((PostgresPublicationStore.respond tables call.1).1.toOption,(PostgresPublicationStore.respond tables call.1).2)

def KeepsRecords {σ : Type} (ask : σ → PublisherCall crypto texts → Option CheckpointRecord × σ)
    (records : σ → OrderedMap String CheckpointRecord) : Prop :=
  ∀ (state : σ) (calls : List (PublisherCall crypto texts)) (key : String) (before : CheckpointRecord),
    (records state).get? key = some before → ∃ later, (records (after ask state calls)).get? key = some later ∧ Evolved before later

end

section
variable {crypto : Crypto} {texts : List String}

theorem keepsRecords_of_advances {σ : Type} {ask : σ → PublisherCall crypto texts → Option CheckpointRecord × σ}
    {records : σ → OrderedMap String CheckpointRecord} (advances : ∀ state call key before, (records state).get? key = some before →
      ∃ later, (records (ask state call).2).get? key = some later ∧ (later = before ∨ Advance before later)) :
    KeepsRecords crypto texts ask records := by
  intro state calls key before held
  have kept : ∃ later, (records (after ask state calls)).get? key = some later ∧ Relation.ReflTransGen Advance before later := by
    refine after_preserved (fun state => ∃ later, (records state).get? key = some later ∧ Relation.ReflTransGen Advance before later)
      ?_ ⟨before,held,.refl⟩
    rintro state call ⟨middle,found,path⟩
    obtain ⟨later,found',rfl | advance⟩ := advances state call key middle found
    · exact ⟨later,found',path⟩
    · exact ⟨later,found',path.tail advance⟩
  obtain ⟨later,found,path⟩ := kept
  exact ⟨later,found,evolved_of_path path⟩

theorem memory_keepsRecords : KeepsRecords crypto texts (askMemory crypto texts) InMemoryPublicationStore.records :=
  keepsRecords_of_advances fun _ call _ _ held => memory_advances call.2 held

theorem tables_keepsRecords : KeepsRecords crypto texts (askTables crypto texts) PublicationTables.records :=
  keepsRecords_of_advances fun _ call _ _ held => tables_advance call.2 held

variable {call : PublisherCall crypto texts}

theorem toOption_of_alike {memory : InMemoryPublicationStore} {tables : PublicationTables}
    (corresponds : Corresponds crypto texts memory tables) (alike : Alike crypto texts memory tables call.1) :
    (askTables crypto texts tables call).1 = (askMemory crypto texts memory call).1 ∧
      Corresponds crypto texts (askMemory crypto texts memory call).2 (askTables crypto texts tables call).2 := by
  unfold askTables askMemory
  rcases alike with ⟨record,after,after',here,there,further⟩ | ⟨fault,fault',here,there⟩
  · rw [here,there]
    exact ⟨rfl,further⟩
  · rw [here,there]
    exact ⟨rfl,corresponds⟩

theorem toOption_of_not_lands {memory : InMemoryPublicationStore} {tables : PublicationTables}
    (hashed : ∀ text, isDigest (crypto.sha256 text) = true) (corresponds : Corresponds crypto texts memory tables)
    (falls : ¬ Lands tables call.1) : (askTables crypto texts tables call).1 ≠ (askMemory crypto texts memory call).1 := by
  obtain ⟨call,issued⟩ := call
  cases issued with
  | save key revision patch details checkpoints positive safe => exact absurd trivial falls
  | claim input now issued =>
    obtain ⟨conflicting,refused⟩ := Classical.not_imp.mp falls
    obtain ⟨fresh,unbound⟩ := corresponds.conflicting_none.mp conflicting
    intro same
    have accepted : memory.respond (.claim input now) = _ := claim_accepted fresh unbound
    unfold askTables askMemory at same
    rw [accepted] at same
    cases answer : (PostgresPublicationStore.claim tables input now).1 with
    | ok record => exact refused (postgres_accepts hashed issued conflicting answer)
    | error fault =>
      have none_there : (PostgresPublicationStore.respond tables (.claim input now)).1.toOption = none :=
        congrArg Except.toOption answer
      cases none_there.symm.trans same

/-- Over corresponding states the stores answer a publisher's call alike exactly where it lands, in runs from the empty stores they
give the same answers exactly as long as the calls land, and in each of them every record evolves by the table. -/
theorem checkpoints_alike_iff (crypto : Crypto) (texts : List String) (hashed : ∀ text, isDigest (crypto.sha256 text) = true)
    (separate : CollisionFree crypto.sha256 texts) :
    (∀ memory tables call, Corresponds crypto texts memory tables → Issued crypto texts call →
      (Alike crypto texts memory tables call ↔ Lands tables call)) ∧
    (∀ projects runs calls, answers (askTables crypto texts) {projects,runs} calls = answers (askMemory crypto texts) {} calls ↔
      Throughout (askTables crypto texts) (fun tables call => Lands tables call.1) {projects,runs} calls) ∧
    KeepsRecords crypto texts (askMemory crypto texts) InMemoryPublicationStore.records ∧
    KeepsRecords crypto texts (askTables crypto texts) PublicationTables.records := by
  refine ⟨fun memory tables call corresponds issued => respond_alike_iff hashed separate corresponds issued,?_,memory_keepsRecords,
    tables_keepsRecords⟩
  intro projects runs calls
  have relates : Corresponds crypto texts {} {projects,runs} := corresponds_initial crypto texts projects runs
  refine @answers_eq_iff _ _ _ _ (askTables crypto texts) (askMemory crypto texts)
    (fun tables memory => Corresponds crypto texts memory tables) (fun tables call => Lands tables call.1) ?_ ?_ _ _ calls relates
  · intro tables memory call corresponds lands
    exact toOption_of_alike corresponds ((respond_alike_iff hashed separate corresponds call.2).mpr lands)
  · intro tables memory call corresponds falls
    exact toOption_of_not_lands hashed corresponds falls

end

/-! ### A run whose name the constraint refuses -/

variable {manifest : PublicationManifestBody}

theorem storable_local {crypto : Crypto} {digest name : String}
    (repository : manifest.repository = .localGit name) : Storable (claimFrom crypto manifest digest) ↔ RunIdFits manifest.runId := by
  unfold Storable claimFrom
  rw [repository]
  exact ⟨fun storable => storable rfl,fun fits _ => fits⟩

theorem local_issued (crypto : Crypto) {authorization : SignedAttestation} {name : String}
    (repository : manifest.repository = .localGit name) (valid : manifest.valid = true) (authorized : authorization.valid = true)
    (checked : checkChanges [] [] 0 manifest.changes = .ok ()) : IssuedClaim crypto
      [manifestText manifest,keyText manifest (crypto.sha256 (manifestText manifest))]
      (claimFrom crypto manifest (crypto.sha256 (manifestText manifest))) := by
  have read : parsePublicationManifest crypto {manifest,authorization} =
      .ok {manifest,manifestDigest := crypto.sha256 (manifestText manifest),authorization} := by
    simp only [parsePublicationManifest,valid,authorized,Bool.not_true,Bool.or_self,checked]
    rfl
  refine .localGit read List.mem_cons_self (List.mem_cons_of_mem _ List.mem_cons_self) ?_
  unfold LocalGit.claimOf LocalGit.publicationKey LocalGit.bindingKey claimFrom keyText keySegments
  rw [repository]
  rfl

theorem separate_of_marked {sha256 : String → String} {marked other first second : String} (apart : first ≠ second)
    (named : sha256 marked = first) (plain : ∀ text, text ≠ marked → sha256 text = second) : CollisionFree sha256 [marked,other] := by
  have distinct : ∀ text, text ≠ marked → sha256 marked ≠ sha256 text := by
    intro text different same
    rw [named,plain text different] at same
    exact apart same
  intro text inside text' inside' same
  simp only [List.mem_cons,List.not_mem_nil,or_false] at inside inside'
  by_cases here : text = marked
  · by_cases there : text' = marked
    · exact here.trans there.symm
    · exact absurd (here ▸ same) (distinct text' there)
  · by_cases there : text' = marked
    · exact absurd (there ▸ same.symm) (distinct text here)
    · exact (inside.resolve_left here).trans (inside'.resolve_left there).symm

def releaseManifest (runId : String) : PublicationManifestBody := {reports 'c' 'd' with runId,repository := .localGit "shop"}

def markedCrypto (marked : String) : Crypto where
  sha256 text := if text = marked then repeated 'a' else repeated '0'
  hmac _ _ := repeated '0'

theorem markedCrypto_hashed (marked text : String) : isDigest ((markedCrypto marked).sha256 text) = true := by
  unfold markedCrypto
  dsimp only
  split
  · decide +kernel
  · decide +kernel

theorem markedCrypto_separate (marked other : String) : CollisionFree (markedCrypto marked).sha256 [marked,other] := by
  have apart : repeated 'a' ≠ repeated '0' := by decide +kernel
  exact separate_of_marked apart (if_pos rfl) fun _ different => if_neg different

def releaseCrypto (runId : String) : Crypto := markedCrypto (manifestText (releaseManifest runId))

def releaseTexts (runId : String) : List String :=
  [manifestText (releaseManifest runId),
    keyText (releaseManifest runId) ((releaseCrypto runId).sha256 (manifestText (releaseManifest runId)))]

def releaseClaim (runId : String) : PublicationClaim :=
  claimFrom (releaseCrypto runId) (releaseManifest runId) ((releaseCrypto runId).sha256 (manifestText (releaseManifest runId)))

theorem releaseClaim_issued {runId : String} (valid : (releaseManifest runId).valid = true) :
    IssuedClaim (releaseCrypto runId) (releaseTexts runId) (releaseClaim runId) := by
  have changes : (releaseManifest runId).changes = [.write .add "notes.txt" false "text"] := rfl
  have checked : checkChanges [] [] 0 [.write .add "notes.txt" false "text"] = .ok () := by decide +kernel
  exact local_issued (releaseCrypto runId) rfl valid reportAuthorization_valid (changes ▸ checked)

/-- A run in small letters is claimed in both stores. -/
theorem small_release_alike : Alike (releaseCrypto "release-1") (releaseTexts "release-1") {}
    {projects := ["project-1"],runs := ["release-1"]} (.claim (releaseClaim "release-1") 0) :=
  ((checkpoints_alike_iff (releaseCrypto "release-1") (releaseTexts "release-1") (markedCrypto_hashed _)
    (markedCrypto_separate _ _)).1
    _ _ _ (corresponds_initial _ _ _ _) (.claim _ _ (releaseClaim_issued (by decide +kernel)))).mpr fun _ =>
      ⟨List.mem_singleton.mpr rfl,List.mem_singleton.mpr rfl,fun _ => (by decide +kernel : RunIdFits "release-1")⟩

/-- The local publisher's claim of a run with a capital letter is taken in memory, and refused by the database that holds its
project and its run. -/
theorem capital_release_refused : ¬ ∀ memory tables input now,
    Corresponds (releaseCrypto "Release-1") (releaseTexts "Release-1") memory tables →
    IssuedClaim (releaseCrypto "Release-1") (releaseTexts "Release-1") input → input.projectId ∈ tables.projects →
    input.runId ∈ tables.runs → Alike (releaseCrypto "Release-1") (releaseTexts "Release-1") memory tables (.claim input now) := by
  intro every
  have issued : IssuedClaim _ _ (releaseClaim "Release-1") := releaseClaim_issued (by decide +kernel)
  have corresponds : Corresponds (releaseCrypto "Release-1") (releaseTexts "Release-1") {}
      {projects := ["project-1"],runs := ["Release-1"]} := corresponds_initial _ _ _ _
  have alike := every _ _ _ 0 corresponds issued (List.mem_singleton.mpr rfl) (List.mem_singleton.mpr rfl)
  have lands := (claim_fresh_iff (markedCrypto_hashed _) corresponds issued (OrderedMap.get?_empty _) (OrderedMap.get?_empty _)).mp alike
  have capital : ¬ RunIdFits "Release-1" := by decide +kernel
  exact capital ((storable_local rfl).mp lands.2.2)

/-! ### The store without the details -/

end AgentOS.Publication
