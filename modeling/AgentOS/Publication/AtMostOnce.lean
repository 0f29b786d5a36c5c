import AgentOS.Publication.GitHubPublisher
import AgentOS.Publication.Binding

/-! A publication is made once. Calls for one manifest may overlap, stop anywhere and be repeated:
they make one branch and one pull request at most, and those that succeed name the same. -/
namespace AgentOS.Publication.GitHub
open Library Gate Source Routine PublicationStore

structure Place where
  key : Option String
  branch : String
  base : String
  madeRefs : List String
  madePulls : List String

namespace Place
variable (place : Place)

def record (cloud : Cloud) : Option PublicationRecord := place.key.bind cloud.store.get

def pulls (cloud : Cloud) : List PullRequest := cloud.remote.openPulls place.branch place.base

def NoEarlyCommit (record : Option PublicationRecord) : Prop :=
  ∀ found, record = some found → found.phase.order < PublicationPhase.commitCreated.order → found.commitSha = none

/-- A branch or pull request that was made since is still there, which keeps another from being made. -/
structure Sound (cloud : Cloud) : Prop where
  early : NoEarlyCommit (place.record cloud)
  oneRef : cloud.remote.madeRefs = place.madeRefs ∨
    cloud.remote.madeRefs = place.branch::place.madeRefs ∧ (cloud.remote.refs.get? place.branch).isSome
  onePull : cloud.remote.madePulls = place.madePulls ∨
    cloud.remote.madePulls = place.branch::place.madePulls ∧ place.pulls cloud ≠ []
  single : (place.pulls cloud).length ≤ 1

def Committed (sha : String) (cloud : Cloud) : Prop :=
  place.Sound cloud ∧ ∃ record, place.record cloud = some record ∧ record.commitSha = some sha

def Opened (pull : PullRequest) (cloud : Cloud) : Prop := place.Sound cloud ∧ pull ∈ place.pulls cloud

def Knows (record : PublicationRecord) (cloud : Cloud) : Prop :=
  place.Sound cloud ∧ ∀ sha, record.commitSha = some sha → place.Committed sha cloud

def Named (result : PublicationResult) (cloud : Cloud) : Prop :=
  result.branch = place.branch ∧ place.Committed result.commitSha cloud ∧
    ∃ pull, place.Opened pull cloud ∧ pull.number = result.pullRequestNumber ∧ pull.url = result.pullRequestUrl

structure Advances (before after : Cloud) : Prop where
  sound : place.Sound before → place.Sound after
  committed : ∀ sha, place.Committed sha before → place.Committed sha after
  opened : ∀ pull, place.Opened pull before → place.Opened pull after

section
variable {place} {cloud after : Cloud} {record : PublicationRecord} {sha : String} {pull : PullRequest} {result : PublicationResult}

theorem Advances.refl : place.Advances cloud cloud := ⟨id,fun _ => id,fun _ => id⟩

theorem Advances.trans {middle : Cloud} (first : place.Advances cloud middle) (second : place.Advances middle after) :
    place.Advances cloud after where
  sound held := second.sound (first.sound held)
  committed sha held := second.committed sha (first.committed sha held)
  opened pull held := second.opened pull (first.opened pull held)

theorem sound_stable : Stable place.Advances place.Sound := fun _ _ advances => advances.sound

theorem committed_stable : Stable place.Advances (place.Committed sha) := fun _ _ advances => advances.committed sha

theorem opened_stable : Stable place.Advances (place.Opened pull) := fun _ _ advances => advances.opened pull

theorem knows_stable : Stable place.Advances (place.Knows record) := by
  intro _ _ advances knows
  exact ⟨advances.sound knows.1,fun sha same => advances.committed sha (knows.2 sha same)⟩

theorem named_stable : Stable place.Advances (place.Named result) := by
  rintro _ _ advances ⟨branch,committed,pull,opened,number,url⟩
  exact ⟨branch,advances.committed _ committed,pull,advances.opened pull opened,number,url⟩

theorem Committed.unique {other : String} (first : place.Committed sha cloud) (second : place.Committed other cloud) : sha = other := by
  obtain ⟨_,record,held,mine⟩ := first
  obtain ⟨_,record',held',theirs⟩ := second
  have same : record = record' := Option.some.inj (held.symm.trans held')
  rw [same] at mine
  exact Option.some.inj (mine.symm.trans theirs)

theorem Opened.unique {other : PullRequest} (first : place.Opened pull cloud) (second : place.Opened other cloud) : pull = other := by
  obtain ⟨sound,inside⟩ := first
  obtain ⟨_,inside'⟩ := second
  have single := sound.single
  match pulls : place.pulls cloud with
  | [] =>
    rw [pulls] at inside
    cases inside
  | [only] =>
    rw [pulls,List.mem_singleton] at inside inside'
    rw [inside,inside']
  | _::_::_ =>
    rw [pulls] at single
    simp at single

theorem Named.unique {other : PublicationResult} (first : place.Named result cloud) (second : place.Named other cloud) :
    result = other := by
  obtain ⟨branch,committed,pull,opened,number,url⟩ := first
  obtain ⟨branch',committed',pull',opened',number',url'⟩ := second
  have sha := committed.unique committed'
  have same := opened.unique opened'
  rw [← same] at number' url'
  cases result
  cases other
  dsimp only at *
  rw [branch,branch',sha,← number,← number',← url,← url']

/-! ### Steps -/

theorem Advances.stored (remote : after.remote = cloud.remote)
    (moves : NoEarlyCommit (place.record cloud) → NoEarlyCommit (place.record after) ∧
      ∀ record sha, place.record cloud = some record → record.commitSha = some sha →
        ∃ later, place.record after = some later ∧ later.commitSha = some sha) : place.Advances cloud after := by
  have pulls : place.pulls after = place.pulls cloud := by rw [Place.pulls,Place.pulls,remote]
  have sound (held : place.Sound cloud) : place.Sound after := by
    obtain ⟨early,oneRef,onePull,single⟩ := held
    refine ⟨(moves early).1,?_,?_,?_⟩
    · rwa [remote]
    · rwa [remote,pulls]
    · rwa [pulls]
  refine ⟨sound,?_,?_⟩
  · rintro sha ⟨held,record,found,same⟩
    exact ⟨sound held,(moves held.early).2 record sha found same⟩
  · rintro pull ⟨held,inside⟩
    exact ⟨sound held,by rwa [pulls]⟩

theorem Advances.idle (store : after.store = cloud.store) (remote : after.remote = cloud.remote) : place.Advances cloud after := by
  have record : place.record after = place.record cloud := by rw [Place.record,Place.record,store]
  apply Advances.stored remote
  rw [record]
  exact fun early => ⟨early,fun record sha found same => ⟨record,found,same⟩⟩

theorem Advances.remote (store : after.store = cloud.store) (pulls : ∀ pull ∈ place.pulls cloud, pull ∈ place.pulls after)
    (sound : place.Sound cloud → place.Sound after) : place.Advances cloud after where
  sound := sound
  committed sha := by
    rintro ⟨held,found⟩
    refine ⟨sound held,?_⟩
    rwa [Place.record,store]
  opened pull opened := ⟨sound opened.1,pulls pull opened.2⟩

end

end Place

open Place (sound_stable knows_stable committed_stable)

/-! ### The record -/

section
variable {existing : PublicationRecord} {revision : Nat} {patch : Patch}

theorem transitions_later (phase : PublicationPhase) : ∀ next ∈ transitions phase, next ≠ .failed → phase.order < next.order := by
  cases phase <;> decide

theorem allows_later (allowed : allows existing revision patch = true) (live : patch.phase ≠ .failed)
    (early : patch.phase.order ≤ PublicationPhase.commitCreated.order) : existing.phase.order < patch.phase.order := by
  unfold allows cancellationEnrichment at allowed
  simp only [Bool.and_eq_true,Bool.or_eq_true,decide_eq_true_eq] at allowed
  rcases allowed.2 with moves | enriches
  · exact transitions_later existing.phase patch.phase (List.contains_iff_mem.mp moves) live
  · rw [enriches.1.1.2] at early
    exact absurd early (by decide)

/-- A patch may name a commit as the commit's own checkpoint, or after it the one that is on record. -/
inductive Fits (patch : Patch) (existing : PublicationRecord) : Prop
  | plain (same : patch.commitSha = none) (live : patch.phase ≠ .failed)
  | commits (phase : patch.phase = .commitCreated)
  | repeats (later : PublicationPhase.commitCreated.order ≤ patch.phase.order) (same : patch.commitSha = existing.commitSha)

theorem onto_commit (fits : Fits patch existing) (allowed : allows existing revision patch = true)
    (early : existing.phase.order < PublicationPhase.commitCreated.order → existing.commitSha = none) :
    ((patch.onto existing).phase.order < PublicationPhase.commitCreated.order → (patch.onto existing).commitSha = none) ∧
      ∀ sha, existing.commitSha = some sha → (patch.onto existing).commitSha = some sha := by
  have phase : (patch.onto existing).phase = patch.phase := rfl
  have commit : (patch.onto existing).commitSha = (patch.commitSha <|> existing.commitSha) := rfl
  rw [phase,commit]
  cases fits with
  | plain same live =>
    rw [same]
    refine ⟨fun before => early ?_,fun sha held => held⟩
    have later := allows_later allowed live (Nat.le_of_lt before)
    omega
  | commits commits =>
    have later := allows_later allowed (by rw [commits]; decide) (by rw [commits])
    rw [commits] at later ⊢
    rw [early later]
    refine ⟨fun impossible => absurd impossible (Nat.lt_irrefl _),fun sha impossible => ?_⟩
    cases impossible
  | repeats later same =>
    refine ⟨fun before => absurd later (Nat.not_le.mpr before),fun sha held => ?_⟩
    rw [same,held]
    rfl

end

/-! ### Calls -/

section
variable {env : Environment} {place : Place} {α : Type} {before : Cloud → Prop}

theorem advances_ticked (cloud : Cloud) : place.Advances cloud cloud.ticked := Place.Advances.idle rfl rfl

variable {step : Cloud → Except PublisherFault α × Cloud} {answer : Cloud → Except PublisherFault α} {post : α → Cloud → Prop}
  {input : PublicationClaim} {condition : Prop}

theorem takes_call (advances : ∀ cloud, place.Advances cloud (step cloud).2) : (call env step).Takes place.Advances := by
  refine takes_atomic fun cloud => ?_
  have ticked : place.Advances cloud cloud.ticked := advances_ticked cloud
  cases env.outage cloud.tick with
  | none => exact ticked.trans (advances _)
  | refused => exact ticked
  | lost => exact ticked.trans (advances _)

theorem takes_ask : (ask env answer).Takes place.Advances :=
  takes_call fun _ => Place.Advances.refl

theorem takes_now : (now env).Takes place.Advances := takes_atomic advances_ticked

theorem upholds_call (stable : Stable place.Advances before) (advances : ∀ cloud, before cloud → place.Advances cloud (step cloud).2)
    (answers : ∀ cloud value, before cloud → (step cloud).1 = .ok value → post value (step cloud).2) :
    (call env step).Upholds place.Advances place.Advances before post := by
  refine upholds_atomic stable fun cloud held => ?_
  have ticked : place.Advances cloud cloud.ticked := advances_ticked cloud
  have here := stable _ _ ticked held
  cases env.outage cloud.tick with
  | none => exact ⟨ticked.trans (advances _ here),fun value answered => answers _ value here answered⟩
  | refused =>
    refine ⟨ticked,fun value impossible => ?_⟩
    cases impossible
  | lost =>
    refine ⟨ticked.trans (advances _ here),fun value impossible => ?_⟩
    cases impossible

theorem upholds_ask (stable : Stable place.Advances before)
    (answers : ∀ cloud value, before cloud → answer cloud = .ok value → post value cloud) :
    (ask env answer).Upholds place.Advances place.Advances before post :=
  upholds_call stable (fun _ _ => Place.Advances.refl) answers

theorem takes_ensure [Decidable condition] {otherwise : Except PublisherFault Unit} :
    (ensure condition otherwise).Takes place.Advances := by
  unfold ensure
  split
  · exact takes_pure ()
  · exact takes_settle _

theorem upholds_ensure [Decidable condition] {message : String} :
    (ensure condition (collision message)).Upholds place.Advances place.Advances before fun _ after => before after ∧ condition := by
  unfold ensure
  split
  · rename_i met
    exact upholds_pure fun _ held => ⟨held,met⟩
  · exact upholds_settle fun _ _ impossible => by cases impossible

/-! ### The store's calls -/

variable {key : String}

theorem save_advances {cloud : Cloud} {revision : Nat} {patch : Patch} (keyed : place.key = some key)
    (fits : ∀ existing, place.record cloud = some existing → Fits patch existing) :
    place.Advances cloud {cloud with store := (cloud.store.save key revision patch).2} := by
  cases saved : (cloud.store.save key revision patch).1 with
  | error fault =>
    have same := (save_error saved).1
    exact Place.Advances.idle same rfl
  | ok written =>
    obtain ⟨existing,held,allowed,rfl,stored⟩ := save_ok saved
    have was : place.record cloud = some existing := by
      rw [Place.record,keyed]
      exact held
    have now : place.record {cloud with store := (cloud.store.save key revision patch).2} = some (patch.onto existing) := by
      rw [Place.record,keyed]
      exact (stored key).trans (if_pos rfl)
    refine Place.Advances.stored rfl fun early => ?_
    obtain ⟨first,kept⟩ := onto_commit (fits existing was) allowed (early existing was)
    refine ⟨?_,?_⟩
    · rw [now]
      rintro found ⟨⟩
      exact first
    · intro record sha found same
      rw [was] at found
      cases found
      exact ⟨_,now,kept sha same⟩

theorem save_takes {revision : Nat} {patch : Patch} (keyed : place.key = some key)
    (fits : ∀ existing, Fits patch existing) : (save env key revision patch).Takes place.Advances :=
  takes_call fun _ => save_advances keyed fun existing _ => fits existing

theorem save_upholds {revision : Nat} {patch : Patch} (keyed : place.key = some key)
    (stable : Stable place.Advances before) (sound : ∀ cloud, before cloud → place.Sound cloud)
    (fits : ∀ cloud existing, before cloud → place.record cloud = some existing → Fits patch existing) :
    (save env key revision patch).Upholds place.Advances place.Advances before fun record after =>
      place.Knows record after ∧ ∀ sha, patch.commitSha = some sha → place.Committed sha after := by
  refine upholds_call stable (fun cloud held => save_advances keyed fun existing => fits cloud existing held) ?_
  intro cloud written held saved
  have advances : place.Advances cloud {cloud with store := (cloud.store.save key revision patch).2} :=
    save_advances keyed fun existing => fits cloud existing held
  have kept := advances.sound (sound cloud held)
  obtain ⟨existing,_,_,rfl,stored⟩ := save_ok saved
  have now : place.record {cloud with store := (cloud.store.save key revision patch).2} = some (patch.onto existing) := by
    rw [Place.record,keyed]
    exact (stored key).trans (if_pos rfl)
  refine ⟨⟨kept,fun sha same => ⟨kept,_,now,same⟩⟩,fun sha named => ⟨kept,_,now,?_⟩⟩
  have commit : (patch.onto existing).commitSha = (patch.commitSha <|> existing.commitSha) := rfl
  rw [commit,named]
  rfl

theorem claim_advances {cloud : Cloud} {at_ : Instant} (keyed : place.key = some input.key) :
    place.Advances cloud {cloud with store := (cloud.store.claim input at_).2} := by
  cases taken : (cloud.store.claim input at_).1 with
  | error fault => exact Place.Advances.idle (claim_error taken) rfl
  | ok record =>
    rcases claim_ok taken with ⟨_,same⟩ | ⟨none,_,rfl,_,stored⟩
    · exact Place.Advances.idle same rfl
    · have was : place.record cloud = .none := by
        rw [Place.record,keyed]
        exact none
      have now : place.record {cloud with store := (cloud.store.claim input at_).2} = some (claimed input at_) := by
        rw [Place.record,keyed]
        exact (stored input.key).trans (if_pos rfl)
      refine Place.Advances.stored rfl fun _ => ⟨?_,?_⟩
      · rw [now]
        rintro found ⟨⟩ _
        rfl
      · intro record sha found
        rw [was] at found
        cases found

theorem claim_upholds {at_ : Instant} (keyed : place.key = some input.key) :
    (claim env input at_).Upholds place.Advances place.Advances place.Sound fun record => place.Knows record := by
  refine upholds_call sound_stable (fun _ _ => claim_advances keyed) ?_
  intro cloud record sound taken
  have advances : place.Advances cloud {cloud with store := (cloud.store.claim input at_).2} := claim_advances keyed
  have kept := advances.sound sound
  refine ⟨kept,fun sha same => ⟨kept,record,?_,same⟩⟩
  rw [Place.record,keyed]
  rcases claim_ok taken with ⟨found,same⟩ | ⟨_,_,rfl,_,_⟩
  · rw [same]
    exact found
  · cases same

theorem checkpoint_takes {revision : Nat} {patch : Patch} (keyed : place.key = some key)
    (same : patch.commitSha = none) (live : patch.phase ≠ .failed) : (checkpoint env key revision patch).Takes place.Advances := by
  unfold checkpoint
  exact takes_now.bind fun _ => save_takes keyed fun _ => .plain same live

theorem checkpoint_upholds {revision : Nat} {patch : Patch} (keyed : place.key = some key)
    (stable : Stable place.Advances before) (sound : ∀ cloud, before cloud → place.Sound cloud)
    (fits : ∀ (at_ : Instant) cloud existing, before cloud → place.record cloud = some existing →
      Fits {patch with updatedAt := at_} existing) :
    (checkpoint env key revision patch).Upholds place.Advances place.Advances before fun record after =>
      place.Knows record after ∧ ∀ sha, patch.commitSha = some sha → place.Committed sha after := by
  unfold checkpoint
  exact (takes_now.keeping stable).bind fun at_ => save_upholds keyed stable sound (fits at_)

/-! ### The client's calls -/

theorem createCommit_takes {input : CommitInput} : (createCommit env input).Takes place.Advances :=
  takes_call fun _ => Place.Advances.remote rfl (fun _ inside => inside) fun sound => ⟨sound.early,sound.oneRef,sound.onePull,sound.single⟩

theorem createReference_takes {sha : String} : (createReference env place.branch sha).Takes place.Advances := by
  refine takes_call fun cloud => ?_
  cases found : cloud.remote.refs.get? place.branch with
  | some there => exact Place.Advances.refl
  | none =>
    refine Place.Advances.remote rfl (fun _ inside => inside) fun sound => ⟨sound.early,.inr ⟨?_,?_⟩,sound.onePull,sound.single⟩
    · rcases sound.oneRef with before | ⟨_,there⟩
      · rw [← before]
        rfl
      · rw [found] at there
        cases there
    · show ((cloud.remote.refs.set place.branch sha).get? place.branch).isSome = true
      rw [OrderedMap.get?_set,if_pos rfl]
      rfl

theorem list_upholds : (listOpenPullRequests env place.branch place.base).Upholds place.Advances place.Advances place.Sound
    fun pulls after => place.Sound after ∧ ∀ pull ∈ pulls, place.Opened pull after := by
  refine upholds_ask sound_stable fun cloud pulls sound listed => ?_
  split at listed
  · cases listed
    exact ⟨sound,fun pull inside => ⟨sound,inside⟩⟩
  · cases listed

theorem create_advances {cloud : Cloud} {title headSha baseSha body : String} (free : place.pulls cloud = []) :
    let pull := cloud.remote.newPull env title place.branch headSha place.base baseSha body
    let after := {cloud with remote := {cloud.remote with
      pulls := cloud.remote.pulls ++ [pull],nextNumber := cloud.remote.nextNumber + 1
      madePulls := place.branch::cloud.remote.madePulls}}
    place.Advances cloud after ∧ (place.Sound cloud → place.Opened pull after) := by
  intro pull after
  have only : place.pulls after = [pull] := by
    have split : place.pulls after = place.pulls cloud ++ [pull].filter fun pull =>
        pull.opened && pull.head = place.branch && pull.base = place.base := List.filter_append ..
    rw [split,free]
    simp [pull,Remote.newPull]
  have sound (held : place.Sound cloud) : place.Sound after := by
    refine ⟨held.early,held.oneRef,.inr ⟨?_,?_⟩,?_⟩
    · rcases held.onePull with before | ⟨_,there⟩
      · exact congrArg (place.branch::·) before
      · exact absurd free there
    · rw [only]
      exact List.cons_ne_nil _ _
    · rw [only]
      exact Nat.le_refl 1
  refine ⟨Place.Advances.remote rfl ?_ sound,fun held => ⟨sound held,?_⟩⟩
  · rw [free]
    exact fun _ inside => absurd inside List.not_mem_nil
  · rw [only]
    exact List.mem_singleton.mpr rfl

theorem createDraft_upholds {title body : String} :
    (createDraftPullRequest env title place.branch place.base body).Upholds place.Advances place.Advances place.Sound
      fun pull => place.Opened pull := by
  refine upholds_call sound_stable (fun cloud _ => ?_) fun cloud pull sound created => ?_
  · split
    · split
      · rename_i free
        exact (create_advances (List.isEmpty_iff.mp free)).1
      · exact Place.Advances.refl
    · exact Place.Advances.refl
  · split at created
    · split at created
      · rename_i free
        cases created
        rw [if_pos free]
        exact (create_advances (List.isEmpty_iff.mp free)).2 sound
      · cases created
    · cases created

end

structure Place.Serves (place : Place) (target : Target) : Prop where
  key : place.key = some target.key
  branch : place.branch = target.branch
  base : place.base = target.base

/-! ### The phases -/

section
variable {crypto : Crypto} {env : Environment} {place : Place} {target : Target} (serves : place.Serves target)
  {parsed : ParsedPublicationManifest}
include serves

theorem cancelWhenAsked_takes {record : PublicationRecord} {succeeded : Bool} {pull : Option PullRequest} :
    (cancelWhenAsked env target record succeeded pull).Takes place.Advances := by
  unfold cancelWhenAsked
  refine takes_ask.bind fun asked => ?_
  split
  · split
    · exact takes_settle _
    · exact (checkpoint_takes serves.key rfl (by simp [pullPatch])).bind fun _ => takes_settle _
  · exact takes_pure ()

theorem cancelIfRequested_takes {record : PublicationRecord} {pull : Option PullRequest} :
    (cancelIfRequested env target record pull).Takes place.Advances := by
  unfold cancelIfRequested
  refine takes_ask.bind fun current => ?_
  cases current with
  | none => exact cancelWhenAsked_takes serves
  | some current =>
    dsimp only
    split
    · cases pull with
      | none => exact takes_settle _
      | some pull =>
        unfold cancelledMeanwhile
        dsimp only
        split
        · exact takes_settle _
        · split
          · exact (checkpoint_takes serves.key rfl (by simp [pullPatch])).bind fun _ => takes_settle _
          · exact takes_settle _
    · exact cancelWhenAsked_takes serves

omit serves in
theorem authorize_takes : (authorize crypto env parsed).Takes place.Advances := by
  unfold authorize
  exact takes_now.bind fun _ => takes_settle _

variable {policy : PublicationPolicySnapshot}

omit serves in
theorem baseTree_takes : (baseTree env target policy).Takes place.Advances := by
  unfold baseTree
  refine takes_ask.bind fun commit => (takes_settle _).bind fun treeSha => takes_ask.bind fun tree => ?_
  exact takes_ensure.bind fun _ => takes_ensure.bind fun _ => (takes_settle _).bind fun _ => takes_pure _

omit serves in
theorem createBlobs_takes {changes : List Change} : (createBlobs crypto env parsed changes).Takes place.Advances := by
  induction changes with
  | nil => exact takes_pure _
  | cons change changes ih =>
    cases change with
    | delete path => exact ih
    | write operation path executable content =>
      unfold createBlobs
      refine authorize_takes.bind fun _ => takes_ask.bind fun answered => (takes_settle _).bind fun sha => ?_
      exact ih.bind fun _ => takes_pure _

theorem blobsPhase_upholds {record : PublicationRecord} :
    (blobsPhase crypto env target parsed record).Upholds place.Advances place.Advances (place.Knows record)
      fun reached => place.Knows reached.1 := by
  unfold blobsPhase
  split
  · exact ((takes_settle _).keeping knows_stable).bind fun shas => upholds_pure fun _ knows => knows
  · refine (createBlobs_takes.keeping knows_stable).bind fun shas => ?_
    refine (checkpoint_upholds serves.key knows_stable (fun _ knows => knows.1)
      fun _ _ _ _ _ => .plain rfl (by simp)).bind fun reached => ?_
    exact upholds_pure fun _ knows => knows.1

theorem treePhase_upholds {record : PublicationRecord} {shas : List (String × String)}
    {base : Option (String × OrderedMap String GitTreeEntry)} :
    (treePhase crypto env target parsed record shas base).Upholds place.Advances place.Advances (place.Knows record)
      fun reached => place.Knows reached.1 := by
  unfold treePhase
  split
  · exact ((takes_settle _).keeping knows_stable).bind fun shas => upholds_pure fun _ knows => knows
  · cases base with
    | none => exact upholds_settle fun _ _ impossible => by cases impossible
    | some base =>
      refine ((takes_settle _).keeping knows_stable).bind fun entries => ?_
      refine (authorize_takes.keeping knows_stable).bind fun _ => ?_
      refine (takes_ask.keeping knows_stable).bind fun created => ?_
      refine ((takes_settle _).keeping knows_stable).bind fun treeSha => ?_
      refine (checkpoint_upholds serves.key knows_stable (fun _ knows => knows.1)
        fun _ _ _ _ _ => .plain rfl (by simp)).bind fun reached => ?_
      exact upholds_pure fun _ knows => knows.1

omit serves in
theorem storedSha_ok {value : Option String} {label sha : String} (ok : storedSha value label = .ok sha) : value = some sha := by
  unfold storedSha at ok
  cases value with
  | none => cases ok
  | some found =>
    dsimp only at ok
    unfold validateSha at ok
    split at ok
    · cases ok
      rfl
    · cases ok

theorem commitPhase_upholds {record : PublicationRecord} {treeSha : String} :
    (commitPhase crypto env target parsed record treeSha).Upholds place.Advances place.Advances (place.Knows record)
      fun reached => place.Committed reached.2 := by
  unfold commitPhase
  split
  · have settled : (settle (storedSha record.commitSha "commit SHA") : Action String).Upholds place.Advances place.Advances
        (place.Knows record) fun sha => place.Committed sha :=
      upholds_settle fun sha _ stored knows => knows.2 sha (storedSha_ok stored)
    exact settled.bind fun sha => upholds_pure fun _ committed => committed
  · refine (authorize_takes.keeping knows_stable).bind fun _ => ?_
    refine (createCommit_takes.keeping knows_stable).bind fun created => ?_
    refine ((takes_settle _).keeping knows_stable).bind fun commitSha => ?_
    refine (checkpoint_upholds serves.key knows_stable (fun _ knows => knows.1)
      fun _ _ _ _ _ => .commits rfl).bind fun reached => ?_
    exact upholds_pure fun _ knows => knows.2 commitSha rfl

variable {commitSha : String}

theorem makeReference_takes : (makeReference crypto env target parsed commitSha).Takes place.Advances := by
  have created : (createReference env target.branch commitSha).Takes place.Advances := by
    rw [← serves.branch]
    exact createReference_takes
  unfold makeReference
  refine (authorize_takes.bind fun _ => created).outcome.bind fun answer => ?_
  cases answer with
  | ok _ => exact takes_pure ()
  | error fault =>
    refine takes_ask.bind fun found => ?_
    cases found with
    | none => exact takes_settle _
    | some sha => exact takes_ensure

theorem referencePhase_takes {record : PublicationRecord} :
    (referencePhase crypto env target parsed record commitSha).Takes place.Advances := by
  unfold referencePhase
  split
  · exact takes_pure ()
  · refine takes_ask.bind fun _ => (cancelIfRequested_takes serves).bind fun _ => takes_ask.bind fun repository => ?_
    refine (takes_settle _).bind fun _ => takes_ask.bind fun beforeBase => takes_ask.bind fun found => ?_
    cases found with
    | none =>
      refine takes_ensure.bind fun _ => (makeReference_takes serves).bind fun _ => ?_
      exact takes_ask.bind fun _ => takes_settle _
    | some sha => exact takes_ensure.bind fun _ => takes_ask.bind fun _ => takes_settle _

theorem referenceChecks_upholds {record : PublicationRecord} {treeSha commitSha : String} :
    (referenceChecks env target record treeSha commitSha).Upholds place.Advances place.Advances (place.Committed commitSha)
      fun _ => place.Committed commitSha := by
  unfold referenceChecks
  refine (takes_ask.keeping committed_stable).bind fun afterRef => ?_
  refine (takes_ensure.keeping committed_stable).bind fun _ => ?_
  refine (takes_ask.keeping committed_stable).bind fun remoteCommit => ?_
  refine (takes_ensure.keeping committed_stable).bind fun _ => ?_
  split
  · exact upholds_pure fun _ committed => committed
  · refine (checkpoint_upholds serves.key committed_stable (fun _ committed => committed.1) ?_).mono
      (fun _ committed => committed) fun _ _ known => known.2 commitSha rfl
    rintro at_ cloud existing ⟨_,record,held,same⟩ found
    rw [held] at found
    cases found
    exact .repeats (Nat.le_succ 3) same.symm

/-! ### The pull request -/

omit serves in
theorem baseUnmoved_takes {record : PublicationRecord} {message : String} :
    (baseUnmoved env target record message).Takes place.Advances := by
  unfold baseUnmoved
  split
  · exact takes_pure ()
  · exact takes_ask.bind fun _ => takes_ensure

variable {pulls : List PullRequest}

omit serves in
theorem onlyPull_upholds {before : Cloud → Prop} :
    (onlyPull pulls).Upholds place.Advances place.Advances before fun pull after => before after ∧ pull = pulls.head? := by
  unfold onlyPull
  exact upholds_ensure.bind fun _ => upholds_pure fun _ both => ⟨both.1,rfl⟩

theorem listedPull_upholds {rest : Option PullRequest → Action PullRequest}
    (none : (rest none).Upholds place.Advances place.Advances place.Sound fun pull => place.Opened pull)
    (some : ∀ pull, rest (some pull) = pure pull) :
    (listOpenPullRequests env target.branch target.base >>= fun pulls => onlyPull pulls >>= rest).Upholds place.Advances place.Advances
      place.Sound fun pull => place.Opened pull := by
  rw [← serves.branch,← serves.base]
  refine list_upholds.bind fun pulls => onlyPull_upholds.bind fun found => ?_
  cases found with
  | none => exact none.mono (fun _ both => both.1.1) fun _ _ opened => opened
  | some pull =>
    rw [some]
    refine upholds_pure fun _ ⟨⟨_,opened⟩,first⟩ => opened pull ?_
    exact List.mem_of_mem_head? first.symm

theorem makePull_upholds : (makePull crypto env target parsed).Upholds place.Advances place.Advances place.Sound
    fun pull => place.Opened pull := by
  let attempt : Action PullRequest := authorize crypto env parsed >>= fun _ =>
    createDraftPullRequest env (prTitle target.manifest.runId) target.branch target.base (prBody target.marker)
  have attempted : attempt.Upholds place.Advances place.Advances place.Sound fun pull => place.Opened pull := by
    refine (authorize_takes.keeping sound_stable).bind fun _ => ?_
    rw [← serves.branch,← serves.base]
    exact createDraft_upholds
  have kept := attempted.outcome.keeping sound_stable sound_stable
  unfold makePull
  refine (kept.mono (fun _ sound => ⟨sound,sound⟩) fun _ _ both => both).bind fun answer => ?_
  cases answer with
  | ok pull => exact upholds_pure fun _ both => both.1 pull rfl
  | error fault =>
    refine (listedPull_upholds serves ?_ fun _ => rfl).mono (fun _ both => both.2) fun _ _ opened => opened
    exact upholds_settle fun _ _ impossible => by cases impossible

theorem pullPhase_upholds {record : PublicationRecord} :
    (pullPhase crypto env target parsed record commitSha).Upholds place.Advances place.Advances place.Sound
      fun pull => place.Opened pull := by
  unfold pullPhase
  refine listedPull_upholds serves ?_ fun _ => rfl
  refine (takes_ensure.keeping sound_stable).bind fun _ => ?_
  refine (takes_ask.keeping sound_stable).bind fun beforeBase => ?_
  refine (takes_ensure.keeping sound_stable).bind fun _ => ?_
  refine (takes_ask.keeping sound_stable).bind fun beforeRef => ?_
  refine (takes_ensure.keeping sound_stable).bind fun _ => ?_
  exact ((cancelIfRequested_takes serves).keeping sound_stable).bind fun _ => makePull_upholds serves

theorem bindPull_takes {record : PublicationRecord} {pull : PullRequest} :
    (bindPull env target record commitSha pull).Takes place.Advances := by
  unfold bindPull
  split
  · exact takes_ensure.bind fun _ => takes_pure _
  · refine (cancelIfRequested_takes serves).bind fun _ => takes_ask.bind fun checkpointBase => takes_ensure.bind fun _ => ?_
    refine takes_ask.bind fun checkpointRef => takes_ensure.bind fun _ => ?_
    exact checkpoint_takes serves.key rfl (by simp [pullPatch])

theorem finish_upholds {record : PublicationRecord} :
    (finish crypto env target parsed record commitSha).Upholds place.Advances place.Advances (place.Committed commitSha)
      fun result => place.Named result := by
  unfold finish
  refine (baseUnmoved_takes.keeping committed_stable).bind fun _ => ?_
  refine ((cancelIfRequested_takes serves).keeping committed_stable).bind fun _ => ?_
  have pulled : (pullPhase crypto env target parsed record commitSha).Upholds place.Advances place.Advances
      (fun cloud => place.Sound cloud ∧ place.Committed commitSha cloud)
      fun pull after => place.Opened pull after ∧ place.Committed commitSha after :=
    (pullPhase_upholds serves).keeping committed_stable committed_stable
  refine (pulled.mono (fun _ committed => ⟨committed.1,committed⟩) fun _ _ both => both).bind fun pull => ?_
  have both : Stable place.Advances fun cloud => place.Opened pull cloud ∧ place.Committed commitSha cloud :=
    Place.opened_stable.and committed_stable
  refine (baseUnmoved_takes.keeping both).bind fun _ => ?_
  refine (takes_ask.keeping both).bind fun refAfter => ?_
  refine (takes_ensure.keeping both).bind fun _ => ?_
  refine (takes_ensure.keeping both).bind fun _ => ?_
  refine ((cancelIfRequested_takes serves).keeping both).bind fun _ => ?_
  refine ((bindPull_takes serves).keeping both).bind fun record => ?_
  refine ((cancelIfRequested_takes serves).keeping both).bind fun _ => ?_
  refine ((checkpoint_takes serves.key rfl (by simp)).keeping both).bind fun _ => ?_
  exact upholds_pure fun _ ⟨opened,committed⟩ => ⟨serves.branch.symm,committed,pull,opened,rfl,rfl⟩

/-! ### A call -/

omit serves in
theorem ownsOnly_pull {number : Nat} {url commitSha : String}
    (owns : ownsOnly target pulls number url commitSha = true) : ∃ pull ∈ pulls, pull.number = number ∧ pull.url = url := by
  match pulls with
  | [] => cases owns
  | [pull] =>
    unfold ownsOnly at owns
    simp only [Bool.and_eq_true,decide_eq_true_eq] at owns
    exact ⟨pull,List.mem_singleton.mpr rfl,owns.1.1,owns.1.2⟩
  | _::_::_ => cases owns

theorem confirm_upholds {treeSha commitSha url : String} {number : Nat} :
    (confirm env target treeSha commitSha number url).Upholds place.Advances place.Advances (place.Committed commitSha)
      fun result => place.Named result := by
  unfold confirm
  refine (takes_ask.keeping committed_stable).bind fun remoteRef => ?_
  refine (takes_ensure.keeping committed_stable).bind fun _ => ?_
  refine (takes_ask.keeping committed_stable).bind fun remoteCommit => ?_
  refine (takes_ensure.keeping committed_stable).bind fun _ => ?_
  rw [← serves.branch,← serves.base]
  let found (pulls : List PullRequest) (cloud : Cloud) : Prop :=
    (place.Sound cloud ∧ ∀ pull ∈ pulls, place.Opened pull cloud) ∧ place.Committed commitSha cloud
  have listed : (listOpenPullRequests env place.branch place.base).Upholds place.Advances place.Advances
      (fun cloud => place.Sound cloud ∧ place.Committed commitSha cloud) found :=
    list_upholds.keeping committed_stable committed_stable
  refine (listed.mono (fun _ committed => ⟨committed.1,committed⟩) fun _ _ both => both).bind fun pulls => ?_
  have stable : Stable place.Advances (found pulls) := by
    rintro _ _ advances ⟨⟨sound,opened⟩,committed⟩
    exact ⟨⟨advances.sound sound,fun pull inside => advances.opened pull (opened pull inside)⟩,advances.committed _ committed⟩
  refine (takes_ask.keeping stable).bind fun refAfter => upholds_ensure.bind fun _ => ?_
  refine upholds_pure fun _ ⟨⟨⟨_,opened⟩,committed⟩,_,owns⟩ => ?_
  obtain ⟨pull,inside,number,url⟩ := ownsOnly_pull owns
  exact ⟨rfl,committed,pull,opened pull inside,number,url⟩

theorem completed_upholds {record : PublicationRecord} :
    (completed env target record).Upholds place.Advances place.Advances (place.Knows record) fun result => place.Named result := by
  unfold completed
  split
  · rename_i commit _ _ _
    exact (confirm_upholds serves).mono (fun _ knows => knows.2 _ commit) fun _ _ named => named
  · exact upholds_settle fun _ _ impossible => by cases impossible

theorem fromBlobs_upholds {record : PublicationRecord} {base : Option (String × OrderedMap String GitTreeEntry)} :
    (do let (record,shas) ← blobsPhase crypto env target parsed record
        let (record,treeSha) ← treePhase crypto env target parsed record shas base
        let (record,commitSha) ← commitPhase crypto env target parsed record treeSha
        referencePhase crypto env target parsed record commitSha
        let record ← referenceChecks env target record treeSha commitSha
        finish crypto env target parsed record commitSha : Action PublicationResult).Upholds place.Advances place.Advances
      (place.Knows record) fun result => place.Named result := by
  refine (blobsPhase_upholds serves).bind fun ⟨blobbed,shas⟩ => ?_
  refine (treePhase_upholds serves).bind fun ⟨treed,treeSha⟩ => ?_
  refine (commitPhase_upholds serves).bind fun ⟨committed,commitSha⟩ => ?_
  refine ((referencePhase_takes serves).keeping committed_stable).bind fun _ => ?_
  exact (referenceChecks_upholds serves).bind fun checked => finish_upholds serves

theorem writeOut_upholds {record : PublicationRecord} :
    (writeOut crypto env target parsed policy record).Upholds place.Advances place.Advances (place.Knows record)
      fun result => place.Named result := by
  have read : (some <$> baseTree env target policy : Action (Option (String × OrderedMap String GitTreeEntry))).Takes
      place.Advances := by
    rw [map_eq_pure_bind]
    exact baseTree_takes.bind fun _ => takes_pure _
  unfold writeOut
  dsimp only
  split
  · refine ((takes_pure none).keeping knows_stable).bind fun base => ?_
    exact fromBlobs_upholds serves
  · refine (read.keeping knows_stable).bind fun base => ?_
    exact fromBlobs_upholds serves

theorem publishWith_upholds {record : PublicationRecord} :
    (publishWith crypto env target parsed policy record).Upholds place.Advances place.Advances (place.Knows record)
      fun result => place.Named result := by
  unfold publishWith
  refine (takes_ask.keeping knows_stable).bind fun _ => ?_
  refine (takes_ask.keeping knows_stable).bind fun repository => ?_
  refine ((takes_settle _).keeping knows_stable).bind fun _ => ?_
  refine (takes_ask.keeping knows_stable).bind fun baseRef => ?_
  split
  · exact completed_upholds serves
  · exact (takes_ensure.keeping knows_stable).bind fun _ => writeOut_upholds serves

end

section
variable (crypto : Crypto) (manifest : PublicationManifestBody)

def digestOf : String := canonicalPublicationManifestDigest crypto.sha256 (.manifest manifest)

def placeOf (cloud : Cloud) : Place where
  key := (publicationKey crypto manifest (digestOf crypto manifest)).toOption
  branch := branchForRun crypto manifest.runId
  base := manifest.expectedBase.branch
  madeRefs := cloud.remote.madeRefs
  madePulls := cloud.remote.madePulls

/-- The manifest has not been claimed, and the refusals of GitHub held before. -/
structure Unpublished (cloud : Cloud) : Prop where
  unclaimed : (placeOf crypto manifest cloud).record cloud = none
  single : ((placeOf crypto manifest cloud).pulls cloud).length ≤ 1

variable {crypto manifest} {cloud : Cloud}

theorem Unpublished.sound (unpublished : Unpublished crypto manifest cloud) : (placeOf crypto manifest cloud).Sound cloud where
  early := by
    rw [unpublished.unclaimed]
    rintro _ ⟨⟩
  oneRef := .inl rfl
  onePull := .inl rfl
  single := unpublished.single

theorem claimOf_serves {claimed : PublicationClaim} (ok : claimOf crypto manifest (digestOf crypto manifest) = .ok claimed) :
    (placeOf crypto manifest cloud).Serves ⟨manifest,digestOf crypto manifest,claimed⟩ := by
  unfold claimOf at ok
  cases keyed : publicationKey crypto manifest (digestOf crypto manifest) with
  | error fault =>
    rw [keyed] at ok
    cases ok
  | ok key =>
    rw [keyed] at ok
    dsimp only at ok
    cases bound : bindingKey crypto manifest with
    | error fault =>
      rw [bound] at ok
      cases ok
    | ok binding =>
      rw [bound] at ok
      cases ok
      refine ⟨?_,rfl,rfl⟩
      show (publicationKey crypto manifest (digestOf crypto manifest)).toOption = some key
      rw [keyed]
      rfl

variable {input : PublicationInput}

theorem prepared_manifest {selected : List PublicationRepository} {verifier : AttestationVerifier}
    {at_ : Instant} {parsed : ParsedPublicationManifest} (ok : prepared crypto selected verifier input at_ = .ok parsed) :
    parsed.manifest = input.manifest ∧ parsed.manifestDigest = digestOf crypto input.manifest := by
  obtain ⟨_,_,_,rfl⟩ := parsePublicationManifest_ok (prepared_ok crypto ok).1
  exact ⟨rfl,rfl⟩

theorem resolvePolicy_takes {env : Environment} {place : Place} : (resolvePolicy crypto env manifest).Takes place.Advances := by
  unfold resolvePolicy
  refine takes_ask.outcome.bind fun answer => ?_
  cases answer with
  | ok resolved => exact takes_settle _
  | error fault => exact takes_settle _

theorem execute_upholds {env : Environment} (mine : input.manifest = manifest) :
    (execute crypto env input).Upholds (placeOf crypto manifest cloud).Advances (placeOf crypto manifest cloud).Advances
      (placeOf crypto manifest cloud).Sound fun result => (placeOf crypto manifest cloud).Named result := by
  unfold execute
  refine (takes_now.keeping sound_stable).bind fun at_ => upholds_settled fun parsed ok => ?_
  obtain ⟨body,digest⟩ := prepared_manifest ok
  rw [body,digest,mine]
  refine (resolvePolicy_takes.keeping sound_stable).bind fun policy => upholds_settled fun claimed claims => ?_
  have serves : (placeOf crypto manifest cloud).Serves ⟨manifest,digestOf crypto manifest,claimed⟩ := claimOf_serves claims
  refine (takes_now.keeping sound_stable).bind fun claimedAt => (claim_upholds serves.key).bind fun record => ?_
  exact (takes_ensure.keeping knows_stable).bind fun _ => publishWith_upholds serves

end

/-! ### Any number of calls -/

/-- The thread publishes the manifest, under any authorization and any outages. -/
def Publishes (crypto : Crypto) (manifest : PublicationManifestBody) (thread : Thread Cloud) : Prop :=
  ∃ env input, input.manifest = manifest ∧ thread = (execute crypto env input).thread

/-- However calls for a manifest overlap, fail or stop, they make one branch and one pull request at most,
and those that succeed name one commit, branch and pull request. -/
theorem publishes_at_most_once {ι : Type} [DecidableEq ι] {crypto : Crypto} {manifest : PublicationManifestBody}
    {pool later : ι → Thread Cloud} {cloud after : Cloud} {trace : List (Moment ι Cloud)}
    (ran : Interleaved pool cloud trace later after) (publishing : ∀ who, Publishes crypto manifest (pool who))
    (unpublished : Unpublished crypto manifest cloud) : (after.remote.madeRefs = cloud.remote.madeRefs ∨
      after.remote.madeRefs = branchForRun crypto manifest.runId::cloud.remote.madeRefs) ∧
    (after.remote.madePulls = cloud.remote.madePulls ∨
      after.remote.madePulls = branchForRun crypto manifest.runId::cloud.remote.madePulls) ∧
    ∀ who other result result', later who = (settle (.ok result) : Action PublicationResult).thread →
      later other = (settle (.ok result') : Action PublicationResult).thread → result = result' := by
  let place := placeOf crypto manifest cloud
  have sound : place.Sound cloud := unpublished.sound
  have advances : ∀ moment ∈ trace, place.Advances moment.before moment.after := by
    refine ran.upheld fun who => ?_
    obtain ⟨env,input,mine,same⟩ := publishing who
    rw [same]
    exact (execute_upholds mine).thread sound
  have ended : place.Sound after := ran.preserved place.Sound (fun moment inside => (advances moment inside).sound) sound
  have named (who : ι) (result : PublicationResult)
      (finished : later who = (settle (.ok result) : Action PublicationResult).thread) : place.Named result after := by
    obtain ⟨env,input,mine,same⟩ := publishing who
    exact ran.concluded advances same (execute_upholds mine) sound (fun _ => Place.named_stable) finished
  refine ⟨ended.oneRef.imp id And.left,ended.onePull.imp id And.left,fun who other result result' mine theirs => ?_⟩
  exact (named who result mine).unique (named other result' theirs)

/-! ### Two calls -/

def acmeManifest : PublicationManifestBody := {reports 'c' 'd' with policyDigest := repeated '0'}

def acmeEnvironment (first : Bool) : Environment where
  selectedRepositories := [acmeManifest.repository]
  verifier := reportVerifier
  names := {blob := fun _ => String.ofList (List.replicate 40 '1')
            tree := fun _ _ => String.ofList (List.replicate 40 '2')
            commit := fun _ => String.ofList (List.replicate 40 '3')
            url := fun number => toString number
            listing := fun sha => {sha,entries := []}}
  clock _ := 3000
  outage tick := if first && tick % 10 = 0 then .lost else .none
  policy _ := DEFAULT_PUBLICATION_POLICY
  cancelRequested _ := false

def acmeInput (first : Bool) : PublicationInput where
  manifest := acmeManifest
  authorization :=
    Publication.authorize fixedCrypto reportKey acmeManifest .githubPublisher "nonce-1" (if first then 1000 else 2000) 61000

def acmeCalls (first : Bool) : Thread Cloud := (execute fixedCrypto (acmeEnvironment first) (acmeInput first)).thread

def acmeCloud : Cloud where
  store := ⟨.empty,.empty,[]⟩
  remote :=
    {repository := ⟨9,"acme/shop","main"⟩
     refs := OrderedMap.empty.set "main" acmeManifest.expectedBase.sha
     commits := OrderedMap.empty.set acmeManifest.expectedBase.sha ⟨String.ofList (List.replicate 40 '2'),[],"base"⟩
     pulls := [],nextNumber := 1,madeRefs := [],madePulls := []}

theorem acme_unpublished : Unpublished fixedCrypto acmeManifest acmeCloud where
  unclaimed := by simp [placeOf,Place.record,acmeCloud,PublicationStore.get]
  single := by simp [placeOf,Place.pulls,Remote.openPulls,acmeCloud]

/-- Two calls that take turns a hundred times. -/
theorem acme_publishes_at_most_once :
    let after := (play (List.replicate 100 [true,false]).flatten acmeCalls acmeCloud).2.2
    (after.remote.madeRefs = acmeCloud.remote.madeRefs ∨
      after.remote.madeRefs = branchForRun fixedCrypto acmeManifest.runId::acmeCloud.remote.madeRefs) ∧
    (after.remote.madePulls = acmeCloud.remote.madePulls ∨
      after.remote.madePulls = branchForRun fixedCrypto acmeManifest.runId::acmeCloud.remote.madePulls) := by
  have once := publishes_at_most_once (interleaved_play (List.replicate 100 [true,false]).flatten acmeCalls acmeCloud)
    (fun first => ⟨acmeEnvironment first,acmeInput first,rfl,rfl⟩) acme_unpublished
  exact ⟨once.1,once.2.1⟩

end AgentOS.Publication.GitHub
