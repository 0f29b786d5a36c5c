import AgentOS.Publication.LocalGit
import AgentOS.Publication.Binding
import AgentOS.Library.Alone

/-! A local publication that was cut off, taken up with another authorization. The commit is dated by
the authorization, and the date is part of its name. -/
namespace AgentOS.Publication.LocalGit
open Library Gate Routine

variable {current expected : PublicationPhase}

theorem atLeast_iff : phaseAtLeast current expected = true ↔ expected.order ≤ current.order := by simp [phaseAtLeast]

theorem not_atLeast_iff : phaseAtLeast current expected = false ↔ current.order < expected.order := by simp [phaseAtLeast]

theorem commit_order : PublicationPhase.commitCreated.order = 3 := rfl

theorem ref_order : PublicationPhase.refCreated.order = 4 := rfl

theorem next_allowed {phase next : PublicationPhase} (step : next.order = phase.order + 1) (live : next ≠ .cancelled) :
    (transitions phase).contains next = true := by
  cases phase <;> cases next <;> simp_all [PublicationPhase.order,transitions]

section
variable (objects : GitObjects) (options : LocalGitPublisherOptions) (parsed : ParsedPublicationManifest)
  (claimed : PublicationClaim)

def branchOf : String := branchForRun parsed.manifest.runId parsed.manifestDigest

structure Writable (repo : String) (contents : Contents) (desk : Desk) : Prop where
  repository : repositoryOf options parsed.manifest = .ok repo
  written : contentsOf objects parsed = .ok contents
  base : desk.refs.get? parsed.manifest.expectedBase.branch = some parsed.manifest.expectedBase.sha
  branch : desk.refs.get? (branchOf parsed) = some contents.commitSha ∨
    desk.refs.get? (branchOf parsed) = none ∧ objects.validRef (branchOf parsed) = true

structure Begun (repo : String) (contents : Contents) (record : PublicationRecord) (desk : Desk) : Prop where
  found : desk.store.get claimed.key = some record
  near : phaseAtLeast record.phase .refCreated = false
  bound : phaseAtLeast record.phase .commitCreated = true → record.commitSha = some contents.commitSha
  branch : record.branch = branchOf parsed
  writable : Writable objects options parsed repo contents desk

inductive Stands (result : LocalPublicationResult) (desk : Desk) : Prop
  | recorded (record : PublicationRecord) (found : desk.store.get claimed.key = some record)
      (far : phaseAtLeast record.phase .refCreated = true) (answers : completed options record = .ok result)
  | begun (repo : String) (contents : Contents) (record : PublicationRecord)
      (begun : Begun objects options parsed claimed repo contents record desk)
      (answers : result = resultAt repo (branchOf parsed) contents.commitSha)
  | fresh (repo : String) (contents : Contents) (missing : desk.store.get claimed.key = none)
      (free : ∀ bound, desk.store.bindingKeys.get? claimed.bindingKey = some bound → bound = claimed.key)
      (writable : Writable objects options parsed repo contents desk)
      (answers : result = resultAt repo (branchOf parsed) contents.commitSha)

end

section
variable {crypto : Crypto} {objects : GitObjects} {options : LocalGitPublisherOptions} {parsed : ParsedPublicationManifest}
  {claimed : PublicationClaim} {repo : String} {contents : Contents} {record : PublicationRecord}
  {result : LocalPublicationResult} {desk after : Desk}

theorem contentsOf_sha (ok : contentsOf objects parsed = .ok contents) : isCommitSha contents.commitSha = true ∧
    ∃ tree, newTreeOf objects parsed.manifest = .ok tree ∧
      contents.commitSha = objects.commitTree (commitOf parsed.manifest tree parsed.authorization.issuedAt) := by
  unfold contentsOf at ok
  cases blobs : blobShasOf objects parsed.manifest.changes with
  | error fault =>
    rw [blobs] at ok
    cases ok
  | ok blobShas =>
    cases made : newTreeOf objects parsed.manifest with
    | error fault =>
      rw [blobs,made] at ok
      cases ok
    | ok tree =>
      rw [blobs,made] at ok
      change (if isCommitSha (objects.commitTree (commitOf parsed.manifest tree parsed.authorization.issuedAt)) = true then
        Except.ok (Contents.mk blobShas tree (objects.commitTree (commitOf parsed.manifest tree parsed.authorization.issuedAt)))
        else rejected "git returned a malformed commit SHA") = .ok contents at ok
      split at ok
      · rename_i shaped
        cases ok
        exact ⟨shaped,tree,rfl,rfl⟩
      · cases ok

/-! ### One step -/

theorem Writable.kept (writable : Writable objects options parsed repo contents desk) (refs : after.refs = desk.refs) :
    Writable objects options parsed repo contents after :=
  ⟨writable.repository,writable.written,refs ▸ writable.base,refs ▸ writable.branch⟩

theorem Stands.ticked (stands : Stands objects options parsed claimed result desk) (store : after.store = desk.store)
    (refs : after.refs = desk.refs) : Stands objects options parsed claimed result after := by
  cases stands with
  | recorded record found far answers => exact .recorded record (store ▸ found) far answers
  | begun repo contents record begun answers =>
    exact .begun repo contents record ⟨store ▸ begun.found,begun.near,begun.bound,begun.branch,begun.writable.kept refs⟩ answers
  | fresh repo contents missing free writable answers =>
    exact .fresh repo contents (store ▸ missing) (store ▸ free) (writable.kept refs) answers

theorem save_next (patch : Patch) (found : desk.store.get claimed.key = some record)
    (next : patch.phase.order = record.phase.order + 1) (live : patch.phase ≠ .cancelled) :
    (desk.store.save claimed.key record.revision patch).1 = .ok (patch.onto record) ∧
      (desk.store.save claimed.key record.revision patch).2.get claimed.key = some (patch.onto record) := by
  have allowed : PublicationStore.allows record record.revision patch = true := by
    simp only [PublicationStore.allows,decide_true,Bool.true_and,Bool.or_eq_true]
    exact .inl (next_allowed next live)
  have saved := PublicationStore.save_of found allowed
  refine ⟨saved,?_⟩
  obtain ⟨existing,_,_,_,all⟩ := PublicationStore.save_ok saved
  rw [all claimed.key,if_pos rfl]

theorem Begun.ticked (begun : Begun objects options parsed claimed repo contents record desk) (store : after.store = desk.store)
    (refs : after.refs = desk.refs) : Begun objects options parsed claimed repo contents record after :=
  ⟨store ▸ begun.found,begun.near,begun.bound,begun.branch,begun.writable.kept refs⟩

section
variable (patch : Patch) (begun : Begun objects options parsed claimed repo contents record desk)
include begun

theorem Begun.saved (next : patch.phase.order = record.phase.order + 1) (near : patch.phase.order < 4)
    (bound : patch.phase.order = 3 → patch.commitSha = some contents.commitSha) :
    Begun objects options parsed claimed repo contents (patch.onto record)
      {desk with store := (desk.store.save claimed.key record.revision patch).2} where
  found := by
    apply (save_next patch begun.found next ?_).2
    intro cancelled
    simp [cancelled,PublicationPhase.order] at near
  near := by
    rw [not_atLeast_iff,ref_order]
    exact near
  bound := by
    intro far
    rw [atLeast_iff,commit_order] at far
    have third : patch.phase.order = 3 := by
      change 3 ≤ patch.phase.order at far
      omega
    simp [Patch.onto,bound third]
  branch := begun.branch
  writable := begun.writable.kept rfl

theorem checkpoint_completes (answers : result = resultAt repo (branchOf parsed) contents.commitSha)
    (early : patch.phase.order ≤ record.phase.order + 1) (near : patch.phase.order < 4)
    (bound : patch.phase.order = 3 → patch.commitSha = some contents.commitSha) :
    (checkpoint options claimed.key record patch).Completes (Stands objects options parsed claimed result)
      (fun record' after => Begun objects options parsed claimed repo contents record' after ∧
        patch.phase.order ≤ record'.phase.order) desk := by
  unfold checkpoint
  split
  · rename_i far
    exact completes_pure ⟨begun,atLeast_iff.mp far⟩
  · rename_i behind
    have next : patch.phase.order = record.phase.order + 1 := by
      rw [Bool.not_eq_true,not_atLeast_iff] at behind
      omega
    have live : patch.phase ≠ .cancelled := by
      intro cancelled
      simp [cancelled,PublicationPhase.order] at near
    apply completes_bind (fun at_ middle => middle.store = desk.store ∧ middle.refs = desk.refs)
    · exact completes_atomic rfl (.begun repo contents record (begun.ticked rfl rfl) answers) ⟨rfl,rfl⟩
    · rintro at_ middle ⟨store,refs⟩
      have here := begun.ticked store refs
      have saved := here.saved {patch with updatedAt := at_} next near bound
      have done := save_next {patch with updatedAt := at_} here.found next live
      exact completes_atomic done.1 (.begun _ _ _ saved answers) ⟨saved,le_refl _⟩

end

theorem bindCommit_completes (begun : Begun objects options parsed claimed repo contents record desk)
    (answers : result = resultAt repo (branchOf parsed) contents.commitSha) (late : 2 ≤ record.phase.order) :
    (bindCommit options claimed.key record contents.commitSha).Completes (Stands objects options parsed claimed result)
      (fun record' after => Begun objects options parsed claimed repo contents record' after ∧ 3 ≤ record'.phase.order) desk := by
  unfold bindCommit
  split
  · rename_i far
    rw [begun.bound far]
    dsimp only
    rw [if_pos rfl]
    exact completes_pure ⟨begun,atLeast_iff.mp far⟩
  · exact checkpoint_completes {phase := .commitCreated,commitSha := some contents.commitSha,updatedAt := 0} begun
      answers (Nat.add_le_add_right late 1) (by change 3 < 4; omega) fun _ => rfl

theorem repositoryOf_ok (ok : repositoryOf options parsed.manifest = .ok repo) : options.repository = .ok repo := by
  unfold repositoryOf at ok
  cases contained : options.repository with
  | error fault =>
    rw [contained] at ok
    cases ok
  | ok found =>
    rw [contained] at ok
    dsimp only at ok
    split at ok
    · cases ok
      rfl
    · cases ok

theorem completed_of (contained : options.repository = .ok repo) (sha : record.commitSha = some contents.commitSha)
    (shaped : isCommitSha contents.commitSha = true) :
    completed options record = .ok (resultAt repo record.branch contents.commitSha) := by
  unfold completed
  rw [sha]
  dsimp only
  rw [if_pos shaped,contained]
  rfl

theorem createBranch_completes (begun : Begun objects options parsed claimed repo contents record desk)
    (answers : result = resultAt repo (branchOf parsed) contents.commitSha) :
    (createBranch objects (branchOf parsed) contents.commitSha).Completes (Stands objects options parsed claimed result)
      (fun _ after => Begun objects options parsed claimed repo contents record after) desk := by
  unfold createBranch
  rcases begun.writable.branch with there | ⟨missing,valid⟩
  · apply completes_bind (fun answer middle => answer = .error (.localGit "git command failed") ∧ middle = desk)
    · apply completes_outcome
      · simpa [there] using Stands.begun repo contents record begun answers
      · simp [there]
    · rintro answer middle ⟨rfl,rfl⟩
      dsimp only
      apply completes_bind (fun found after => found = .ok contents.commitSha ∧ after = middle)
      · apply completes_outcome
        · simpa [there] using Stands.begun repo contents record begun answers
        · simp [there]
      · rintro found after ⟨rfl,rfl⟩
        dsimp only
        rw [if_pos rfl]
        exact completes_pure begun
  · have base : parsed.manifest.expectedBase.branch ≠ branchOf parsed := by
      intro same
      have held := begun.writable.base
      rw [same,missing] at held
      cases held
    have made : Begun objects options parsed claimed repo contents record
        {desk with refs := desk.refs.set (branchOf parsed) contents.commitSha} := by
      refine ⟨begun.found,begun.near,begun.bound,begun.branch,begun.writable.repository,begun.writable.written,?_,.inl ?_⟩
      · rw [OrderedMap.get?_set,if_neg base]
        exact begun.writable.base
      · rw [OrderedMap.get?_set,if_pos rfl]
    apply completes_bind (fun answer middle => answer = .ok () ∧
      middle = {desk with refs := desk.refs.set (branchOf parsed) contents.commitSha})
    · apply completes_outcome
      · simpa [missing,valid] using Stands.begun repo contents record made answers
      · simp [missing,valid]
    · rintro answer middle ⟨rfl,rfl⟩
      exact completes_pure made

theorem saveReconciling_completes {at_ : Instant} (begun : Begun objects options parsed claimed repo contents record desk)
    (answers : result = resultAt repo (branchOf parsed) contents.commitSha) (late : 3 ≤ record.phase.order) :
    (saveReconcilingConflicts claimed.key record.revision (branchOf parsed) contents.commitSha
      {phase := .refCreated,commitSha := some contents.commitSha,updatedAt := at_}).Completes
      (Stands objects options parsed claimed result) (fun _ _ => True) desk := by
  have near := not_atLeast_iff.mp begun.near
  rw [ref_order] at near
  have next : PublicationPhase.refCreated.order = record.phase.order + 1 := by
    rw [ref_order]
    omega
  have saved := save_next {phase := .refCreated,commitSha := some contents.commitSha,updatedAt := at_} begun.found next
    (by intro same; cases same)
  have contained := repositoryOf_ok begun.writable.repository
  have done : completed options (Patch.onto {phase := .refCreated,commitSha := some contents.commitSha,updatedAt := at_} record) =
      .ok result := by
    rw [completed_of contained rfl (contentsOf_sha begun.writable.written).1,answers,← begun.branch]
    rfl
  unfold saveReconcilingConflicts
  apply completes_bind (fun answer _ =>
    answer = .ok (Patch.onto {phase := .refCreated,commitSha := some contents.commitSha,updatedAt := at_} record))
  · apply completes_outcome
    · exact .recorded _ saved.2 rfl done
    · exact saved.1
  · rintro answer middle rfl
    exact completes_pure trivial

theorem writeOut_completes (begun : Begun objects options parsed claimed repo contents record desk)
    (answers : result = resultAt repo (branchOf parsed) contents.commitSha) :
    (writeOut objects options claimed.key record repo (branchOf parsed) contents).Completes
      (Stands objects options parsed claimed result) (fun answer _ => answer = result) desk := by
  unfold writeOut
  apply (checkpoint_completes _ begun answers (by change 1 ≤ _; omega) (by change 1 < 4; omega) (by intro third; cases third)).bind
  rintro first desk₁ ⟨begun₁,phase₁⟩
  have phase₁ : 1 ≤ first.phase.order := phase₁
  apply (checkpoint_completes _ begun₁ answers (by change 2 ≤ _; omega) (by change 2 < 4; omega) (by intro third; cases third)).bind
  rintro second desk₂ ⟨begun₂,phase₂⟩
  apply (bindCommit_completes begun₂ answers phase₂).bind
  rintro third desk₃ ⟨begun₃,phase₃⟩
  apply (createBranch_completes begun₃ answers).bind
  intro _ desk₄ begun₄
  apply completes_bind (fun at_ after => after.store = desk₄.store ∧ after.refs = desk₄.refs)
  · exact completes_atomic rfl (.begun repo contents third (begun₄.ticked rfl rfl) answers) ⟨rfl,rfl⟩
  rintro at_ desk₅ ⟨store,refs⟩
  apply (saveReconciling_completes (begun₄.ticked store refs) answers phase₃).bind
  intro _ _ _
  exact completes_pure answers.symm

theorem claimOf_branch (ok : claimOf crypto parsed = .ok claimed) : claimed.branch = branchOf parsed := by
  unfold claimOf at ok
  cases keyed : publicationKey crypto parsed.manifest parsed.manifestDigest with
  | error fault =>
    rw [keyed] at ok
    cases ok
  | ok key =>
    cases bound : bindingKey crypto parsed.manifest with
    | error fault =>
      rw [keyed,bound] at ok
      cases ok
    | ok binding =>
      rw [keyed,bound] at ok
      cases ok
      rfl

theorem unfinished_completes (begun : Begun objects options parsed claimed repo contents record desk)
    (answers : result = resultAt repo (branchOf parsed) contents.commitSha) :
    (unfinished objects options parsed claimed.key record).Completes (Stands objects options parsed claimed result)
      (fun answer _ => answer = result) desk := by
  unfold unfinished
  apply completes_settled begun.writable.repository
  apply completes_bind (fun base after => base = parsed.manifest.expectedBase.sha ∧ after = desk)
  · refine completes_atomic (show _ = Except.ok parsed.manifest.expectedBase.sha from ?_) ?_ ⟨rfl,?_⟩
    · simp [begun.writable.base]
    · simpa [begun.writable.base] using Stands.begun repo contents record begun answers
    · simp [begun.writable.base]
  · rintro base after ⟨rfl,rfl⟩
    rw [if_pos rfl]
    exact completes_settled begun.writable.written (writeOut_completes begun answers)

structure Ready (crypto : Crypto) (options : LocalGitPublisherOptions) (input : PublicationInput) (at_ : Instant)
    (parsed : ParsedPublicationManifest) (claimed : PublicationClaim) : Prop where
  prepared : prepared crypto options.verifier input at_ = .ok parsed
  policy : checkPolicy crypto options.policy parsed.manifest = .ok ()
  claims : claimOf crypto parsed = .ok claimed

theorem claim_completes {at_ : Instant} (stands : Stands objects options parsed claimed result desk)
    (branch : claimed.branch = branchOf parsed) : (claim claimed at_).Completes (Stands objects options parsed claimed result)
      (fun record after => after.store.get claimed.key = some record ∧ Stands objects options parsed claimed result after) desk := by
  have existing (record : PublicationRecord) (found : desk.store.get claimed.key = some record) :
      (claim claimed at_).Completes (Stands objects options parsed claimed result)
        (fun record after => after.store.get claimed.key = some record ∧ Stands objects options parsed claimed result after) desk := by
    have held : desk.store.records.get? claimed.key = some record := found
    have same : desk.store.claim claimed at_ = (.ok record,desk.store) := by
      unfold PublicationStore.claim
      rw [held]
    refine completes_atomic (show _ = Except.ok record by rw [same]) ?_ ⟨?_,?_⟩
    · rw [same]
      exact stands
    · rw [same]
      exact found
    · rw [same]
      exact stands
  cases stands with
  | recorded record found far answers => exact existing record found
  | begun repo contents record begun answers => exact existing record begun.found
  | fresh repo contents missing free writable answers =>
    have unheld : desk.store.records.get? claimed.key = none := missing
    have unbound : (desk.store.bindingKeys.get? claimed.bindingKey).any (· ≠ claimed.key) = false := by
      cases found : desk.store.bindingKeys.get? claimed.bindingKey with
      | none => rfl
      | some bound => simp [free bound found]
    have made : (desk.store.claim claimed at_).1 = .ok (PublicationStore.claimed claimed at_) := by
      unfold PublicationStore.claim
      rw [unheld]
      dsimp only
      rw [if_neg (by rw [unbound]; exact Bool.false_ne_true)]
    have held : (desk.store.claim claimed at_).2.get claimed.key = some (PublicationStore.claimed claimed at_) := by
      rcases PublicationStore.claim_ok made with ⟨found,_⟩ | ⟨_,_,_,_,all⟩
      · rw [missing] at found
        cases found
      · rw [all claimed.key,if_pos rfl]
    have begun : Begun objects options parsed claimed repo contents (PublicationStore.claimed claimed at_)
        {desk with store := (desk.store.claim claimed at_).2} :=
      ⟨held,rfl,fun far => (by cases far),branch,writable.kept rfl⟩
    exact completes_atomic made (.begun _ _ _ begun answers) ⟨held,.begun _ _ _ begun answers⟩

theorem execute_completes {input : PublicationInput} (stands : Stands objects options parsed claimed result desk)
    (ready : Ready crypto options input (options.clock desk.tick) parsed claimed) :
    (execute crypto objects options input).Completes (Stands objects options parsed claimed result)
      (fun answer _ => answer = result) desk := by
  unfold execute
  apply completes_bind (fun at_ after => at_ = options.clock desk.tick ∧ Stands objects options parsed claimed result after)
  · exact completes_atomic rfl (stands.ticked rfl rfl) ⟨rfl,stands.ticked rfl rfl⟩
  rintro at_ desk₁ ⟨rfl,stands₁⟩
  apply completes_settled ready.prepared
  apply completes_settled ready.policy
  apply completes_settled ready.claims
  apply completes_bind (fun _ after => Stands objects options parsed claimed result after)
  · exact completes_atomic rfl (stands₁.ticked rfl rfl) (stands₁.ticked rfl rfl)
  intro claimedAt desk₂ stands₂
  apply (claim_completes stands₂ (claimOf_branch ready.claims)).bind
  rintro record desk₃ ⟨held,stands₃⟩
  cases stands₃ with
  | recorded record' found far answers =>
    obtain rfl : record' = record := Option.some.inj (found.symm.trans held)
    rw [if_pos far,answers]
    exact completes_pure rfl
  | begun repo contents record' begun answers =>
    obtain rfl : record' = record := Option.some.inj (begun.found.symm.trans held)
    rw [if_neg (by simp [begun.near])]
    exact unfinished_completes begun answers
  | fresh repo contents missing free writable answers =>
    rw [missing] at held
    cases held

/-! ### A call that answered -/

theorem exec_settled {α β : Type} {answer : Except PublisherFault α} {rest : α → Action β} {value : β}
    (ok : (settle answer >>= rest).exec desk = (.ok value,after)) :
    ∃ found, answer = .ok found ∧ (rest found).exec desk = (.ok value,after) := by
  obtain ⟨found,middle,settled,later⟩ := (exec_bind_ok _ _ _ _ _).mp ok
  rw [exec_settle,Prod.mk.injEq] at settled
  obtain ⟨rfl,rfl⟩ := settled
  exact ⟨found,rfl,later⟩

theorem exec_now {β : Type} {clock : Nat → Instant} {rest : Instant → Action β} {value : β}
    (ok : (now clock >>= rest).exec desk = (.ok value,after)) :
    (rest (clock desk.tick)).exec {desk with tick := desk.tick + 1} = (.ok value,after) := by
  obtain ⟨at_,middle,read,later⟩ := (exec_bind_ok _ _ _ _ _).mp ok
  rw [now,exec_atomic,Prod.mk.injEq,Except.ok.injEq] at read
  obtain ⟨rfl,rfl⟩ := read
  exact later

theorem createBranch_ok {branch sha : String} {done : Unit} (ok : (createBranch objects branch sha).exec desk = (.ok done,after)) :
    desk.refs.get? branch = some sha ∨ desk.refs.get? branch = none ∧ objects.validRef branch = true := by
  unfold createBranch at ok
  obtain ⟨answer,middle,tried,later⟩ := (exec_bind_ok _ _ _ _ _).mp ok
  rw [exec_outcome,Prod.mk.injEq,Except.ok.injEq] at tried
  obtain ⟨rfl,rfl⟩ := tried
  simp only [updateRef,exec_atomic] at later
  by_cases made : objects.validRef branch = true ∧ (desk.refs.get? branch).isNone = true
  · exact .inr ⟨Option.isNone_iff_eq_none.mp made.2,made.1⟩
  · simp only [if_neg made] at later
    obtain ⟨found,middle,read,last⟩ := (exec_bind_ok _ _ _ _ _).mp later
    rw [exec_outcome,Prod.mk.injEq,Except.ok.injEq] at read
    obtain ⟨rfl,rfl⟩ := read
    simp only [revParse,exec_atomic] at last
    cases held : desk.refs.get? branch with
    | none =>
      rw [held] at last
      cases last
    | some existing =>
      rw [held] at last
      dsimp only at last
      split at last
      · rename_i same
        exact .inl (by rw [same])
      · cases last

theorem checkpoint_ok {key : String} {patch : Patch} {saved : PublicationRecord}
    (ok : (checkpoint options key record patch).exec desk = (.ok saved,after)) :
    after.refs = desk.refs ∧ (phaseAtLeast record.phase patch.phase = true → saved = record) := by
  unfold checkpoint at ok
  split at ok
  · cases ok
    exact ⟨rfl,fun _ => rfl⟩
  · rename_i behind
    have later := exec_now ok
    rw [save,exec_atomic,Prod.mk.injEq] at later
    obtain ⟨_,rfl⟩ := later
    exact ⟨rfl,fun far => absurd far behind⟩

theorem writeOut_ok {key branch : String} (ok : (writeOut objects options key record repo branch contents).exec desk = (.ok result,after)) :
    result = resultAt repo branch contents.commitSha ∧
      (phaseAtLeast record.phase .commitCreated = true → record.commitSha = some contents.commitSha) ∧
      (desk.refs.get? branch = some contents.commitSha ∨ desk.refs.get? branch = none ∧ objects.validRef branch = true) := by
  unfold writeOut at ok
  obtain ⟨first,desk₁,blobs,rest₁⟩ := (exec_bind_ok _ _ _ _ _).mp ok
  obtain ⟨second,desk₂,tree,rest₂⟩ := (exec_bind_ok _ _ _ _ _).mp rest₁
  obtain ⟨third,desk₃,commit,rest₃⟩ := (exec_bind_ok _ _ _ _ _).mp rest₂
  obtain ⟨_,desk₄,branched,rest₄⟩ := (exec_bind_ok _ _ _ _ _).mp rest₃
  obtain ⟨_,desk₅,saved,last⟩ := (exec_bind_ok _ _ _ _ _).mp (exec_now rest₄)
  rw [exec_pure,Prod.mk.injEq,Except.ok.injEq] at last
  obtain ⟨refs₁,kept₁⟩ := checkpoint_ok blobs
  obtain ⟨refs₂,kept₂⟩ := checkpoint_ok tree
  have refs₃ : desk₃.refs = desk₂.refs ∧
      (phaseAtLeast second.phase .commitCreated = true → second.commitSha = some contents.commitSha) := by
    unfold bindCommit at commit
    split at commit
    · split at commit
      · cases commit
      · rename_i recorded held
        split at commit
        · rename_i same
          cases commit
          exact ⟨rfl,fun _ => by rw [held,same]⟩
        · cases commit
    · rename_i behind
      exact ⟨(checkpoint_ok commit).1,fun far => absurd far behind⟩
  refine ⟨last.1.symm,fun far => ?_,?_⟩
  · have order : 3 ≤ record.phase.order := atLeast_iff.mp far
    obtain rfl := kept₁ (atLeast_iff.mpr (by change 1 ≤ _; omega))
    obtain rfl := kept₂ (atLeast_iff.mpr (by change 2 ≤ _; omega))
    exact refs₃.2 far
  · have refs : desk₃.refs = desk.refs := refs₃.1.trans (refs₂.trans refs₁)
    rw [← refs]
    exact createBranch_ok branched

theorem unfinished_ok {key : String} (ok : (unfinished objects options parsed key record).exec desk = (.ok result,after)) :
    ∃ repo contents, Writable objects options parsed repo contents desk ∧ result = resultAt repo (branchOf parsed) contents.commitSha ∧
      (phaseAtLeast record.phase .commitCreated = true → record.commitSha = some contents.commitSha) := by
  unfold unfinished at ok
  obtain ⟨repo,repository,rest⟩ := exec_settled ok
  obtain ⟨base,middle,read,rest⟩ := (exec_bind_ok _ _ _ _ _).mp rest
  rw [revParse,exec_atomic] at read
  split at read
  · rename_i sha held
    rw [Prod.mk.injEq,Except.ok.injEq] at read
    obtain ⟨rfl,rfl⟩ := read
    split at rest
    · rename_i same
      obtain ⟨contents,written,last⟩ := exec_settled rest
      obtain ⟨answers,bound,branch⟩ := writeOut_ok last
      exact ⟨repo,contents,⟨repository,written,by rw [held,same],branch⟩,answers,bound⟩
    · cases rest
  · cases read

theorem execute_ok {input : PublicationInput} (ok : (execute crypto objects options input).exec desk = (.ok result,after)) :
    ∃ parsed claimed, Ready crypto options input (options.clock desk.tick) parsed claimed ∧
      ((∀ record, desk.store.get claimed.key = some record → record.branch = branchOf parsed) →
        Stands objects options parsed claimed result desk) := by
  unfold execute at ok
  obtain ⟨parsed,passed,rest⟩ := exec_settled (exec_now ok)
  obtain ⟨_,policy,rest⟩ := exec_settled rest
  obtain ⟨claimed,claims,rest⟩ := exec_settled rest
  obtain ⟨record,middle,held,rest⟩ := (exec_bind_ok _ _ _ _ _).mp (exec_now rest)
  refine ⟨parsed,claimed,⟨passed,policy,claims⟩,fun filed => ?_⟩
  rw [claim,exec_atomic,Prod.mk.injEq] at held
  obtain ⟨taken,rfl⟩ := held
  rcases PublicationStore.claim_ok taken with ⟨found,same⟩ | ⟨missing,free,made,_,_⟩
  · split at rest
    · rename_i far
      rw [exec_settle,Prod.mk.injEq] at rest
      exact .recorded record found far rest.1
    · rename_i near
      obtain ⟨repo,contents,writable,answers,bound⟩ := unfinished_ok rest
      exact .begun repo contents record ⟨found,by simpa using near,bound,filed record found,writable.kept rfl⟩ answers
  · have near : ¬ phaseAtLeast record.phase .refCreated = true := by
      rw [made]
      intro far
      cases far
    rw [if_neg near] at rest
    obtain ⟨repo,contents,writable,answers,_⟩ := unfinished_ok rest
    exact .fresh repo contents missing free (writable.kept rfl) answers

end

/-! ### Another authorization -/

section
variable (crypto : Crypto) (options : LocalGitPublisherOptions)
variable (input : PublicationInput)

def recordOf (desk : Desk) (record : PublicationRecord) : Prop :=
  ∃ parsed claimed, parsePublicationManifest crypto input = .ok parsed ∧ claimOf crypto parsed = .ok claimed ∧
    desk.store.get claimed.key = some record

def Filed (desk : Desk) : Prop :=
  ∀ parsed record, parsePublicationManifest crypto input = .ok parsed → recordOf crypto input desk record →
    record.branch = branchOf parsed

def Recorded (desk : Desk) : Prop :=
  ∃ record, recordOf crypto input desk record ∧ phaseAtLeast record.phase .refCreated = true

def Reissues (authorization : SignedAttestation) (at_ : Instant) : Prop :=
  ∃ parsed claims, parsePublicationManifest crypto {input with authorization} = .ok parsed ∧
    validatePublicationAuthorization crypto parsed options.verifier at_ .localGitPublisher = .ok claims

end

section
variable {crypto : Crypto} {objects : GitObjects} {options : LocalGitPublisherOptions} {parsed : ParsedPublicationManifest}
  {claimed : PublicationClaim} {result : LocalPublicationResult} {desk : Desk} {authorization : SignedAttestation}

theorem contentsOf_dated (same : authorization.issuedAt / 1000 = parsed.authorization.issuedAt / 1000) :
    contentsOf objects {parsed with authorization} = contentsOf objects parsed := by
  have dated (tree : String) : commitOf parsed.manifest tree authorization.issuedAt =
      commitOf parsed.manifest tree parsed.authorization.issuedAt := by rw [commitOf,commitOf,same]
  unfold contentsOf
  simp only [dated]

theorem Stands.commit (stands : Stands objects options parsed claimed result desk)
    (unrecorded : ∀ record, desk.store.get claimed.key = some record → phaseAtLeast record.phase .refCreated = false) :
    ∃ tree, newTreeOf objects parsed.manifest = .ok tree ∧
      result.commitSha = objects.commitTree (commitOf parsed.manifest tree parsed.authorization.issuedAt) := by
  cases stands with
  | recorded record found far answers =>
    rw [unrecorded record found] at far
    cases far
  | begun repo contents record begun answers =>
    rw [answers]
    exact (contentsOf_sha begun.writable.written).2
  | fresh repo contents missing free writable answers =>
    rw [answers]
    exact (contentsOf_sha writable.written).2

theorem Stands.reissued {clock : Nat → Instant} (stands : Stands objects options parsed claimed result desk)
    (either : (∃ record, desk.store.get claimed.key = some record ∧ phaseAtLeast record.phase .refCreated = true) ∨
      authorization.issuedAt / 1000 = parsed.authorization.issuedAt / 1000) :
    Stands objects {options with clock} {parsed with authorization} claimed result desk := by
  cases stands with
  | recorded record found far answers => exact .recorded record found far answers
  | begun repo contents record begun answers =>
    rcases either with ⟨record',found,far⟩ | same
    · rw [begun.found,Option.some.injEq] at found
      rw [← found,begun.near] at far
      cases far
    · have written : contentsOf objects {parsed with authorization} = .ok contents :=
        (contentsOf_dated same).trans begun.writable.written
      exact .begun repo contents record ⟨begun.found,begun.near,begun.bound,begun.branch,begun.writable.repository,written,
        begun.writable.base,begun.writable.branch⟩ answers
  | fresh repo contents missing free writable answers =>
    rcases either with ⟨record,found,_⟩ | same
    · rw [missing] at found
      cases found
    · have written : contentsOf objects {parsed with authorization} = .ok contents :=
        (contentsOf_dated same).trans writable.written
      exact .fresh repo contents missing free ⟨writable.repository,written,writable.base,writable.branch⟩ answers

/-- A call that was cut off is taken up to its own result by another authorization exactly where its
branch is recorded already, or the authorization was issued in the same second. -/
theorem resumes_iff {clock : Nat → Instant} {input : PublicationInput} {before done : Desk} {steps : Nat}
    (published : (execute crypto objects options input).exec before = (.ok result,done)) (filed : Filed crypto input before)
    (reissued : Reissues crypto options input authorization (clock ((execute crypto objects options input).cut steps before).tick))
    (distinct : ∀ commit : GitCommit, objects.commitTree {commit with date := authorization.issuedAt / 1000} =
      objects.commitTree {commit with date := input.authorization.issuedAt / 1000} →
      authorization.issuedAt / 1000 = input.authorization.issuedAt / 1000) :
    (∃ after, (execute crypto objects {options with clock} {input with authorization}).exec
        ((execute crypto objects options input).cut steps before) = (.ok result,after)) ↔
      Recorded crypto input ((execute crypto objects options input).cut steps before) ∨
        authorization.issuedAt / 1000 = input.authorization.issuedAt / 1000 := by
  obtain ⟨parsed,claimed,ready,stood⟩ := execute_ok published
  have found := (prepared_ok crypto ready.prepared).1
  have stands := stood fun record held => filed parsed record found ⟨parsed,claimed,found,ready.claims,held⟩
  have standing := (execute_completes stands ready).cut stands steps
  generalize (execute crypto objects options input).cut steps before = desk at reissued standing ⊢
  obtain ⟨_,_,_,same⟩ := parsePublicationManifest_ok found
  obtain ⟨parsed',claims,found',passed⟩ := reissued
  obtain ⟨_,_,_,same'⟩ := parsePublicationManifest_ok found'
  have again : parsed' = {parsed with authorization} := by
    rw [same,same']
  have dated : parsed.authorization = input.authorization := by rw [same]
  subst again
  obtain ⟨name,repository⟩ := prepared_repository crypto ready.prepared
  have verified := (verifyAuthorization_ok crypto).mpr ⟨claims,passed⟩
  have ready' : Ready crypto {options with clock} {input with authorization} (clock desk.tick) {parsed with authorization} claimed :=
    ⟨prepared_of crypto found' repository verified,ready.policy,ready.claims⟩
  have recorded : Recorded crypto input desk ↔
      ∃ record, desk.store.get claimed.key = some record ∧ phaseAtLeast record.phase .refCreated = true := by
    constructor
    · rintro ⟨record,⟨other,claimed',parses,claims',held⟩,far⟩
      rw [found,Except.ok.injEq] at parses
      subst parses
      rw [ready.claims,Except.ok.injEq] at claims'
      subst claims'
      exact ⟨record,held,far⟩
    · rintro ⟨record,held,far⟩
      exact ⟨record,⟨parsed,claimed,found,ready.claims,held⟩,far⟩
  rw [recorded,← dated]
  constructor
  · rintro ⟨after,resumed⟩
    by_contra neither
    rw [not_or] at neither
    have unrecorded : ∀ record, desk.store.get claimed.key = some record → phaseAtLeast record.phase .refCreated = false := by
      intro record held
      rw [← Bool.not_eq_true]
      exact fun far => neither.1 ⟨record,held,far⟩
    obtain ⟨tree,made,commit⟩ := standing.commit unrecorded
    obtain ⟨parsed'',claimed'',ready'',stood'⟩ := execute_ok resumed
    have parses := (prepared_ok crypto ready''.prepared).1
    rw [found',Except.ok.injEq] at parses
    subst parses
    have claims'' := ready''.claims
    rw [ready'.claims,Except.ok.injEq] at claims''
    subst claims''
    have branched : ∀ record, desk.store.get claimed.key = some record → record.branch = branchOf {parsed with authorization} := by
      intro record held
      cases standing with
      | recorded record' found far _ =>
        rw [unrecorded record' found] at far
        cases far
      | begun repo contents record' begun _ =>
        rw [begun.found,Option.some.injEq] at held
        rw [← held]
        exact begun.branch
      | fresh repo contents missing _ _ _ =>
        rw [missing] at held
        cases held
    obtain ⟨tree',made',commit'⟩ := (stood' branched).commit unrecorded
    have trees : tree = tree' := Except.ok.inj (made.symm.trans made')
    subst trees
    apply neither.2
    rw [dated]
    apply distinct (commitOf parsed.manifest tree input.authorization.issuedAt)
    rw [← dated]
    exact commit'.symm.trans commit
  · intro either
    obtain ⟨answer,after,ran,same⟩ := (execute_completes (standing.reissued either) ready').exec
    exact ⟨after,by rw [ran,same]⟩

/-! ### Cut off at the commit -/

variable {record : PublicationRecord}

theorem cut_execute {input : PublicationInput} (ready : Ready crypto options input (options.clock desk.tick) parsed claimed)
    (taken : (desk.store.claim claimed (options.clock (desk.tick + 1))).1 = .ok record)
    (near : phaseAtLeast record.phase .refCreated = false) (steps : Nat) :
    (execute crypto objects options input).cut (steps + 3) desk = (unfinished objects options parsed claimed.key record).cut steps
        {desk with store := (desk.store.claim claimed (options.clock (desk.tick + 1))).2,tick := desk.tick + 2} := by
  unfold execute
  change Routine.cut (steps + 2) (settle (prepared crypto options.verifier input (options.clock desk.tick)) >>= _) _ = _
  rw [ready.prepared]
  change Routine.cut (steps + 2) (settle (checkPolicy crypto options.policy parsed.manifest) >>= _) _ = _
  rw [ready.policy]
  change Routine.cut (steps + 2) (settle (claimOf crypto parsed) >>= _) _ = _
  rw [ready.claims]
  change Program.cut steps (ExceptT.bindCont _ (desk.store.claim claimed (options.clock (desk.tick + 1))).1) _ = _
  rw [taken]
  change Routine.cut steps (if phaseAtLeast record.phase .refCreated = true then _ else _) _ = _
  rw [if_neg (by simp [near])]

variable {contents : Contents}

theorem cut_unfinished {repo key : String} (writable : Writable objects options parsed repo contents desk) (steps : Nat) :
    (unfinished objects options parsed key record).cut (steps + 1) desk =
      (writeOut objects options key record repo (branchOf parsed) contents).cut steps desk := by
  unfold unfinished
  rw [writable.repository]
  have read : (revParse parsed.manifest.expectedBase.branch).exec desk = (.ok parsed.manifest.expectedBase.sha,desk) := by
    simp [revParse,writable.base]
  have first (rest : String → Action LocalPublicationResult) :
      (revParse parsed.manifest.expectedBase.branch >>= rest).cut (steps + 1) desk =
        (rest parsed.manifest.expectedBase.sha).cut steps desk := by
    change Program.cut steps (ExceptT.bindCont rest ((revParse parsed.manifest.expectedBase.branch).exec desk).1)
      ((revParse parsed.manifest.expectedBase.branch).exec desk).2 = _
    rw [read]
    rfl
  change Routine.cut (steps + 1) (revParse parsed.manifest.expectedBase.branch >>= _) desk = _
  rw [first,if_pos rfl,writable.written]
  rfl

theorem rebound_refused {input : PublicationInput} {repo sha : String}
    (ready : Ready crypto options input (options.clock desk.tick) parsed claimed)
    (held : desk.store.get claimed.key = some record) (phase : record.phase = .commitCreated)
    (recorded : record.commitSha = some sha) (other : sha ≠ contents.commitSha)
    (repository : repositoryOf options parsed.manifest = .ok repo) (written : contentsOf objects parsed = .ok contents)
    (base : desk.refs.get? parsed.manifest.expectedBase.branch = some parsed.manifest.expectedBase.sha) :
    ∃ after, (execute crypto objects options input).exec desk =
      (.error (.publisher .collision "Publication commit binding changed"),after) := by
  refine ⟨{desk with tick := desk.tick + 2},?_⟩
  have taken : desk.store.claim claimed (options.clock (desk.tick + 1)) = (.ok record,desk.store) := by
    have existing : desk.store.records.get? claimed.key = some record := held
    unfold PublicationStore.claim
    rw [existing]
  have near : ¬ phaseAtLeast record.phase .refCreated = true := by
    rw [phase]
    intro far
    cases far
  have blobs : phaseAtLeast record.phase .blobsCreated = true := by rw [phase]; rfl
  have tree : phaseAtLeast record.phase .treeCreated = true := by rw [phase]; rfl
  have commit : phaseAtLeast record.phase .commitCreated = true := by rw [phase]; rfl
  unfold execute
  simp only [exec_bind,now,exec_atomic,ready.prepared,ready.policy,ready.claims,exec_settle,claim,taken]
  rw [if_neg near]
  unfold unfinished
  simp only [exec_bind,exec_settle,repository,revParse,exec_atomic,base,if_true,written]
  unfold writeOut checkpoint bindCommit
  simp only [exec_bind,blobs,tree,commit,if_true,exec_pure,recorded,if_neg other,exec_settle]
  rfl

end

/-! ### An authorization of another second -/

def shopName (digit : Char) : String := String.ofList (List.replicate 40 digit)

def shopObjects : GitObjects where
  hashObject _ := shopName '1'
  mktree _ := shopName '2'
  commitTree commit := if commit.date = 1 then shopName '3' else shopName '4'
  lsTree _ := .empty
  validRef _ := true

def shopOptions : LocalGitPublisherOptions where
  verifier := reportVerifier
  policy := DEFAULT_PUBLICATION_POLICY
  repository := .ok "/srv/shop"
  clock _ := 3000

def shopManifest : PublicationManifestBody := {reports 'c' 'd' with
  repository := .localGit "shop"
  policyDigest := repeated '0'}

def shopInput (issuedAt : Instant) : PublicationInput where
  manifest := shopManifest
  authorization := authorize fixedCrypto reportKey shopManifest .localGitPublisher "nonce-1" issuedAt 61000

def parsedShop (issuedAt : Instant) : ParsedPublicationManifest where
  manifest := shopManifest
  manifestDigest := repeated '0'
  authorization := (shopInput issuedAt).authorization

theorem shop_authorization (issuedAt : Instant) : (shopInput issuedAt).authorization.valid = true := by
  have signature (key payload : String) : sign fixedCrypto key payload = repeated '0' := rfl
  have claimed : (sized 1 128 reportKey.keyId && sized 1 512 (authorizationSubject shopManifest (repeated '0')) &&
      (expectedClaims fixedCrypto shopManifest (repeated '0') .localGitPublisher "nonce-1" 61000).valid &&
      isDigest (repeated '0')) = true := by decide +kernel
  have digest : canonicalPublicationManifestDigest fixedCrypto.sha256 (.manifest shopManifest) = repeated '0' := rfl
  have hashed (claims : PublicationAuthorizationClaims) : hashClaims fixedCrypto claims = repeated '0' := rfl
  simp only [Bool.and_eq_true] at claimed
  obtain ⟨⟨⟨key,subject⟩,claims⟩,zero⟩ := claimed
  simp only [shopInput,authorize,issue,SignedAttestation.valid,digest,hashed,signature,key,subject,claims,zero,decide_true,
    Bool.and_self]

theorem shop_parsed (issuedAt : Instant) : parsePublicationManifest fixedCrypto (shopInput issuedAt) = .ok (parsedShop issuedAt) := by
  have manifest : shopManifest.valid = true := by decide +kernel
  have checked : checkChanges [] [] 0 shopManifest.changes = .ok () := by
    have same : shopManifest.changes = [.write .add "notes.txt" false "text"] := rfl
    rw [same]
    decide +kernel
  have body : (shopInput issuedAt).manifest = shopManifest := rfl
  unfold parsePublicationManifest
  rw [body,manifest,shop_authorization,checked]
  rfl

def shopClaim : PublicationClaim where
  key := repeated '0'
  bindingKey := repeated '0'
  projectId := "project-1"
  runId := "run-1"
  repositoryId := 1
  manifestDigest := repeated '0'
  policyDigest := repeated '0'
  baseSha := shopManifest.expectedBase.sha
  branch := branchForRun "run-1" (repeated '0')

def shopContents (issuedAt : Instant) : Contents where
  blobShas := [("notes.txt",shopName '1')]
  treeSha := shopName '2'
  commitSha := if issuedAt / 1000 = 1 then shopName '3' else shopName '4'

variable {issuedAt : Instant}

theorem shop_verified (window : InWindow issuedAt 61000 3000) : ∃ claims,
    validatePublicationAuthorization fixedCrypto (parsedShop issuedAt) shopOptions.verifier 3000 .localGitPublisher = .ok claims := by
  have known : reportVerifier.keys.find? (fun candidate => candidate.keyId = reportKey.keyId) = some reportKey := rfl
  have checked : checkChanges [] [] 0 shopManifest.changes = .ok () := (parsePublicationManifest_ok (shop_parsed 0)).2.2.1
  exact validates_reordered known rfl window checked (shop_parsed issuedAt) ⟨rfl,List.Perm.refl _,List.Perm.refl _⟩ rfl

theorem shop_ready (window : InWindow issuedAt 61000 3000) :
    Ready fixedCrypto shopOptions (shopInput issuedAt) 3000 (parsedShop issuedAt) shopClaim where
  prepared := prepared_of fixedCrypto (shop_parsed issuedAt) rfl ((verifyAuthorization_ok fixedCrypto).mpr (shop_verified window))
  policy := by
    have same : (parsedShop issuedAt).manifest = shopManifest := rfl
    rw [same]
    decide +kernel
  claims := rfl

theorem shop_contents (issuedAt : Instant) : contentsOf shopObjects (parsedShop issuedAt) = .ok (shopContents issuedAt) := by
  have shas : isCommitSha (shopName '3') = true ∧ isCommitSha (shopName '4') = true := by decide +kernel
  have blobs : blobShasOf shopObjects shopManifest.changes = .ok [("notes.txt",shopName '1')] := by decide +kernel
  have tree : newTreeOf shopObjects shopManifest = .ok (shopName '2') := by decide +kernel
  have shaped : isCommitSha (shopContents issuedAt).commitSha = true := by
    unfold shopContents
    dsimp only
    split
    · exact shas.1
    · exact shas.2
  unfold contentsOf
  have body : (parsedShop issuedAt).manifest = shopManifest := rfl
  rw [body,blobs,tree]
  exact if_pos shaped

def shopDesk : Desk where
  store := ⟨.empty,.empty,[]⟩
  refs := OrderedMap.empty.set "main" shopManifest.expectedBase.sha

def shopResult : LocalPublicationResult := resultAt "/srv/shop" (branchOf (parsedShop 1000)) (shopName '3')

theorem shop_writable {store : PublicationStore} {tick : Nat} (issuedAt : Instant) :
    Writable shopObjects shopOptions (parsedShop issuedAt) "/srv/shop" (shopContents issuedAt)
      {store,refs := shopDesk.refs,tick} where
  repository := by
    have body : (parsedShop issuedAt).manifest = shopManifest := rfl
    rw [body]
    decide +kernel
  written := shop_contents issuedAt
  base := rfl
  branch := .inr ⟨rfl,rfl⟩

theorem shop_fresh : Stands shopObjects shopOptions (parsedShop 1000) shopClaim shopResult shopDesk :=
  .fresh "/srv/shop" (shopContents 1000) rfl (by simp [shopDesk]) (shop_writable 1000) rfl

theorem shop_published : ∃ done, (execute fixedCrypto shopObjects shopOptions (shopInput 1000)).exec shopDesk = (.ok shopResult,done) := by
  obtain ⟨answer,done,ran,same⟩ := (execute_completes shop_fresh (shop_ready ⟨by decide,by decide,by decide,by decide⟩)).exec
  exact ⟨done,by rw [ran,same]⟩

theorem shop_filed (issuedAt : Instant) : Filed fixedCrypto (shopInput issuedAt) shopDesk := by
  rintro parsed record _ ⟨_,_,_,_,held⟩
  cases held

theorem shop_reissued (window : InWindow issuedAt 61000 3000) :
    Reissues fixedCrypto shopOptions (shopInput 1000) (shopInput issuedAt).authorization 3000 := by
  obtain ⟨claims,passed⟩ := shop_verified window
  exact ⟨parsedShop issuedAt,claims,shop_parsed issuedAt,passed⟩

/-- An authorization of the same second takes the call up. -/
theorem same_second_resumes : ∃ after, (execute fixedCrypto shopObjects shopOptions (shopInput 1500)).exec
    ((execute fixedCrypto shopObjects shopOptions (shopInput 1000)).cut 10 shopDesk) = (.ok shopResult,after) := by
  obtain ⟨done,published⟩ := shop_published
  have window : InWindow 1500 61000 3000 := ⟨by decide,by decide,by decide,by decide⟩
  have reissued := shop_reissued window
  exact (resumes_iff (show (execute fixedCrypto shopObjects shopOptions (shopInput 1000)).exec shopDesk = _ from published)
    (shop_filed 1000) reissued fun _ _ => by decide).mpr (.inr (by decide))

theorem shop_cut : ∃ record, ((execute fixedCrypto shopObjects shopOptions (shopInput 1000)).cut 10 shopDesk).store.get
      shopClaim.key = some record ∧ record.phase = .commitCreated ∧ record.commitSha = some (shopName '3') ∧
    ((execute fixedCrypto shopObjects shopOptions (shopInput 1000)).cut 10 shopDesk).refs = shopDesk.refs := by
  have ready : Ready fixedCrypto shopOptions (shopInput 1000) (shopOptions.clock shopDesk.tick) (parsedShop 1000) shopClaim :=
    shop_ready ⟨by decide,by decide,by decide,by decide⟩
  have taken : (shopDesk.store.claim shopClaim (shopOptions.clock (shopDesk.tick + 1))).1 =
    .ok (PublicationStore.claimed shopClaim 3000) := rfl
  rw [cut_execute ready taken rfl 7,cut_unfinished (shop_writable 1000) 6]
  exact ⟨_,rfl,rfl,rfl,rfl⟩

/-- An authorization of the next second is refused when the commit was recorded and its branch was not. -/
theorem next_second_refused : (∃ done, (execute fixedCrypto shopObjects shopOptions (shopInput 1000)).exec shopDesk = (.ok shopResult,done)) ∧
    Reissues fixedCrypto shopOptions (shopInput 1000) (shopInput 2500).authorization 3000 ∧
    ∃ after, (execute fixedCrypto shopObjects shopOptions {shopInput 1000 with authorization := (shopInput 2500).authorization}).exec
      ((execute fixedCrypto shopObjects shopOptions (shopInput 1000)).cut 10 shopDesk) =
        (.error (.publisher .collision "Publication commit binding changed"),after) := by
  refine ⟨shop_published,shop_reissued ⟨by decide,by decide,by decide,by decide⟩,?_⟩
  obtain ⟨record,held,phase,recorded,refs⟩ := shop_cut
  have ready : Ready fixedCrypto shopOptions (shopInput 2500) 3000 (parsedShop 2500) shopClaim :=
    shop_ready ⟨by decide,by decide,by decide,by decide⟩
  have writable : Writable shopObjects shopOptions (parsedShop 2500) "/srv/shop" (shopContents 2500) shopDesk := shop_writable 2500
  have other : shopName '3' ≠ (shopContents 2500).commitSha := by decide +kernel
  exact rebound_refused ready held phase recorded other writable.repository writable.written (by rw [refs]; rfl)

end AgentOS.Publication.LocalGit
