import AgentOS.Publication.Branches
import AgentOS.Publication.Checkpoints
import AgentOS.Publication.LocalGit

/-! The claims the publishers make of the store: what the table's constraints ask of them, and that a publication's key
stands for one claim. -/
namespace AgentOS.Publication
open Library Workflow Gate Joined

section
variable {crypto : Crypto} {runId digest : String} {name tag : List Char}

/-! ### Branches in the namespace -/

def RunIdFits (runId : String) : Prop := runId.length ≤ 100 ∧ ∀ char ∈ runId.toList, GitHub.slugChar char = true

instance : DecidablePred RunIdFits := fun runId =>
  decidable_of_iff (runId.length ≤ 100 ∧ runId.toList.all GitHub.slugChar = true) (and_congr_right fun _ => List.all_eq_true)

theorem inNamespace_tagged (tagged : Tag tag) : inNamespace ("agentos/" ++ String.ofList (name ++ '-'::tag)) = true ↔
    1 ≤ name.length ∧ name.length ≤ 100 ∧ ∀ char ∈ name, GitHub.slugChar char = true := by
  have eight : "agentos/".toList.length = 8 := by decide
  have rest : ("agentos/" ++ String.ofList (name ++ '-'::tag)).toList.drop 8 = name ++ '-'::tag := by
    rw [agentos_toList,← eight,List.drop_left]
  have start : ("agentos/" ++ String.ofList (name ++ '-'::tag)).toList.take 8 = "agentos/".toList := by
    rw [agentos_toList,← eight,List.take_left]
  have cut : (name ++ '-'::tag).length - 9 = name.length := by simp [tagged.length]
  have hex : tag.all isHex = true := List.all_eq_true.mpr tagged.hex
  simp only [inNamespace,rest,start,cut,List.take_left,List.drop_left]
  simp [tagged.length,hex,and_assoc]

theorem inNamespace_github (hashed : ∀ text, isDigest (crypto.sha256 text) = true) (runId : String) :
    inNamespace (GitHub.branchForRun crypto runId) = true := by
  rw [github_branch,inNamespace_tagged (tag_of_digest (hashed runId))]
  unfold runName
  split
  · exact ⟨by decide,by decide,List.all_eq_true.mp (by decide)⟩
  · rename_i named
    have short : (GitHub.slug runId).toList.length ≤ 80 := by
      rw [slug_eq]
      exact List.length_take_le 80 _
    refine ⟨List.length_pos_iff.mpr fun empty => named (String.toList_eq_nil_iff.mp empty),by omega,fun char inside => ?_⟩
    rw [slug_eq] at inside
    have kept : stripped (dashed (runId.toList.map Char.toLower)) <:+: dashed (runId.toList.map Char.toLower) :=
      (stripped_starts _).isInfix.trans (List.dropWhile_suffix _).isInfix
    exact dashed_slugChar (kept.subset (List.mem_of_mem_take inside))

theorem inNamespace_local (identifier : isIdentifier runId = true) (valid : isDigest digest = true) :
    inNamespace (LocalGit.branchForRun runId digest) = true ↔ RunIdFits runId := by
  have named : 1 ≤ runId.toList.length := by
    refine List.length_pos_iff.mpr fun empty => ?_
    rw [isIdentifier,empty] at identifier
    cases identifier
  rw [local_branch,inNamespace_tagged (tag_of_digest valid)]
  exact and_iff_right named

/-! ### What the publishers claim -/

variable (manifest : PublicationManifestBody)

def keySegments : List String :=
  match manifest.repository with
  | .github _ _ _ repositoryId => [manifest.projectId,manifest.runId,toString repositoryId,manifest.policyDigest]
  | .localGit name => ["local-git-publisher",manifest.projectId,manifest.runId,name,manifest.policyDigest]

def keyText (digest : String) : String := "\x00".intercalate (keySegments manifest ++ [digest])

/-- A claim that either publisher makes for a manifest it parsed, when what it hashes is among the texts. -/
inductive IssuedClaim (crypto : Crypto) (texts : List String) (claim : PublicationClaim) : Prop
  | github {input : PublicationInput} {parsed : ParsedPublicationManifest} (read : parsePublicationManifest crypto input = .ok parsed)
      (manifest : manifestText parsed.manifest ∈ texts) (key : keyText parsed.manifest parsed.manifestDigest ∈ texts)
      (claimed : GitHub.claimOf crypto parsed.manifest parsed.manifestDigest = .ok claim)
  | localGit {input : PublicationInput} {parsed : ParsedPublicationManifest} (read : parsePublicationManifest crypto input = .ok parsed)
      (manifest : manifestText parsed.manifest ∈ texts) (key : keyText parsed.manifest parsed.manifestDigest ∈ texts)
      (claimed : LocalGit.claimOf crypto parsed = .ok claim)

def claimFrom (crypto : Crypto) (manifest : PublicationManifestBody) (digest : String) : PublicationClaim where
  key := crypto.sha256 (keyText manifest digest)
  bindingKey := keyOf crypto (match manifest.repository with
    | .github _ _ _ repositoryId => [manifest.projectId,manifest.runId,toString repositoryId]
    | .localGit _ => ["local-git-publisher",manifest.projectId,manifest.runId])
  projectId := manifest.projectId
  runId := manifest.runId
  repositoryId := match manifest.repository with
    | .github _ _ _ repositoryId => repositoryId
    | .localGit _ => 1
  manifestDigest := digest
  policyDigest := manifest.policyDigest
  baseSha := manifest.expectedBase.sha
  branch := match manifest.repository with
    | .github _ _ _ _ => GitHub.branchForRun crypto manifest.runId
    | .localGit _ => LocalGit.branchForRun manifest.runId digest

theorem github_claimOf {manifest : PublicationManifestBody} {claim : PublicationClaim}
    (ok : GitHub.claimOf crypto manifest digest = .ok claim) : claim = claimFrom crypto manifest digest := by
  unfold GitHub.claimOf GitHub.publicationKey GitHub.bindingKey at ok
  unfold claimFrom keyText keySegments
  cases repository : manifest.repository with
  | localGit name =>
    rw [repository] at ok
    cases ok
  | github owner name installationId repositoryId =>
    rw [repository] at ok
    cases ok
    rfl

theorem local_claimOf {parsed : ParsedPublicationManifest} {claim : PublicationClaim}
    (ok : LocalGit.claimOf crypto parsed = .ok claim) : claim = claimFrom crypto parsed.manifest parsed.manifestDigest := by
  unfold LocalGit.claimOf LocalGit.publicationKey LocalGit.bindingKey at ok
  unfold claimFrom keyText keySegments
  cases repository : parsed.manifest.repository with
  | github owner name installationId repositoryId =>
    rw [repository] at ok
    cases ok
  | localGit name =>
    rw [repository] at ok
    cases ok
    rfl

theorem IssuedClaim.read {texts : List String} {claim : PublicationClaim} (issued : IssuedClaim crypto texts claim) :
    ∃ manifest : PublicationManifestBody, manifest.valid = true ∧ claim = claimFrom crypto manifest (crypto.sha256 (manifestText manifest)) ∧
      manifestText manifest ∈ texts ∧ keyText manifest (crypto.sha256 (manifestText manifest)) ∈ texts := by
  cases issued with
  | github read manifest key claimed =>
    obtain ⟨valid,_,_,rfl⟩ := parsePublicationManifest_ok read
    exact ⟨_,valid,github_claimOf claimed,manifest,key⟩
  | localGit read manifest key claimed =>
    obtain ⟨valid,_,_,rfl⟩ := parsePublicationManifest_ok read
    exact ⟨_,valid,local_claimOf claimed,manifest,key⟩

/-- A claim whose branch carries the run's identifier as it stands, as the local publisher's does, has one that may. -/
def Storable (claim : PublicationClaim) : Prop :=
  claim.branch = LocalGit.branchForRun claim.runId claim.manifestDigest → RunIdFits claim.runId

structure Formed (claim : PublicationClaim) : Prop where
  repositoryId : 0 < claim.repositoryId
  safe : isSafeInteger claim.repositoryId = true
  key : isDigest claim.key = true
  bindingKey : isDigest claim.bindingKey = true
  manifestDigest : isDigest claim.manifestDigest = true
  policyDigest : isDigest claim.policyDigest = true
  baseSha : isCommitSha claim.baseSha = true

theorem satisfiesChecks_claimed {claim : PublicationClaim} (formed : Formed claim) (now : Instant) :
    satisfiesChecks (claimedRecord claim now) = inNamespace claim.branch := by
  have one : isSafeInteger 1 = true := by decide
  simp [satisfiesChecks,claimedRecord,PublicationStore.claimed,checkpointShape,formed.repositoryId,formed.safe,formed.key,
    formed.bindingKey,formed.manifestDigest,formed.policyDigest,formed.baseSha,one]

theorem valid_manifest {manifest : PublicationManifestBody} (valid : manifest.valid = true) : isIdentifier manifest.runId = true ∧
    manifest.repository.valid = true ∧ isDigest manifest.policyDigest = true ∧ isCommitSha manifest.expectedBase.sha = true := by
  simp only [PublicationManifestBody.valid,ExpectedBase.valid,Bool.and_eq_true] at valid
  tauto

variable {texts : List String} {claim other : PublicationClaim}

section
variable (issued : IssuedClaim crypto texts claim) (hashed : ∀ text, isDigest (crypto.sha256 text) = true)
include issued hashed

theorem IssuedClaim.formed : Formed claim := by
  obtain ⟨manifest,valid,rfl,_,_⟩ := issued.read
  obtain ⟨_,numbered,policy,base⟩ := valid_manifest valid
  have whole : 0 < (claimFrom crypto manifest (crypto.sha256 (manifestText manifest))).repositoryId ∧
      isSafeInteger (claimFrom crypto manifest (crypto.sha256 (manifestText manifest))).repositoryId = true := by
    unfold claimFrom
    cases repository : manifest.repository with
    | github owner name installationId repositoryId =>
      rw [repository] at numbered
      simp only [PublicationRepository.valid,Bool.and_eq_true,decide_eq_true_eq] at numbered
      exact ⟨numbered.1.2,numbered.2⟩
    | localGit name => exact ⟨Nat.one_pos,(by decide : isSafeInteger ((1 : Nat) : Int) = true)⟩
  exact ⟨whole.1,whole.2,hashed _,hashed _,hashed _,policy,base⟩

theorem IssuedClaim.inNamespace_iff : inNamespace claim.branch = true ↔ Storable claim := by
  obtain ⟨manifest,valid,rfl,_,_⟩ := issued.read
  have local_iff : inNamespace (LocalGit.branchForRun manifest.runId (crypto.sha256 (manifestText manifest))) = true ↔
      RunIdFits manifest.runId := inNamespace_local (valid_manifest valid).1 (hashed _)
  unfold Storable claimFrom
  cases manifest.repository with
  | github owner name installationId repositoryId =>
    refine iff_of_true (inNamespace_github hashed _) fun carried => local_iff.mp ?_
    exact (congrArg inNamespace carried).symm.trans (inNamespace_github hashed _)
  | localGit name => exact local_iff.trans ⟨fun fits _ => fits,fun storable => storable rfl⟩

end

/-! ### A key stands for one claim -/

theorem nul_free (valid : isDigest digest = true) : '\x00' ∉ digest.toList := by
  intro inside
  simp only [isDigest,Bool.and_eq_true,List.all_eq_true] at valid
  exact absurd (valid.2 _ inside) (by decide)

theorem keyText_toList (digest : String) : (keyText manifest digest).toList =
    ("\x00".intercalate (keySegments manifest)).toList ++ '\x00'::digest.toList := by
  have segments : keySegments manifest ≠ [] := by
    unfold keySegments
    split <;> simp
  rw [keyText,String.intercalate_append_of_ne_nil segments (by simp),String.intercalate_singleton,String.toList_append,
    String.toList_append,List.append_assoc]
  rfl

theorem digest_of_keyText {manifest manifest' : PublicationManifestBody} {digest' : String} (valid : isDigest digest = true)
    (valid' : isDigest digest' = true) (same : keyText manifest digest = keyText manifest' digest') : digest = digest' := by
  have chars := congrArg String.toList same
  rw [keyText_toList,keyText_toList] at chars
  exact String.toList_injective (inj_of_tails (nul_free valid) (nul_free valid') chars).2

theorem IssuedClaim.eq_of_key (issued : IssuedClaim crypto texts claim) (issued' : IssuedClaim crypto texts other)
    (hashed : ∀ text, isDigest (crypto.sha256 text) = true) (separate : CollisionFree crypto.sha256 texts)
    (same : claim.key = other.key) : claim = other := by
  obtain ⟨manifest,_,rfl,inside,keyed⟩ := issued.read
  obtain ⟨manifest',_,rfl,inside',keyed'⟩ := issued'.read
  have digests := digest_of_keyText (hashed _) (hashed _) (separate _ keyed _ keyed' same)
  have bodies := (sameUpToOrder_of_text (separate _ inside _ inside' digests)).scalars
  have fields : ∀ (body : PublicationManifestBody) digest, claimFrom crypto body digest = claimFrom crypto (scalars body) digest :=
    fun _ _ => rfl
  rw [digests,fields manifest,fields manifest',bodies]

end
end AgentOS.Publication
