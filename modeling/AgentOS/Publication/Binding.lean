import AgentOS.JsonText
import AgentOS.Publication.Authorization

/-! What an authorization binds. The digest of a manifest forgets the order of its changes and of
its evidence; the digest of the evidence alone does not. -/
namespace AgentOS.Publication
open Gate Json

/-! ### Canonical forms -/

theorem EvidenceKind.text_injective {kind other : EvidenceKind} (same : kind.text = other.text) : kind = other := by
  cases kind <;> cases other <;> simp_all [EvidenceKind.text]

theorem evidence_canonical {item other : EvidenceItem} (same : item.json.canonicalize = other.json.canonicalize) : item = other := by
  obtain ⟨kind,digest⟩ := item
  obtain ⟨kind',digest'⟩ := other
  have fields := canonicalize_obj_inj same (by rfl) (by simp)
  simp only [canonicalizeFields,canonicalize,List.cons.injEq,Prod.mk.injEq,Json.str.injEq,true_and,and_true] at fields
  obtain ⟨kinds,rfl⟩ := fields
  rw [EvidenceKind.text_injective kinds]

theorem change_canonical {change other : Change} (same : change.json.canonicalize = other.json.canonicalize) : change = other := by
  cases change with
  | write operation path executable content =>
    cases other with
    | write operation' path' executable' content' =>
      have fields := canonicalize_obj_inj same (by rfl) (by simp)
      simp only [canonicalizeFields,canonicalize,List.cons.injEq,Prod.mk.injEq,Json.str.injEq,true_and,and_true] at fields
      obtain ⟨operations,rfl,modes,rfl⟩ := fields
      have sameOperation : operation = operation' := by
        cases operation <;> cases operation' <;> simp_all [WriteOperation.text]
      have sameMode : executable = executable' := by
        cases executable <;> cases executable' <;> simp_all [modeText]
      rw [sameOperation,sameMode]
    | delete path' =>
      have impossible := canonicalize_obj_length same
      simp at impossible
  | delete path =>
    cases other with
    | write operation' path' executable' content' =>
      have impossible := canonicalize_obj_length same
      simp at impossible
    | delete path' =>
      have fields := canonicalize_obj_inj same (by rfl) (by simp)
      simp only [canonicalizeFields,canonicalize,List.cons.injEq,Prod.mk.injEq,Json.str.injEq,true_and,and_true] at fields
      rw [fields]

theorem repository_canonical {repository other : PublicationRepository}
    (same : repository.json.canonicalize = other.json.canonicalize) : repository = other := by
  cases repository with
  | github owner name installationId repositoryId =>
    cases other with
    | github owner' name' installationId' repositoryId' =>
      have fields := canonicalize_obj_inj same (by rfl) (by simp)
      simp only [canonicalizeFields,canonicalize,List.cons.injEq,Prod.mk.injEq,Json.str.injEq,Json.num.injEq,true_and,
        and_true,Int.natCast_inj] at fields
      obtain ⟨rfl,rfl,rfl,rfl⟩ := fields
      rfl
    | localGit name' =>
      have impossible := canonicalize_obj_length same
      simp at impossible
  | localGit name =>
    cases other with
    | github owner' name' installationId' repositoryId' =>
      have impossible := canonicalize_obj_length same
      simp at impossible
    | localGit name' =>
      have fields := canonicalize_obj_inj same (by rfl) (by simp)
      simp only [canonicalizeFields,canonicalize,List.cons.injEq,Prod.mk.injEq,Json.str.injEq,true_and,and_true] at fields
      rw [fields]

theorem base_canonical {base other : ExpectedBase} (same : base.json.canonicalize = other.json.canonicalize) : base = other := by
  obtain ⟨branch,sha⟩ := base
  obtain ⟨branch',sha'⟩ := other
  have fields := canonicalize_obj_inj same (by rfl) (by simp)
  simp only [canonicalizeFields,canonicalize,List.cons.injEq,Prod.mk.injEq,Json.str.injEq,true_and,and_true] at fields
  rw [fields.1,fields.2]

theorem list_canonical {α : Type} {encode : α → Json} (inner : ∀ item other, (encode item).canonicalize =
    (encode other).canonicalize → item = other) {items others : List α}
    (same : (Json.arr (items.map encode)).canonicalize = (Json.arr (others.map encode)).canonicalize) : items = others := by
  simp only [canonicalize,canonicalizeItems_eq,Json.arr.injEq,List.map_map] at same
  exact List.map_injective_iff.mpr (fun item other equal => inner item other equal) same

theorem manifest_canonical {manifest other : PublicationManifestBody}
    (same : manifest.json.canonicalize = other.json.canonicalize) : manifest = other := by
  have fields := canonicalize_obj_inj same (by rfl) (by simp)
  simp only [canonicalizeFields,List.cons.injEq,Prod.mk.injEq,true_and,and_true] at fields
  obtain ⟨project,run,step,repository,base,config,policy,source,evidence,changes⟩ := fields
  simp only [canonicalize,Json.str.injEq] at project run step config policy source
  have sameEvidence := list_canonical (fun _ _ => evidence_canonical) evidence
  have sameChanges := list_canonical (fun _ _ => change_canonical) changes
  have sameRepository := repository_canonical repository
  have sameBase := base_canonical base
  cases manifest
  cases other
  simp_all

theorem binding_canonical {claims other : PublicationAuthorizationClaims}
    (same : (Json.obj claims.binding).canonicalize = (Json.obj other.binding).canonicalize) : claims.binding = other.binding := by
  have fields := canonicalize_obj_inj same (by rfl) (by simp [PublicationAuthorizationClaims.binding])
  simp only [PublicationAuthorizationClaims.binding,canonicalizeFields,List.cons.injEq,Prod.mk.injEq,true_and,and_true] at fields
  obtain ⟨audience,project,run,step,repository,base,config,policy,source,evidence,manifest⟩ := fields
  simp only [canonicalize] at audience project run step config policy source evidence manifest
  simp only [PublicationAuthorizationClaims.binding,audience,project,run,step,repository_canonical repository,
    base_canonical base,config,policy,source,evidence,manifest]

/-! ### No timestamps -/

theorem timeless_evidence (items : List EvidenceItem) : timeless (evidenceJson items) := by
  simp [evidenceJson,timeless,timelessItems_all,EvidenceItem.json,timelessFields]

theorem timeless_change (change : Change) : timeless change.json := by
  cases change <;> simp [Change.json,timeless,timelessFields]

theorem timeless_repository (repository : PublicationRepository) : timeless repository.json := by
  cases repository <;> simp [PublicationRepository.json,timeless,timelessFields]

theorem timeless_manifest (manifest : PublicationManifestBody) : timeless manifest.json := by
  simp [PublicationManifestBody.json,timeless,timelessFields,timeless_repository,timeless_evidence,ExpectedBase.json,
    timelessItems_all,timeless_change]

theorem timeless_binding (claims : PublicationAuthorizationClaims) : timeless (.obj claims.binding) := by
  simp [PublicationAuthorizationClaims.binding,timeless,timelessFields,timeless_repository,ExpectedBase.json]

/-! ### Digests -/

def CollisionFree (sha256 : String → String) (texts : List String) : Prop :=
  ∀ text ∈ texts, ∀ other ∈ texts, sha256 text = sha256 other → text = other

def manifestText (manifest : PublicationManifestBody) : String := canonicalJsonValue (canonicalManifestValue (.manifest manifest))

def evidenceText (manifest : PublicationManifestBody) : String :=
  canonicalJsonValue (canonicalManifestValue (.evidence manifest.testEvidence))

def digestedTexts (manifest other : PublicationManifestBody) : List String :=
  [manifestText manifest,manifestText other,evidenceText manifest,evidenceText other]

def scalars (manifest : PublicationManifestBody) : PublicationManifestBody := {manifest with testEvidence := [],changes := []}

structure SameUpToOrder (manifest other : PublicationManifestBody) : Prop where
  scalars : scalars manifest = scalars other
  changes : manifest.changes.Perm other.changes
  evidence : manifest.testEvidence.Perm other.testEvidence

theorem sameUpToOrder_of_text {manifest other : PublicationManifestBody} (same : manifestText manifest = manifestText other) :
    SameUpToOrder manifest other := by
  have bodies := manifest_canonical (canonicalJsonValue_injective (timeless_manifest _) (timeless_manifest _) same)
  have changes := congrArg PublicationManifestBody.changes bodies
  have evidence := congrArg PublicationManifestBody.testEvidence bodies
  refine ⟨?_,?_,?_⟩
  · have kept := congrArg scalars bodies
    simpa [scalars] using kept
  · exact (List.perm_insertionSort _ _).symm.trans ((List.Perm.of_eq changes).trans (List.perm_insertionSort _ _))
  · exact (List.perm_insertionSort _ _).symm.trans ((List.Perm.of_eq evidence).trans (List.perm_insertionSort _ _))

theorem evidence_of_text {manifest other : PublicationManifestBody} (same : evidenceText manifest = evidenceText other) :
    manifest.testEvidence = other.testEvidence :=
  list_canonical (fun _ _ => evidence_canonical)
    (canonicalJsonValue_injective (timeless_evidence _) (timeless_evidence _) same)

/-! ### What parsing accepts -/

theorem checkChanges_distinct {changes : List Change} {seen written : List String} {bytes : Nat}
    (ok : checkChanges seen written bytes changes = .ok ()) :
    (changes.map fun change => lowerCase change.path).Nodup ∧ ∀ change ∈ changes, lowerCase change.path ∉ seen := by
  induction changes generalizing seen written bytes with
  | nil => exact ⟨List.nodup_nil,by simp⟩
  | cons change changes ih =>
    obtain ⟨admitted,rest⟩ := checkChanges_cons.mp ok
    obtain ⟨distinct,apart⟩ := ih rest
    refine ⟨?_,?_⟩
    · rw [List.map_cons,List.nodup_cons]
      refine ⟨?_,distinct⟩
      intro inside
      obtain ⟨other,within,same⟩ := List.mem_map.mp inside
      exact apart other within (same ▸ List.mem_cons_self)
    · intro other inside
      rcases List.mem_cons.mp inside with rfl | within
      · exact admitted.fresh
      · exact fun inside' => apart other within (List.mem_cons_of_mem _ inside')

section
variable {crypto : Crypto}

theorem parsePublicationManifest_ok {input : PublicationInput} {parsed : ParsedPublicationManifest}
    (ok : parsePublicationManifest crypto input = .ok parsed) :
    input.manifest.valid ∧ input.authorization.valid ∧ checkChanges [] [] 0 input.manifest.changes = .ok () ∧
      parsed = {manifest := input.manifest
                manifestDigest := canonicalPublicationManifestDigest crypto.sha256 (.manifest input.manifest)
                authorization := input.authorization} := by
  unfold parsePublicationManifest at ok
  split at ok
  · cases ok
  · rename_i formed
    simp only [Bool.or_eq_true,Bool.not_eq_true',not_or,Bool.not_eq_false] at formed
    cases checked : checkChanges [] [] 0 input.manifest.changes with
    | error fault =>
      rw [checked] at ok
      cases ok
    | ok _ =>
      rw [checked] at ok
      cases ok
      exact ⟨formed.1,formed.2,rfl,rfl⟩

theorem text_of_sameUpToOrder {manifest other : PublicationManifestBody}
    (accepted : checkChanges [] [] 0 manifest.changes = .ok ()) (same : SameUpToOrder manifest other) :
    manifestText manifest = manifestText other := by
  have changes : manifest.changes.insertionSort changesByPath = other.changes.insertionSort changesByPath := by
    apply sorted_perm same.changes
    intro change inside change' inside' paths
    exact List.inj_on_of_nodup_map (checkChanges_distinct accepted).1 inside inside' paths
  have evidence : manifest.testEvidence.insertionSort evidenceByKey = other.testEvidence.insertionSort evidenceByKey := by
    apply sorted_perm same.evidence
    intro item _ item' _ keys
    obtain ⟨kind,digest⟩ := item
    obtain ⟨kind',digest'⟩ := item'
    have chars := congrArg String.toList keys
    cases kind <;> cases kind' <;>
      simp [evidenceKey,EvidenceKind.text,String.toList_append] at chars
    · rw [String.toList_injective chars]
    · rw [String.toList_injective chars]
  have bodies : ({manifest with changes := manifest.changes.insertionSort changesByPath
                                testEvidence := manifest.testEvidence.insertionSort evidenceByKey} : PublicationManifestBody) =
      {other with changes := other.changes.insertionSort changesByPath
                  testEvidence := other.testEvidence.insertionSort evidenceByKey} := by
    have kept := same.scalars
    obtain ⟨_,_,_,_,_,_,_,_,_,_⟩ := manifest
    obtain ⟨_,_,_,_,_,_,_,_,_,_⟩ := other
    simp only [scalars,PublicationManifestBody.mk.injEq] at kept
    simp_all
  rw [manifestText,manifestText,canonicalManifestValue,canonicalManifestValue,bodies]

def authorize (crypto : Crypto) (key : AttestationKey) (manifest : PublicationManifestBody) (audience : Audience)
    (nonce : String) (issuedAt expiresAt : Instant) : SignedAttestation :=
  let manifestDigest := canonicalPublicationManifestDigest crypto.sha256 (.manifest manifest)
  issue crypto "github-publication" key (authorizationSubject manifest manifestDigest)
    (expectedClaims crypto manifest manifestDigest audience nonce expiresAt) issuedAt

structure InWindow (issuedAt expiresAt now : Instant) : Prop where
  unexpired : now < expiresAt
  lasting : issuedAt < expiresAt
  short : expiresAt - issuedAt ≤ PUBLICATION_AUTHORIZATION_MAX_TTL_MS
  begun : issuedAt ≤ now + 60000

theorem verify_issue {verifier : AttestationVerifier} {key : AttestationKey} {kind subject subject' : String}
    {claims : PublicationAuthorizationClaims} {issuedAt : Instant}
    (known : verifier.keys.find? (fun candidate => candidate.keyId = key.keyId) = some key) (kinds : verifier.kind = kind)
    (signed : isDigest (issue crypto kind key subject claims issuedAt).signature) :
    verifier.verify crypto (issue crypto kind key subject claims issuedAt) subject' =
      if subject = subject' then some claims else none := by
  subst kinds
  by_cases same : subject = subject'
  · simp only [issue] at signed
    simp [AttestationVerifier.verify,issue,same,known]
    simpa [same] using signed
  · simp [AttestationVerifier.verify,issue,same]

section Authorized
variable {verifier : AttestationVerifier} {key : AttestationKey} {manifest other : PublicationManifestBody}
  {audience : Audience} {nonce : String} {issuedAt expiresAt now : Instant} {parsed : ParsedPublicationManifest}
  (known : verifier.keys.find? (fun candidate => candidate.keyId = key.keyId) = some key)
  (kind : verifier.kind = "github-publication") (window : InWindow issuedAt expiresAt now)
  (collisionFree : CollisionFree crypto.sha256 (digestedTexts manifest other))
  (accepted : checkChanges [] [] 0 manifest.changes = .ok ())
  (ok : parsePublicationManifest crypto
    {manifest := other,authorization := authorize crypto key manifest audience nonce issuedAt expiresAt} = .ok parsed)
include known kind window collisionFree accepted ok

omit collisionFree in
theorem validates_reordered (same : SameUpToOrder manifest other) (evidence : manifest.testEvidence = other.testEvidence) :
    ∃ claims, validatePublicationAuthorization crypto parsed verifier now audience = .ok claims := by
  obtain ⟨_,valid,_,rfl⟩ := parsePublicationManifest_ok ok
  simp only [SignedAttestation.valid,Bool.and_eq_true] at valid
  obtain ⟨⟨⟨_,claimsValid⟩,_⟩,signed⟩ := valid
  simp only [validatePublicationAuthorization]
  rw [authorize,verify_issue known kind signed]
  have digest : canonicalPublicationManifestDigest crypto.sha256 (.manifest manifest) =
      canonicalPublicationManifestDigest crypto.sha256 (.manifest other) :=
    congrArg crypto.sha256 (text_of_sameUpToOrder accepted same)
  have kept := same.scalars
  simp only [scalars,PublicationManifestBody.mk.injEq] at kept
  obtain ⟨project,run,step,repository,base,config,policy,source,_⟩ := kept
  have subject : authorizationSubject manifest (canonicalPublicationManifestDigest crypto.sha256 (.manifest manifest)) =
      authorizationSubject other (canonicalPublicationManifestDigest crypto.sha256 (.manifest other)) := by
    rw [authorizationSubject,authorizationSubject,digest,project,run]
  have expected : expectedClaims crypto manifest (canonicalPublicationManifestDigest crypto.sha256 (.manifest manifest))
      audience nonce expiresAt = expectedClaims crypto other
      (canonicalPublicationManifestDigest crypto.sha256 (.manifest other)) audience nonce expiresAt := by
    simp only [expectedClaims,digest,project,run,step,repository,base,config,policy,source,evidence]
  have claimsValid' : (expectedClaims crypto manifest
      (canonicalPublicationManifestDigest crypto.sha256 (.manifest manifest)) audience nonce expiresAt).valid := claimsValid
  have binding := congrArg (fun claims => canonicalJsonValue (.obj claims.binding)) expected
  refine ⟨expectedClaims crypto manifest (canonicalPublicationManifestDigest crypto.sha256 (.manifest manifest)) audience
    nonce expiresAt,?_⟩
  simp only [if_pos subject]
  rw [if_neg,if_neg,if_neg,if_neg]
  · exact not_lt.mpr window.begun
  · rw [not_or]
    exact ⟨not_le.mpr window.lasting,not_lt.mpr window.short⟩
  · exact not_le.mpr window.unexpired
  · simp only [claimsValid',Bool.not_true,Bool.false_or,decide_eq_true_eq,ne_eq,not_not]
    exact binding

theorem validate_authorized : (∃ claims, validatePublicationAuthorization crypto parsed verifier now audience = .ok claims) ↔
    SameUpToOrder manifest other ∧ manifest.testEvidence = other.testEvidence := by
  refine ⟨?_,fun both => validates_reordered known kind window accepted ok both.1 both.2⟩
  obtain ⟨_,valid,_,rfl⟩ := parsePublicationManifest_ok ok
  simp only [SignedAttestation.valid,Bool.and_eq_true] at valid
  obtain ⟨⟨⟨_,claimsValid⟩,_⟩,signed⟩ := valid
  simp only [validatePublicationAuthorization]
  rw [authorize,verify_issue known kind signed]
  rintro ⟨claims,passed⟩
  split at passed
  · cases passed
  rename_i found verified
  split at verified
  · cases verified
    split at passed
    · cases passed
    rename_i bound
    simp only [Bool.or_eq_true,not_or,Bool.not_eq_true',Bool.not_eq_false,decide_eq_true_eq,ne_eq,not_not] at bound
    have same := binding_canonical (canonicalJsonValue_injective (timeless_binding _) (timeless_binding _) bound.2)
    simp only [PublicationAuthorizationClaims.binding,expectedClaims,List.cons.injEq,Prod.mk.injEq,Json.str.injEq,true_and,
      and_true] at same
    obtain ⟨_,_,_,_,_,_,_,_,evidence,manifests⟩ := same
    have sameManifest := collisionFree (manifestText manifest) (by simp [digestedTexts]) (manifestText other)
      (by simp [digestedTexts]) manifests
    have sameEvidence := collisionFree (evidenceText manifest) (by simp [digestedTexts]) (evidenceText other)
      (by simp [digestedTexts]) evidence
    exact ⟨sameUpToOrder_of_text sameManifest,evidence_of_text sameEvidence⟩
  · cases verified

end Authorized

/-- An authorization passes for exactly the reorderings of its manifest, but for those of the evidence. -/
theorem authorization_binds_iff {verifier : AttestationVerifier} {key : AttestationKey}
    {manifest other : PublicationManifestBody} {audience : Audience} {nonce : String} {issuedAt expiresAt now : Instant}
    {first parsed : ParsedPublicationManifest}
    (known : verifier.keys.find? (fun candidate => candidate.keyId = key.keyId) = some key)
    (kind : verifier.kind = "github-publication") (window : InWindow issuedAt expiresAt now)
    (collisionFree : CollisionFree crypto.sha256 (digestedTexts manifest other))
    (signed : parsePublicationManifest crypto
      {manifest := manifest,authorization := authorize crypto key manifest audience nonce issuedAt expiresAt} = .ok first)
    (ok : parsePublicationManifest crypto
      {manifest := other,authorization := authorize crypto key manifest audience nonce issuedAt expiresAt} = .ok parsed) :
    ((∃ claims, validatePublicationAuthorization crypto parsed verifier now audience = .ok claims) ↔
      SameUpToOrder manifest other) ↔
    (SameUpToOrder manifest other → manifest.testEvidence = other.testEvidence) := by
  have accepted := (parsePublicationManifest_ok signed).2.2.1
  have passes := validate_authorized known kind window collisionFree accepted ok
  constructor
  · intro equivalent same
    exact (passes.mp (equivalent.mpr same)).2
  · intro ordered
    rw [passes]
    exact ⟨And.left,fun same => ⟨same,ordered same⟩⟩

end

/-! ### Two orders of the evidence -/

def repeated (digit : Char) : String := String.ofList (List.replicate 64 digit)

def reports (first second : Char) : PublicationManifestBody where
  projectId := "project-1"
  runId := "run-1"
  stepId := "publish"
  repository := .github "acme" "shop" 7 9
  expectedBase := {branch := "main",sha := String.ofList (List.replicate 40 'b')}
  configDigest := repeated '1'
  policyDigest := repeated '2'
  sourceSnapshotDigest := repeated '3'
  testEvidence := [{kind := .testReport,artifactDigest := repeated first},{kind := .testReport,artifactDigest := repeated second}]
  changes := [.write .add "notes.txt" false "text"]

def fixedCrypto : Crypto where
  sha256 _ := repeated '0'
  hmac _ _ := repeated '0'

/-- Digests that tell the two orders of the evidence apart, from each other and from all else. -/
def reportCrypto : Crypto where
  sha256 text :=
    if text = evidenceText (reports 'c' 'd') then repeated 'a'
    else if text = evidenceText (reports 'd' 'c') then repeated 'b'
    else repeated '0'
  hmac _ _ := repeated '0'

def reportKey : AttestationKey := {keyId := "key-1",secret := "secret"}

def reportVerifier : AttestationVerifier := {kind := "github-publication",keys := [reportKey]}

def reportAuthorization : SignedAttestation :=
  authorize reportCrypto reportKey (reports 'c' 'd') .githubPublisher "nonce-1" 1000 61000

def parsedReports (first second : Char) : ParsedPublicationManifest where
  manifest := reports first second
  manifestDigest := canonicalPublicationManifestDigest reportCrypto.sha256 (.manifest (reports first second))
  authorization := reportAuthorization

theorem reportDigest_cases (text : String) : reportCrypto.sha256 text = repeated 'a' ∨
    reportCrypto.sha256 text = repeated 'b' ∨ reportCrypto.sha256 text = repeated '0' := by
  simp only [reportCrypto]
  split
  · exact .inl rfl
  split
  · exact .inr (.inl rfl)
  · exact .inr (.inr rfl)

theorem isDigest_report (text : String) : isDigest (reportCrypto.sha256 text) = true := by
  rcases reportDigest_cases text with same | same | same <;> rw [same] <;> decide +kernel

theorem reportAuthorization_valid : reportAuthorization.valid = true := by
  have subject (text : String) : sized 1 512 (authorizationSubject (reports 'c' 'd') (reportCrypto.sha256 text)) = true := by
    rcases reportDigest_cases text with same | same | same <;> rw [same] <;> decide +kernel
  have plain : (isIdentifier "project-1" && isIdentifier "run-1" && isIdentifier "publish" &&
      (reports 'c' 'd').repository.valid && (reports 'c' 'd').expectedBase.valid && isDigest (repeated '1') &&
      isDigest (repeated '2') && isDigest (repeated '3') && isIdentifier "nonce-1" && sized 1 128 "key-1") = true := by
    decide +kernel
  have zero : isDigest (repeated '0') = true := by decide +kernel
  have claims : reportAuthorization.claims.valid = true := by
    simp only [Bool.and_eq_true] at plain
    simp only [reportAuthorization,authorize,issue,PublicationAuthorizationClaims.valid,expectedClaims,
      canonicalPublicationManifestDigest,isDigest_report,Bool.and_true,Bool.and_eq_true]
    exact plain.1
  simp only [Bool.and_eq_true] at plain
  have keyed : sized 1 128 reportAuthorization.keyId = true := plain.2
  have hashed : isDigest reportAuthorization.claimHash = true := isDigest_report _
  have signed : isDigest reportAuthorization.signature = true := zero
  have named : sized 1 512 reportAuthorization.subject = true := subject _
  have kind : reportAuthorization.kind = "github-publication" := rfl
  have version : reportAuthorization.version = 1 := rfl
  simp only [SignedAttestation.valid,claims,keyed,hashed,signed,named,kind,version,decide_true,Bool.and_self]

theorem reports_valid : (reports 'c' 'd').valid = true ∧ (reports 'd' 'c').valid = true := by decide +kernel

theorem reports_parsed {first second : Char} (valid : (reports first second).valid = true) :
    parsePublicationManifest reportCrypto {manifest := reports first second,authorization := reportAuthorization} =
      .ok (parsedReports first second) := by
  have checked : checkChanges [] [] 0 (reports first second).changes = .ok () := by
    have same : (reports first second).changes = [.write .add "notes.txt" false "text"] := rfl
    rw [same]
    decide +kernel
  simp only [parsePublicationManifest,valid,reportAuthorization_valid,Bool.not_true,Bool.or_self,checked]
  rfl

theorem reports_sameUpToOrder : SameUpToOrder (reports 'c' 'd') (reports 'd' 'c') :=
  ⟨rfl,List.Perm.refl _,List.Perm.swap _ _ _⟩

theorem reports_evidence_ne : (reports 'c' 'd').testEvidence ≠ (reports 'd' 'c').testEvidence := by decide +kernel

def reportText (digest : String) : String :=
  if digest = repeated 'a' then evidenceText (reports 'c' 'd')
  else if digest = repeated 'b' then evidenceText (reports 'd' 'c')
  else manifestText (reports 'c' 'd')

theorem reportDigest_of {text : String} (known : text = manifestText (reports 'c' 'd') ∨ text = evidenceText (reports 'c' 'd') ∨
    text = evidenceText (reports 'd' 'c')) : text = reportText (reportCrypto.sha256 text) := by
  have apart : repeated 'b' ≠ repeated 'a' ∧ repeated '0' ≠ repeated 'a' ∧ repeated '0' ≠ repeated 'b' := by decide +kernel
  have digest : reportCrypto.sha256 text = if text = evidenceText (reports 'c' 'd') then repeated 'a'
    else if text = evidenceText (reports 'd' 'c') then repeated 'b' else repeated '0' := rfl
  by_cases first : text = evidenceText (reports 'c' 'd')
  · rw [digest,if_pos first,reportText,if_pos rfl]
    exact first
  by_cases second : text = evidenceText (reports 'd' 'c')
  · rw [digest,if_neg first,if_pos second,reportText,if_neg apart.1,if_pos rfl]
    exact second
  · rw [digest,if_neg first,if_neg second,reportText,if_neg apart.2.1,if_neg apart.2.2]
    exact known.resolve_right fun either => either.elim first second

theorem reports_collisionFree {texts : List String}
    (few : ∀ text ∈ texts, text = manifestText (reports 'c' 'd') ∨ text = evidenceText (reports 'c' 'd') ∨
      text = evidenceText (reports 'd' 'c')) : CollisionFree reportCrypto.sha256 texts := by
  intro text inside other inside' same
  rw [reportDigest_of (few text inside),reportDigest_of (few other inside'),same]

/-- The reports pass in the order that was authorized. -/
theorem reports_authorized : (∃ claims, validatePublicationAuthorization reportCrypto (parsedReports 'c' 'd')
      reportVerifier 2000 .githubPublisher = .ok claims) ↔ SameUpToOrder (reports 'c' 'd') (reports 'c' 'd') := by
  have known : reportVerifier.keys.find? (fun candidate => candidate.keyId = reportKey.keyId) = some reportKey := rfl
  have window : InWindow 1000 61000 2000 := ⟨by decide,by decide,by decide,by decide⟩
  have collisionFree : CollisionFree reportCrypto.sha256 (digestedTexts (reports 'c' 'd') (reports 'c' 'd')) :=
    reports_collisionFree (by simp [digestedTexts])
  have signed := reports_parsed reports_valid.1
  exact (authorization_binds_iff known rfl window collisionFree signed signed).mpr fun _ => rfl

/-- In another order they are refused. -/
theorem reordered_reports_refused : ¬ ((∃ claims, validatePublicationAuthorization reportCrypto (parsedReports 'd' 'c')
      reportVerifier 2000 .githubPublisher = .ok claims) ↔ SameUpToOrder (reports 'c' 'd') (reports 'd' 'c')) := by
  have known : reportVerifier.keys.find? (fun candidate => candidate.keyId = reportKey.keyId) = some reportKey := rfl
  have window : InWindow 1000 61000 2000 := ⟨by decide,by decide,by decide,by decide⟩
  have sameText : manifestText (reports 'c' 'd') = manifestText (reports 'd' 'c') :=
    text_of_sameUpToOrder (by decide +kernel) reports_sameUpToOrder
  have collisionFree : CollisionFree reportCrypto.sha256 (digestedTexts (reports 'c' 'd') (reports 'd' 'c')) :=
    reports_collisionFree (by simp [digestedTexts,sameText])
  have accepted := (parsePublicationManifest_ok (reports_parsed reports_valid.1)).2.2.1
  have ok := reports_parsed reports_valid.2
  intro equivalent
  have passed := (validate_authorized known rfl window collisionFree accepted ok).mp (equivalent.mpr reports_sameUpToOrder)
  exact reports_evidence_ne passed.2

end AgentOS.Publication
