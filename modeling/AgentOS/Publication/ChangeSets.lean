import AgentOS.Publication.Binding
import Mathlib.Data.List.Pairwise

/-! Whether a manifest is accepted depends on the set of its changes: the loop over them checks each beside those before
it, and together these checks say the same of the changes in any order. -/
namespace AgentOS.Publication
open Gate

def foldedPath (change : Change) : String := lowerCase change.path

def writtenPath : Change → Option String
  | .write _ path _ _ => some (lowerCase path)
  | .delete _ => none

def contentBytes : Change → Nat
  | .write _ _ _ content => byteLength content
  | .delete _ => 0

structure FitChange (change : Change) : Prop where
  path : normalizeRepositoryPath change.path = .ok change.path
  text : ∀ operation path executable content, change = .write operation path executable content →
    assertWellFormedText content path = .ok ()
  size : contentBytes change ≤ PUBLICATION_MAX_FILE_BYTES

structure AcceptedChanges (changes : List Change) : Prop where
  fit : ∀ change ∈ changes, FitChange change
  distinct : (changes.map foldedPath).Nodup
  shapes : (changes.filterMap writtenPath).Pairwise fun left right => shapeCollision left right = false
  total : (changes.map contentBytes).sum ≤ PUBLICATION_MAX_TOTAL_BYTES

structure AcceptedAfter (seen written : List String) (bytes : Nat) (changes : List Change) : Prop where
  fit : ∀ change ∈ changes, FitChange change
  distinct : (changes.map foldedPath).Nodup
  fresh : ∀ change ∈ changes, foldedPath change ∉ seen
  shapes : (changes.filterMap writtenPath).Pairwise fun left right => shapeCollision left right = false
  clear : ∀ path ∈ changes.filterMap writtenPath, ∀ before ∈ written, shapeCollision path before = false
  total : bytes + (changes.map contentBytes).sum ≤ PUBLICATION_MAX_TOTAL_BYTES

theorem shapeCollision_symm (left right : String) : shapeCollision left right = shapeCollision right left := Bool.or_comm _ _

variable {seen written : List String} {input : PublicationInput} {bytes : Nat}

theorem checkWrite_ok_iff {written : List String} {path content : String} : checkWrite written bytes path content = .ok () ↔
      (∀ before ∈ written, shapeCollision (lowerCase path) before = false) ∧ assertWellFormedText content path = .ok () ∧
        byteLength content ≤ PUBLICATION_MAX_FILE_BYTES ∧ bytes + byteLength content ≤ PUBLICATION_MAX_TOTAL_BYTES := by
  have free : ¬ written.any (shapeCollision (lowerCase path)) = true ↔
      ∀ before ∈ written, shapeCollision (lowerCase path) before = false := by simp
  unfold checkWrite
  rw [← free]
  split
  · simp_all
  · cases assertWellFormedText content path with
    | error fault => simp
    | ok _ =>
      dsimp only
      split
      · simp_all
      · split <;> simp_all

variable {changes : List Change}

theorem acceptedAfter_cons {change : Change} : AcceptedAfter seen written bytes (change::changes) ↔
      (FitChange change ∧ foldedPath change ∉ seen ∧ ∀ path ∈ writtenPath change, ∀ before ∈ written,
        shapeCollision path before = false) ∧
      AcceptedAfter (foldedPath change::seen) (writtenBy change written) (bytes + contentBytes change) changes := by
  have writes : writtenBy change written = (writtenPath change).toList ++ written := by cases change <;> rfl
  have paths : (change::changes).filterMap writtenPath = (writtenPath change).toList ++ changes.filterMap writtenPath := by
    cases change <;> rfl
  constructor
  · rintro ⟨fit,distinct,fresh,shapes,clear,total⟩
    rw [List.map_cons,List.nodup_cons] at distinct
    rw [paths,List.pairwise_append] at shapes
    rw [paths] at clear
    refine ⟨⟨fit _ List.mem_cons_self,fresh _ List.mem_cons_self,fun path mine => clear path ?_⟩,?_⟩
    · exact List.mem_append_left _ (Option.mem_toList.mpr mine)
    refine ⟨fun other inside => fit other (List.mem_cons_of_mem _ inside),distinct.2,fun other inside known => ?_,
      shapes.2.1,fun path inside before held => ?_,?_⟩
    · rcases List.mem_cons.mp known with same | known
      · exact distinct.1 (same ▸ List.mem_map_of_mem inside)
      · exact fresh other (List.mem_cons_of_mem _ inside) known
    · rw [writes] at held
      rcases List.mem_append.mp held with mine | held
      · rw [shapeCollision_symm]
        exact shapes.2.2 before mine path inside
      · exact clear path (List.mem_append_right _ inside) before held
    · rw [List.map_cons,List.sum_cons] at total
      omega
  · rintro ⟨⟨mine,unseen,apart⟩,⟨fit,distinct,fresh,shapes,clear,total⟩⟩
    rw [writes] at clear
    refine ⟨List.forall_mem_cons.mpr ⟨mine,fit⟩,?_,?_,?_,?_,?_⟩
    · rw [List.map_cons,List.nodup_cons]
      refine ⟨fun inside => ?_,distinct⟩
      obtain ⟨other,within,same⟩ := List.mem_map.mp inside
      exact fresh other within (same ▸ List.mem_cons_self)
    · exact List.forall_mem_cons.mpr ⟨unseen,fun other inside known => fresh other inside (List.mem_cons_of_mem _ known)⟩
    · rw [paths,List.pairwise_append]
      refine ⟨?_,shapes,fun path first other inside => ?_⟩
      · cases writtenPath change <;> simp
      · rw [shapeCollision_symm]
        exact clear other inside path (List.mem_append_left _ first)
    · rw [paths]
      intro path inside before held
      rcases List.mem_append.mp inside with first | inside
      · exact apart path (Option.mem_toList.mp first) before held
      · exact clear path inside before (List.mem_append_right _ held)
    · rw [List.map_cons,List.sum_cons]
      omega

theorem bytesBy_eq (change : Change) (bytes : Nat) : bytesBy change bytes = bytes + contentBytes change := by
  cases change <;> rfl

theorem admitted_iff {change : Change} (within : bytes ≤ PUBLICATION_MAX_TOTAL_BYTES) : Admitted seen written bytes change ↔
      (FitChange change ∧ foldedPath change ∉ seen ∧ ∀ path ∈ writtenPath change, ∀ before ∈ written,
        shapeCollision path before = false) ∧ bytes + contentBytes change ≤ PUBLICATION_MAX_TOTAL_BYTES := by
  cases change with
  | delete path =>
    constructor
    · rintro ⟨normal,fresh,_⟩
      exact ⟨⟨⟨normal,by simp,Nat.zero_le _⟩,fresh,by simp [writtenPath]⟩,within⟩
    · rintro ⟨⟨fit,fresh,_⟩,_⟩
      exact ⟨fit.path,fresh,by simp⟩
  | write operation path executable content =>
    constructor
    · rintro ⟨normal,fresh,write⟩
      obtain ⟨clear,text,size,total⟩ := checkWrite_ok_iff.mp (write _ _ _ _ rfl)
      refine ⟨⟨⟨normal,?_,size⟩,fresh,?_⟩,total⟩
      · intro operation' path' executable' content' same
        cases same
        exact text
      · intro found same
        cases same
        exact clear
    · rintro ⟨⟨fit,fresh,clear⟩,total⟩
      refine ⟨fit.path,fresh,?_⟩
      intro operation' path' executable' content' same
      cases same
      exact checkWrite_ok_iff.mpr ⟨clear _ rfl,fit.text _ _ _ _ rfl,fit.size,total⟩

theorem checkChanges_after_iff (within : bytes ≤ PUBLICATION_MAX_TOTAL_BYTES) :
    checkChanges seen written bytes changes = .ok () ↔ AcceptedAfter seen written bytes changes := by
  induction changes generalizing seen written bytes with
  | nil =>
    have total : bytes + (List.map contentBytes []).sum ≤ PUBLICATION_MAX_TOTAL_BYTES := within
    have accepted : AcceptedAfter seen written bytes [] := ⟨by simp,by simp,by simp,by simp,by simp,total⟩
    exact iff_of_true rfl accepted
  | cons change changes ih =>
    rw [checkChanges_cons,admitted_iff within,bytesBy_eq,acceptedAfter_cons]
    constructor
    · rintro ⟨⟨mine,total⟩,rest⟩
      exact ⟨mine,(ih total).mp rest⟩
    · rintro ⟨mine,rest⟩
      have total : bytes + contentBytes change ≤ PUBLICATION_MAX_TOTAL_BYTES := by
        have all := rest.total
        omega
      exact ⟨⟨mine,total⟩,(ih total).mpr rest⟩

theorem checkChanges_ok_iff : checkChanges [] [] 0 changes = .ok () ↔ AcceptedChanges changes := by
  rw [checkChanges_after_iff (Nat.zero_le _)]
  constructor
  · rintro ⟨fit,distinct,_,shapes,_,total⟩
    exact ⟨fit,distinct,shapes,by omega⟩
  · rintro ⟨fit,distinct,shapes,total⟩
    exact ⟨fit,distinct,by simp,shapes,by simp,by omega⟩

/-! ### Any order -/

theorem AcceptedChanges.perm {changes other : List Change} (accepted : AcceptedChanges changes) (same : changes.Perm other) :
    AcceptedChanges other where
  fit := fun change inside => accepted.fit change (same.mem_iff.mpr inside)
  distinct := (same.map _).nodup_iff.mp accepted.distinct
  shapes := by
    refine (List.Perm.pairwise_iff (fun {left right} apart => ?_) (same.filterMap _)).mp accepted.shapes
    rw [shapeCollision_symm]
    exact apart
  total := by
    rw [← (same.map _).sum_nat]
    exact accepted.total

section
variable (accepted : AcceptedChanges changes)
include accepted

theorem AcceptedChanges.paths : changes.Pairwise fun left right => lowerCase left.path ≠ lowerCase right.path :=
  List.pairwise_map.mp accepted.distinct

theorem AcceptedChanges.tree :
    ∀ path ∈ changes.filterMap writtenPath, ∀ other ∈ changes.filterMap writtenPath, ¬ (path ++ "/").toList <+: other.toList := by
  intro path inside other inside' under
  by_cases same : path = other
  · subst same
    have long := under.length_le
    have slash : ("/" : String).toList.length = 1 := by decide
    rw [String.toList_append,List.length_append,slash] at long
    omega
  · have symmetric : Std.Symm fun left right => shapeCollision left right = false :=
      ⟨fun left right apart => (shapeCollision_symm right left).trans apart⟩
    have apart : shapeCollision path other = false := accepted.shapes.forall inside inside' same
    simp only [shapeCollision,startsWith,Bool.or_eq_false_iff,List.isPrefixOf_iff_prefix.mpr under] at apart
    exact absurd apart.2 (by decide)

theorem AcceptedChanges.files : ∀ change ∈ changes, contentBytes change ≤ PUBLICATION_MAX_FILE_BYTES :=
  fun change inside => (accepted.fit change inside).size

end

theorem parsePublicationManifest_iff {crypto : Crypto} {digest : String} :
    (∃ parsed, parsePublicationManifest crypto input = .ok parsed ∧ parsed.manifestDigest = digest) ↔
      (input.manifest.valid ∧ input.authorization.valid) ∧ AcceptedChanges input.manifest.changes ∧
        canonicalPublicationManifestDigest crypto.sha256 (.manifest input.manifest) = digest := by
  rw [← checkChanges_ok_iff]
  constructor
  · rintro ⟨parsed,ok,rfl⟩
    obtain ⟨valid,valid',accepted,rfl⟩ := parsePublicationManifest_ok ok
    exact ⟨⟨valid,valid'⟩,accepted,rfl⟩
  · rintro ⟨⟨valid,valid'⟩,accepted,rfl⟩
    refine ⟨{manifest := input.manifest
             manifestDigest := canonicalPublicationManifestDigest crypto.sha256 (.manifest input.manifest)
             authorization := input.authorization},?_,rfl⟩
    unfold parsePublicationManifest
    rw [accepted,valid,valid']
    rfl

def PublicationInput.withChanges (input : PublicationInput) (changes : List Change) : PublicationInput :=
  {input with manifest := {input.manifest with changes}}

theorem valid_withChanges (same : input.manifest.changes.Perm changes) :
    (input.withChanges changes).manifest.valid = input.manifest.valid := by
  have lengths := same.length_eq
  have paths : changes.all (fun change => sized 1 1024 change.path) =
      input.manifest.changes.all fun change => sized 1 1024 change.path := by
    rw [Bool.eq_iff_iff,List.all_eq_true,List.all_eq_true]
    simp only [same.mem_iff]
  rw [Bool.eq_iff_iff]
  simp only [PublicationManifestBody.valid,Bool.and_eq_true,decide_eq_true_eq]
  simp only [PublicationInput.withChanges,← lengths,paths]

theorem digest_withChanges {crypto : Crypto}
    (accepted : AcceptedChanges input.manifest.changes) (same : input.manifest.changes.Perm changes) :
    canonicalPublicationManifestDigest crypto.sha256 (.manifest (input.withChanges changes).manifest) =
      canonicalPublicationManifestDigest crypto.sha256 (.manifest input.manifest) := by
  have reordered : SameUpToOrder input.manifest (input.withChanges changes).manifest := ⟨rfl,same,List.Perm.refl _⟩
  exact congrArg crypto.sha256 (text_of_sameUpToOrder (checkChanges_ok_iff.mpr accepted) reordered).symm

/-- Whether and under which digest a manifest is accepted depends on the set of its changes. What is accepted changes no
path twice, writes a tree of files and stays in the limits. -/
theorem manifests_accepted_as_sets (crypto : Crypto) : (∀ input changes digest, input.manifest.changes.Perm changes →
      ((∃ parsed, parsePublicationManifest crypto input = .ok parsed ∧ parsed.manifestDigest = digest) ↔
        ∃ parsed, parsePublicationManifest crypto (input.withChanges changes) = .ok parsed ∧ parsed.manifestDigest = digest)) ∧
    ∀ input parsed, parsePublicationManifest crypto input = .ok parsed →
      (parsed.manifest.changes.Pairwise fun left right => lowerCase left.path ≠ lowerCase right.path) ∧
      (∀ path ∈ parsed.manifest.changes.filterMap writtenPath, ∀ other ∈ parsed.manifest.changes.filterMap writtenPath,
        ¬ (path ++ "/").toList <+: other.toList) ∧
      (∀ change ∈ parsed.manifest.changes, contentBytes change ≤ PUBLICATION_MAX_FILE_BYTES) ∧
      (parsed.manifest.changes.map contentBytes).sum ≤ PUBLICATION_MAX_TOTAL_BYTES := by
  constructor
  · intro input changes digest same
    rw [parsePublicationManifest_iff,parsePublicationManifest_iff,valid_withChanges same]
    refine and_congr_right fun _ => ?_
    constructor
    · rintro ⟨accepted,rfl⟩
      exact ⟨accepted.perm same,digest_withChanges accepted same⟩
    · rintro ⟨accepted,rfl⟩
      have accepted' := accepted.perm same.symm
      exact ⟨accepted',(digest_withChanges accepted' same).symm⟩
  · intro input parsed ok
    obtain ⟨_,_,checked,rfl⟩ := parsePublicationManifest_ok ok
    have accepted := checkChanges_ok_iff.mp checked
    exact ⟨accepted.paths,accepted.tree,accepted.files,accepted.total⟩

end AgentOS.Publication
