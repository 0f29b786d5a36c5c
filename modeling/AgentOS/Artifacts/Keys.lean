import AgentOS.Artifacts
import AgentOS.Library.Joined
import AgentOS.Library.Replay
import AgentOS.Stringify

/-! Artifact keys: the text under which an artifact's bytes are kept and the text that names its logical version.
A key says its own parts, and no two well-formed tuples of parts share a key. -/
namespace AgentOS.Artifacts
open Library

inductive StorageError where
  | validation (message : String)
  | adapter (code message : String) (status : Nat)
  /-- What a call of the object store throws. -/
  | object (name : String) (status : Option Nat)
  | other (message : String)
  deriving DecidableEq

abbrev Checked (α : Type) : Type := Except StorageError α

structure KeyParts extends ArtifactScope where
  artifactId : String
  version : Nat
  digest : String
  deriving DecidableEq

def segmentChar (char : Char) : Bool := char.isAlphanum || char = '.' || char = '_' || char = '-'

def isSegment (value : String) : Bool :=
  let chars := value.toList
  chars.length ≤ 128 && chars.head?.any Char.isAlphanum && chars.getLast?.any Char.isAlphanum && chars.all segmentChar &&
    decide (¬ ['.','.'] <:+: chars)

def segment (value label : String) : Checked String :=
  if isSegment value then .ok value else .error (.validation (label ++ " is not a canonical segment"))

def isVersion (value : Nat) : Bool := 1 ≤ value && value ≤ 2147483647

def positiveVersion (value : Nat) : Checked Nat :=
  if isVersion value then .ok value else .error (.validation "version must be a positive integer")

def isDigest (value : String) : Bool :=
  value.toList.length = 64 && value.toList.all fun char => char.isDigit || ('a' ≤ char && char ≤ 'f')

def sha256Digest (value : String) : Checked String :=
  if isDigest value then .ok value else .error (.validation "digest must be a SHA-256 digest")

variable (scope : ArtifactScope)

def normalizeArtifactScope : Checked ArtifactScope :=
  segment scope.projectId "projectId" >>= fun projectId =>
  segment scope.runId "runId" >>= fun runId =>
  segment scope.stepId "stepId" >>= fun stepId =>
  .ok {projectId,runId,stepId}

def artifactScopePrefix : Checked String :=
  normalizeArtifactScope scope >>= fun value =>
  .ok ("artifacts/v1/" ++ value.projectId ++ "/" ++ value.runId ++ "/" ++ value.stepId ++ "/")

def artifactLogicalKey (stepId artifactId : String) (version : Nat) : Checked String :=
  segment stepId "stepId" >>= fun stepId =>
  segment artifactId "artifactId" >>= fun artifactId =>
  positiveVersion version >>= fun version =>
  .ok ("artifact-manifest/v1/" ++ stepId ++ "/" ++ artifactId ++ "/" ++ toString version)

def buildArtifactKey (parts : KeyParts) : Checked String :=
  artifactScopePrefix parts.toArtifactScope >>= fun scope =>
  segment parts.artifactId "artifactId" >>= fun artifactId =>
  positiveVersion parts.version >>= fun version =>
  sha256Digest parts.digest >>= fun digest =>
  .ok (scope ++ artifactId ++ "/" ++ toString version ++ "/sha256/" ++ digest)

def numberOf (digits : List Char) : Nat := Nat.ofDigitChars 10 digits 0

def parseArtifactKey (key : String) : Checked KeyParts :=
  if utf16Length key > 1024 then .error (.validation "artifact key is not canonical")
  else match key.toList.splitOn '/' with
  | [artifacts,v1,projectId,runId,stepId,artifactId,version,sha256,digest] =>
    if artifacts ≠ "artifacts".toList ∨ v1 ≠ "v1".toList ∨ sha256 ≠ "sha256".toList then
      .error (.validation "artifact key has an invalid shape")
    else
      segment (String.ofList projectId) "projectId" >>= fun projectId =>
      segment (String.ofList runId) "runId" >>= fun runId =>
      segment (String.ofList stepId) "stepId" >>= fun stepId =>
      segment (String.ofList artifactId) "artifactId" >>= fun artifactId =>
      positiveVersion (numberOf version) >>= fun number =>
      sha256Digest (String.ofList digest) >>= fun digest =>
      let parsed : KeyParts := {projectId,runId,stepId,artifactId,version := number,digest}
      if (toString number).toList ≠ version then .error (.validation "artifact key is not canonical")
      else buildArtifactKey parsed >>= fun built =>
        if built ≠ key then .error (.validation "artifact key is not canonical") else .ok parsed
  | _ => .error (.validation "artifact key has an invalid shape")

def artifactKeyMatchesScope (key : String) (scope : ArtifactScope) : Checked Bool :=
  parseArtifactKey key >>= fun parsed =>
  normalizeArtifactScope scope >>= fun expected =>
  .ok (parsed.toArtifactScope = expected)

/-! ### Well-formed parts -/

structure ScopeValid (scope : ArtifactScope) : Prop where
  project : isSegment scope.projectId = true
  run : isSegment scope.runId = true
  step : isSegment scope.stepId = true

structure KeyParts.Valid (parts : KeyParts) : Prop extends ScopeValid parts.toArtifactScope where
  artifact : isSegment parts.artifactId = true
  version : isVersion parts.version = true
  digest : isDigest parts.digest = true

def KeyParts.keyText (parts : KeyParts) : String :=
  "artifacts/v1/" ++ parts.projectId ++ "/" ++ parts.runId ++ "/" ++ parts.stepId ++ "/" ++ parts.artifactId ++ "/" ++
    toString parts.version ++ "/sha256/" ++ parts.digest

def logicalText (stepId artifactId : String) (version : Nat) : String :=
  "artifact-manifest/v1/" ++ stepId ++ "/" ++ artifactId ++ "/" ++ toString version

theorem segment_ok_iff {value label found : String} : segment value label = .ok found ↔ isSegment value = true ∧ value = found := by
  unfold segment
  split <;> simp_all

theorem positiveVersion_ok_iff {value found : Nat} : positiveVersion value = .ok found ↔ isVersion value = true ∧ value = found := by
  unfold positiveVersion
  split <;> simp_all

theorem sha256Digest_ok_iff {value found : String} : sha256Digest value = .ok found ↔ isDigest value = true ∧ value = found := by
  unfold sha256Digest
  split <;> simp_all

theorem normalizeArtifactScope_ok_iff {scope found : ArtifactScope} :
    normalizeArtifactScope scope = .ok found ↔ ScopeValid scope ∧ scope = found := by
  unfold normalizeArtifactScope
  simp only [bind_ok,segment_ok_iff,Except.ok.injEq]
  constructor
  · rintro ⟨_,⟨project,rfl⟩,_,⟨run,rfl⟩,_,⟨step,rfl⟩,rfl⟩
    exact ⟨⟨project,run,step⟩,rfl⟩
  · rintro ⟨valid,rfl⟩
    exact ⟨_,⟨valid.project,rfl⟩,_,⟨valid.run,rfl⟩,_,⟨valid.step,rfl⟩,rfl⟩

theorem artifactLogicalKey_ok_iff {stepId artifactId found : String} {version : Nat} :
    artifactLogicalKey stepId artifactId version = .ok found ↔
      (isSegment stepId = true ∧ isSegment artifactId = true ∧ isVersion version = true) ∧
        logicalText stepId artifactId version = found := by
  unfold artifactLogicalKey
  simp only [bind_ok,segment_ok_iff,positiveVersion_ok_iff,Except.ok.injEq]
  constructor
  · rintro ⟨_,⟨step,rfl⟩,_,⟨artifact,rfl⟩,_,⟨version,rfl⟩,rfl⟩
    exact ⟨⟨step,artifact,version⟩,rfl⟩
  · rintro ⟨⟨step,artifact,version⟩,rfl⟩
    exact ⟨_,⟨step,rfl⟩,_,⟨artifact,rfl⟩,_,⟨version,rfl⟩,rfl⟩

variable {parts : KeyParts} {value : String}

variable {key : String} {char : Char}

theorem buildArtifactKey_ok_iff : buildArtifactKey parts = .ok key ↔ parts.Valid ∧ parts.keyText = key := by
  unfold buildArtifactKey artifactScopePrefix
  simp only [bind_ok,normalizeArtifactScope_ok_iff,segment_ok_iff,positiveVersion_ok_iff,sha256Digest_ok_iff,Except.ok.injEq]
  constructor
  · rintro ⟨_,⟨_,⟨scope,rfl⟩,rfl⟩,_,⟨artifact,rfl⟩,_,⟨version,rfl⟩,_,⟨digest,rfl⟩,rfl⟩
    exact ⟨⟨scope,artifact,version,digest⟩,rfl⟩
  · rintro ⟨valid,rfl⟩
    exact ⟨_,⟨_,⟨valid.toScopeValid,rfl⟩,rfl⟩,_,⟨valid.artifact,rfl⟩,_,⟨valid.version,rfl⟩,_,⟨valid.digest,rfl⟩,rfl⟩

/-! ### Keys say their parts -/

theorem not_mem_of_segment (valid : isSegment value = true) (other : segmentChar char = false) : char ∉ value.toList := by
  intro inside
  simp only [isSegment,Bool.and_eq_true,List.all_eq_true] at valid
  have mine := valid.1.2 char inside
  rw [other] at mine
  cases mine

theorem not_mem_of_digest (valid : isDigest value = true) : '/' ∉ value.toList := by
  intro inside
  simp only [isDigest,Bool.and_eq_true,List.all_eq_true] at valid
  have mine := valid.2 '/' inside
  revert mine
  decide

theorem not_mem_of_numeral {number : Nat} : '/' ∉ (toString number).toList := by
  intro inside
  have digit := Joined.digits_of_toString inside
  revert digit
  decide

def KeyParts.texts (parts : KeyParts) : List (List Char) :=
  ["artifacts".toList,"v1".toList,parts.projectId.toList,parts.runId.toList,parts.stepId.toList,parts.artifactId.toList,
    (toString parts.version).toList,"sha256".toList,parts.digest.toList]

theorem keyText_toList (parts : KeyParts) : parts.keyText.toList = ['/'].intercalate parts.texts := by
  have slash : ("/" : String).toList = ['/'] := by rfl
  have version : ("artifacts/v1/" : String).toList = "artifacts".toList ++ '/'::("v1".toList ++ ['/']) := by rfl
  have hash : ("/sha256/" : String).toList = '/'::("sha256".toList ++ ['/']) := by rfl
  unfold KeyParts.keyText KeyParts.texts
  simp only [String.toList_append,List.intercalate_cons_cons,List.intercalate_singleton]
  rw [slash,version,hash]
  simp only [List.append_assoc,List.cons_append,List.nil_append]

theorem KeyParts.Valid.split (valid : parts.Valid) : parts.keyText.toList.splitOn '/' = parts.texts := by
  rw [keyText_toList]
  refine List.splitOn_intercalate _ ?_ (by simp [KeyParts.texts])
  have slash : segmentChar '/' = false := by decide
  simp only [KeyParts.texts,List.mem_cons,List.not_mem_nil,or_false,forall_eq_or_imp,forall_eq]
  exact ⟨by decide,by decide,not_mem_of_segment valid.project slash,not_mem_of_segment valid.run slash,
    not_mem_of_segment valid.step slash,not_mem_of_segment valid.artifact slash,not_mem_of_numeral,by decide,
    not_mem_of_digest valid.digest⟩

theorem numberOf_toString (number : Nat) : numberOf (toString number).toList = number := by
  unfold numberOf
  have digits : (toString number).toList = Nat.toDigits 10 number := Nat.toList_repr
  rw [digits]
  exact Nat.ofDigitChars_toDigits (by omega) (by omega)

theorem utf16Length_append (left right : String) : utf16Length (left ++ right) = utf16Length left + utf16Length right := by
  simp [utf16Length]

theorem utf16Length_plain (plain : ∀ char ∈ value.toList, char.val < 65536) : utf16Length value = value.toList.length := by
  have ones : value.toList.map (fun char => if char.val < 65536 then 1 else 2) = value.toList.map fun _ => 1 :=
    List.map_congr_left fun char inside => if_pos (plain char inside)
  unfold utf16Length
  rw [ones]
  simp

theorem segmentChar_plain (valid : segmentChar char = true) : char.val < 65536 := by
  simp only [segmentChar,Char.isAlphanum,isAlpha_eq,isUpper_eq,isLower_eq,Char.isDigit,Bool.or_eq_true,Bool.and_eq_true,
    decide_eq_true_eq,UInt32.le_iff_toNat_le,ge_iff_le] at valid
  rw [UInt32.lt_iff_toNat_lt]
  rcases valid with ((((⟨_,upper⟩ | ⟨_,lower⟩) | ⟨_,digit⟩) | rfl) | rfl) | rfl
  · exact upper.trans_lt (by decide)
  · exact lower.trans_lt (by decide)
  · exact digit.trans_lt (by decide)
  · decide
  · decide
  · decide

theorem digestChar_plain (valid : (char.isDigit || ('a' ≤ char && char ≤ 'f')) = true) : segmentChar char = true := by
  simp only [segmentChar,Char.isAlphanum,isAlpha_eq,isLower_eq,Bool.or_eq_true,Bool.and_eq_true,decide_eq_true_eq] at valid ⊢
  rcases valid with digit | ⟨low,high⟩
  · exact .inl (.inl (.inl (.inr digit)))
  · have last : ('f' : Char).val ≤ ('z' : Char).val := by decide
    exact .inl (.inl (.inl (.inl (.inr ⟨low,UInt32.le_trans high last⟩))))

theorem segment_length (valid : isSegment value = true) : utf16Length value ≤ 128 := by
  simp only [isSegment,Bool.and_eq_true,List.all_eq_true,decide_eq_true_eq] at valid
  rw [utf16Length_plain fun char inside => ?_]
  · exact valid.1.1.1.1
  · exact segmentChar_plain (valid.1.2 char inside)

theorem KeyParts.Valid.length (valid : parts.Valid) : utf16Length parts.keyText ≤ 611 := by
  have project := segment_length valid.project
  have run := segment_length valid.run
  have step := segment_length valid.step
  have artifact := segment_length valid.artifact
  have version : utf16Length (toString parts.version) ≤ 10 := by
    have bound := valid.version
    simp only [isVersion,Bool.and_eq_true,decide_eq_true_eq] at bound
    rw [utf16Length_plain fun char inside => segmentChar_plain ?_]
    · exact (Nat.length_repr_le_iff (by omega)).mpr (by omega)
    · simp [segmentChar,Char.isAlphanum,Joined.digits_of_toString inside]
  have digest : utf16Length parts.digest = 64 := by
    have hex := valid.digest
    simp only [isDigest,Bool.and_eq_true,List.all_eq_true,decide_eq_true_eq] at hex
    rw [utf16Length_plain fun char inside => segmentChar_plain (digestChar_plain (hex.2 char inside))]
    exact hex.1
  have start : utf16Length "artifacts/v1/" = 13 := by decide
  have hash : utf16Length "/sha256/" = 8 := by decide
  have slash : utf16Length "/" = 1 := by decide
  unfold KeyParts.keyText
  simp only [utf16Length_append]
  omega

theorem KeyParts.Valid.short (valid : parts.Valid) : utf16Length parts.keyText ≤ 1024 := by
  have length := valid.length
  omega

theorem parseArtifactKey_ok_iff : parseArtifactKey key = .ok parts ↔ parts.Valid ∧ parts.keyText = key := by
  constructor
  · intro ok
    unfold parseArtifactKey at ok
    split at ok
    · cases ok
    split at ok
    · split at ok
      · cases ok
      obtain ⟨_,_,ok⟩ := bind_ok.mp ok
      obtain ⟨_,_,ok⟩ := bind_ok.mp ok
      obtain ⟨_,_,ok⟩ := bind_ok.mp ok
      obtain ⟨_,_,ok⟩ := bind_ok.mp ok
      obtain ⟨_,_,ok⟩ := bind_ok.mp ok
      obtain ⟨_,_,ok⟩ := bind_ok.mp ok
      dsimp only at ok
      split at ok
      · cases ok
      obtain ⟨built,buildable,ok⟩ := bind_ok.mp ok
      split at ok
      · cases ok
      · rename_i same
        cases ok
        rw [not_not] at same
        exact buildArtifactKey_ok_iff.mp (same ▸ buildable)
    · cases ok
  · rintro ⟨valid,rfl⟩
    unfold parseArtifactKey
    rw [if_neg (by have short := valid.short; omega),valid.split]
    simp only [KeyParts.texts,ne_eq,not_true,or_self,if_false,String.ofList_toList,numberOf_toString]
    refine bind_ok.mpr ⟨_,segment_ok_iff.mpr ⟨valid.project,rfl⟩,bind_ok.mpr ⟨_,segment_ok_iff.mpr ⟨valid.run,rfl⟩,?_⟩⟩
    refine bind_ok.mpr ⟨_,segment_ok_iff.mpr ⟨valid.step,rfl⟩,bind_ok.mpr ⟨_,segment_ok_iff.mpr ⟨valid.artifact,rfl⟩,?_⟩⟩
    refine bind_ok.mpr ⟨_,positiveVersion_ok_iff.mpr ⟨valid.version,rfl⟩,?_⟩
    refine bind_ok.mpr ⟨_,sha256Digest_ok_iff.mpr ⟨valid.digest,rfl⟩,?_⟩
    rw [if_neg (not_not.mpr rfl)]
    exact bind_ok.mpr ⟨_,buildArtifactKey_ok_iff.mpr ⟨valid,rfl⟩,if_neg (not_not.mpr rfl)⟩

theorem keyText_injective {parts other : KeyParts} (valid : parts.Valid) (valid' : other.Valid)
    (same : parts.keyText = other.keyText) : parts = other := by
  have first := parseArtifactKey_ok_iff.mpr ⟨valid,rfl⟩
  rw [same,parseArtifactKey_ok_iff.mpr ⟨valid',rfl⟩] at first
  exact (Except.ok.inj first).symm

theorem logicalText_toList (stepId artifactId : String) (version : Nat) : (logicalText stepId artifactId version).toList =
      "artifact-manifest/v1/".toList ++ (stepId.toList ++ '/'::(artifactId.toList ++ '/'::(toString version).toList)) := by
  have slash : ("/" : String).toList = ['/'] := by rfl
  unfold logicalText
  simp only [String.toList_append]
  rw [slash]
  simp only [List.append_assoc,List.cons_append,List.nil_append]

theorem logicalText_injective {stepId artifactId stepId' artifactId' : String} {version version' : Nat}
    (step : isSegment stepId = true) (artifact : isSegment artifactId = true) (step' : isSegment stepId' = true)
    (artifact' : isSegment artifactId' = true)
    (same : logicalText stepId artifactId version = logicalText stepId' artifactId' version') :
    stepId = stepId' ∧ artifactId = artifactId' ∧ version = version' := by
  have characters := congrArg String.toList same
  rw [logicalText_toList,logicalText_toList] at characters
  have slash : segmentChar '/' = false := by decide
  have afterPrefix := List.append_cancel_left characters
  obtain ⟨sameStep,afterStep⟩ :=
    Joined.inj_of_heads (not_mem_of_segment step slash) (not_mem_of_segment step' slash) afterPrefix
  obtain ⟨sameArtifact,numerals⟩ :=
    Joined.inj_of_heads (not_mem_of_segment artifact slash) (not_mem_of_segment artifact' slash) afterStep
  exact ⟨String.toList_injective sameStep,String.toList_injective sameArtifact,Joined.numeral_injective numerals⟩

theorem artifactKeyMatchesScope_ok_iff {scope : ArtifactScope} {matches_ : Bool} :
    artifactKeyMatchesScope key scope = .ok matches_ ↔ ∃ parts : KeyParts, parts.Valid ∧ parts.keyText = key ∧
      ScopeValid scope ∧ matches_ = decide (parts.toArtifactScope = scope) := by
  unfold artifactKeyMatchesScope
  simp only [bind_ok,parseArtifactKey_ok_iff,normalizeArtifactScope_ok_iff,Except.ok.injEq]
  constructor
  · rintro ⟨parts,⟨valid,rfl⟩,_,⟨held,rfl⟩,same⟩
    exact ⟨parts,valid,rfl,held,same.symm⟩
  · rintro ⟨parts,valid,rfl,held,same⟩
    exact ⟨parts,⟨valid,rfl⟩,_,⟨held,rfl⟩,same.symm⟩

/-! ### Keys of different scopes -/

def scopeText : String :=
  "artifacts/v1/" ++ scope.projectId ++ "/" ++ scope.runId ++ "/" ++ scope.stepId ++ "/"

theorem artifactScopePrefix_ok_iff {scope : ArtifactScope} {start : String} :
    artifactScopePrefix scope = .ok start ↔ ScopeValid scope ∧ scopeText scope = start := by
  unfold artifactScopePrefix
  simp only [bind_ok,normalizeArtifactScope_ok_iff,Except.ok.injEq]
  constructor
  · rintro ⟨_,⟨valid,rfl⟩,rfl⟩
    exact ⟨valid,rfl⟩
  · rintro ⟨valid,rfl⟩
    exact ⟨_,⟨valid,rfl⟩,rfl⟩

theorem scopeText_toList : (scopeText scope).toList =
    "artifacts/v1/".toList ++ (scope.projectId.toList ++ '/'::(scope.runId.toList ++ '/'::(scope.stepId.toList ++ ['/']))) := by
  have slash : ("/" : String).toList = ['/'] := by rfl
  unfold scopeText
  simp only [String.toList_append]
  rw [slash]
  simp only [List.append_assoc,List.cons_append,List.nil_append]

theorem keyText_scoped (parts : KeyParts) : ∃ rest : List Char, parts.keyText.toList = "artifacts/v1/".toList ++
    (parts.projectId.toList ++ '/'::(parts.runId.toList ++ '/'::(parts.stepId.toList ++ '/'::rest))) := by
  have slash : ("/" : String).toList = ['/'] := by rfl
  refine ⟨parts.artifactId.toList ++ ("/" ++ toString parts.version ++ "/sha256/" ++ parts.digest).toList,?_⟩
  unfold KeyParts.keyText
  simp only [String.toList_append]
  rw [slash]
  simp only [List.append_assoc,List.cons_append,List.nil_append]

theorem scope_of_start {scope : ArtifactScope} (valid : ScopeValid scope) (valid' : parts.Valid)
    (starts : (scopeText scope).toList <+: parts.keyText.toList) : parts.toArtifactScope = scope := by
  have slash : segmentChar '/' = false := by decide
  obtain ⟨rest,key⟩ := keyText_scoped parts
  obtain ⟨left,same⟩ := starts
  rw [key,scopeText_toList] at same
  simp only [List.append_assoc,List.cons_append] at same
  have named := List.append_cancel_left same
  obtain ⟨project,runs⟩ :=
    Joined.inj_of_heads (not_mem_of_segment valid.project slash) (not_mem_of_segment valid'.project slash) named
  obtain ⟨run,steps⟩ :=
    Joined.inj_of_heads (not_mem_of_segment valid.run slash) (not_mem_of_segment valid'.run slash) runs
  obtain ⟨step,_⟩ :=
    Joined.inj_of_heads (not_mem_of_segment valid.step slash) (not_mem_of_segment valid'.step slash) steps
  have projects := String.toList_injective project
  have runIds := String.toList_injective run
  have stepIds := String.toList_injective step
  cases scope
  simp_all

/-- Building and reading keys are inverse to each other, and the keys of a scope are apart from every other scope. -/
theorem keys_say_their_parts : (∀ parts key, buildArtifactKey parts = .ok key → parseArtifactKey key = .ok parts) ∧
    (∀ key parts, parseArtifactKey key = .ok parts → buildArtifactKey parts = .ok key) ∧
    (∀ parts other key, buildArtifactKey parts = .ok key → buildArtifactKey other = .ok key → parts = other) ∧
    ∀ scope start parts key, artifactScopePrefix scope = .ok start → buildArtifactKey parts = .ok key →
      parts.toArtifactScope ≠ scope → ¬ start.toList <+: key.toList := by
  refine ⟨fun parts key built => ?_,fun key parts read => ?_,fun parts other key built built' => ?_,?_⟩
  · exact parseArtifactKey_ok_iff.mpr (buildArtifactKey_ok_iff.mp built)
  · exact buildArtifactKey_ok_iff.mpr (parseArtifactKey_ok_iff.mp read)
  · obtain ⟨valid,rfl⟩ := buildArtifactKey_ok_iff.mp built
    obtain ⟨valid',same⟩ := buildArtifactKey_ok_iff.mp built'
    exact keyText_injective valid valid' same.symm
  · intro scope start parts key prefixed built apart starts
    obtain ⟨valid,rfl⟩ := artifactScopePrefix_ok_iff.mp prefixed
    obtain ⟨valid',rfl⟩ := buildArtifactKey_ok_iff.mp built
    exact apart (scope_of_start valid valid' starts)

end AgentOS.Artifacts
