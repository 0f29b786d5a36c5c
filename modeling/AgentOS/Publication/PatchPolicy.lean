import AgentOS.Publication.Globs
import Mathlib.Logic.Relation

/-! Patch policies: whether a list of changes, each with metadata that somebody vouches for, may be applied. Paths are
compared with the protected patterns once no percent escape is left in them. -/
namespace AgentOS.Publication.Patches
open Gate

/-! ### Percent escapes -/

def hexValue (char : Char) : Option Nat :=
  if char.isDigit then some (char.toNat - 48)
  else if 'a' ≤ char ∧ char ≤ 'f' then some (char.toNat - 87)
  else if 'A' ≤ char ∧ char ≤ 'F' then some (char.toNat - 55)
  else none

/-- The byte that an escape at the start of a text stands for, and the text after it. -/
def octet : List Char → Option (Nat × List Char)
  | '%'::high::low::rest =>
    match hexValue high,hexValue low with
    | some high,some low => some (16 * high + low,rest)
    | _,_ => none
  | _ => none

def continued : Nat → Nat → List Char → Option (Nat × List Char)
  | 0,value,rest => some (value,rest)
  | count + 1,value,chars =>
    match octet chars with
    | none => none
    | some (byte,rest) => if 128 ≤ byte ∧ byte < 192 then continued count (64 * value + (byte - 128)) rest else none

/-- How many bytes follow the first of a sequence, the bits that it carries, and the least number so encoded. -/
def leadingByte (byte : Nat) : Option (Nat × Nat × Nat) :=
  if byte < 128 then some (0,byte,0)
  else if 192 ≤ byte ∧ byte < 224 then some (1,byte - 192,128)
  else if 224 ≤ byte ∧ byte < 240 then some (2,byte - 224,2048)
  else if 240 ≤ byte ∧ byte < 248 then some (3,byte - 240,65536)
  else none

/-- The character that the escapes at the start of a text stand for: one well-formed sequence of UTF-8. -/
def escaped (chars : List Char) : Option (Char × List Char) :=
  match octet chars with
  | none => none
  | some (byte,rest) =>
    match leadingByte byte with
    | none => none
    | some (count,bits,least) =>
      match continued count bits rest with
      | none => none
      | some (value,rest) => if least ≤ value ∧ value.isValidChar then some (Char.ofNat value,rest) else none

def decodeChars : Nat → List Char → Option (List Char)
  | _,[] => some []
  | 0,_::_ => none
  | fuel + 1,char::chars =>
    if char = '%' then
      match escaped (char::chars) with
      | none => none
      | some (decoded,rest) => (decodeChars fuel rest).map (decoded::·)
    else (decodeChars fuel chars).map (char::·)

/-- JavaScript's own function; none is its `URIError`. -/
def decodeURIComponent (text : String) : Option String := (decodeChars text.length text.toList).map String.ofList

def decodePasses : Nat → String → Option String
  | 0,_ => none
  | passes + 1,normalized =>
    match decodeURIComponent normalized with
    | none => none
    | some decoded => if decoded = normalized then some normalized else decodePasses passes decoded

def normalizeChangePath (path : String) : Option String :=
  match decodePasses 16 path with
  | none => none
  | some normalized =>
    if normalized = "" ∨ normalized.toList.contains '\x00' ∨ normalized.toList.contains '\\' ∨ startsWith "/" normalized then none
    else if (parts normalized).any (fun part => part = [] || part = ['.'] || part = ['.','.']) then none
    else some normalized

/-! ### The policy -/

inductive ChangeOperation where
  | add
  | modify
  | delete
  deriving DecidableEq

def ChangeOperation.text : ChangeOperation → String
  | .add => "add"
  | .modify => "modify"
  | .delete => "delete"

structure NormalizedChangeClaims where
  path : String
  operation : ChangeOperation
  sizeBytes : Int
  binary : Bool
  symlink : Bool
  deriving DecidableEq

structure NormalizedChange (Attestation : Type) extends NormalizedChangeClaims where
  metadataAttestation : Attestation

structure ChangeManifest (Attestation : Type) where
  baseSha : String
  changes : List (NormalizedChange Attestation)

structure PatchPolicy where
  currentBaseSha : String
  protectedPaths : Option (List String) := none
  maxFileBytes : Option Int := none
  allowBinary : Option Bool := none
  allowSymlinks : Option Bool := none

inductive PatchViolationCode where
  | staleBase
  | protectedPath
  | symlink
  | binary
  | oversized
  | malformedPath
  | untrustedMetadata
  deriving DecidableEq

structure PatchViolation where
  code : PatchViolationCode
  message : String
  path : Option String := none
  deriving DecidableEq

structure PatchPolicyResult where
  allowed : Bool
  violations : List PatchViolation
  deriving DecidableEq

namespace PatchPolicy

def patterns (policy : PatchPolicy) : List String := policy.protectedPaths.getD DEFAULT_PROTECTED_PATHS

def limit (policy : PatchPolicy) : Int := policy.maxFileBytes.getD 1000000

end PatchPolicy

section
variable {Attestation : Type} (sameLetter : Char → Char → Bool) (verify : Attestation → String → Option NormalizedChangeClaims)

def trusted (change : NormalizedChange Attestation) (path : String) : Bool :=
  match verify change.metadataAttestation (change.operation.text ++ ":" ++ path) with
  | none => false
  | some claims => claims = change.toNormalizedChangeClaims && isSafeInteger change.sizeBytes && 0 ≤ change.sizeBytes

def reported (code : PatchViolationCode) (message : String) (path : String) : PatchViolation := {code,message,path := some path}

def changeViolations (policy : PatchPolicy) (change : NormalizedChange Attestation) : List PatchViolation :=
  match normalizeChangePath change.path with
  | none => [reported .malformedPath ("Malformed repository path: " ++ change.path) change.path]
  | some path =>
    if !trusted verify change path then
      [reported .untrustedMetadata ("Trusted binary, symlink, and size metadata is required: " ++ change.path) change.path]
    else
      (if policy.patterns.any fun pattern => (globPatternToRegex sameLetter unbroken pattern).test path.toList then
        [reported .protectedPath ("Protected path cannot be changed: " ++ change.path) change.path] else []) ++
      (if change.symlink && policy.allowSymlinks ≠ some true then
        [reported .symlink ("Symlink changes are not allowed: " ++ change.path) change.path] else []) ++
      (if change.binary && policy.allowBinary ≠ some true then
        [reported .binary ("Binary changes are not allowed: " ++ change.path) change.path] else []) ++
      (if change.sizeBytes > policy.limit then
        [reported .oversized ("File exceeds the " ++ toString policy.limit ++ " byte limit: " ++ change.path) change.path] else [])

section
variable (manifest : ChangeManifest Attestation) (policy : PatchPolicy)

def evaluatePatchPolicy : Except String PatchPolicyResult :=
  if !isSafeInteger policy.limit || policy.limit ≤ 0 then
    .error "Maximum file byte limit must be a positive safe integer"
  else
    let stale : List PatchViolation := if manifest.baseSha ≠ policy.currentBaseSha then
      [{code := .staleBase,message := "Patch base SHA does not match the current base SHA"}] else []
    let violations := stale ++ manifest.changes.flatMap (changeViolations sameLetter verify policy)
    .ok {allowed := violations.isEmpty,violations}

def Allows : Prop :=
  ∃ result, evaluatePatchPolicy sameLetter verify manifest policy = .ok result ∧ result.allowed = true

end

end

/-! ### Decoding -/

/-- Decoding one path again and again comes to another that decodes to itself. -/
def DecodesTo (path final : String) : Prop :=
  Relation.ReflTransGen (fun before after => decodeURIComponent before = some after) path final ∧
    decodeURIComponent final = some final

theorem DecodesTo.step {path next final : String} (decodes : DecodesTo path final) (decoded : decodeURIComponent path = some next) :
    DecodesTo next final := by
  refine ⟨?_,decodes.2⟩
  rcases decodes.1.cases_head with same | ⟨other,first,rest⟩
  · subst same
    have stays := decodes.2
    rw [decoded] at stays
    rw [Option.some.inj stays]
  · rw [decoded] at first
    rw [Option.some.inj first]
    exact rest

theorem DecodesTo.stays {path final : String} (decodes : DecodesTo path final) (fixed : decodeURIComponent path = some path) :
    final = path := by
  have along := decodes.1
  clear decodes
  induction along with
  | refl => rfl
  | tail _ next same =>
    rw [same,fixed] at next
    exact (Option.some.inj next).symm

variable {path found final : String}

theorem decodePasses_iff {passes : Nat} (ok : decodePasses passes path = some found) : DecodesTo path final ↔ final = found := by
  induction passes generalizing path with
  | zero => cases ok
  | succ passes ih =>
    rw [decodePasses] at ok
    split at ok
    · cases ok
    · rename_i decoded step
      split at ok
      · rename_i same
        cases ok
        subst same
        constructor
        · exact fun decodes => decodes.stays step
        · rintro rfl
          exact ⟨.refl,step⟩
      · rw [← ih ok]
        constructor
        · exact fun decodes => decodes.step step
        · exact fun decodes => ⟨.head step decodes.1,decodes.2⟩

theorem normalizeChangePath_iff (ok : normalizeChangePath path = some found) : DecodesTo path final ↔ final = found := by
  unfold normalizeChangePath at ok
  split at ok
  · cases ok
  · rename_i normalized passes
    split at ok
    · cases ok
    · split at ok
      · cases ok
      · cases ok
        exact decodePasses_iff passes

/-! ### What a policy is for -/

section
variable {Attestation : Type} {sameLetter : Char → Char → Bool} {verify : Attestation → String → Option NormalizedChangeClaims}
  {manifest : ChangeManifest Attestation} {policy : PatchPolicy} {change : NormalizedChange Attestation}

def Protects (sameLetter : Char → Char → Bool) (policy : PatchPolicy) (path : String) : Prop :=
  ∃ pattern ∈ policy.patterns, Stands (slashedText sameLetter) true (globParts pattern.toList) path.toList

def ProtectsInLines (sameLetter : Char → Char → Bool) (policy : PatchPolicy) (path : String) : Prop :=
  ∃ pattern ∈ policy.patterns, Stands (withinLines sameLetter) true (globParts pattern.toList) path.toList

structure Sound (sameLetter : Char → Char → Bool) (verify : Attestation → String → Option NormalizedChangeClaims)
    (manifest : ChangeManifest Attestation) (policy : PatchPolicy) : Prop where
  paths : ∀ change ∈ manifest.changes, ∀ final, DecodesTo change.path final → ¬ Protects sameLetter policy final
  metadata : ∀ change ∈ manifest.changes, ∃ final, DecodesTo change.path final ∧
    verify change.metadataAttestation (change.operation.text ++ ":" ++ final) = some change.toNormalizedChangeClaims
  base : manifest.baseSha = policy.currentBaseSha

inductive RefusedChange (sameLetter : Char → Char → Bool) (verify : Attestation → String → Option NormalizedChangeClaims)
    (policy : PatchPolicy) (change : NormalizedChange Attestation) : Prop
  | malformed (path : normalizeChangePath change.path = none)
  | untrusted {path : String} (normal : normalizeChangePath change.path = some path) (found : trusted verify change path = false)
  | guarded {path : String} (normal : normalizeChangePath change.path = some path) (found : ProtectsInLines sameLetter policy path)
  | symlink (found : change.symlink = true) (denied : policy.allowSymlinks ≠ some true)
  | binary (found : change.binary = true) (denied : policy.allowBinary ≠ some true)
  | oversized (found : policy.limit < change.sizeBytes)

inductive Refused (sameLetter : Char → Char → Bool) (verify : Attestation → String → Option NormalizedChangeClaims)
    (manifest : ChangeManifest Attestation) (policy : PatchPolicy) : Prop
  | limit (wrong : ¬ (isSafeInteger policy.limit = true ∧ 0 < policy.limit))
  | stale (moved : manifest.baseSha ≠ policy.currentBaseSha)
  | change {change : NormalizedChange Attestation} (inside : change ∈ manifest.changes)
    (refused : RefusedChange sameLetter verify policy change)

theorem protectsInLines_iff {path : String} : ProtectsInLines sameLetter policy path ↔
    (policy.patterns.any fun pattern => (globPatternToRegex sameLetter unbroken pattern).test path.toList) = true := by
  simp only [ProtectsInLines,List.any_eq_true,globPatternToRegex_iff true]

theorem trusted_iff {path : String} : trusted verify change path = true ↔
    verify change.metadataAttestation (change.operation.text ++ ":" ++ path) = some change.toNormalizedChangeClaims ∧
      isSafeInteger change.sizeBytes = true ∧ 0 ≤ change.sizeBytes := by
  unfold trusted
  cases verify change.metadataAttestation (change.operation.text ++ ":" ++ path) with
  | none => simp
  | some claims => simp [and_assoc]

theorem changeViolations_nil_iff : changeViolations sameLetter verify policy change = [] ↔
    ¬ RefusedChange sameLetter verify policy change := by
  unfold changeViolations
  cases normal : normalizeChangePath change.path with
  | none => exact iff_of_false (List.cons_ne_nil _ _) fun free => free (.malformed normal)
  | some path =>
    dsimp only
    cases verified : trusted verify change path with
    | false => exact iff_of_false (List.cons_ne_nil _ _) fun free => free (.untrusted normal verified)
    | true =>
      have others : ∀ {other}, normalizeChangePath change.path = some other → other = path := fun found =>
        Option.some.inj (found.symm.trans normal)
      simp only [Bool.not_true,Bool.false_eq_true,if_false,List.append_eq_nil_iff,ite_eq_right_iff,List.cons_ne_nil,imp_false,
        ← protectsInLines_iff,Bool.and_eq_true,decide_eq_true_eq,not_and,gt_iff_lt]
      constructor
      · rintro ⟨⟨⟨guarded,symlink⟩,binary⟩,size⟩ refused
        cases refused with
        | malformed missing =>
          rw [normal] at missing
          cases missing
        | untrusted found unverified =>
          rw [others found,verified] at unverified
          cases unverified
        | guarded found matched => exact guarded (others found ▸ matched)
        | symlink found denied => exact symlink found denied
        | binary found denied => exact binary found denied
        | oversized found => exact size found
      · intro free
        exact ⟨⟨⟨fun matched => free (.guarded normal matched),fun found denied => free (.symlink found denied)⟩,
          fun found denied => free (.binary found denied)⟩,fun found => free (.oversized found)⟩

theorem allows_iff : Allows sameLetter verify manifest policy ↔ ¬ Refused sameLetter verify manifest policy := by
  unfold Allows evaluatePatchPolicy
  by_cases limit : isSafeInteger policy.limit = true ∧ 0 < policy.limit
  · have fine : ¬ (!isSafeInteger policy.limit || policy.limit ≤ 0) = true := by
      simp only [limit.1,Bool.not_true,Bool.false_or,decide_eq_true_eq,not_le]
      exact limit.2
    rw [if_neg fine]
    simp only [Except.ok.injEq,exists_eq_left',List.isEmpty_iff,List.append_eq_nil_iff,List.flatMap_eq_nil_iff,
      changeViolations_nil_iff,ite_eq_right_iff,List.cons_ne_nil,imp_false,not_not]
    constructor
    · rintro ⟨current,free⟩ refused
      cases refused with
      | limit wrong => exact wrong limit
      | stale moved => exact moved current
      | change inside refused => exact free _ inside refused
    · intro free
      refine ⟨?_,fun change inside refused => free (.change inside refused)⟩
      by_contra moved
      exact free (.stale moved)
  · have wrong : (!isSafeInteger policy.limit || policy.limit ≤ 0) = true := by
      rw [Bool.or_eq_true,Bool.not_eq_true',decide_eq_true_eq]
      by_contra fine
      rw [not_or,Bool.not_eq_false,not_le] at fine
      exact limit fine
    rw [if_pos wrong]
    exact iff_of_false (fun ⟨_,thrown,_⟩ => by cases thrown) fun free => free (.limit limit)

/-- A path that a protected pattern stands for only if a `**` runs over the end of a line. -/
def CrossesLines (sameLetter : Char → Char → Bool) (policy : PatchPolicy) (path : String) : Prop :=
  Protects sameLetter policy path ∧ ¬ ProtectsInLines sameLetter policy path

/-- What the policy allows is sound exactly where no change's path is protected across lines only, unless the manifest is
refused for another reason. -/
theorem allowed_patches_sound_iff {Attestation : Type} (sameLetter : Char → Char → Bool)
    (verify : Attestation → String → Option NormalizedChangeClaims) (manifest : ChangeManifest Attestation) (policy : PatchPolicy) :
    (Allows sameLetter verify manifest policy → Sound sameLetter verify manifest policy) ↔
      ((∃ change ∈ manifest.changes, ∃ final, DecodesTo change.path final ∧ CrossesLines sameLetter policy final) →
        Refused sameLetter verify manifest policy) := by
  rw [allows_iff]
  constructor
  · rintro sound ⟨change,inside,final,decodes,crosses⟩
    by_contra free
    exact (sound free).paths change inside final decodes crosses.1
  · intro condition free
    have clear : ∀ change ∈ manifest.changes, ¬ RefusedChange sameLetter verify policy change :=
      fun change inside refused => free (.change inside refused)
    have normal : ∀ change ∈ manifest.changes, ∃ path, normalizeChangePath change.path = some path := by
      intro change inside
      cases found : normalizeChangePath change.path with
      | none => exact absurd (.malformed found) (clear change inside)
      | some path => exact ⟨path,rfl⟩
    refine ⟨?_,?_,?_⟩
    · intro change inside final decodes protects
      obtain ⟨path,found⟩ := normal change inside
      obtain rfl := (normalizeChangePath_iff found).mp decodes
      have crosses : CrossesLines sameLetter policy final :=
        ⟨protects,fun guarded => clear change inside (.guarded found guarded)⟩
      exact free (condition ⟨change,inside,final,decodes,crosses⟩)
    · intro change inside
      obtain ⟨path,found⟩ := normal change inside
      refine ⟨path,(normalizeChangePath_iff found).mpr rfl,?_⟩
      cases verified : trusted verify change path with
      | false => exact absurd (.untrusted found verified) (clear change inside)
      | true => exact (trusted_iff.mp verified).1
    · by_contra moved
      exact free (.stale moved)

end

/-! ### A line break in a protected directory -/

def brokenClaims : NormalizedChangeClaims where
  path := "agentos/a\nb"
  operation := .add
  sizeBytes := 1
  binary := false
  symlink := false

def brokenManifest : ChangeManifest Unit where
  baseSha := "abc123"
  changes := [{toNormalizedChangeClaims := brokenClaims,metadataAttestation := ()}]

def brokenVerify (_ : Unit) (subject : String) : Option NormalizedChangeClaims :=
  if subject = "add:agentos/a\nb" then some brokenClaims else none

def currentPolicy : PatchPolicy := {currentBaseSha := "abc123"}

/-- The default policy allows a file below `agentos` whose name has a line break. -/
theorem line_break_allowed : ¬ (Allows foldsAlike brokenVerify brokenManifest currentPolicy →
    Sound foldsAlike brokenVerify brokenManifest currentPolicy) := by
  intro sound
  have allowed : (evaluatePatchPolicy foldsAlike brokenVerify brokenManifest currentPolicy) = .ok {allowed := true,violations := []} := by
    decide +kernel
  have safe := sound ⟨_,allowed,rfl⟩
  refine safe.paths _ List.mem_cons_self "agentos/a\nb" ⟨.refl,by decide +kernel⟩ ⟨"agentos/**",by decide,?_⟩
  exact (matchesParts_iff true).mp (by decide +kernel)

end AgentOS.Publication.Patches
