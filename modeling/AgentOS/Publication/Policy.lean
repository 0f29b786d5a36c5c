import AgentOS.Publication.Manifest
import AgentOS.JsonText

/-! Publication policies: what a project lets its runs publish. -/
namespace AgentOS.Publication
open Gate Source

structure PublicationPolicySnapshot where
  protectedPaths : List String
  maxFiles : Nat
  maxFileBytes : Nat
  maxTotalBytes : Nat
  allowDeletes : Bool
  allowedModes : List Mode

def Mode.text : Mode → String
  | .regular => "100644"
  | .executable => "100755"
  | .symlink => "120000"
  | .submodule => "160000"
  | .directory => "040000"

def isPolicyPath (path : String) : Bool :=
  sized 1 1024 path && path.toList.all (fun char => ' ' ≤ char && char ≤ '~') && !startsWith "/" path &&
    !path.toList.contains '\\' && !path.toList.contains '%' && !(parts path).any fun part => part = ['.','.'] || part = ['.']

namespace PublicationPolicySnapshot

def valid (policy : PublicationPolicySnapshot) : Bool :=
  policy.protectedPaths.all isPolicyPath && policy.protectedPaths.length ≤ 256 && 0 < policy.maxFiles &&
    policy.maxFiles ≤ PUBLICATION_MAX_FILES && 0 < policy.maxFileBytes && policy.maxFileBytes ≤ PUBLICATION_MAX_FILE_BYTES &&
    0 < policy.maxTotalBytes && policy.maxTotalBytes ≤ PUBLICATION_MAX_TOTAL_BYTES && 1 ≤ policy.allowedModes.length &&
    policy.allowedModes.length ≤ 2 && policy.allowedModes.all fun mode => mode = .regular || mode = .executable

def json (policy : PublicationPolicySnapshot) : Json :=
  .obj [("version",.str "publication-policy-v1"),("protectedPaths",.arr (policy.protectedPaths.map .str)),
    ("maxFiles",.num policy.maxFiles),("maxFileBytes",.num policy.maxFileBytes),("maxTotalBytes",.num policy.maxTotalBytes),
    ("allowBinary",.bool false),("allowSymlinks",.bool false),("allowDeletes",.bool policy.allowDeletes),
    ("allowedModes",.arr (policy.allowedModes.map fun mode => .str (Mode.text mode)))]

end PublicationPolicySnapshot

def DEFAULT_PUBLICATION_POLICY : PublicationPolicySnapshot where
  protectedPaths := DEFAULT_PROTECTED_PATHS
  maxFiles := PUBLICATION_MAX_FILES
  maxFileBytes := PUBLICATION_MAX_FILE_BYTES
  maxTotalBytes := PUBLICATION_MAX_TOTAL_BYTES
  allowDeletes := true
  allowedModes := [.regular,.executable]

def pathsByText (left right : String) : Prop := Json.compareCanonicalKeys left right

instance : DecidableRel pathsByText := fun _ _ => inferInstanceAs (Decidable (_ = true))

def modesByText (left right : Mode) : Prop := Json.compareCanonicalKeys (Mode.text left) (Mode.text right)

instance : DecidableRel modesByText := fun _ _ => inferInstanceAs (Decidable (_ = true))

def normalizePublicationPolicySnapshot (input : PublicationPolicySnapshot) : Except PublisherFault PublicationPolicySnapshot :=
  if !input.valid then .error (.error "Invalid input")
  else match DEFAULT_PROTECTED_PATHS.find? fun required => lowerCase required ∉ input.protectedPaths.map lowerCase with
    | some required => .error (.error ("Default protected path is not removable: " ++ required))
    | none => .ok {input with
        protectedPaths := input.protectedPaths.dedup.insertionSort pathsByText
        allowedModes := input.allowedModes.dedup.insertionSort modesByText}

def canonicalPublicationPolicyDigest (sha256 : String → String) (input : PublicationPolicySnapshot) : Except PublisherFault String :=
  (normalizePublicationPolicySnapshot input).map fun policy => sha256 (canonicalJsonValue policy.json)

def containsGitSegment (path : String) : Bool := (parts path).any fun segment => segment.map Char.toLower = ['.','g','i','t']

def deniedPath (policy : PublicationPolicySnapshot) (path : String) : Bool :=
  containsGitSegment path || policy.protectedPaths.any fun pattern => globMatches pattern path

def evaluateChanges (policy : PublicationPolicySnapshot) : Nat → List Change → Except PublisherFault Unit
  | _,[] => .ok ()
  | total,change::changes =>
    match normalizeRepositoryPathSyntax change.path with
    | none => .error (.error ("Malformed repository path: " ++ quoted change.path))
    | some path =>
      if deniedPath policy path then .error (.error ("Publication policy denied path: " ++ path))
      else match change with
        | .delete _ =>
          if policy.allowDeletes then evaluateChanges policy total changes
          else .error (.error ("Publication policy denied delete: " ++ path))
        | .write _ _ executable content =>
          if (if executable then Mode.executable else .regular) ∉ policy.allowedModes then
            .error (.error ("Publication policy denied mode: " ++ path))
          else match assertWellFormedText content path with
            | .error fault => .error fault
            | .ok _ =>
              if byteLength content > policy.maxFileBytes then
                .error (.error ("Publication policy file size exceeded: " ++ path))
              else if total + byteLength content > policy.maxTotalBytes then
                .error (.error "Publication policy aggregate size exceeded")
              else evaluateChanges policy (total + byteLength content) changes

def evaluatePublicationPolicy (changes : List Change) (input : PublicationPolicySnapshot) :
    Except PublisherFault PublicationPolicySnapshot :=
  match normalizePublicationPolicySnapshot input with
  | .error fault => .error fault
  | .ok policy =>
    if changes.length > policy.maxFiles then .error (.error "Publication policy file count exceeded")
    else (evaluateChanges policy 0 changes).map fun _ => policy

end AgentOS.Publication
