import AgentOS.Gate.Paths
import AgentOS.Stringify

/-! The acceptance tests of a definition of done: one file a criterion, paired by
path without regard to letter case, and laid over the changes of an agent. -/
namespace AgentOS.Gate

structure AcceptanceTestFile where
  path : String
  content : String
  deriving DecidableEq

inductive WriteOperation where
  | add
  | modify
  deriving DecidableEq

inductive Change where
  | write (operation : WriteOperation) (path : String) (executable : Bool) (content : String)
  | delete (path : String)
  deriving DecidableEq

def Change.path : Change → String
  | .write _ path _ _ => path
  | .delete path => path

def ACCEPTANCE_TEST_PREFIX : String := "test/acceptance/"

def startsWith (start text : String) : Bool := start.toList.isPrefixOf text.toList

def endsWith (ending text : String) : Bool := ending.toList.isSuffixOf text.toList

def isAcceptanceTestPath (path : String) : Bool :=
  (normalizedPath path).any fun normalized => normalized = "test/acceptance" || startsWith ACCEPTANCE_TEST_PREFIX normalized

def acceptanceTestPathForCriterion (id : String) : String := ACCEPTANCE_TEST_PREFIX ++ id ++ ".test.mjs"

/-! ### Pairing -/

def pairPaths : List String → List String → Except Unit (Option String)
  | [],remaining =>
    .ok (if remaining = [] then none
      else some ("acceptance test pairing: unexpected " ++ String.intercalate ", " remaining))
  | path::expected,remaining => match normalizedPath path with
    | none => .error ()
    | some normalized =>
      if normalized ∈ remaining then pairPaths expected (remaining.erase normalized)
      else .ok (some ("acceptance test pairing: missing " ++ path))

def distinct (paths : List String) : List String := paths.reverse.dedup.reverse

def acceptanceTestsPairingError (criterionIds paths : List String) : Except Unit (Option String) :=
  let expected := criterionIds.map acceptanceTestPathForCriterion
  if expected.length ≠ paths.length then
    .ok (some "acceptance test pairing: criterion count must equal file count")
  else match paths.mapM normalizedPath with
    | none => .error ()
    | some normalized => pairPaths expected (distinct normalized)

/-! ### Imports -/

/-- The module lexer: the specifier of each import of a file, where it is a text. -/
abbrev Lexer : Type := String → String → Option (List (Option String))

def isAbsoluteFilesystemSpecifier (specifier : String) : Bool :=
  startsWith "/" specifier || startsWith "\\\\" specifier || startsWith "file:" specifier ||
    match specifier.toList with
    | drive :: ':' :: separator :: _ => drive.isAlpha && (separator = '\\' || separator = '/')
    | _ => false

def REPOSITORY_SENTINEL_ROOT : List Segment := ["repository".toList]

def resolvesOutsideRepository (filePath specifier : String) : Bool :=
  if isAbsoluteFilesystemSpecifier specifier then true
  else if !startsWith "./" specifier && !startsWith "../" specifier then false
  else !REPOSITORY_SENTINEL_ROOT.isPrefixOf (resolve (resolve REPOSITORY_SENTINEL_ROOT filePath).dropLast specifier)

def acceptanceTestImportSafetyError (lexer : Lexer) (file : AcceptanceTestFile) : Option String :=
  match lexer file.content file.path with
  | none => some "acceptance test import resolves outside repository"
  | some imports =>
    if imports.any (fun specifier => specifier.any (resolvesOutsideRepository file.path)) then
      some "acceptance test import resolves outside repository"
    else none

/-! ### Sealing -/

inductive SealError where
  | acceptancePathReserved (path : String)
  | malformed
  deriving DecidableEq

/-- Whether a path of the source agrees with the path: the first that does ends the search. -/
def existsIn (path : String) : List String → Except SealError Bool
  | [] => .ok false
  | candidate::sourcePaths => match normalizedPath candidate,normalizedPath path with
    | some left,some right => if left = right then .ok true else existsIn path sourcePaths
    | _,_ => .error .malformed

def overlay (sourcePaths : List String) (file : AcceptanceTestFile) : Except SealError Change :=
  match normalizeRepositoryPathSyntax file.path with
  | none => .error .malformed
  | some path => (existsIn path sourcePaths).map fun found =>
    .write (if found then .modify else .add) path false file.content

def sealChangeSet (changes : List Change) (acceptanceTests : List AcceptanceTestFile) (sourcePaths : List String) :
    Except SealError (List Change) :=
  match changes.find? fun change => isAcceptanceTestPath change.path with
  | some change => .error (.acceptancePathReserved change.path)
  | none => (acceptanceTests.mapM (overlay sourcePaths)).map (changes ++ ·)

end AgentOS.Gate
