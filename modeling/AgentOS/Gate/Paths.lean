import AgentOS.Domain

/-! Repository paths as the publication rules read them: their syntax, their
spelling without regard to letter case, and where a path leads from a directory. -/
namespace AgentOS.Gate

abbrev Segment : Type := List Char

variable (path : String)

def parts : List Segment := path.toList.splitOn '/'

def joined (segments : List Segment) : String := String.ofList (['/'].intercalate segments)

@[simp] theorem joined_parts : joined (parts path) = path := by
  unfold joined parts
  rw [List.intercalate_splitOn,String.ofList_toList]

theorem parts_injective {left right : String} (same : parts left = parts right) : left = right := by
  have paths := congrArg joined same
  simpa using paths

def malformedPart (part : Segment) : Bool :=
  part = [] || part = ['.'] || part = ['.','.'] || part.head? = some ' ' || part.getLast? = some ' ' || part.getLast? = some '.'

/-- Only printable ASCII passes, so no text is left that normalization or the
format characters would change. -/
def wellFormedPath : Bool :=
  path ≠ "" && path.toList.head? ≠ some '/' && !path.toList.contains '\\' && !path.toList.contains '%' &&
    path.toList.all (fun char => ' ' ≤ char && char ≤ '~') && !(parts path).any malformedPart

def normalizeRepositoryPathSyntax : Option String := if wellFormedPath path then some path else none

def lowerCase : String := String.ofList (path.toList.map Char.toLower)

def normalizedPath : Option String := (normalizeRepositoryPathSyntax path).map lowerCase

theorem normalizedPath_eq_some {path folded : String} :
    normalizedPath path = some folded ↔ wellFormedPath path = true ∧ lowerCase path = folded := by
  unfold normalizedPath normalizeRepositoryPathSyntax
  split <;> simp_all

/-! ### Resolution -/

def entered (place : List Segment) (part : Segment) : List Segment :=
  if part = [] ∨ part = ['.'] then place else if part = ['.','.'] then place.dropLast else place ++ [part]

def resolve (base : List Segment) (path : String) : List Segment :=
  (parts path).foldl entered (if path.toList.head? = some '/' then [] else base)

theorem foldl_entered {segments : List Segment} (plain : ∀ part ∈ segments, malformedPart part = false) (base : List Segment) :
    segments.foldl entered base = base ++ segments := by
  induction segments generalizing base with
  | nil => simp
  | cons part segments ih =>
    have here := plain part List.mem_cons_self
    simp only [malformedPart,Bool.or_eq_false_iff,decide_eq_false_iff_not] at here
    obtain ⟨⟨⟨⟨⟨empty,dot⟩,dots⟩,_⟩,_⟩,_⟩ := here
    rw [List.foldl_cons,ih fun other inside => plain other (List.mem_cons_of_mem _ inside)]
    simp [entered,empty,dot,dots]

theorem resolve_wellFormed {path : String} (formed : wellFormedPath path = true) (base : List Segment) :
    resolve base path = base ++ parts path := by
  simp only [wellFormedPath,Bool.and_eq_true,decide_eq_true_eq,Bool.not_eq_true',List.any_eq_false] at formed
  unfold resolve
  rw [if_neg formed.1.1.1.1.2]
  apply foldl_entered
  intro part inside
  have plain := formed.2 part inside
  simpa using plain

end AgentOS.Gate
