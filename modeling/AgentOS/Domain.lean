import Mathlib.Data.Int.NatAbs
import Mathlib.Data.List.Basic

/-! Values every part of the system passes around: instants, JSON and thrown errors. -/
namespace AgentOS

/-- Milliseconds since the epoch. A canonical ISO string orders the way its instant does. -/
abbrev Instant : Type := Int

/-- JavaScript's `Number.isSafeInteger`. -/
def isSafeInteger (value : Int) : Bool := -9007199254740991 ≤ value && value ≤ 9007199254740991

def isNonNegativeSafeInteger (value : Int) : Bool := isSafeInteger value && 0 ≤ value

/-- A JSON value. A string that carries a timestamp is kept as the instant it denotes. -/
inductive Json where
  | null
  | bool (value : Bool)
  | num (value : Int)
  | str (value : String)
  | timestamp (at_ : Instant)
  | arr (items : List Json)
  | obj (fields : List (String × Json))

namespace Json

mutual
def same : Json → Json → Bool
  | .null, .null => true
  | .bool left, .bool right => left = right
  | .num left, .num right => left = right
  | .str left, .str right => left = right
  | .timestamp left, .timestamp right => left = right
  | .arr left, .arr right => sameItems left right
  | .obj left, .obj right => sameFields left right
  | _, _ => false
def sameItems : List Json → List Json → Bool
  | [], [] => true
  | left::lefts, right::rights => same left right && sameItems lefts rights
  | _, _ => false
def sameFields : List (String × Json) → List (String × Json) → Bool
  | [], [] => true
  | (name,left)::lefts, (other,right)::rights => decide (name = other) && same left right && sameFields lefts rights
  | _, _ => false
end

mutual
theorem same_iff (left right : Json) : same left right = true ↔ left = right := by
  cases left <;> cases right <;> simp [same,sameItems_iff,sameFields_iff]
theorem sameItems_iff (left right : List Json) : sameItems left right = true ↔ left = right := by
  cases left <;> cases right <;> simp [sameItems,same_iff,sameItems_iff]
theorem sameFields_iff (left right : List (String × Json)) : sameFields left right = true ↔ left = right := by
  rcases left with _ | ⟨⟨name,left⟩,lefts⟩ <;> rcases right with _ | ⟨⟨other,right⟩,rights⟩ <;>
    simp [sameFields,same_iff,sameFields_iff]
end

instance : DecidableEq Json := fun left right => decidable_of_iff _ (same_iff left right)

def field? (value : Json) (name : String) : Option Json :=
  match value with
  | .obj fields => (fields.find? fun entry => entry.1 = name).map Prod.snd
  | _ => none

def string? : Json → Option String
  | .str value => some value
  | _ => none

def number? : Json → Option Int
  | .num value => some value
  | _ => none

def instant? : Json → Option Instant
  | .timestamp at_ => some at_
  | _ => none

end Json

/-- A SHA-256 digest, kept as the canonical JSON value it was taken of: two
digests are equal exactly when the digested values are. -/
abbrev Fingerprint : Type := Json

inductive BudgetReason where
  | workflowBudget
  | dailyBudget
  deriving DecidableEq

structure Cause where
  code : Option Json := none
  status : Option Json := none
  message : Option String := none
  deriving DecidableEq

inductive Fault where
  | checkpointConflict (message : String)
  | permanent (message : String)
  | transient (message : String)
  | goalTransient (message : String)
  | idempotencyConflict (message : String)
  | startPending (message : String)
  | budgetExhausted (reason : BudgetReason)
  | service (code message : String) (status : Nat)
  | error (message : String)
  | thrown (causes : List Cause)
  deriving DecidableEq

def Fault.message? : Fault → Option String
  | .checkpointConflict message => some message
  | .permanent message => some message
  | .transient message => some message
  | .goalTransient message => some message
  | .idempotencyConflict message => some message
  | .startPending message => some message
  | .budgetExhausted .workflowBudget => some "workflow_budget"
  | .budgetExhausted .dailyBudget => some "daily_budget"
  | .service _ message _ => some message
  | .error message => some message
  | .thrown causes => causes.head?.bind Cause.message

end AgentOS
