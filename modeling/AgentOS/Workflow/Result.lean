import AgentOS.Checkpoint.Store
import AgentOS.Library.Shape
import AgentOS.Repository

/-! What a feature workflow returns, what its publisher reports, and the schemas
between the workflow and the goal that composes it. -/
namespace AgentOS.Workflow
open Library

/-! ### Schemas -/

/-- A text's length in UTF-16 code units. -/
def units (text : String) : Nat := (text.toList.map fun char => if char.val < 0x10000 then 1 else 2).sum

structure UrlFormat where
  parse : String → Option String
  stable : ∀ text url, parse text = some url → parse url = some url

def atMost (limit : Nat) (text : String) : Option String := if units text ≤ limit then some text else none

def atLeastOne (text : String) : Option String := if text = "" then none else some text

variable (url : UrlFormat)

def UrlFormat.atMost (limit : Nat) (text : String) : Option String :=
  (url.parse text).bind (Workflow.atMost limit)

def isHex (char : Char) : Bool := char.isDigit || ('a' ≤ char && char ≤ 'f')

def commitSha (text : String) : Option String :=
  if text.length = 40 ∧ text.toList.all isHex then some text else none

def fileUrl (text : String) : Option String := if "file://".toList.isPrefixOf text.toList then some text else none

def text (check : String → Option String) : Json → Option Json
  | .str value => (check value).map .str
  | _ => none

def literal (value : Json) (candidate : Json) : Option Json := if candidate = value then some value else none

def oneOf (values : List String) : Json → Option Json := text fun value => if value ∈ values then some value else none

def positiveInteger : Json → Option Json
  | .num value => if isSafeInteger value ∧ 0 < value then some (.num value) else none
  | _ => none

def strictObject (shape : List (Shape.Field Json)) : Json → Option (List (String × Json))
  | .obj entries => Shape.strict shape entries
  | _ => none

/-! ### Publications -/

def draftPublicationResultSchema : List (Shape.Field Json) := [
  {name := "status",check := literal (.str "succeeded")},
  {name := "draft",check := literal (.bool true)},
  {name := "pullRequestUrl",check := text (url.atMost 2048)},
  {name := "branch",optional := true,check := text fun value => (atLeastOne value).bind (atMost 512)},
  {name := "commitSha",optional := true,check := text commitSha},
  {name := "pullRequestNumber",optional := true,check := positiveInteger}]

def localPublicationResultSchema : List (Shape.Field Json) := [
  {name := "status",check := literal (.str "succeeded")},
  {name := "local",check := literal (.bool true)},
  {name := "branch",check := text fun value => (atLeastOne value).bind (atMost 512)},
  {name := "commitSha",check := text commitSha},
  {name := "repositoryUrl",check := text fun value => (url.atMost 2048 value).bind fileUrl}]

def publicationResultSchema (raw : Json) : Option (List (String × Json)) :=
  (strictObject (draftPublicationResultSchema url) raw).or (strictObject (localPublicationResultSchema url) raw)

/-! ### Results -/

inductive ResultStatus where
  | succeeded
  | rejected
  | expired
  | cancelled
  | budgetExhausted
  | failed
  deriving DecidableEq

def ResultStatus.text : ResultStatus → String
  | .succeeded => "succeeded"
  | .rejected => "rejected"
  | .expired => "expired"
  | .cancelled => "cancelled"
  | .budgetExhausted => "budget_exhausted"
  | .failed => "failed"

structure FeatureWorkflowResult where
  status : ResultStatus
  draftPullRequestUrl : Option String := none
  localBranch : Option String := none
  localRepositoryUrl : Option String := none
  publishedBranch : Option String := none
  publishedCommitSha : Option String := none
  reason : Option String := none

namespace FeatureWorkflowResult

def names : List String :=
  ["draftPullRequestUrl","localBranch","localRepositoryUrl","publishedBranch","publishedCommitSha","reason","status"]

section
variable (result : FeatureWorkflowResult)

def field : String → Option Json
  | "draftPullRequestUrl" => result.draftPullRequestUrl.map .str
  | "localBranch" => result.localBranch.map .str
  | "localRepositoryUrl" => result.localRepositoryUrl.map .str
  | "publishedBranch" => result.publishedBranch.map .str
  | "publishedCommitSha" => result.publishedCommitSha.map .str
  | "reason" => result.reason.map .str
  | "status" => some (.str result.status.text)
  | _ => none

def entries : List (String × Json) :=
  names.filterMap fun name => (result.field name).map (name,·)

def json : Json := .obj result.entries

theorem lookup_entries {name : String} (listed : name ∈ names) : Shape.lookup result.entries name = result.field name := by
  rw [entries,Shape.lookup_filterMap,if_pos listed]

end

end FeatureWorkflowResult

def publicationResult (publication : List (String × Json)) : FeatureWorkflowResult :=
  let reported := fun name => (Shape.lookup publication name).bind Json.string?
  if (Shape.lookup publication "local").isSome then
    {status := .succeeded,localBranch := reported "branch",localRepositoryUrl := reported "repositoryUrl",
      publishedBranch := reported "branch",publishedCommitSha := reported "commitSha"}
  else
    {status := .succeeded,draftPullRequestUrl := reported "pullRequestUrl",publishedBranch := reported "branch",
      publishedCommitSha := reported "commitSha"}

def budgetReason : BudgetReason → String
  | .workflowBudget => "workflow_budget"
  | .dailyBudget => "daily_budget"

/-! ### The goal's reading of a feature's result -/

def featureWorkflowResultSchema : List (Shape.Field Json) := [
  {name := "status",check := oneOf ["succeeded","rejected","expired","cancelled","budget_exhausted","failed"]},
  {name := "draftPullRequestUrl",optional := true,check := text (url.atMost 2048)},
  {name := "localBranch",optional := true,check := text (atMost 512)},
  {name := "localRepositoryUrl",optional := true,check := text (url.atMost 2048)},
  {name := "reason",optional := true,check := text (atMost 1000)}]

def goalFeatureResult (returned : Json) : Option (List (String × Json)) := do
  let result ← strictObject (featureWorkflowResultSchema url) returned
  some (["status","draftPullRequestUrl","localBranch","localRepositoryUrl","reason"].filterMap fun name =>
    (Shape.lookup result name).map (name,·))

end AgentOS.Workflow
