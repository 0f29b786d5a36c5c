import AgentOS.Reducers.Events
import AgentOS.Library.Replay

/-! The reducer of a feature's workflow: specification, its approval, planning, implementation, tests,
review and policy, with fixes in between, to a published draft. -/
namespace AgentOS.Reducers
open Library

inductive FeatureWorkflowPhase where
  | specification
  | specificationApproval
  | planning
  | implementation
  | testing
  | review
  | fixing
  | policyValidation
  | draftPublication
  deriving DecidableEq

inductive FeatureWorkflowStatus where
  | running
  | awaitingApproval
  | blocked
  | succeeded
  | failed
  | cancelled
  | budgetExhausted
  deriving DecidableEq

def FeatureWorkflowPhase.text : FeatureWorkflowPhase → String
  | .specification => "specification"
  | .specificationApproval => "specification_approval"
  | .planning => "planning"
  | .implementation => "implementation"
  | .testing => "testing"
  | .review => "review"
  | .fixing => "fixing"
  | .policyValidation => "policy_validation"
  | .draftPublication => "draft_publication"

def FeatureWorkflowStatus.text : FeatureWorkflowStatus → String
  | .running => "running"
  | .awaitingApproval => "awaiting_approval"
  | .blocked => "blocked"
  | .succeeded => "succeeded"
  | .failed => "failed"
  | .cancelled => "cancelled"
  | .budgetExhausted => "budget_exhausted"

inductive BlockedFromStatus where
  | running
  | awaitingApproval

def BlockedFromStatus.status : BlockedFromStatus → FeatureWorkflowStatus
  | .running => .running
  | .awaitingApproval => .awaitingApproval

structure DraftPublication where
  id : String
  url : String
  draft : Bool
  attestation : Json

structure PublicationBinding where
  scopeHash : String
  actionHash : String
  baseSha : String
  patchHash : String
  deriving DecidableEq

structure RepositoryPublisherAttestationClaims extends PublicationBinding where
  source : String

inductive FeatureWorkflowEventType where
  | specificationCompleted
  | specificationApproved
  | specificationRejected (reason : Option String)
  | planCompleted
  | implementationCompleted
  | testsPassed
  | testsFailed (reason : Option String)
  | reviewPassed
  | reviewChangesRequested (reason : Option String)
  | fixCompleted
  | policyPassed
  | policyFailed (reason : Option String)
  | draftPublished (publication : DraftPublication)
  | crashed (reason : Option String)
  | resume
  | cancel (reason : Option String)
  | exhaustBudget

structure FeatureWorkflowEvent where
  id : String
  type : FeatureWorkflowEventType

namespace FeatureWorkflowEventType

def text : FeatureWorkflowEventType → String
  | .specificationCompleted => "specification_completed"
  | .specificationApproved => "specification_approved"
  | .specificationRejected _ => "specification_rejected"
  | .planCompleted => "plan_completed"
  | .implementationCompleted => "implementation_completed"
  | .testsPassed => "tests_passed"
  | .testsFailed _ => "tests_failed"
  | .reviewPassed => "review_passed"
  | .reviewChangesRequested _ => "review_changes_requested"
  | .fixCompleted => "fix_completed"
  | .policyPassed => "policy_passed"
  | .policyFailed _ => "policy_failed"
  | .draftPublished _ => "draft_published"
  | .crashed _ => "crashed"
  | .resume => "resume"
  | .cancel _ => "cancel"
  | .exhaustBudget => "exhaust_budget"

def fields : FeatureWorkflowEventType → List (String × Json)
  | .specificationRejected reason => reasonField reason
  | .testsFailed reason => reasonField reason
  | .reviewChangesRequested reason => reasonField reason
  | .policyFailed reason => reasonField reason
  | .crashed reason => reasonField reason
  | .cancel reason => reasonField reason
  | .draftPublished publication => [("publication",.obj [("id",.str publication.id),("url",.str publication.url),
      ("draft",.bool publication.draft),("attestation",publication.attestation)])]
  | _ => []

end FeatureWorkflowEventType

def FeatureWorkflowEvent.json (event : FeatureWorkflowEvent) : Json :=
  .obj ([("id",.str event.id),("type",.str event.type.text)] ++ event.type.fields)

structure FeatureWorkflowState where
  phase : FeatureWorkflowPhase
  status : FeatureWorkflowStatus
  maxRetries : Int
  retryCount : Int
  processed : Processed
  publication : Option DraftPublication := none
  failureReason : Option String := none
  blockedFromStatus : Option BlockedFromStatus := none
  publicationBinding : Option PublicationBinding := none

structure FeatureWorkflowOptions where
  maxRetries : Int
  publicationBinding : Option PublicationBinding := none

abbrev PublisherVerifier := Json → String → Option RepositoryPublisherAttestationClaims

def createFeatureWorkflow (options : FeatureWorkflowOptions) : Except String FeatureWorkflowState :=
  if isSafeInteger options.maxRetries = false ∨ options.maxRetries < 0 then .error "maxRetries must be a non-negative safe integer"
  else .ok {phase := .specification,status := .running,maxRetries := options.maxRetries,retryCount := 0,processed := .none
            publicationBinding := options.publicationBinding}

def FeatureWorkflowStatus.terminal : FeatureWorkflowStatus → Bool
  | .succeeded => true
  | .failed => true
  | .cancelled => true
  | .budgetExhausted => true
  | _ => false

namespace FeatureWorkflowState

variable (state : FeatureWorkflowState)

def retryOrFail (retried : FeatureWorkflowState) : FeatureWorkflowState :=
  if state.retryCount + 1 > state.maxRetries then
    {state with status := .failed,retryCount := state.retryCount + 1,failureReason := some "retry_limit"}
  else {retried with retryCount := state.retryCount + 1}

def fix : FeatureWorkflowState := state.retryOrFail {state with phase := .fixing,status := .running}

def illegal {α : Type} (state : FeatureWorkflowState) (type : FeatureWorkflowEventType) : Except String α :=
  .error ("Illegal feature workflow transition from " ++ state.phase.text ++ "/" ++ state.status.text ++ " using " ++ type.text)

def inPhase (expectedPhase : FeatureWorkflowPhase) (type : FeatureWorkflowEventType)
    (next : Except String FeatureWorkflowState) : Except String FeatureWorkflowState :=
  if state.phase ≠ expectedPhase ∨ state.status = .blocked then state.illegal type else next

def pending (state : FeatureWorkflowState) (next : FeatureWorkflowState) : Except String FeatureWorkflowState :=
  if state.status ≠ .awaitingApproval then .error "Specification approval is not pending" else .ok next

def publish (verifier : Option PublisherVerifier) (state : FeatureWorkflowState) (publication : DraftPublication) :
    Except String FeatureWorkflowState :=
  if publication.draft = false then .error "Only draft publications may complete the workflow"
  else match verifier.bind fun verify => verify publication.attestation publication.id with
    | none => .error "A trusted publisher attestation is required"
    | some publisherClaims =>
      if state.publicationBinding = some publisherClaims.toPublicationBinding ∧ publisherClaims.source = "repository-publisher" then
        .ok {state with status := .succeeded,publication := some publication}
      else .error "Publisher attestation does not match workflow binding"

def proceed (verifier : Option PublisherVerifier) (state : FeatureWorkflowState) (type : FeatureWorkflowEventType) :
    Except String FeatureWorkflowState :=
  match type with
  | .specificationCompleted =>
    state.inPhase .specification type (.ok {state with phase := .specificationApproval,status := .awaitingApproval})
  | .specificationApproved =>
    state.inPhase .specificationApproval type (state.pending {state with phase := .planning,status := .running})
  | .specificationRejected reason =>
    state.inPhase .specificationApproval type
      (state.pending {state with status := .failed,failureReason := some (reason.getD "specification_rejected")})
  | .planCompleted => state.inPhase .planning type (.ok {state with phase := .implementation})
  | .implementationCompleted => state.inPhase .implementation type (.ok {state with phase := .testing})
  | .testsPassed => state.inPhase .testing type (.ok {state with phase := .review})
  | .testsFailed _ => state.inPhase .testing type (.ok state.fix)
  | .reviewPassed => state.inPhase .review type (.ok {state with phase := .policyValidation})
  | .reviewChangesRequested _ => state.inPhase .review type (.ok state.fix)
  | .fixCompleted => state.inPhase .fixing type (.ok {state with phase := .testing})
  | .policyPassed => state.inPhase .policyValidation type (.ok {state with phase := .draftPublication})
  | .policyFailed _ => state.inPhase .policyValidation type (.ok state.fix)
  | .draftPublished publication => state.inPhase .draftPublication type (state.publish verifier publication)
  | _ => state.illegal type

def transition (verifier : Option PublisherVerifier) (state : FeatureWorkflowState) (type : FeatureWorkflowEventType) :
    Except String FeatureWorkflowState :=
  match type with
  | .cancel reason => .ok {state with status := .cancelled,failureReason := reason <|> state.failureReason}
  | .exhaustBudget => .ok {state with status := .budgetExhausted,failureReason := some "budget_exhausted"}
  | .crashed reason =>
    if state.status = .blocked then .ok state
    else .ok (state.retryOrFail {state with
      status := .blocked
      blockedFromStatus := some (if state.status = .awaitingApproval then .awaitingApproval else .running)
      failureReason := reason <|> state.failureReason})
  | .resume =>
    if state.status ≠ .blocked then
      .error ("Illegal feature workflow transition from " ++ state.status.text ++ " using resume")
    else .ok {state with status := (state.blockedFromStatus.getD .running).status,failureReason := none,blockedFromStatus := none}
  | other =>
    if state.status = .blocked then .error ("Illegal feature workflow transition from blocked using " ++ other.text)
    else state.proceed verifier other

end FeatureWorkflowState

section
variable (sha256 : String → String) (verifier : Option PublisherVerifier)

def FeatureWorkflowState.isDuplicate (state : FeatureWorkflowState) (event : FeatureWorkflowEvent) : Except String Bool :=
  eventFingerprint sha256 event.id event.json >>= state.processed.isDuplicateEvent event.id

def reduceFeatureWorkflow (state : FeatureWorkflowState) (event : FeatureWorkflowEvent) : Except String FeatureWorkflowState :=
  eventFingerprint sha256 event.id event.json >>= fun fingerprint =>
  state.processed.isDuplicateEvent event.id fingerprint >>= fun duplicate =>
  if duplicate then .ok state
  else if state.status.terminal then
    .error ("Terminal feature workflow state " ++ state.status.text ++ " cannot transition")
  else state.transition verifier event.type >>= fun next =>
    .ok {next with processed := state.processed.recordProcessedEvent event.id fingerprint}

def replayFeatureWorkflow (events : List FeatureWorkflowEvent) (options : FeatureWorkflowOptions) : Except String FeatureWorkflowState :=
  createFeatureWorkflow options >>= fun state => replay (reduceFeatureWorkflow sha256 verifier) state events

end

end AgentOS.Reducers
