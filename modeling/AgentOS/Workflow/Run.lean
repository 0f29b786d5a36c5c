import AgentOS.Workflow.Deadline
import AgentOS.Workflow.Result

/-! A feature workflow's execution around its steps: how it takes the run up,
how each ending settles the run, and what it returns. -/
namespace AgentOS.Workflow
open Library Checkpoint AgentOS.Action

/-! ### Errors -/

/-- JavaScript's white space and line terminators. -/
def isSpace (char : Char) : Bool :=
  char.val ∈ [0x9,0xA,0xB,0xC,0xD,0x20,0xA0,0x1680,0x2028,0x2029,0x202F,0x205F,0x3000,0xFEFF] ||
    (0x2000 ≤ char.val && char.val ≤ 0x200A)

def isLineEnd (char : Char) : Bool := char.val ∈ [0xA,0xD,0x2028,0x2029]

def trim (text : String) : String :=
  String.ofList ((text.toList.dropWhile isSpace).reverse.dropWhile isSpace).reverse

/-- The rest of a text that starts with a word, whatever the case of its letters. -/
def afterWord (word : List Char) (text : List Char) : Option (List Char) :=
  if (text.take word.length).map Char.toLower = word then some (text.drop word.length) else none

/-- The rest after `private.?key`, the longer match first. -/
def afterPrivateKey (text : List Char) : Option (List Char) :=
  (afterWord "private".toList text).bind fun rest =>
    let key := afterWord "key".toList
    match rest with
    | char::more => if isLineEnd char then key rest else (key more).or (key rest)
    | [] => none

def afterSecretName (text : List Char) : Option (List Char) :=
  ((afterWord "token".toList text).or (afterWord "secret".toList text)).or
    ((afterWord "password".toList text).or (afterPrivateKey text))

/-- A named secret at the start of a text: its name and what follows its value. -/
def secretAt (text : List Char) : Option (List Char × List Char) :=
  (afterSecretName text).bind fun rest => match rest.dropWhile isSpace with
    | sign::value =>
      let bare := value.dropWhile isSpace
      if (sign = ':' ∨ sign = '=') ∧ bare ≠ [] then
        some (text.take (text.length - rest.length),bare.dropWhile fun char => ¬ isSpace char)
      else none
    | [] => none

/-- The text with the values of named secrets left out; the number bounds the scan. -/
def redacted : Nat → List Char → List Char
  | 0, text => text
  | _, [] => []
  | length+1, char::rest => match secretAt (char::rest) with
    | some (name,after) => name ++ "=[REDACTED]".toList ++ redacted length after
    | none => char::redacted length rest

def causesOf : Fault → List Cause
  | .thrown causes => causes
  | .service code message status => [{code := some (.str code),status := some (.num status),message := some message}]
  | fault => [{message := fault.message?}]

variable (fault : Fault)

/-- What went wrong; a failed statement is left out for the reason beneath it. -/
def describedError : String :=
  match causesOf fault with
  | [] => "workflow operation failed"
  | first::rest => match first.message with
    | none => "workflow operation failed"
    | some message =>
      if ¬ "Failed query:".toList.isPrefixOf message.toList then message
      else match (rest.head?.bind Cause.message).map trim with
        | none | some "" => "a database statement failed"
        | some reason => "a database statement failed: " ++ reason

def safeError : String :=
  let described := (describedError fault).toList
  Store.slice (String.ofList (redacted described.length described)) 1000

def TRANSIENT_ERROR_CODES : List Json := [
  .str "ETIMEDOUT",.str "ECONNRESET",.str "ECONNREFUSED",.str "EPIPE",.str "EAI_AGAIN",.str "UND_ERR_CONNECT_TIMEOUT",
  .str "UND_ERR_SOCKET",.str "timeout_error",.str "overloaded_error",.str "rate_limit_error",
  .str "runtime_session_missing",.str "40001",.str "40P01",.num 429,.num 502,.num 503,.num 504]

def TRANSIENT_ERROR_MESSAGES : List String :=
  ["fetch failed","terminating connection","connection terminated","socket hang up","network error"]

/-- A letter in lower case. The Kelvin sign is the one other letter whose lower case is ASCII. -/
def lowerCase (char : Char) : Char := if char.val = 0x212A then 'k' else char.toLower

def isTransientCause (cause : Cause) : Bool :=
  cause.code.any (· ∈ TRANSIENT_ERROR_CODES) || cause.status.any (· ∈ TRANSIENT_ERROR_CODES) ||
    (cause.code.bind Json.string?).any (fun code => "08".toList.isPrefixOf code.toList) ||
    cause.message.any fun message => TRANSIENT_ERROR_MESSAGES.any fun known =>
      (message.toList.map lowerCase).tails.any fun rest => known.toList.isPrefixOf rest

def isTransientOperationError : Bool := ((causesOf fault).take 6).any isTransientCause

/-! ### The execution -/

def runStatusText : RunStatus → String
  | .pending => "pending"
  | .running => "running"
  | .waiting => "waiting"
  | .succeeded => "succeeded"
  | .failed => "failed"
  | .cancelled => "cancelled"

def isTerminalRun (status : RunStatus) : Bool := status ∈ [RunStatus.cancelled,.failed,.succeeded]

def isObject : Json → Bool
  | .obj _ => true
  | _ => false

def terminalResult (run : Run) : Json :=
  if run.status = .cancelled then FeatureWorkflowResult.json {status := .cancelled}
  else match run.output.filter isObject with
    | some output => if run.status = .succeeded ∨ run.status = .failed then output else unfinished
    | none => unfinished
where
  unfinished := FeatureWorkflowResult.json {status := .failed,reason := some ("run_" ++ runStatusText run.status)}

def transitionCurrentRun (env : Environment) (runId : String) (expectedStatuses : List RunStatus)
    (update : Instant → RunUpdate) : Action (Option Run) := do
  match ← readRepository env fun repository => repository.getRun runId with
  | none => pure none
  | some current =>
    if isTerminalRun current.status then pure none
    else repository env fun now repository =>
      repository.transitionRun runId expectedStatuses (update now) (some current.stateVersion)

inductive Ending where
  | timedOut
  | declined (expired : Bool)
  | published (raw : Json) (replayed : Bool)

def endedElsewhere (env : Environment) (runId : String) : Action Json := do
  match ← readRepository env fun repository => repository.getRun runId with
  | none => throw (.permanent "workflow run disappeared")
  | some latest => pure (terminalResult latest)

def failedUpdate (result : FeatureWorkflowResult) (error : Json) (now : Instant) : RunUpdate where
  status := some .failed
  output := some result.json
  error := some error
  updatedAt := now
  completedAt := some now

def succeededUpdate (result : FeatureWorkflowResult) (now : Instant) : RunUpdate where
  status := some .succeeded
  output := some result.json
  updatedAt := now
  completedAt := some now
  cleanupAt := some (now + 24 * 60 * 60 * 1000)

def declinedResult (expired : Bool) : FeatureWorkflowResult := {status := if expired then .expired else .rejected}

def settle (env : Environment) (url : UrlFormat) (runId : String) : Ending → Action Json
  | .timedOut => do
    let _ ← transitionCurrentRun env runId [.waiting]
      (failedUpdate {status := .expired} (.obj [("code",.str "approval_expired")]))
    pure (FeatureWorkflowResult.json {status := .expired})
  | .declined expired => do
    let code := if expired then "approval_expired" else "approval_reject"
    let _ ← transitionCurrentRun env runId [.waiting]
      (failedUpdate (declinedResult expired) (.obj [("code",.str code)]))
    pure (declinedResult expired).json
  | .published raw replayed =>
    match publicationResultSchema url raw with
    | none => throw (.permanent (if replayed then "stored publisher result is invalid"
        else "publisher returned an invalid result"))
    | some publication => do
      let result := publicationResult publication
      match ← transitionCurrentRun env runId [.running] (succeededUpdate result) with
      | none => endedElsewhere env runId
      | some _ => pure result.json

def faultResult : FeatureWorkflowResult :=
  match fault with
  | .budgetExhausted reason => {status := .budgetExhausted,reason := some (budgetReason reason)}
  | fault => {status := .failed,reason := some (safeError fault)}

def faultCode : Fault → String
  | .budgetExhausted _ => "budget_exhausted"
  | _ => "workflow_failed"

def isTransientFault : Bool :=
  match fault with
  | .transient _ | .startPending _ => true
  | fault => isTransientOperationError fault

/-- What the execution does with an error: hand it back for a retry, or fail the run. -/
def recover (env : Environment) (runId : String) (fault : Fault) : Action Json := do
  match ← readRepository env fun repository => repository.getRun runId with
  | some latest =>
    if latest.status = .cancelled then pure (FeatureWorkflowResult.json {status := .cancelled})
    else if isTransientFault fault then throw (.transient (safeError fault))
    else if isTerminalRun latest.status then pure (faultResult fault).json
    else do
      let error := Json.obj [("code",.str (faultCode fault)),("message",.str (safeError fault))]
      let _ ← transitionCurrentRun env runId [.pending,.running,.waiting] (failedUpdate (faultResult fault) error)
      pure (faultResult fault).json
  | none =>
    if isTransientFault fault then throw (.transient (safeError fault)) else pure (faultResult fault).json

/-- The execution of a run, whose steps come to what `ending` says. -/
def run (env : Environment) (url : UrlFormat) (ending : Nat → Except Fault Ending) (runId : String) : Action Json := do
  match ← readRepository env fun repository => repository.getRun runId with
  | none => throw (.permanent "workflow run does not exist")
  | some run =>
    if isTerminalRun run.status then pure (terminalResult run)
    else do
      let _ ← startDeadlineMs env run
      let started ← repository env fun now repository =>
        repository.transitionRun runId [.pending,.running,.waiting] {status := some .running,updatedAt := now}
          (some run.stateVersion)
      match started with
      | none => endedElsewhere env runId
      | some _ => do
        let attempted ← (do
          let ended ← ask env ending
          let ending ← Routine.settle ended
          settle env url runId ending : Action Json).outcome
        match attempted with
        | .ok result => pure result
        | .error fault => recover env runId fault

end AgentOS.Workflow
