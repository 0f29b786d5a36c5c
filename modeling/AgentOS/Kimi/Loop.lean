import AgentOS.Stringify

/-! The agent loop: turns of the model and calls of its tools, cut at the points where it awaits an answer. What
lies between two of them is one step, with the events that it reports. -/
namespace AgentOS.Kimi

def DEFAULT_MAX_TURNS : Nat := 64

def MAX_TOKENS : Int := 8192

def MAX_SUBMIT_RESULT_BYTES : Nat := 256 * 1024

def STALL_PROMPT : String := "Continue. Use submit_result to finish."

structure ToolUse where
  id : String
  name : String
  input : Json

inductive ContentBlock where
  | text (text : String)
  | thinking (thinking : String)
  | toolUse (use : ToolUse)
  | toolResult (toolUseId content : String) (isError : Bool)

inductive MessageRole where
  | user
  | assistant

structure Message where
  role : MessageRole
  content : List ContentBlock

structure TokenUsage where
  inputTokens : Int
  outputTokens : Int

structure KimiRequest where
  model : String
  system : Option String
  messages : List Message
  maxTokens : Int

structure KimiResponse where
  content : List ContentBlock
  usage : TokenUsage

inductive TransportFault where
  | http (status : Int) (body : String)
  | other (message : String)

structure ToolAnswer where
  content : String
  isError : Bool

inductive LoopEventType where
  | message
  | toolCall
  | toolResult

structure LoopEvent where
  type : LoopEventType
  detail : String
  name : Option String := none
  isError : Option Bool := none

inductive LoopStatus where
  | submitted (result : Json)
  | turnLimit
  | cancelled

structure LoopResult where
  status : LoopStatus
  usage : TokenUsage
  turns : Nat

inductive LoopPoint where
  | sending (request : KimiRequest)
  | executing (use : ToolUse) (rest : List ToolUse) (resultBlocks : List ContentBlock)
  | returned (result : LoopResult)
  | threw (fault : TransportFault)
  /-- Whoever waited for the loop has its result. -/
  | settled

structure LoopOptions where
  model : String
  system : Option String := none
  initialInput : Json
  maxTurns : Nat := DEFAULT_MAX_TURNS

structure Loop where
  options : LoopOptions
  messages : List Message
  usage : TokenUsage
  turns : Nat
  point : LoopPoint

namespace Loop

def end_ (loop : Loop) (status : LoopStatus) : Loop :=
  {loop with point := .returned {status := status,usage := loop.usage,turns := loop.turns}}

def nextTurn (aborted : Bool) (loop : Loop) : Loop :=
  if loop.turns < loop.options.maxTurns then
    if aborted then loop.end_ .cancelled
    else {loop with
      turns := loop.turns + 1
      point := .sending {
        model := loop.options.model
        system := loop.options.system
        messages := loop.messages
        maxTokens := MAX_TOKENS}}
  else loop.end_ .turnLimit

def say (loop : Loop) (role : MessageRole) (content : List ContentBlock) : Loop :=
  {loop with messages := loop.messages ++ [{role := role,content := content}]}

def validateSubmitResult (input : Json) : Option String :=
  if byteLength (canonicalJsonValue input) > MAX_SUBMIT_RESULT_BYTES then
    some ("submit_result payload exceeds " ++ toString MAX_SUBMIT_RESULT_BYTES ++ " bytes")
  else none

/-- Takes the tool uses of a turn one after the other, up to the first that is to be executed. -/
def dispatch (aborted : Bool) (loop : Loop) : List ToolUse → List ContentBlock → List LoopEvent × Loop
  | [], resultBlocks => ([],(loop.say .user resultBlocks).nextTurn aborted)
  | use::rest, resultBlocks =>
    if aborted then ([],loop.end_ .cancelled)
    else if use.name = "submit_result" then
      match validateSubmitResult use.input with
      | none => ([],loop.end_ (.submitted use.input))
      | some error => dispatch aborted loop rest (resultBlocks ++ [.toolResult use.id error true])
    else ([{type := .toolCall,name := some use.name,detail := (Json.obj [("name",.str use.name),("input",use.input)]).stringify}],
      {loop with point := .executing use rest resultBlocks})

def texts (content : List ContentBlock) : List LoopEvent := content.filterMap fun block => match block with
  | .text text => some {type := .message,detail := text}
  | _ => none

def toolUses (content : List ContentBlock) : List ToolUse := content.filterMap fun block => match block with
  | .toolUse use => some use
  | _ => none

def spend (loop : Loop) (usage : TokenUsage) : Loop :=
  {loop with usage := {
    inputTokens := loop.usage.inputTokens + usage.inputTokens
    outputTokens := loop.usage.outputTokens + usage.outputTokens}}

def respond (aborted : Bool) (loop : Loop) (response : KimiResponse) : List LoopEvent × Loop :=
  let spent := (loop.spend response.usage).say .assistant response.content
  match toolUses response.content with
  | [] => (texts response.content,(spent.say .user [.text STALL_PROMPT]).nextTurn aborted)
  | uses =>
    let (events,after) := spent.dispatch aborted uses []
    (texts response.content ++ events,after)

def toolAnswered (aborted : Bool) (loop : Loop) (use : ToolUse) (rest : List ToolUse) (resultBlocks : List ContentBlock)
    (answer : ToolAnswer) : List LoopEvent × Loop :=
  let (events,after) := loop.dispatch aborted rest (resultBlocks ++ [.toolResult use.id answer.content answer.isError])
  ({type := .toolResult,name := some use.name,isError := some answer.isError,detail := (Json.obj [("name",.str use.name),
    ("isError",.bool answer.isError),("content",.str answer.content)]).stringify}::events,after)

end Loop

def runKimiAgentLoop (options : LoopOptions) : Loop :=
  Loop.nextTurn false {
    options := options
    messages := [{role := .user,content := [.text options.initialInput.stringify]}]
    usage := {inputTokens := 0,outputTokens := 0}
    turns := 0
    point := .settled}

end AgentOS.Kimi
