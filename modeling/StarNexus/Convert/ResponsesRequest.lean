import StarNexus.Lib.Arrange
import StarNexus.Convert.ClaudeReply

/-!
# Responses requests as chat requests

`ResponsesRequestToChatCompletionsRequest` converts the input items and the tools of a request of the Responses interface.  The
messages say what the items say, and no message is made for an item that says nothing, exactly if there are no reasoning items and
no outputs of custom tools; a function tool keeps its strict flag exactly if it has none.
-/

namespace StarNexus.Convert

open Lib List

-- the proofs never look inside a trimmed text
attribute [local irreducible] trimSpace

/-! ### Requests -/

/-- A value of type `any`: a value that is neither `nil` nor a string is known by its text and by its JSON text. -/
inductive AnyValue
  | nil
  | string (value : String)
  | other (shown marshalled : String)
  deriving DecidableEq

def AnyValue.interface2String : AnyValue → String
  | .nil => ""
  | .string value => value
  | .other shown _ => shown

/-- `responsesArgumentsString` and `responseToolOutputToChatContent`. -/
def AnyValue.argumentsString : AnyValue → String
  | .nil => ""
  | .string value => value
  | .other _ marshalled => marshalled

inductive PartMedia
  | image
  | file
  | audio
  | video
  deriving DecidableEq

inductive ContentPart
  | text (value : AnyValue)
  | media (kind : PartMedia) (payload : String)
  | other (raw : String)

inductive ItemContent
  | nil
  | string (value : String)
  | parts (value : List ContentPart)
  | other (raw : String)

structure InputItem where
  type : AnyValue := .nil
  role : AnyValue := .nil
  content : ItemContent := .nil
  callId : AnyValue := .nil
  id : AnyValue := .nil
  name : AnyValue := .nil
  arguments : AnyValue := .nil
  input : AnyValue := .nil
  output : AnyValue := .nil
  raw : String := ""

structure ResponsesTool where
  type : AnyValue
  name : AnyValue := .nil
  description : AnyValue := .nil
  parameters : AnyValue := .nil
  strict : Option Bool := none
  raw : String := ""

inductive RequestInput
  | absent
  | string (value : String)
  | items (value : List InputItem)
  | other (jsonType : String)

/-- `OpenAIResponsesRequest`, as far as messages and tools are made of it. -/
structure ResponsesRequest where
  model : String
  conversation : Bool := false
  previousResponseID : String := ""
  prompt : Bool := false
  contextManagement : Bool := false
  instructions : Option String := none
  input : RequestInput := .absent
  tools : List ResponsesTool := []

/-! ### Chat requests -/

inductive ChatPart
  | text (value : String)
  | media (kind : PartMedia) (payload : String)
  | other (raw : String)
  deriving DecidableEq

inductive ChatContent
  | string (value : String)
  | parts (value : List ChatPart)
  | other (raw : String)
  deriving DecidableEq

/-- `ToolCallRequest`: a custom tool call carries its item. -/
structure ChatToolCall where
  id : String
  custom : Option String := none
  name : String
  arguments : String
  deriving DecidableEq

structure ChatMessage where
  role : String
  content : ChatContent
  toolCalls : List ChatToolCall := []
  toolCallId : String := ""
  deriving DecidableEq

structure ChatTool where
  type : String
  name : String := ""
  description : String := ""
  parameters : AnyValue := .nil
  strict : Option Bool := none
  custom : Option String := none
  deriving DecidableEq

/-- `GeneralOpenAIRequest`, as far as it is about messages and tools. -/
structure ChatRequest where
  messages : List ChatMessage
  tools : List ChatTool
  deriving DecidableEq

/-! ### The conversion -/

def ContentPart.chatPart : ContentPart → ChatPart
  | .text value => .text value.interface2String
  | .media kind payload => .media kind payload
  | .other raw => .other raw

def ContentPart.isText : ContentPart → Bool
  | .text _ => true
  | _ => false

def ContentPart.getText : ContentPart → String
  | .text value => value.interface2String
  | _ => ""

/-- `responsesContentPartsToChatContent`: parts that are all texts become one text. -/
def responsesContentPartsToChatContent (parts : List ContentPart) : ChatContent :=
  if parts.all ContentPart.isText then .string (concat (parts.map ContentPart.getText)) else .parts (parts.map ContentPart.chatPart)

def responsesInputContentToChatContent : ItemContent → ChatContent
  | .nil => .string ""
  | .string value => .string value
  | .parts value => responsesContentPartsToChatContent value
  | .other raw => .other raw

def responsesCallID (item : InputItem) : String :=
  if trimSpace item.callId.interface2String ≠ "" then trimSpace item.callId.interface2String
  else trimSpace item.id.interface2String

def responsesFunctionCallItemToChatToolCall (item : InputItem) : Except String ChatToolCall :=
  let name := trimSpace item.name.interface2String
  if name = "" then throw "function_call item is missing name"
  else pure { id := responsesCallID item, name, arguments := item.arguments.argumentsString }

def responsesCustomToolCallItemToChatToolCall (item : InputItem) : ChatToolCall :=
  { id := responsesCallID item, custom := some item.raw, name := trimSpace item.name.interface2String
    arguments := item.input.argumentsString }

def addToLast (messages : List ChatMessage) (toolCall : ChatToolCall) : List ChatMessage :=
  messages.dropLast ++ messages.getLast?.toList.map fun m => { m with toolCalls := m.toolCalls ++ [toolCall] }

def appendToolCallToLastAssistant (messages : List ChatMessage) (toolCall : ChatToolCall) : List ChatMessage :=
  if messages.getLast?.map ChatMessage.role = some "assistant" then addToLast messages toolCall
  else addToLast (messages ++ [{ role := "assistant", content := .string "" }]) toolCall

inductive InputType
  | functionCall
  | customToolCall
  | functionCallOutput
  | customToolCallOutput
  | message
  | reasoning
  | other
  deriving DecidableEq

def InputItem.itemType (item : InputItem) : InputType :=
  let type := trimSpace item.type.interface2String
  if type = "function_call" then .functionCall
  else if type = "custom_tool_call" then .customToolCall
  else if type = "function_call_output" then .functionCallOutput
  else if type = "custom_tool_call_output" then .customToolCallOutput
  else if type = "message" ∨ type = "" then .message
  else if type = "reasoning" then .reasoning
  else .other

def InputItem.chatRole (item : InputItem) : String :=
  let role := trimSpace item.role.interface2String
  if role = "" then "user" else role

/-- `responsesInputItemToChatMessages`.  Items of all other types are taken for messages. -/
def responsesInputItemToChatMessages (messages : List ChatMessage) (item : InputItem) : Except String (List ChatMessage) :=
  match item.itemType with
  | .functionCall => do
    let toolCall ← responsesFunctionCallItemToChatToolCall item
    pure (appendToolCallToLastAssistant messages toolCall)
  | .customToolCall => pure (appendToolCallToLastAssistant messages (responsesCustomToolCallItemToChatToolCall item))
  | .functionCallOutput =>
    pure (messages ++
      [{ role := "tool", toolCallId := trimSpace item.callId.interface2String, content := .string item.output.argumentsString }])
  | _ => pure (messages ++ [{ role := item.chatRole, content := responsesInputContentToChatContent item.content }])

def instructionMessages : Option String → List ChatMessage
  | none => []
  | some instructions => if trimSpace instructions ≠ "" then [{ role := "system", content := .string instructions }] else []

def quoted (text : String) : String := (Char.ofNat 34).toString ++ text ++ (Char.ofNat 34).toString

def responsesRequestMessagesToChat (req : ResponsesRequest) : Except String (List ChatMessage) :=
  let messages := instructionMessages req.instructions
  match req.input with
  | .absent => pure messages
  | .string value => pure (messages ++ [{ role := "user", content := .string value }])
  | .items items => items.foldlM responsesInputItemToChatMessages messages
  | .other jsonType => throw ("unsupported responses input type " ++ quoted jsonType)

def ResponsesTool.toChat (tool : ResponsesTool) : ChatTool :=
  let type := trimSpace tool.type.interface2String
  if type = "function" then
    { type := "function", name := trimSpace tool.name.interface2String, description := tool.description.interface2String
      parameters := tool.parameters }
  else { type, custom := some tool.raw }

/-- `validateResponsesRequestCanBecomeChat`: the fields that cannot be converted. -/
def unsupportedFields (req : ResponsesRequest) : List String :=
  (if req.conversation then ["conversation"] else []) ++
    (if trimSpace req.previousResponseID ≠ "" then ["previous_response_id"] else []) ++
    (if req.prompt then ["prompt"] else []) ++ (if req.contextManagement then ["context_management"] else [])

def responsesRequestToChat (req : ResponsesRequest) : Except String ChatRequest :=
  if trimSpace req.model = "" then throw "model is required"
  else if unsupportedFields req ≠ [] then
    throw ("responses to chat conversion does not support stateful fields: " ++ String.intercalate ", " (unsupportedFields req))
  else do
    let messages ← responsesRequestMessagesToChat req
    pure { messages, tools := req.tools.map ResponsesTool.toChat }

/-! ### What is said -/

inductive Utterance
  | text (role text : String)
  | call (id name arguments : String)
  | output (id content : String)
  deriving DecidableEq

def spoken (role text : String) : List Utterance := if text = "" then [] else [.text role text]

def ChatPart.getText : ChatPart → String
  | .text value => value
  | _ => ""

def ChatContent.getText : ChatContent → String
  | .string value => value
  | .parts value => concat (value.map ChatPart.getText)
  | .other _ => ""

def ChatMessage.saying (m : ChatMessage) : List Utterance :=
  if m.role = "tool" then [.output m.toolCallId m.content.getText]
  else spoken m.role m.content.getText ++ m.toolCalls.map fun c => .call c.id c.name c.arguments

def ItemContent.getText : ItemContent → String
  | .nil => ""
  | .string value => value
  | .parts value => concat (value.map ContentPart.getText)
  | .other _ => ""

def InputItem.givenCallID (item : InputItem) : String :=
  if trimSpace item.callId.interface2String ≠ "" then item.callId.interface2String else item.id.interface2String

def InputItem.saying (item : InputItem) : List Utterance :=
  match item.itemType with
  | .functionCall => [.call item.givenCallID item.name.interface2String item.arguments.argumentsString]
  | .customToolCall => [.call item.givenCallID item.name.interface2String item.input.argumentsString]
  | .functionCallOutput | .customToolCallOutput => [.output item.callId.interface2String item.output.argumentsString]
  | .message => spoken item.chatRole item.content.getText
  | .reasoning | .other => []

def ResponsesRequest.items (req : ResponsesRequest) : List InputItem :=
  match req.input with
  | .items items => items
  | _ => []

def ResponsesRequest.inputText (req : ResponsesRequest) : String :=
  match req.input with
  | .string value => value
  | _ => ""

def ResponsesRequest.saying (req : ResponsesRequest) : List Utterance :=
  (instructionMessages req.instructions).flatMap ChatMessage.saying ++ spoken "user" req.inputText ++
    req.items.flatMap InputItem.saying

def InputItem.Legal (item : InputItem) : Prop :=
  item.itemType ≠ .other ∧ (item.itemType = .message → item.chatRole ≠ "tool") ∧
    (item.itemType = .customToolCallOutput ∨ item.itemType = .reasoning → item.role = .nil)

instance InputItem.Legal.decidable (item : InputItem) : Decidable item.Legal := inferInstanceAs (Decidable (_ ∧ _ ∧ _))

def ResponsesTool.isFunction (tool : ResponsesTool) : Bool := trimSpace tool.type.interface2String = "function"

/-- **The conversion keeps the request**: what is said, by messages that say something, and the function tools. -/
structure KeepsRequest (req : ResponsesRequest) (out : ChatRequest) : Prop where
  messages : out.messages.flatMap ChatMessage.saying = req.saying
  silent : ∀ front item back, req.items = front ++ item :: back → item.itemType = .reasoning →
    responsesRequestMessagesToChat { req with input := .items (front ++ [item]) } =
      responsesRequestMessagesToChat { req with input := .items front }
  tools : (out.tools.filter (·.type = "function")).map (fun tool => (tool.name, tool.parameters, tool.strict)) =
    (req.tools.filter (·.isFunction)).map fun tool => (tool.name.interface2String, tool.parameters, tool.strict)

def InputItem.Tidy (item : InputItem) : Prop :=
  (item.itemType = .functionCall ∨ item.itemType = .customToolCall →
    trimSpace item.givenCallID = item.givenCallID ∧ trimSpace item.name.interface2String = item.name.interface2String) ∧
    (item.itemType = .functionCallOutput → trimSpace item.callId.interface2String = item.callId.interface2String)

instance (item : InputItem) : Decidable item.Tidy := inferInstanceAs (Decidable (_ ∧ _))

/-! ### One item -/

def InputItem.sent (item : InputItem) : List Utterance :=
  match item.itemType with
  | .functionCall => [.call (responsesCallID item) (trimSpace item.name.interface2String) item.arguments.argumentsString]
  | .customToolCall => [.call (responsesCallID item) (trimSpace item.name.interface2String) item.input.argumentsString]
  | .functionCallOutput => [.output (trimSpace item.callId.interface2String) item.output.argumentsString]
  | _ => spoken item.chatRole item.content.getText

lemma getText_chatPart (part : ContentPart) : part.chatPart.getText = part.getText := by
  cases part <;> rfl

lemma getText_chatContent (content : ItemContent) : (responsesInputContentToChatContent content).getText = content.getText := by
  cases content with
  | nil | string value => rfl
  | parts value =>
    show (responsesContentPartsToChatContent value).getText = concat (value.map ContentPart.getText)
    unfold responsesContentPartsToChatContent
    split
    · rfl
    · show concat ((value.map ContentPart.chatPart).map ChatPart.getText) = _
      rw [map_map]
      exact congrArg concat (map_congr_left fun part _ => getText_chatPart part)
  | other raw => rfl

section

variable (messages : List ChatMessage)

lemma addToLast_append (m : ChatMessage) (toolCall : ChatToolCall) :
    addToLast (messages ++ [m]) toolCall = messages ++ [{ m with toolCalls := m.toolCalls ++ [toolCall] }] := by
  simp [addToLast]

lemma says_addToLast {m : ChatMessage} (hrole : m.role = "assistant") (c : ChatToolCall) :
    (addToLast (messages ++ [m]) c).flatMap ChatMessage.saying =
      (messages ++ [m]).flatMap ChatMessage.saying ++ [.call c.id c.name c.arguments] := by
  have htool : ¬m.role = "tool" := by
    rw [hrole]
    decide
  rw [addToLast_append, flatMap_append, flatMap_append, append_assoc]
  simp [ChatMessage.saying, htool]

lemma says_appendToolCall (c : ChatToolCall) : (appendToolCallToLastAssistant messages c).flatMap ChatMessage.saying =
      messages.flatMap ChatMessage.saying ++ [.call c.id c.name c.arguments] := by
  unfold appendToolCallToLastAssistant
  split
  next hlast =>
    obtain ⟨m, hm, hrole⟩ := Option.map_eq_some_iff.1 hlast
    obtain ⟨front, rfl⟩ := getLast?_eq_some_iff.1 hm
    exact says_addToLast front hrole c
  next =>
    rw [says_addToLast messages rfl c]
    simp [ChatMessage.saying, spoken, ChatContent.getText]

end

lemma trimSpace_empty : trimSpace "" = "" := by decide +kernel

variable {item : InputItem}

lemma InputItem.Legal.chatRole_ne (h : item.Legal) (htype : item.itemType ≠ .functionCall)
    (htype' : item.itemType ≠ .customToolCall) (htype'' : item.itemType ≠ .functionCallOutput) : item.chatRole ≠ "tool" := by
  cases hitem : item.itemType with
  | functionCall => exact absurd hitem htype
  | customToolCall => exact absurd hitem htype'
  | functionCallOutput => exact absurd hitem htype''
  | message => exact h.2.1 hitem
  | other => exact absurd hitem h.1
  | customToolCallOutput | reasoning =>
    have hrole : item.chatRole = "user" := by
      unfold InputItem.chatRole
      rw [h.2.2 (by simp [hitem])]
      exact if_pos trimSpace_empty
    rw [hrole]
    decide

lemma says_message (messages : List ChatMessage) (hrole : item.chatRole ≠ "tool") :
    (messages ++ [({ role := item.chatRole, content := responsesInputContentToChatContent item.content } : ChatMessage)]).flatMap
        ChatMessage.saying =
      messages.flatMap ChatMessage.saying ++ spoken item.chatRole item.content.getText := by
  rw [← getText_chatContent]
  simp [ChatMessage.saying, hrole]

variable {messages messages' : List ChatMessage}

lemma step_sent (hlegal : item.Legal)
    (h : responsesInputItemToChatMessages messages item = .ok messages') :
    messages'.flatMap ChatMessage.saying = messages.flatMap ChatMessage.saying ++ item.sent := by
  have hrole := hlegal.chatRole_ne
  unfold responsesInputItemToChatMessages at h
  unfold InputItem.sent
  cases htype : item.itemType with
  | functionCall =>
    rw [htype] at h
    unfold responsesFunctionCallItemToChatToolCall at h
    by_cases hname : trimSpace item.name.interface2String = ""
    · simp [hname, throw, throwThe, MonadExceptOf.throw] at h
    · rw [if_neg hname] at h
      rw [← Except.ok.inj h]
      exact says_appendToolCall messages _
  | customToolCall =>
    rw [htype] at h
    rw [← Except.ok.inj h]
    exact says_appendToolCall messages _
  | functionCallOutput =>
    rw [htype] at h
    rw [← Except.ok.inj h, flatMap_append]
    rfl
  | customToolCallOutput | message | reasoning | other =>
    rw [htype] at h hrole
    rw [← Except.ok.inj h]
    exact says_message messages (hrole nofun nofun nofun)

lemma run_sent {items : List InputItem} (hlegal : ∀ item ∈ items, item.Legal)
    (h : items.foldlM responsesInputItemToChatMessages messages = .ok messages') :
    messages'.flatMap ChatMessage.saying = messages.flatMap ChatMessage.saying ++ items.flatMap InputItem.sent := by
  induction items generalizing messages with
  | nil =>
    rw [← Except.ok.inj h, flatMap_nil, append_nil]
  | cons item items ih =>
    rw [foldlM_cons] at h
    cases hstep : responsesInputItemToChatMessages messages item with
    | error e =>
      rw [hstep] at h
      exact nomatch h
    | ok next =>
      rw [hstep] at h
      rw [ih (fun x hx => hlegal x (mem_cons_of_mem item hx)) h, step_sent (hlegal item (.head _)) hstep,
        flatMap_cons, append_assoc]

lemma step_reasoning (htype : item.itemType = .reasoning)
    (h : responsesInputItemToChatMessages messages item = .ok messages') : messages' ≠ messages := by
  unfold responsesInputItemToChatMessages at h
  rw [htype] at h
  rw [← Except.ok.inj h]
  simp

lemma sent_length_le (hlegal : item.Legal) (htype : item.itemType ≠ .reasoning) :
    item.sent.length ≤ item.saying.length := by
  unfold InputItem.sent InputItem.saying
  cases hitem : item.itemType with
  | functionCall | customToolCall | functionCallOutput | message => exact le_rfl
  | customToolCallOutput =>
    show (spoken _ _).length ≤ 1
    unfold spoken
    split <;> simp
  | reasoning => exact absurd hitem htype
  | other => exact absurd hitem hlegal.1

lemma responsesCallID_eq (item : InputItem) : responsesCallID item = trimSpace item.givenCallID := by
  unfold responsesCallID InputItem.givenCallID
  split <;> rfl

lemma sent_eq_saying_iff (hlegal : item.Legal) (htype : item.itemType ≠ .reasoning) :
    item.sent = item.saying ↔ item.itemType ≠ .customToolCallOutput ∧ item.Tidy := by
  unfold InputItem.sent InputItem.saying InputItem.Tidy
  rw [responsesCallID_eq]
  cases hitem : item.itemType with
  | functionCall | customToolCall | functionCallOutput | message => simp
  | customToolCallOutput =>
    simp only [ne_eq, not_true_eq_false, false_and, iff_false]
    unfold spoken
    split <;> simp
  | reasoning => exact absurd hitem htype
  | other => exact absurd hitem hlegal.1

/-! ### The request -/

variable {req : ResponsesRequest}

open ResponsesTool

lemma responsesRequestToChat_ok {out : ChatRequest} (h : responsesRequestToChat req = .ok out) :
    responsesRequestMessagesToChat req = .ok out.messages ∧ out.tools = req.tools.map toChat := by
  unfold responsesRequestToChat at h
  split at h
  · exact nomatch h
  · split at h
    · exact nomatch h
    · cases hmessages : responsesRequestMessagesToChat req with
      | error e =>
        rw [hmessages] at h
        exact nomatch h
      | ok messages =>
        rw [hmessages] at h
        rw [← Except.ok.inj h]
        exact ⟨rfl, rfl⟩

variable {messages : List ChatMessage}

lemma messages_said (hlegal : ∀ item ∈ req.items, item.Legal)
    (h : responsesRequestMessagesToChat req = .ok messages) :
    messages.flatMap ChatMessage.saying =
      (instructionMessages req.instructions).flatMap ChatMessage.saying ++ spoken "user" req.inputText ++
        req.items.flatMap InputItem.sent := by
  unfold responsesRequestMessagesToChat at h
  unfold ResponsesRequest.inputText
  unfold ResponsesRequest.items at hlegal ⊢
  cases hinput : req.input with
  | absent =>
    rw [hinput] at h
    rw [← Except.ok.inj h]
    simp [spoken]
  | string value =>
    rw [hinput] at h
    rw [← Except.ok.inj h]
    simp [ChatMessage.saying, ChatContent.getText]
  | items items =>
    rw [hinput] at h hlegal
    rw [run_sent hlegal h]
    simp [spoken]
  | other jsonType =>
    rw [hinput] at h
    exact nomatch h

variable {front back : List InputItem}

lemma foldlM_append_ok
    (h : (front ++ back).foldlM responsesInputItemToChatMessages messages = .ok messages') :
    ∃ middle, front.foldlM responsesInputItemToChatMessages messages = .ok middle ∧
      back.foldlM responsesInputItemToChatMessages middle = .ok messages' := by
  rw [foldlM_append] at h
  cases hfront : front.foldlM responsesInputItemToChatMessages messages with
  | error e =>
    rw [hfront] at h
    exact nomatch h
  | ok middle =>
    rw [hfront] at h
    exact ⟨middle, rfl, h⟩

lemma reasoning_heard (h : responsesRequestMessagesToChat req = .ok messages) (hitems : req.items = front ++ item :: back)
    (htype : item.itemType = .reasoning) :
    responsesRequestMessagesToChat { req with input := .items (front ++ [item]) } ≠
      responsesRequestMessagesToChat { req with input := .items front } := by
  have hinput : req.input = .items (front ++ item :: back) := by
    unfold ResponsesRequest.items at hitems
    cases hinput : req.input with
    | items items =>
      rw [hinput] at hitems
      exact congrArg RequestInput.items hitems
    | absent | string | other =>
      rw [hinput] at hitems
      simp at hitems
  unfold responsesRequestMessagesToChat at h
  rw [hinput] at h
  obtain ⟨middle, hfront, hback⟩ := foldlM_append_ok h
  have hsnoc : (front ++ [item]).foldlM responsesInputItemToChatMessages (instructionMessages req.instructions) =
      responsesInputItemToChatMessages middle item := by
    rw [foldlM_append, hfront]
    show (responsesInputItemToChatMessages middle item >>= pure) = _
    exact bind_pure _
  intro hsame
  have hstep : responsesInputItemToChatMessages middle item = .ok middle := hsnoc.symm.trans (hsame.trans hfront)
  exact step_reasoning htype hstep rfl

lemma toChat_type (tool : ResponsesTool) : decide (tool.toChat.type = "function") = tool.isFunction := by
  unfold toChat isFunction
  by_cases htype : trimSpace tool.type.interface2String = "function"
  · simp [htype]
  · simp [htype]

lemma function_toChat {tool : ResponsesTool} (h : tool.isFunction = true) :
    (tool.toChat.name, tool.toChat.parameters, tool.toChat.strict) =
      (trimSpace tool.name.interface2String, tool.parameters, none) := by
  have htype : trimSpace tool.type.interface2String = "function" := by simpa [isFunction] using h
  unfold toChat
  rw [if_pos htype]

lemma tools_kept_iff (tools : List ResponsesTool) :
    ((tools.map toChat).filter (·.type = "function")).map (fun tool => (tool.name, tool.parameters, tool.strict)) =
        ((tools.filter (·.isFunction)).map fun tool => (tool.name.interface2String, tool.parameters, tool.strict)) ↔
      ∀ tool ∈ tools, tool.isFunction = true →
        tool.strict = none ∧ trimSpace tool.name.interface2String = tool.name.interface2String := by
  have hfilter : (tools.map toChat).filter (·.type = "function") =
      (tools.filter (·.isFunction)).map toChat := by
    rw [filter_map]
    exact congrArg _ (filter_congr fun tool _ => toChat_type tool)
  rw [hfilter, map_map, map_inj_left]
  constructor
  · intro h tool htool hfunction
    have hsame := h tool (mem_filter.2 ⟨htool, hfunction⟩)
    rw [Function.comp, function_toChat hfunction] at hsame
    simp only [Prod.mk.injEq, true_and] at hsame
    exact ⟨hsame.2.symm, hsame.1⟩
  · intro h tool htool
    obtain ⟨htool, hfunction⟩ := mem_filter.1 htool
    obtain ⟨hstrict, hname⟩ := h tool htool hfunction
    rw [Function.comp, function_toChat hfunction, hstrict, hname]

/-- **Responses requests** are kept exactly if they have none of these, and no blanks around ids and names. -/
theorem request_kept_iff {req : ResponsesRequest} {out : ChatRequest} (h : responsesRequestToChat req = .ok out)
    (hlegal : ∀ item ∈ req.items, item.Legal) :
    KeepsRequest req out ↔
      (∀ item ∈ req.items, item.itemType ≠ .reasoning ∧ item.itemType ≠ .customToolCallOutput ∧ item.Tidy) ∧
        ∀ tool ∈ req.tools, tool.isFunction = true →
          tool.strict = none ∧ trimSpace tool.name.interface2String = tool.name.interface2String := by
  obtain ⟨hmessages, htools⟩ := responsesRequestToChat_ok h
  constructor
  · intro hkeeps
    have hreasoning : ∀ item ∈ req.items, item.itemType ≠ .reasoning := by
      intro item hitem htype
      obtain ⟨front, back, hitems⟩ := append_of_mem hitem
      exact reasoning_heard hmessages hitems htype (hkeeps.silent front item back hitems htype)
    have hsent := hkeeps.messages
    rw [messages_said hlegal hmessages] at hsent
    have hsaid := append_cancel_left hsent
    have hlength := length_eq_of_flatMap (fun item hitem => sent_length_le (hlegal item hitem) (hreasoning item hitem))
      (congrArg length hsaid)
    have hkept := eq_of_flatMap hlength hsaid
    have htool := hkeeps.tools
    rw [htools, tools_kept_iff] at htool
    refine ⟨fun item hitem => ⟨hreasoning item hitem, ?_⟩, htool⟩
    exact (sent_eq_saying_iff (hlegal item hitem) (hreasoning item hitem)).1 (hkept item hitem)
  · rintro ⟨hitems, htool⟩
    have hsaid : req.items.flatMap InputItem.sent = req.items.flatMap InputItem.saying :=
      flatMap_congr fun item hitem => (sent_eq_saying_iff (hlegal item hitem) (hitems item hitem).1).2 (hitems item hitem).2
    refine ⟨?_, ?_, ?_⟩
    · rw [messages_said hlegal hmessages, hsaid]
      rfl
    · intro front item back hsplit htype
      have hmem : item ∈ req.items := by
        rw [hsplit]
        exact mem_append_right _ (.head _)
      exact absurd htype (hitems item hmem).1
    · rw [htools, tools_kept_iff]
      exact htool

theorem request_kept_iff_weather :
    KeepsRequest
      { model := "m", instructions := some "Be brief."
        input := .items [
          { role := .string "user", content := .parts [.text (.string "Rain"), .text (.string " today?")] },
          { type := .string "function_call", callId := .string "c", name := .string "weather", arguments := .string "here" },
          { type := .string "function_call_output", callId := .string "c", output := .string "rain" }]
        tools := [{ type := .string "function", name := .string "weather" }] }
      { messages := [
          { role := "system", content := .string "Be brief." },
          { role := "user", content := .string "Rain today?" },
          { role := "assistant", content := .string "", toolCalls := [{ id := "c", name := "weather", arguments := "here" }] },
          { role := "tool", content := .string "rain", toolCallId := "c" }]
        tools := [{ type := "function", name := "weather" }] } :=
  (request_kept_iff (by decide +kernel) (by decide +kernel)).2 ⟨by decide +kernel, by decide +kernel⟩

/-- The output of a custom tool becomes an empty message of the user, a reasoning item as well, and the strict flag is dropped. -/
theorem custom_output_lost :
    ∃ (req : ResponsesRequest) (out : ChatRequest), responsesRequestToChat req = .ok out ∧ (∀ item ∈ req.items, item.Legal) ∧
      out.messages = [
        { role := "user", content := .string "" },
        { role := "assistant", content := .string "",
          toolCalls := [{ id := "c", custom := some "", name := "patch", arguments := "diff" }] },
        { role := "user", content := .string "" }] ∧
      out.tools = [{ type := "function", name := "weather" }] ∧
      Utterance.output "c" "done" ∈ req.saying ∧ req.tools.map ResponsesTool.strict = [some true] ∧ ¬KeepsRequest req out := by
  refine ⟨{ model := "m"
            input := .items [
              { type := .string "reasoning" },
              { type := .string "custom_tool_call", callId := .string "c", name := .string "patch", input := .string "diff" },
              { type := .string "custom_tool_call_output", callId := .string "c", output := .string "done" }]
            tools := [{ type := .string "function", name := .string "weather", strict := some true }] },
    ⟨_, _⟩, by decide +kernel, by decide +kernel, rfl, rfl, by decide +kernel, rfl, fun h => ?_⟩
  exact absurd h.tools (by decide +kernel)

end StarNexus.Convert
