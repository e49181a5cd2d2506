import StarNexus.Convert.Gemini
import StarNexus.Convert.ClaudeToOpenAI
import StarNexus.Convert.OpenAIToClaude
import StarNexus.Lib.Text

/-!
# Requests that make a converter panic

The three request converters with the checks that Go makes at run time: a slice within its array, a pointer that is not
nil, a value of the asserted type.  The requests are as they decode: an image block may lack its source, a tool schema and
a stop list may hold any value.
-/

namespace StarNexus.Convert

open Lib Checked List

inductive JSON where
  | null
  | string (value : String)
  | array (values : List JSON)
  | object (fields : List (String × JSON))
  /-- A number or a truth value. -/
  | other (text : String)

def JSON.field (value : JSON) (key : String) : JSON :=
  match value with
  | .object fields => (fields.find? fun x => decide (x.1 = key)).elim .null Prod.snd
  | _ => .null

def JSON.string? : JSON → Option String
  | .string value => some value
  | _ => none

def JSON.asString (value : JSON) : Checked String := Checked.deref value.string?

/-! ## Gemini -/

section gemini

variable {J : Type} (toJSONString : J → String)

lemma convertStop_ok_iff (stopSequences : Slice String) :
    (∃ stop, convertStop stopSequences = .ok stop ∧ stop.getD [] = stopSequences.elems.take 4) ↔
      stopSequences.elems = [] ∨ 4 ≤ stopSequences.elems.length := by
  unfold convertStop
  by_cases hpos : 0 < stopSequences.elems.length
  swap
  · have hnil : stopSequences.elems = [] := eq_nil_of_length_eq_zero (by omega)
    rw [hnil]
    exact ⟨fun _ => .inl rfl, fun _ => ⟨none, rfl, rfl⟩⟩
  rw [if_pos hpos]
  constructor
  · rintro ⟨stop, hstop, htake⟩
    cases hup : stopSequences.upTo 4 with
    | ok l =>
      rw [hup] at hstop
      obtain rfl := ok.inj hstop
      have hlen := Slice.length_of_upTo hup
      have htake' : l = stopSequences.elems.take 4 := htake
      rw [htake', length_take] at hlen
      omega
    | error message | panicked => rw [hup] at hstop; cases hstop
  · rintro (hnil | hlen)
    · simp [hnil] at hpos
    · rw [Slice.upTo_of_le _ hlen]
      exact ⟨some _, rfl, rfl⟩

lemma gemini_stop_iff (req : GeminiRequest J) :
    (∃ out, geminiToOpenAIRequest toJSONString req = .ok out ∧
        out.stop.getD [] = req.generationConfig.stopSequences.elems.take 4) ↔
      req.generationConfig.stopSequences.elems = [] ∨ 4 ≤ req.generationConfig.stopSequences.elems.length := by
  rw [← convertStop_ok_iff]
  unfold geminiToOpenAIRequest
  dsimp only
  generalize convertStop req.generationConfig.stopSequences = stop
  cases stop with
  | ok stop =>
    constructor
    · rintro ⟨out, hout, hstop⟩
      obtain rfl := ok.inj hout
      exact ⟨stop, rfl, hstop⟩
    · rintro ⟨stop', hstop', htake⟩
      obtain rfl := ok.inj hstop'
      exact ⟨_, rfl, htake⟩
  | error message | panicked => simp

end gemini

/-! ## Messages requests -/

/-- A block as it decodes: the `Source` of an image block may be nil. -/
inductive DecodedBlock (J : Type) where
  | full (block : ClaudeMediaMessage J)
  | imageWithoutSource (id name : String)

inductive DecodedContent (J : Type) where
  | string (content : String)
  | blocks (content : List (DecodedBlock J))
  | malformed

structure DecodedMessage (J : Type) where
  role : String
  content : DecodedContent J

structure ClaudeThinking where
  type : String
  budgetTokens : Option ℤ := none
  display : String := ""

/-- `ClaudeRequest` as it decodes; `tools` are nil if they do not parse. -/
structure DecodedRequest (J : Type) where
  system : ClaudeSystem := .absent
  messages : List (DecodedMessage J) := []
  stopSequences : List String := []
  tools : List (FunctionRequest J) := []
  thinking : Option ClaudeThinking := none

inductive ChatStop where
  | single (stop : String)
  | several (stops : List String)

/-- The chat request that is made of a Messages request; the reasoning is switched on with a number of tokens. -/
structure ClaudeAsChat (J : Type) where
  messages : List Message
  stop : Option ChatStop
  tools : List (FunctionRequest J)
  reasoning : Option (Bool × ℤ)

open DecodedBlock

section claude

variable {J : Type}

def DecodedBlock.seen : DecodedBlock J → ClaudeMediaMessage J
  | .full block => block
  | .imageWithoutSource id name => .other id name

def DecodedContent.seen : DecodedContent J → ClaudeContent J
  | .string content => .string content
  | .blocks content => .blocks (content.map DecodedBlock.seen)
  | .malformed => .malformed

/-- The request that the search for the name of a tool sees; it does not look at roles. -/
def DecodedMessage.seen (m : DecodedMessage J) : ClaudeMessage J :=
  ⟨if m.role = "assistant" then .assistant else .user, m.content.seen⟩

def DecodedRequest.seen (req : DecodedRequest J) : ClaudeRequest J :=
  { system := req.system, messages := req.messages.map DecodedMessage.seen }

variable (toJSONString : J → String) (marshal : List ResultBlock → String)

/-- One block.  An image is read through the pointer to its source. -/
def checkedBlock (req : DecodedRequest J) (acc : Collected) : DecodedBlock J → Checked Collected
  | .full block => pure (convertBlock toJSONString marshal req.seen acc block)
  | .imageWithoutSource .. => .panicked

def collectedMessages (role : String) (acc : Collected) : List Message :=
  let openAIMessage : Message :=
    { role
      toolCalls := if acc.toolCalls = [] then none else some acc.toolCalls
      content := if acc.mediaMessages ≠ [] ∧ acc.toolCalls = [] then .media acc.mediaMessages else .null }
  if openAIMessage.content.parseContent ≠ [] ∨ openAIMessage.toolCalls.isSome then acc.openAIMessages ++ [openAIMessage]
  else acc.openAIMessages

def checkedMessage (req : DecodedRequest J) (openAIMessages : List Message) (m : DecodedMessage J) :
    Checked (List Message) :=
  match m.content with
  | .string content => pure (openAIMessages ++ [{ role := m.role, content := .string content }])
  | .malformed => .error "cannot unmarshal content"
  | .blocks contents => do
    let acc ← contents.foldlM (checkedBlock toJSONString marshal req) { openAIMessages }
    pure (collectedMessages m.role acc)

def claudeStop (stopSequences : List String) : Checked (Option ChatStop) :=
  if stopSequences.length = 1 then do
    let stop ← Checked.index stopSequences 0
    pure (some (.single stop))
  else if 1 < stopSequences.length then pure (some (.several stopSequences))
  else pure none

def claudeReasoning (thinking : Option ClaudeThinking) : Option (Bool × ℤ) :=
  thinking.map fun t =>
    if t.type = "enabled" then (true, t.budgetTokens.getD 0) else if t.type = "adaptive" then (true, 0) else (false, 0)

/-- `ClaudeToOpenAIRequest`. -/
def checkedClaudeToOpenAI (isOpenRouter isOpenRouterClaude : Bool) (req : DecodedRequest J) :
    Checked (ClaudeAsChat J) := do
  let stop ← claudeStop req.stopSequences
  let messages ← req.messages.foldlM (checkedMessage toJSONString marshal req) (req.system.messages isOpenRouterClaude)
  pure
    { messages
      stop
      tools := req.tools
      reasoning := if isOpenRouter then claudeReasoning req.thinking else none }

def DecodedBlock.hasSource : DecodedBlock J → Bool
  | .full _ => true
  | .imageWithoutSource .. => false

variable (block : ClaudeMediaMessage J)

@[simp] lemma hasSource_full : (full block).hasSource := rfl

@[simp] lemma seen_full : (full block).seen = block := rfl

def DecodedContent.Sourced : DecodedContent J → Prop
  | .blocks content => ∀ block ∈ content, block.hasSource
  | _ => True

lemma claudeStop_ok (stopSequences : List String) : ∃ stop, claudeStop stopSequences = .ok stop := by
  match stopSequences with
  | [] | [s] => exact ⟨_, rfl⟩
  | s :: t :: rest => exact ⟨some (.several (s :: t :: rest)), by simp [claudeStop, pure]⟩

variable (req : DecodedRequest J)

lemma foldlM_checkedBlock (contents : List (DecodedBlock J)) (acc : Collected) :
    contents.foldlM (checkedBlock toJSONString marshal req) acc =
      if ∀ block ∈ contents, block.hasSource then
        .ok ((contents.map seen).foldl (convertBlock toJSONString marshal req.seen) acc)
      else .panicked := by
  induction contents generalizing acc with
  | nil => simp [pure]
  | cons block contents ih =>
    cases block with
    | full block =>
      show contents.foldlM _ _ = _
      rw [ih]
      simp
    | imageWithoutSource id name =>
      rfl

variable (req : DecodedRequest J) (openAIMessages : List Message) (m : DecodedMessage J)

lemma checkedMessage_safe_iff : (checkedMessage toJSONString marshal req openAIMessages m).Safe ↔ m.content.Sourced := by
  unfold checkedMessage DecodedContent.Sourced
  cases m.content with
  | string content | malformed => simp
  | blocks contents =>
    dsimp only
    rw [foldlM_checkedBlock]
    split_ifs with h
    · simp only [ok_bind, safe_pure, true_iff]
      exact h
    · simp only [panicked_bind, not_safe_panicked, false_iff]
      exact h

lemma checkedMessage_ok_iff : (∃ messages, checkedMessage toJSONString marshal req openAIMessages m = .ok messages) ↔
      m.content.Sourced ∧ m.content ≠ .malformed := by
  unfold checkedMessage DecodedContent.Sourced
  cases m.content with
  | string content => simp [pure]
  | malformed => simp
  | blocks contents =>
    dsimp only
    rw [foldlM_checkedBlock]
    split_ifs with h
    · simp only [ne_eq, reduceCtorEq, not_false_eq_true, and_true]
      exact ⟨fun _ => h, fun _ => ⟨_, rfl⟩⟩
    · simp only [panicked_bind, reduceCtorEq, exists_false, ne_eq, not_false_eq_true, and_true, false_iff]
      exact h

lemma claude_safe_iff (isOpenRouter isOpenRouterClaude : Bool) (req : DecodedRequest J) :
    (checkedClaudeToOpenAI toJSONString marshal isOpenRouter isOpenRouterClaude req).Safe ↔
      ∀ pre m post, req.messages = pre ++ m :: post → (∀ x ∈ pre, x.content ≠ .malformed) → m.content.Sourced := by
  obtain ⟨stop, hstop⟩ := claudeStop_ok req.stopSequences
  unfold checkedClaudeToOpenAI
  rw [hstop, ok_bind, safe_bind_iff,
    safe_foldlM_iff (checkedMessage_safe_iff toJSONString marshal req)
      (checkedMessage_ok_iff toJSONString marshal req)]
  simp

end claude

/-! ## Chat requests -/

structure TextMessage where
  role : String
  content : JSON := .null
  toolCalls : Option (List ToolCallRequest) := none
  toolCallId : String := ""

/-- `WebSearchOptions`, with the value of `UserLocation` if it is there. -/
structure WebSearchOptions where
  userLocation : Option JSON := none
  searchContextSize : String := ""

/-- `GeneralOpenAIRequest` as far as `RequestOpenAI2ClaudeMessage` reads it.  `reasoning` is `some none` if it does not
parse, and has its `MaxTokens` otherwise. -/
structure TextRequest where
  model : String := ""
  messages : List TextMessage := []
  tools : List (FunctionRequest JSON) := []
  webSearchOptions : Option WebSearchOptions := none
  maxTokens : Option ℕ := none
  maxCompletionTokens : Option ℕ := none
  temperature : Option ℚ := none
  topP : Option ℚ := none
  topK : Option ℤ := none
  stream : Option Bool := none
  toolChoice : JSON := .null
  parallelTooCalls : Option Bool := none
  reasoningEffort : String := ""
  reasoning : Option (Option ℤ) := none
  stop : JSON := .null

structure ClaudeSettings where
  defaultMaxTokens : String → ℕ
  thinkingAdapterEnabled : Bool
  thinkingAdapterBudgetTokensPercentage : ℚ
  shouldPreserveThinkingSuffix : String → Bool

structure ClaudeToolChoice where
  type : String
  name : String := ""
  disableParallelToolUse : Bool := false

/-- `dto.Tool` or `ClaudeWebSearchTool`. -/
inductive ClaudeTool where
  | function (name description : String) (inputSchema : List (String × JSON))
  | webSearch (maxUses : ℕ) (timezone country region city : Option String)

structure ClaudeHead where
  model : String
  maxTokens : Option ℕ := none
  temperature : Option ℚ := none
  topP : Option ℚ := none
  topK : Option ℤ := none
  stream : Bool := false
  toolChoice : Option ClaudeToolChoice := none
  thinking : Option ClaudeThinking := none
  /-- The effort of `OutputConfig`. -/
  effort : Option String := none

def JSON.isNull : JSON → Bool
  | .null => true
  | _ => false

/-- The type of a tool schema, which is asserted to be a string if it is there. -/
def schemaType (type : JSON) : Checked (List (String × JSON)) :=
  if type.isNull then pure []
  else do
    let type ← type.asString
    pure [("type", .string type)]

def inputSchema (params : List (String × JSON)) : Checked (List (String × JSON)) := do
  let value := JSON.object params
  let type ← schemaType (value.field "type")
  pure (type ++ [("properties", value.field "properties"), ("required", value.field "required")] ++
    params.filter fun x => x.1 ≠ "type" ∧ x.1 ≠ "properties" ∧ x.1 ≠ "required")

def convertTool (claudeTools : List ClaudeTool) (tool : FunctionRequest JSON) : Checked (List ClaudeTool) :=
  match tool.parameters with
  | .object params => do
    let schema ← inputSchema params
    pure (claudeTools ++ [.function tool.name tool.description schema])
  | _ => pure claudeTools

def webSearchTool (options : WebSearchOptions) : ClaudeTool :=
  let approximate := (options.userLocation.getD .null).field "approximate"
  let part (key : String) : Option String := (approximate.field key).string?.filter (· ≠ "")
  let maxUses :=
    if options.searchContextSize = "low" then 1
    else if options.searchContextSize = "medium" then 5
    else if options.searchContextSize = "high" then 10
    else 0
  .webSearch maxUses (part "timezone") (part "country") (part "region") (part "city")

def mapToolChoice (toolChoice : JSON) (parallelToolCalls : Option Bool) : Option ClaudeToolChoice :=
  let choice : Option ClaudeToolChoice :=
    match toolChoice with
    | .string value =>
      if value = "auto" then some { type := "auto" }
      else if value = "required" then some { type := "any" }
      else if value = "none" then some { type := "none" }
      else none
    | value => ((value.field "function").field "name").string?.map fun name => { type := "tool", name }
  match parallelToolCalls with
  | none => choice
  | some parallel =>
    let choice := choice.getD { type := "auto" }
    some (if choice.type ≠ "none" then { choice with disableParallelToolUse := !parallel } else choice)

/-- `strings.HasPrefix` and `strings.HasSuffix`. -/
def hasSuffix (s ending : String) : Bool := ending.toList.isSuffixOf s.toList

def trimSuffix (s ending : String) : String :=
  if hasSuffix s ending then String.ofList (s.toList.take (s.toList.length - ending.toList.length)) else s

/-- `TrimEffortSuffix`: the model without its suffix, and the effort. -/
def trimEffortSuffix (model : String) : Option (String × String) :=
  (["-max", "-xhigh", "-high", "-medium", "-low", "-minimal"].find? (hasSuffix model)).map fun suffix =>
    (trimSuffix model suffix, String.ofList (suffix.toList.drop 1))

def rejectsSampling (model : String) : Bool := hasPrefix model "claude-opus-4-7" || hasPrefix model "claude-opus-4-8"

def thinkingAdapter (settings : ClaudeSettings) (trimmedModel : String) (head : ClaudeHead) : Checked ClaudeHead :=
  if rejectsSampling trimmedModel then
    pure { head with
      thinking := some { type := "adaptive", display := "summarized" }, effort := some "high", temperature := none
      topP := none, topK := none }
  else do
    let head := if head.maxTokens.all (· < 1280) then { head with maxTokens := some 1280 } else head
    let maxTokens ← Checked.deref head.maxTokens
    let budget := ⌊(maxTokens : ℚ) * settings.thinkingAdapterBudgetTokensPercentage⌋
    pure { head with
      thinking := some { type := "enabled", budgetTokens := some budget }, topP := none, temperature := some 1 }

def thinkingOfModel (settings : ClaudeSettings) (model : String) (head : ClaudeHead) : Checked ClaudeHead :=
  match (trimEffortSuffix model).filter fun _ => hasPrefix model "claude-opus-4-6" || rejectsSampling model with
  | some (base, effort) =>
    let head := { head with model := base, thinking := some { type := "adaptive" }, effort := some effort }
    pure (if rejectsSampling base then
        { head with
          thinking := some { type := "adaptive", display := "summarized" }, temperature := none, topP := none
          topK := none }
      else { head with topP := none, temperature := some 1 })
  | none =>
    if settings.thinkingAdapterEnabled ∧ hasSuffix model "-thinking" then do
      let trimmedModel := trimSuffix model "-thinking"
      let head ← thinkingAdapter settings trimmedModel head
      pure (if settings.shouldPreserveThinkingSuffix model then head else { head with model := trimmedModel })
    else pure head

def thinkingOfEffort (effort : String) (head : ClaudeHead) : ClaudeHead :=
  if effort = "low" then { head with thinking := some { type := "enabled", budgetTokens := some 1280 } }
  else if effort = "medium" then { head with thinking := some { type := "enabled", budgetTokens := some 2048 } }
  else if effort = "high" then { head with thinking := some { type := "enabled", budgetTokens := some 4096 } }
  else head

/-- `Reasoning`, which is an error if it does not parse. -/
def thinkingOfReasoning (reasoning : Option (Option ℤ)) (head : ClaudeHead) : Checked ClaudeHead :=
  match reasoning with
  | none => pure head
  | some none => .error "cannot unmarshal reasoning"
  | some (some maxTokens) =>
    pure (if 0 < maxTokens then { head with thinking := some { type := "enabled", budgetTokens := some maxTokens } } else head)

def addStop (stopSequences : List String) (stop : JSON) : Checked (List String) := do
  let stop ← stop.asString
  pure (stopSequences ++ [stop])

/-- `Stop`: a string, a list of strings, or anything else, which is ignored. -/
def convertChatStop : JSON → Checked (List String)
  | .string stop => pure [stop]
  | .array stops => stops.foldlM addStop []
  | _ => pure []

def JSON.mediaItem (item : JSON) : Option MediaContent :=
  match (item.field "type").string? with
  | some "text" => (item.field "text").string?.map (.text · none)
  | some "image_url" =>
    let image := item.field "image_url"
    some (.imageUrl (image.string?.getD ((image.field "url").string?.getD "")))
  | some "input_audio" => do
    let data ← ((item.field "input_audio").field "data").string?
    let format ← ((item.field "input_audio").field "format").string?
    some (.inputAudio data format)
  | some "file" =>
    let file := item.field "file"
    match (file.field "file_id").string? with
    | some fileId => some (.file "" "" fileId)
    | none => do
      let filename ← (file.field "filename").string?
      let fileData ← (file.field "file_data").string?
      some (.file filename fileData "")
  | some "video_url" => (item.field "video_url").string?.map .videoUrl
  | _ => none

/-- The content of a message: a value that is neither a string nor a list has no parts. -/
def JSON.messageContent : JSON → MessageContent
  | .null => .null
  | .string content => .string content
  | .array items => .media (items.filterMap JSON.mediaItem)
  | _ => .media []

def TextMessage.decoded (m : TextMessage) : Message :=
  { role := m.role, content := m.content.messageContent, toolCalls := m.toolCalls, toolCallId := m.toolCallId }

def checkedFormatStep (s : FormatState) (message : Message) : Checked FormatState := do
  let fmt := fmtMessage s.lastMessage message
  let kept ← if s.lastMessage.merges message then Checked.allButLast s.formatMessages else pure s.formatMessages
  pure { formatMessages := kept ++ [fmt], lastMessage := fmt }

def returned {α : Type} : Except String α → Checked α
  | .ok a => .ok a
  | .error message => .error message

structure ClaudeBody (J M : Type) where
  head : ClaudeHead
  tools : List ClaudeTool
  stopSequences : List String
  body : BuiltRequest J M

section openAI

variable {J M : Type} (settings : ClaudeSettings) (unmarshal : String → Option J)
  (fetch : MediaContent → Except String (Option M))

def claudeHead (req : TextRequest) : ClaudeHead :=
  let maxTokens := if req.maxCompletionTokens.getD 0 ≠ 0 then req.maxCompletionTokens.getD 0 else req.maxTokens.getD 0
  { model := req.model
    maxTokens := some (if maxTokens = 0 then settings.defaultMaxTokens req.model else maxTokens)
    temperature := req.temperature
    topP := req.topP
    topK := req.topK
    stream := req.stream.getD false
    toolChoice := mapToolChoice req.toolChoice req.parallelTooCalls }

def splitOpenAIFileDataURL (data : List Char) : Checked (String × List Char) :=
  if ¬"data:".toList.isPrefixOf data then pure ("", data)
  else
    match data.idxOf? ',' with
    | none => pure ("", data)
    | some comma => do
      let header ← Checked.slice data 0 comma
      let payload ← Checked.slice data (comma + 1) data.length
      let mimeStart := (header.idxOf? ':').elim 0 (· + 1)
      match header.idxOf? ';' with
      | none => pure ("", payload)
      | some mimeEnd =>
        if mimeStart = 0 ∨ mimeEnd ≤ mimeStart then pure ("", payload)
        else do
          let mime ← Checked.slice header mimeStart mimeEnd
          pure (toLower (trimSpace (String.ofList mime)), payload)

/-- `RequestOpenAI2ClaudeMessage`. -/
def checkedOpenAI2Claude (req : TextRequest) : Checked (ClaudeBody J M) := do
  let claudeTools ← req.tools.foldlM convertTool []
  let tools := claudeTools ++ req.webSearchOptions.toList.map webSearchTool
  let head ← thinkingOfModel settings req.model (claudeHead settings req)
  let head ← thinkingOfReasoning req.reasoning (thinkingOfEffort req.reasoningEffort head)
  let stopSequences ← convertChatStop req.stop
  let formatted ← (req.messages.map TextMessage.decoded).foldlM checkedFormatStep {}
  let body ← returned (formatted.formatMessages.foldlM (buildStep unmarshal fetch) {})
  pure { head, tools, stopSequences, body }

end openAI

/-! ### Where a chat request panics -/

def JSON.isString (value : JSON) : Bool := value.string?.isSome

def TypeNamed (tool : FunctionRequest JSON) : Prop :=
  (tool.parameters.field "type").isNull ∨ (tool.parameters.field "type").isString

def StopsNamed : JSON → Prop
  | .array stops => ∀ stop ∈ stops, stop.isString
  | _ => True

lemma okIff_asString (value : JSON) : value.asString.OkIff value.isString := okIff_deref value.string?

lemma okIff_schemaType (type : JSON) : (schemaType type).OkIff (type.isNull ∨ type.isString) := by
  unfold schemaType
  split_ifs with h
  · exact (okIff_pure _).congr (iff_of_true trivial (.inl h))
  · exact ((okIff_asString type).bind_pure _).congr (or_iff_right h).symm

open JSON

lemma okIff_inputSchema (params : List (String × JSON)) :
    (inputSchema params).OkIff
      (((object params).field "type").isNull ∨ ((object params).field "type").isString) :=
  (okIff_schemaType _).bind_pure _

lemma okIff_convertTool (claudeTools : List ClaudeTool) (tool : FunctionRequest JSON) :
    (convertTool claudeTools tool).OkIff (TypeNamed tool) := by
  unfold convertTool TypeNamed
  cases tool.parameters with
  | object params => exact (okIff_inputSchema params).bind_pure _
  | null | string value | array values | other text => exact .inl ⟨.inl rfl, _, rfl⟩

lemma okIff_convertChatStop (stop : JSON) : (convertChatStop stop).OkIff (StopsNamed stop) := by
  cases stop with
  | array stops => exact okIff_foldlM (fun _ stop => (okIff_asString stop).bind_pure _) stops []
  | null | string value | object fields | other text => exact okIff_pure _

variable (settings : ClaudeSettings)

lemma thinkingAdapter_ok (trimmedModel : String) (head : ClaudeHead) :
    ∃ head', thinkingAdapter settings trimmedModel head = .ok head' := by
  unfold thinkingAdapter
  split_ifs with hrejects hmax
  · exact ⟨_, rfl⟩
  · exact ⟨_, rfl⟩
  · obtain ⟨n, hn⟩ : ∃ n, head.maxTokens = some n := by
      refine Option.ne_none_iff_exists'.1 fun hnone => hmax ?_
      rw [hnone]
      rfl
    dsimp only
    rw [hn]
    exact ⟨_, rfl⟩

lemma thinkingOfModel_ok (model : String) (head : ClaudeHead) :
    ∃ head', thinkingOfModel settings model head = .ok head' := by
  unfold thinkingOfModel
  split
  · exact ⟨_, rfl⟩
  · by_cases hadapter : settings.thinkingAdapterEnabled ∧ hasSuffix model "-thinking"
    · rw [if_pos hadapter]
      obtain ⟨head', hhead'⟩ := thinkingAdapter_ok settings (trimSuffix model "-thinking") head
      dsimp only
      rw [hhead']
      exact ⟨_, rfl⟩
    · rw [if_neg hadapter]
      exact ⟨_, rfl⟩

/-- **The message that is cut off is there**: the first message is joined with none. -/
lemma foldlM_checkedFormatStep (messages : List Message) (s : FormatState)
    (hs : s.formatMessages = [] → s.lastMessage.role = "tool") :
    messages.foldlM checkedFormatStep s = .ok (messages.foldl formatStep s) := by
  induction messages generalizing s with
  | nil => rfl
  | cons m messages ih =>
    have hstep : checkedFormatStep s m = .ok (formatStep s m) := by
      unfold checkedFormatStep formatStep
      by_cases hmerge : s.lastMessage.merges m
      · have hne : s.formatMessages ≠ [] := by
          intro hnil
          have hrole := (of_decide_eq_true hmerge).2.1
          exact hrole (hs hnil)
        rw [if_pos hmerge, if_pos hmerge, allButLast_of_ne_nil hne]
        rfl
      · rw [if_neg hmerge, if_neg hmerge]
        rfl
    rw [foldlM_cons, hstep, foldl_cons]
    apply ih
    intro hnil
    simp [formatStep] at hnil

lemma splitOpenAIFileDataURL_ok (data : List Char) : ∃ split, splitOpenAIFileDataURL data = .ok split := by
  have hlt {l : List Char} {c : Char} {i : ℕ} (h : l.idxOf? c = some i) : i < l.length := by
    rw [idxOf?, findIdx?_eq_some_iff_getElem] at h
    exact h.1
  unfold splitOpenAIFileDataURL
  split_ifs with hprefix
  swap
  · exact ⟨_, rfl⟩
  cases hcomma : data.idxOf? ',' with
  | none => exact ⟨_, rfl⟩
  | some comma =>
    have hdata := hlt hcomma
    dsimp only
    rw [slice_of_le (Nat.zero_le comma) hdata.le, ok_bind,
      slice_of_le hdata (le_refl data.length), ok_bind]
    generalize (data.take comma).drop 0 = header
    cases hend : header.idxOf? ';' with
    | none => exact ⟨_, rfl⟩
    | some mimeEnd =>
      dsimp only
      by_cases hmime : (header.idxOf? ':').elim 0 (· + 1) = 0 ∨ mimeEnd ≤ (header.idxOf? ':').elim 0 (· + 1)
      · rw [if_pos hmime]
        exact ⟨_, rfl⟩
      · rw [if_neg hmime, slice_of_le (by omega) (hlt hend).le]
        exact ⟨_, rfl⟩

lemma returned_safe {α : Type} (x : Except String α) : (returned x).Safe := by
  cases x <;> simp [returned]

section openAI

variable {J M : Type} (settings : ClaudeSettings) (unmarshal : String → Option J)
  (fetch : MediaContent → Except String (Option M))

lemma openAI_safe_iff (req : TextRequest) :
    (checkedOpenAI2Claude settings unmarshal fetch req).Safe ↔
      (∀ tool ∈ req.tools, TypeNamed tool) ∧ (req.reasoning ≠ some none → StopsNamed req.stop) := by
  unfold checkedOpenAI2Claude
  rcases okIff_foldlM okIff_convertTool req.tools [] with ⟨htools, tools, hok⟩ | ⟨htools, hpanic⟩
  swap
  · rw [hpanic]
    exact iff_of_false not_safe_panicked fun h => htools h.1
  obtain ⟨head, hhead⟩ := thinkingOfModel_ok settings req.model (claudeHead settings req)
  rw [hok, ok_bind, hhead, ok_bind]
  rw [and_iff_right htools]
  have hrest (head : ClaudeHead) : (do
      let stopSequences ← convertChatStop req.stop
      let formatted ← (req.messages.map TextMessage.decoded).foldlM checkedFormatStep {}
      let body ← returned (formatted.formatMessages.foldlM (buildStep unmarshal fetch) {})
      pure (⟨head, tools ++ req.webSearchOptions.toList.map webSearchTool, stopSequences, body⟩ : ClaudeBody J M)).Safe ↔
      StopsNamed req.stop := by
    rcases okIff_convertChatStop req.stop with ⟨hstop, stops, hok⟩ | ⟨hstop, hpanic⟩
    · rw [hok, ok_bind, foldlM_checkedFormatStep _ _ fun _ => rfl, ok_bind, safe_bind_iff]
      simp [hstop, returned_safe]
    · rw [hpanic]
      exact iff_of_false not_safe_panicked hstop
  cases hreasoning : req.reasoning with
  | none =>
    simp only [thinkingOfReasoning, pure_bind]
    rw [hrest]
    simp
  | some budget =>
    cases budget with
    | none => simp [thinkingOfReasoning]
    | some n =>
      simp only [thinkingOfReasoning, pure_bind]
      rw [hrest]
      simp

/-- **Panics of the request converters.**  Taking apart the address of a file never panics. -/
theorem converters_safe_iff (toJSONString : J → String) (marshal : List ResultBlock → String) :
    (∀ req : GeminiRequest J,
      (∃ out, geminiToOpenAIRequest toJSONString req = .ok out ∧
          out.stop.getD [] = req.generationConfig.stopSequences.elems.take 4) ↔
        req.generationConfig.stopSequences.elems = [] ∨ 4 ≤ req.generationConfig.stopSequences.elems.length) ∧
    (∀ isOpenRouter isOpenRouterClaude, ∀ req : DecodedRequest J,
      (checkedClaudeToOpenAI toJSONString marshal isOpenRouter isOpenRouterClaude req).Safe ↔
        ∀ pre m post, req.messages = pre ++ m :: post → (∀ x ∈ pre, x.content ≠ .malformed) → m.content.Sourced) ∧
    (∀ req : TextRequest, (checkedOpenAI2Claude settings unmarshal fetch req).Safe ↔
        (∀ tool ∈ req.tools, TypeNamed tool) ∧ (req.reasoning ≠ some none → StopsNamed req.stop)) ∧
    ∀ data, (splitOpenAIFileDataURL data).Safe := by
  refine ⟨gemini_stop_iff toJSONString, claude_safe_iff toJSONString marshal, openAI_safe_iff settings unmarshal fetch, ?_⟩
  intro data
  obtain ⟨split, hsplit⟩ := splitOpenAIFileDataURL_ok data
  rw [hsplit]
  exact safe_ok split

end openAI

def someSettings : ClaudeSettings :=
  { defaultMaxTokens := fun _ => 8192, thinkingAdapterEnabled := true
    thinkingAdapterBudgetTokensPercentage := 4 / 5, shouldPreserveThinkingSuffix := fun _ => false }

/-- One stop sequence, three in an array of four, an image without a source, a schema of two types, a number in a stop list. -/
theorem converters_panic :
    geminiToOpenAIRequest id ({ generationConfig := { stopSequences := ⟨["END"], []⟩ } } : GeminiRequest String) =
        .panicked ∧
      (∃ out, geminiToOpenAIRequest id
          ({ generationConfig := { stopSequences := ⟨["A", "B", "C"], [""]⟩ } } : GeminiRequest String) = .ok out ∧
        out.stop = some ["A", "B", "C", ""]) ∧
      checkedClaudeToOpenAI id (fun _ => "") false false
          ({ messages := [⟨"user", .blocks [.imageWithoutSource "" ""]⟩] } : DecodedRequest String) = .panicked ∧
      ¬(checkedOpenAI2Claude (M := Unit) someSettings (fun s => some s) (fun _ => .ok none)
          { tools := [⟨"f", "", .object [("type", .array [.string "object", .string "null"])]⟩] }).Safe ∧
      ¬(checkedOpenAI2Claude (M := Unit) someSettings (fun s => some s) (fun _ => .ok none)
          { stop := .array [.other "1"] }).Safe := by
  refine ⟨rfl, ⟨_, rfl, rfl⟩, rfl, ?_, ?_⟩
  · rw [openAI_safe_iff]
    intro h
    have := h.1 _ (.head _)
    simp [TypeNamed, field, isNull, isString, string?] at this
  · rw [openAI_safe_iff]
    intro h
    have := h.2 nofun _ (.head _)
    exact Bool.false_ne_true this

end StarNexus.Convert
