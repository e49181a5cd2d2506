import StarNexus.Convert.Anthropic
import StarNexus.Convert.OpenAI
import StarNexus.Lib.Emit
import StarNexus.Lib.Text

/-!
# Chat completion chunks as a Claude stream

`StreamResponseOpenAI2Claude` turns every chunk of a streamed chat completion into events of the Messages interface.  It keeps
the type of the block that is open, its index, and for tool calls, which may be open several at a time, the index of the first
and the largest offset.
-/

namespace StarNexus.Convert

open Lib Emit
open Pricing (Usage)

inductive LastMessageType where
  | none
  | text
  | tools
  | thinking
  deriving DecidableEq

/-- What the code reads and writes of `RelayInfo` and its `ClaudeConvertInfo`. -/
structure StreamInfo where
  sendResponseCount : ℕ := 0
  finishReason : String := ""
  estimatePromptTokens : ℤ := 0
  lastMessagesType : LastMessageType := .none
  index : ℕ := 0
  usage : Option Usage := none
  done : Bool := false
  toolCallBaseIndex : ℕ := 0
  toolCallMaxIndexOffset : ℕ := 0
  /-- `ProjectClaudeUsageForUser` -/
  projectClaudeUsageForUser : ClaudeUsage → ClaudeUsage := id

/-! ### Usage and reasons -/

def normalizeCacheCreationSplit (totalTokens tokens5m tokens1h : ℤ) : ℤ × ℤ :=
  (tokens5m + max (totalTokens - tokens5m - tokens1h) 0, tokens1h)

def buildClaudeUsageFromOpenAIUsage (oaiUsage : Usage) : ClaudeUsage :=
  let details := oaiUsage.promptTokensDetails
  let (cacheCreation5m, cacheCreation1h) := normalizeCacheCreationSplit details.cachedCreationTokens
    oaiUsage.claudeCacheCreation5mTokens oaiUsage.claudeCacheCreation1hTokens
  let cacheCreationTokens := max details.cacheCreationTokensTotal (cacheCreation5m + cacheCreation1h)
  let inputTokens := if oaiUsage.usageSemantic ≠ "anthropic" then
      max (oaiUsage.promptTokens - (details.cachedTokens + cacheCreationTokens)) 0
    else oaiUsage.promptTokens
  { inputTokens, outputTokens := oaiUsage.completionTokens
    cacheCreationInputTokens := cacheCreationTokens, cacheReadInputTokens := details.cachedTokens
    cacheCreation := if 0 < cacheCreation5m ∨ 0 < cacheCreation1h then some (cacheCreation5m, cacheCreation1h) else none }

def stopReasonOpenAI2Claude (finishReason : String) : String :=
  match toLower finishReason with
  | "stop" => "end_turn"
  | "stop_sequence" => "stop_sequence"
  | "length" => "max_tokens"
  | "max_tokens" => "max_tokens"
  | "content_filter" => "refusal"
  | "tool_calls" => "tool_use"
  | _ => finishReason

/-! ### Blocks -/

def stopOpenBlocks : Emit StreamInfo ClaudeEvent Unit := do
  let info ← get
  match info.lastMessagesType with
  | .text => emit (.contentBlockStop info.index)
  | .thinking => emit (.contentBlockStop info.index)
  | .tools => emits ((List.range (info.toolCallMaxIndexOffset + 1)).map fun offset =>
      .contentBlockStop (info.toolCallBaseIndex + offset))
  | .none => pure ()

def stopOpenBlocksAndAdvance : Emit StreamInfo ClaudeEvent Unit := do
  let info ← get
  if info.lastMessagesType = .none then pure ()
  else do
    stopOpenBlocks
    modify fun info => match info.lastMessagesType with
      | .tools => { info with
          index := info.toolCallBaseIndex + info.toolCallMaxIndexOffset + 1
          toolCallBaseIndex := 0, toolCallMaxIndexOffset := 0, lastMessagesType := .none }
      | _ => { info with index := info.index + 1, lastMessagesType := .none }

def startBlock (block : ContentBlock) : Emit StreamInfo ClaudeEvent Unit := do
  let info ← get
  emit (.contentBlockStart info.index block)

def sendDelta (delta : BlockDelta) : Emit StreamInfo ClaudeEvent Unit := do
  let info ← get
  emit (.contentBlockDelta info.index delta)

def setLastMessagesType (t : LastMessageType) : Emit StreamInfo ClaudeEvent Unit :=
  modify fun info => { info with lastMessagesType := t }

def sendMessageDelta (stopReason : String) : Option Usage → Emit StreamInfo ClaudeEvent Unit
  | some usage => do
    let info ← get
    emit (.messageDelta stopReason (info.projectClaudeUsageForUser (buildClaudeUsageFromOpenAIUsage usage)))
  | none => pure ()

def finish (stopReason : String) (oaiUsage : Option Usage) : Emit StreamInfo ClaudeEvent Unit := do
  sendMessageDelta stopReason oaiUsage
  emit .messageStop
  modify fun info => { info with done := true }

def stopAndFinish (chunk : Chunk) : Emit StreamInfo ClaudeEvent Unit := do
  stopOpenBlocks
  let info ← get
  finish (stopReasonOpenAI2Claude info.finishReason) (chunk.usage.or info.usage)

/-! ### The first chunk -/

def firstToolCall : List ToolCallResponse → Emit StreamInfo ClaudeEvent Unit
  | [] => pure ()
  | toolCall :: _ => do
    modify fun info =>
      { info with lastMessagesType := .tools, toolCallBaseIndex := 0, toolCallMaxIndexOffset := 0 }
    emit (.contentBlockStart 0 (.toolUse toolCall.id toolCall.name))
    emitWhen (toolCall.arguments ≠ "") (.contentBlockDelta 0 (.inputJson toolCall.arguments))

def advanceUnless (t : LastMessageType) : Emit StreamInfo ClaudeEvent Unit := do
  let info ← get
  if info.lastMessagesType ≠ t then stopOpenBlocksAndAdvance else pure ()

def firstBlock (t : LastMessageType) (block : ContentBlock) (delta : BlockDelta) : Emit StreamInfo ClaudeEvent Unit := do
  advanceUnless t
  startBlock block
  sendDelta delta
  setLastMessagesType t

def firstContent (reasoning content : String) : Emit StreamInfo ClaudeEvent Unit :=
  if reasoning ≠ "" then firstBlock .thinking (.thinking "") (.thinking reasoning)
  else if content ≠ "" then firstBlock .text (.text "") (.text content)
  else pure ()

def firstFinish (chunk : Chunk) (choice : StreamChoice) : Emit StreamInfo ClaudeEvent Unit :=
  match choice.finished with
  | some finishReason => do
    modify fun info => { info with finishReason }
    stopAndFinish chunk
  | none => pure ()

def firstChunk (chunk : Chunk) : Emit StreamInfo ClaudeEvent Unit := do
  let info ← get
  emit (.messageStart chunk.id chunk.model
    (info.projectClaudeUsageForUser { inputTokens := info.estimatePromptTokens, outputTokens := 0 }))
  match chunk.choices with
  | [] => pure ()
  | choice :: _ => do
    firstToolCall choice.delta.toolCalls
    firstContent choice.delta.getReasoningContent choice.delta.getContentString
    firstFinish chunk choice

/-! ### Later chunks -/

/-- One tool call of a chunk: it starts its block when it has a name, and adds its arguments. -/
def toolCallEvents (base offset : ℕ) (toolCall : ToolCallResponse) : Emit StreamInfo ClaudeEvent Unit := do
  emitWhen (toolCall.name ≠ "") (.contentBlockStart (base + offset) (.toolUse toolCall.id toolCall.name))
  emitWhen (toolCall.arguments ≠ "") (.contentBlockDelta (base + offset) (.inputJson toolCall.arguments))

def toolCallLoop (base : ℕ) : ℕ → ℕ → List ToolCallResponse → Emit StreamInfo ClaudeEvent ℕ
  | _, maxOffset, [] => pure maxOffset
  | i, maxOffset, toolCall :: rest => do
    toolCallEvents base (toolCall.index.getD i) toolCall
    toolCallLoop base (i + 1) (max maxOffset (toolCall.index.getD i)) rest

def openToolCalls : Emit StreamInfo ClaudeEvent Unit := do
  let info ← get
  if info.lastMessagesType ≠ .tools then do
    stopOpenBlocksAndAdvance
    modify fun info => { info with toolCallBaseIndex := info.index, toolCallMaxIndexOffset := 0 }
  else pure ()

def sendToolCalls (toolCalls : List ToolCallResponse) : Emit StreamInfo ClaudeEvent Unit := do
  openToolCalls
  setLastMessagesType .tools
  let info ← get
  let maxOffset ← toolCallLoop info.toolCallBaseIndex 0 info.toolCallMaxIndexOffset toolCalls
  modify fun info =>
    { info with toolCallMaxIndexOffset := maxOffset, index := info.toolCallBaseIndex + maxOffset }

def openBlock (t : LastMessageType) (block : ContentBlock) : Emit StreamInfo ClaudeEvent Unit := do
  let info ← get
  if info.lastMessagesType ≠ t then do
    stopOpenBlocksAndAdvance
    startBlock block
  else pure ()

/-- The text or the reasoning of a chunk, in the block that is open if it has the type. -/
def sendBlock (t : LastMessageType) (block : ContentBlock) (delta : BlockDelta) : Emit StreamInfo ClaudeEvent Unit := do
  openBlock t block
  setLastMessagesType t
  sendDelta delta

def sendContent (delta : ChoiceDelta) : Emit StreamInfo ClaudeEvent Unit :=
  if delta.toolCalls ≠ [] then sendToolCalls delta.toolCalls
  else if delta.getReasoningContent ≠ "" then sendBlock .thinking (.thinking "") (.thinking delta.getReasoningContent)
  else if delta.getContentString ≠ "" then sendBlock .text (.text "") (.text delta.getContentString)
  else pure ()

/-- A chunk without choices ends the message as soon as the usage is known. -/
def usageChunk (chunk : Chunk) : Emit StreamInfo ClaudeEvent Unit := do
  let info ← get
  match chunk.usage.or info.usage with
  | some usage => do
    stopOpenBlocks
    finish (if stopReasonOpenAI2Claude info.finishReason = "" then "end_turn"
      else stopReasonOpenAI2Claude info.finishReason) (some usage)
  | none => pure ()

/-- A chunk with a finish reason and without usage is not looked at any further. -/
def laterChunk (chunk : Chunk) : Emit StreamInfo ClaudeEvent Unit :=
  match chunk.choices with
  | [] => usageChunk chunk
  | choice :: _ =>
    match choice.finished, chunk.usage with
    -- the usage of the caller is read too late to change this
    | some finishReason, none => modify fun info => { info with finishReason }
    | some finishReason, some _ => do
      modify fun info => { info with finishReason }
      sendContent choice.delta
      stopAndFinish chunk
    | none, _ => sendContent choice.delta

def streamResponseOpenAI2Claude (chunk : Chunk) : Emit StreamInfo ClaudeEvent Unit := do
  let info ← get
  if info.done then pure ()
  else if info.sendResponseCount = 1 then firstChunk chunk
  else laterChunk chunk

structure StreamInput where
  chunk : Chunk
  usage : Option Usage := none

def handleClaudeFormat (x : StreamInput) : Emit StreamInfo ClaudeEvent Unit := do
  modify fun info => { info with sendResponseCount := info.sendResponseCount + 1, usage := x.usage }
  streamResponseOpenAI2Claude x.chunk

end StarNexus.Convert
